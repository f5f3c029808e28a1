import AgentForge.Platform.Scheduling

/-!
# The platform as a system of transactions

The transactions that API servers, schedulers, later stages, the cluster registry and operators run against
one database, any number of them at a time. Tenants, projects and policies are maintained outside this code;
`administer` stands for whatever changes them.
-/

set_option autoImplicit false

namespace AgentForge.Platform

open Operator Lib

/-- A change of a table that no modelled repository writes. -/
inductive Administration
  | policy (row : PolicyRow)
  | tenant (row : TenantRow)
  | project (row : ProjectRow)

def Administration.write : Administration → Write
  | policy row => .policy row
  | tenant row => .tenant row
  | project row => .project row

def Administration.key : Administration → Key
  | policy row => .policy row.tenantID
  | tenant row => .tenant row.id
  | project row => .project row.id

def administer (change : Administration) : Program Unit :=
  Tx.perform ⟨fun _ _ => ⟨(), [change.write], [change.key]⟩⟩

/-- A call that one transaction answers. -/
inductive Call
  | create (request : CreateRequest)
  | transitionRun (request : TransitionRequest)
  | transitionAttempt (request : AttemptTransitionRequest)
  | cancel (request : CancelRunRequest)
  | retry (request : RetryRunRequest)
  | claim (request : SchedulerClaimRequest)
  | renew (request : RenewRequest)
  | evaluate (run : ClaimedRun) (now : Time)
  | schedule (request : SchedulingIntentRequest)
  | deferCapacity (request : CapacityWaitRequest)
  | reject (request : SchedulingRejectRequest)
  | reserve (request : ReservationRequest)
  | transitionReservation (request : ReservationTransition)
  | registerCluster (write : ClusterWrite)
  | updateCluster (write : ClusterWrite) (expectedVersion : Int)
  | administer (change : Administration)

def Call.Reply : Call → Type
  | create _ => Unit
  | transitionRun _ => AgentRun
  | transitionAttempt _ => AgentRunAttempt
  | cancel _ => RunCommandResult
  | retry _ => RunCommandResult
  | claim _ => List ClaimedRun
  | renew _ => Int
  | evaluate _ _ => EligibilityDecision
  | schedule _ => SchedulingIntentResult
  | deferCapacity _ => SchedulingIntentResult
  | reject _ => SchedulingIntentResult
  | reserve _ => ReservationBundle
  | transitionReservation _ => Bool
  | registerCluster _ => Unit
  | updateCluster _ _ => Unit
  | administer _ => Unit

def Call.program : (call : Call) → Program call.Reply
  | create request => Platform.create request
  | transitionRun request => transitionAndSave request
  | transitionAttempt request => transitionAndSaveAttempt request
  | cancel request => Platform.cancel request
  | retry request => Platform.retry request
  | claim request => Platform.claim request
  | renew request => Platform.renew request
  | evaluate run now => Platform.evaluate run now
  | schedule request => Platform.schedule request
  | deferCapacity request => Platform.deferCapacity request
  | reject request => Platform.reject request
  | reserve request => Platform.reserve request
  | transitionReservation request => Platform.transitionReservation request
  | registerCluster write => Platform.registerCluster write
  | updateCluster write expectedVersion => updateClusterMetadata write expectedVersion
  | administer change => Platform.administer change

/-- The platform. -/
def platform : Protocol Db Key Write Error where
  Txn := Call
  Reply := Call.Reply
  program := Call.program
  apply := Db.apply

@[simp] theorem platform_apply (db : Db) (write : Write) : platform.apply db write = db.apply write := rfl

/-- A database in which no run has been created and nothing is reserved. -/
structure Db.Fresh (db : Db) : Prop where
  runs : db.runs.rows = []
  attempts : db.attempts.rows = []
  usage : db.usage.rows = []
  capacities : db.capacities.rows = []
  budgets : db.budgets.rows = []
  outbox : db.outbox.rows = []
  intents : db.intents.rows = []

/-- Run a transaction alone. -/
def runAlone {α : Type} (program : Program α) (db : Db) : Except Error α × Db := program.alone platform db

end AgentForge.Platform
