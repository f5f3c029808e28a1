import AgentForge.Lib.Table
import AgentForge.Lib.Transaction
import AgentForge.Platform.Event

/-!
# The database of the platform

The tables that the run, scheduler and reservation repositories share (`db/migrations`), with the CHECK
constraints of the rows they write. A timestamp column keeps microseconds. Columns that a CHECK constraint
binds together, such as the owner and the expiry of a lease, are one optional record here.

Foreign keys and unique indexes are part of the statements that insert rows. Left out are the columns and
tables that only other services read: names and slugs, the relay's claims on outbox rows, and the log of
eligibility decisions.
-/

set_option autoImplicit false

namespace AgentForge.Platform

open Operator Lib

/-! ## Column types -/

/-- What a `timestamptz` column keeps of a time. -/
def pgTime (t : Int) : Int := t / 1000 * 1000

/-- The UTC day of a time, as its first moment: `Truncate(24 * time.Hour)`. -/
def day (t : Time) : Time := t / (86400 * second) * (86400 * second)

theorem pgTime_le (t : Int) : pgTime t ≤ t := by unfold pgTime; omega

@[simp] theorem pgTime_pgTime (t : Int) : pgTime (pgTime t) = pgTime t := by unfold pgTime; omega

theorem pgTime_mono {s t : Int} (le : s ≤ t) : pgTime s ≤ pgTime t := by unfold pgTime; omega

/-- `length(trim(text)) between 1 and limit`; SQL trims blanks only and counts characters. -/
def sqlPresent (limit : Nat) (text : String) : Bool :=
  let length := (trimBoth (· == ' ') text.toList).length
  1 ≤ length && length ≤ limit

/-- A `text` column cannot hold the zero character. -/
def storable (text : String) : Bool := !text.toList.contains '\x00'

/-! ## Runs -/

/-- The create response kept for replays, and the responses of commands (`idempotencyResponse`). -/
structure IdempotencyResponse where
  id : UUID
  projectID : UUID
  runtime : String
  cpuMillis : Int
  memoryMiB : Int
  timeoutSeconds : Int
  maxAttempts : Int
  attemptCount : Int
  status : AgentRunStatus
  createdAt : Time
  updatedAt : Time
  deriving DecidableEq

inductive CommandType
  | cancel
  | retry
  deriving DecidableEq

/-- The columns `last_command_*`. -/
structure CommandReceipt where
  type : CommandType
  id : String
  response : IdempotencyResponse
  deriving DecidableEq

/-- The columns `scheduler_lease_*`. -/
structure Lease where
  owner : String
  expiresAt : Time
  deriving DecidableEq

/-- A row of `agent_runs`. -/
structure RunRow where
  run : AgentRun
  priority : Int
  executionProfile : String
  preferredRegion : Option String
  nextEligibleAt : Option Time
  lease : Option Lease
  decisionCode : Option String
  decisionReason : Option String
  strategy : Option String
  selectionScore : Option Int
  /-- `none` is the default `{}` of rows older than the column. -/
  idempotencyResponse : Option IdempotencyResponse
  lastCommand : Option CommandReceipt
  deriving DecidableEq

namespace RunRow

/-- The constraints on the request columns. -/
def checksRequest (row : RunRow) : Bool :=
  row.run.id.version == 7 && sqlPresent 2048 row.run.promptReference && sqlPresent 120 row.run.runtime &&
    1 ≤ row.run.cpuMillis && row.run.cpuMillis ≤ 128000 && 1 ≤ row.run.memoryMiB && row.run.memoryMiB ≤ 524288 &&
    1 ≤ row.run.timeoutSeconds && row.run.timeoutSeconds ≤ 86400 && 1 ≤ row.run.maxAttempts &&
    row.run.maxAttempts ≤ 10 && sqlPresent 255 row.run.idempotencyKey && sqlPresent 128 row.run.requestHash &&
    sqlPresent 255 row.run.createdBy && -100 ≤ row.priority && row.priority ≤ 100 &&
    matchesIdentifier 62 row.executionProfile && row.preferredRegion.all (matchesDashed 0 62)

/-- `agent_runs_failure_category_valid` and `agent_runs_failure_for_terminal_status`. -/
def checksFailure (row : RunRow) : Bool :=
  match row.run.failureCategory with
  | .none => !row.run.status.isFailure
  | .known _ => row.run.status.isFailure
  | .unknown _ => false

/-- `agent_runs_attempt_count_range` and `agent_runs_version_positive`. -/
def checksCounters (row : RunRow) : Bool :=
  1 ≤ row.run.attemptCount && row.run.attemptCount ≤ row.run.maxAttempts && 0 < row.run.version

/-- `agent_runs_cancellation_metadata_consistent`. -/
def checksCancellation (row : RunRow) : Bool := row.run.status.isCancel == row.run.cancellationRequestedAt.isSome

/-- `agent_runs_scheduler_lease_status`. -/
def checksLease (row : RunRow) : Bool := (row.run.status == .scheduling) == row.lease.isSome

/-- The bounds on the scheduler's texts, the score and the last command. -/
def checksTexts (row : RunRow) : Bool :=
  row.lease.all (fun lease => sqlPresent 160 lease.owner) && row.decisionCode.all (sqlPresent 80) &&
    row.decisionReason.all (sqlPresent 500) && row.strategy.all (sqlPresent 80) &&
    row.selectionScore.all (fun score => 0 ≤ score) && row.lastCommand.all (fun receipt => sqlPresent 255 receipt.id)

/-- Every CHECK constraint of `agent_runs`. -/
def checks (row : RunRow) : Bool :=
  row.checksRequest && row.checksFailure && row.checksCounters && row.checksCancellation && row.checksLease &&
    row.checksTexts

/-- Every text of the row can be stored. -/
def textsStorable (row : RunRow) : Bool :=
  [row.run.promptReference, row.run.runtime, row.run.idempotencyKey, row.run.requestHash, row.run.createdBy,
    row.run.cancellationReason, row.run.cancellationRequestedBy].all storable &&
    row.lease.all (fun lease => storable lease.owner) && row.decisionCode.all storable &&
    row.decisionReason.all storable && row.strategy.all storable &&
    row.lastCommand.all (fun receipt => storable receipt.id)

theorem checks_iff {row : RunRow} :
    row.checks = true ↔ row.checksRequest = true ∧ row.checksFailure = true ∧ row.checksCounters = true ∧
      row.checksCancellation = true ∧ row.checksLease = true ∧ row.checksTexts = true := by
  simp [checks, and_assoc]

theorem lease_isSome_of_checks {row : RunRow} (checked : row.checks = true) :
    row.lease.isSome = true ↔ row.run.status = .scheduling := by
  obtain ⟨-, -, -, -, lease, -⟩ := checks_iff.mp checked
  simp only [checksLease, beq_iff_eq] at lease
  rw [← lease, beq_iff_eq]

theorem counters_of_checks {row : RunRow} (checked : row.checks = true) :
    1 ≤ row.run.attemptCount ∧ row.run.attemptCount ≤ row.run.maxAttempts ∧ 0 < row.run.version := by
  obtain ⟨-, -, counters, -⟩ := checks_iff.mp checked
  simpa [checksCounters, and_assoc] using counters

end RunRow

/-! ## Attempts, policies, clusters, outbox -/

/-- The CHECK constraints of `agent_run_attempts`. -/
def AgentRunAttempt.checks (attempt : AgentRunAttempt) : Bool :=
  attempt.id.version == 7 && 0 < attempt.attemptNumber && 0 < attempt.version &&
    (match attempt.failureCategory with | .unknown _ => false | _ => true) &&
    attempt.assignment.all fun assignment => matchesIdentifier 62 assignment.executionProfile

/-- A row of `scheduler_tenant_policies`. -/
structure PolicyRow where
  tenantID : UUID
  policy : SchedulingPolicy
  deriving DecidableEq

/-- A row of `tenants`. -/
structure TenantRow where
  id : UUID
  status : ResourceStatus
  deriving DecidableEq

/-- A row of `projects`. -/
structure ProjectRow where
  id : UUID
  tenantID : UUID
  status : ResourceStatus
  deriving DecidableEq

/-- A row of `tenant_daily_budget_usage`. -/
structure BudgetUsage where
  tenantID : UUID
  usageDate : Time
  spentMinorUnits : Int
  reservedMinorUnits : Int
  deriving DecidableEq

def BudgetUsage.checks (usage : BudgetUsage) : Bool := 0 ≤ usage.spentMinorUnits && 0 ≤ usage.reservedMinorUnits

/-- The CHECK constraints of `capacity_reservations` on an inserted row. -/
def CapacityReservation.checks (reservation : CapacityReservation) : Bool :=
  reservation.id.version == 7 && 0 < reservation.attemptNumber && 0 < reservation.cpuMillis && 0 < reservation.memoryMiB

/-- The CHECK constraints of `budget_reservations` on an inserted row. -/
def BudgetReservation.checks (reservation : BudgetReservation) : Bool :=
  reservation.id.version == 7 && 0 < reservation.attemptNumber && 0 ≤ reservation.amountMinorUnits

/-- The tenants that `cluster_tenant_allowlist` has for a cluster. -/
structure Allowlist where
  clusterID : String
  tenants : List UUID
  deriving DecidableEq

/-- A row of `agentrun_handoff_intents`. -/
structure IntentRow where
  eventID : UUID
  tenantID : UUID
  runID : UUID
  attemptID : UUID
  attemptNumber : Int
  clusterID : String
  desiredState : AgentRunDesiredState
  createdAt : Time
  deriving DecidableEq

def IntentRow.checks (intent : IntentRow) : Bool :=
  intent.eventID.version == 7 && intent.attemptID.version == 7 && 1 ≤ intent.attemptNumber &&
    intent.attemptNumber ≤ 10 && matchesClusterID intent.clusterID

/-! ## The database -/

structure Db where
  runs : Table fun row : RunRow => row.run.id
  attempts : Table fun row : AgentRunAttempt => row.id
  policies : Table fun row : PolicyRow => row.tenantID
  tenants : Table fun row : TenantRow => row.id
  projects : Table fun row : ProjectRow => row.id
  usage : Table fun row : BudgetUsage => (row.tenantID, row.usageDate)
  capacities : Table fun row : CapacityReservation => row.id
  budgets : Table fun row : BudgetReservation => row.id
  clusters : Table fun row : ExecutionCluster => row.id
  snapshots : Table fun row : ClusterCapacity => (row.clusterID, row.observedAt)
  allowlists : Table fun row : Allowlist => row.clusterID
  outbox : Table fun row : OutboxEvent => row.eventID
  intents : Table fun row : IntentRow => row.eventID

/-- A row to insert, or to put in the place of the one with its key. -/
inductive Write
  | run (row : RunRow)
  | attempt (row : AgentRunAttempt)
  | policy (row : PolicyRow)
  | tenant (row : TenantRow)
  | project (row : ProjectRow)
  | usage (row : BudgetUsage)
  | capacity (row : CapacityReservation)
  | budget (row : BudgetReservation)
  | cluster (row : ExecutionCluster)
  | snapshot (row : ClusterCapacity)
  | allowlist (row : Allowlist)
  | event (row : OutboxEvent)
  | intent (row : IntentRow)

/-- What a transaction can lock: a row, or the entry of a unique index that it inserts. -/
inductive Key
  | run (id : UUID)
  | attempt (id : UUID)
  | policy (tenantID : UUID)
  | tenant (id : UUID)
  | project (id : UUID)
  | usage (tenantID : UUID) (date : Time)
  | capacity (id : UUID)
  | budget (id : UUID)
  | cluster (id : String)
  | snapshot (clusterID : String) (observedAt : Time)
  | event (id : UUID)
  | intent (eventID : UUID)
  | idempotencyKey (tenantID : UUID) (key : String)
  | attemptNumber (runID : UUID) (number : Int)
  | activeCapacity (runID : UUID) (number : Int)
  | activeBudget (runID : UUID) (number : Int)
  | budgetOf (capacityID : UUID)
  | intentOf (tenantID runID : UUID) (number : Int)
  deriving DecidableEq

namespace Db

def empty : Db :=
  ⟨.empty, .empty, .empty, .empty, .empty, .empty, .empty, .empty, .empty, .empty, .empty, .empty, .empty⟩

def apply (db : Db) : Write → Db
  | .run row => { db with runs := db.runs.put row }
  | .attempt row => { db with attempts := db.attempts.put row }
  | .policy row => { db with policies := db.policies.put row }
  | .tenant row => { db with tenants := db.tenants.put row }
  | .project row => { db with projects := db.projects.put row }
  | .usage row => { db with usage := db.usage.put row }
  | .capacity row => { db with capacities := db.capacities.put row }
  | .budget row => { db with budgets := db.budgets.put row }
  | .cluster row => { db with clusters := db.clusters.put row }
  | .snapshot row => { db with snapshots := db.snapshots.put row }
  | .allowlist row => { db with allowlists := db.allowlists.put row }
  | .event row => { db with outbox := db.outbox.put row }
  | .intent row => { db with intents := db.intents.put row }

/-! ### Queries -/

/-- `where tenant_id = $1 and id = $2`. -/
def run? (db : Db) (tenantID id : UUID) : Option RunRow := (db.runs.get? id).filter fun row => row.run.tenantID == tenantID

/-- The run with an idempotency key of a tenant. -/
def runByKey? (db : Db) (tenantID : UUID) (key : String) : Option RunRow :=
  db.runs.rows.find? fun row => row.run.tenantID == tenantID && row.run.idempotencyKey == key

/-- The attempt of a run with a number. -/
def attempt? (db : Db) (tenantID runID : UUID) (number : Int) : Option AgentRunAttempt :=
  db.attempts.rows.find? fun row => row.tenantID == tenantID && row.runID == runID && row.attemptNumber == number

/-- The newest capacity snapshot of a cluster. -/
def latestCapacity? (db : Db) (clusterID : String) : Option ClusterCapacity :=
  (db.snapshots.rows.filter fun row => row.clusterID == clusterID).foldl
    (fun newest row =>
      match newest with
      | none => some row
      | some best => if best.observedAt < row.observedAt then some row else some best) none

/-- The reservation holds capacity of a cluster at a time. -/
def holds (clusterID : String) (now : Time) (row : CapacityReservation) : Bool :=
  row.clusterID == clusterID && row.state == .reserved && now < row.expiresAt

def reservedCPU (db : Db) (clusterID : String) (now : Time) : Int :=
  db.capacities.total fun row => if holds clusterID now row then row.cpuMillis else 0

def reservedMemory (db : Db) (clusterID : String) (now : Time) : Int :=
  db.capacities.total fun row => if holds clusterID now row then row.memoryMiB else 0

/-- The reservation of an attempt of a run that is active. -/
def activeCapacity? (db : Db) (runID : UUID) (number : Int) : Option CapacityReservation :=
  db.capacities.rows.find? fun row => row.runID == runID && row.attemptNumber == number && row.state == .reserved

/-- The budget row of a capacity reservation. -/
def budgetOf? (db : Db) (capacityID : UUID) : Option BudgetReservation :=
  db.budgets.rows.find? fun row => row.capacityReservationID == capacityID

end Db

end AgentForge.Platform
