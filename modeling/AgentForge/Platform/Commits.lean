import AgentForge.Platform.Rules

/-!
# Transactions as atomic steps

What each transaction of the platform does to the database when it commits, as one step: the rows it found at
that moment, the conditions it checked on them, the keys it holds and the rows it puts. `Commit` has one
constructor for each way a call can succeed. That the programs, interleaved statement by statement, only ever
commit in these ways is proved in `Interleavings`; the laws of the platform are proved over `Commit`.
-/

set_option autoImplicit false

namespace AgentForge.Platform

open Operator Lib

/-! ## Budget -/

/-- The totals of a day; before the first reservation they are 0. -/
def Db.usageOf (db : Db) (tenantID : UUID) (date : Time) : BudgetUsage :=
  (db.usage.get? (tenantID, date)).getD ⟨tenantID, date, 0, 0⟩

/-- Put the rows of a bundle and count its amount as reserved. -/
def Db.hold (db : Db) (bundle : ReservationBundle) : Db :=
  { db with
    capacities := db.capacities.put bundle.stored.capacity
    budgets := db.budgets.put bundle.stored.budget
    usage := db.usage.put
      ((db.usageOf bundle.budget.tenantID bundle.budget.usageDate).add 0 bundle.budget.amountMinorUnits) }

/-- What a bundle spends when it leaves RESERVED. -/
def BudgetReservation.spends (row : BudgetReservation) (target : ReservationState) : Int :=
  if target = .settled then row.amountMinorUnits else 0

/-- Close both rows of a bundle and move its amount. -/
def Db.close (db : Db) (bundle : ReservationBundle) (target : ReservationState) (now : Time) : Db :=
  { db with
    capacities := db.capacities.put (bundle.capacity.close target now)
    budgets := db.budgets.put (bundle.budget.close target now)
    usage := db.usage.put ((db.usageOf bundle.budget.tenantID bundle.budget.usageDate).add
      (bundle.budget.spends target) (-bundle.budget.amountMinorUnits)) }

/-! ## Conditions that transactions share -/

/-- The policy and the cluster of a reservation, locked, and the room left on the cluster. -/
structure Room (held : List Key) (db : Db) (request : ReservationRequest) (policy : SchedulingPolicy)
    (capacity : ClusterCapacity) : Prop where
  policyRow : db.policies.get? request.tenantID = some ⟨request.tenantID, policy⟩
  snapshot : db.latestCapacity? request.clusterID = some capacity
  cpu : request.cpuMillis + db.reservedCPU request.clusterID (pgTime request.now) ≤ capacity.allocatableCPUMillis
  memory : request.memoryMiB + db.reservedMemory request.clusterID (pgTime request.now) ≤ capacity.allocatableMemoryMiB
  policyKey : .policy request.tenantID ∈ held
  clusterKey : .cluster request.clusterID ∈ held

/-- What Reserve and Schedule have checked when they commit a new bundle. -/
structure Admission (held : List Key) (db : Db) (request : ReservationRequest) (policy : SchedulingPolicy)
    (capacity : ClusterCapacity) : Prop extends Room held db request policy capacity where
  budget : request.budgetMinorUnits + db.budgetUsed request.tenantID (day request.now) ≤ policy.dailyBudgetMinorUnits
  valid : request.bundle.capacity.valid request.now = true
  capacityChecks : request.bundle.stored.capacity.checks = true
  budgetChecks : request.bundle.stored.budget.checks = true
  newCapacity : db.capacities.get? request.capacityID = none
  newBudget : db.budgets.get? request.budgetID = none
  inactive : db.NoActive request.runID request.attemptNumber
  keys : [.usage request.tenantID (day request.now), .capacity request.capacityID,
    .activeCapacity request.runID request.attemptNumber, .budget request.budgetID] ⊆ held

/-- What a transition of a reservation has checked when it closes a bundle. -/
structure Closes (held : List Key) (db : Db) (bundle : ReservationBundle) (target : ReservationState) : Prop where
  capacity : db.capacities.get? bundle.capacity.id = some bundle.capacity
  budget : db.budgets.get? bundle.budget.id = some bundle.budget
  paired : bundle.budget.capacityReservationID = bundle.capacity.id
  active : bundle.capacity.state = .reserved
  leaves : target ≠ .reserved
  keys : [.capacity bundle.capacity.id, .budget bundle.budget.id,
    .usage bundle.budget.tenantID bundle.budget.usageDate] ⊆ held

/-- What a new run or command has checked of its event. -/
structure Publishes (held : List Key) (db : Db) (made : Except Error OutboxEvent) (event : OutboxEvent) : Prop where
  made : made = .ok event
  new : db.outbox.get? event.eventID = none
  key : .event event.eventID ∈ held

/-- A run of a caller, locked. -/
structure Locks (held : List Key) (db : Db) (tenantID runID : UUID) (row : RunRow) : Prop where
  found : db.run? tenantID runID = some row
  key : .run runID ∈ held

/-- A locked run and the row to put in its place. -/
structure Updates (held : List Key) (db : Db) (tenantID runID : UUID) (row row' : RunRow) : Prop extends
    Locks held db tenantID runID row where
  checks : row'.checks = true

/-- The pending current attempt of a run, locked. -/
structure LocksPending (held : List Key) (db : Db) (run : AgentRun) (attemptID : UUID) (version : Int)
    (attempt : AgentRunAttempt) : Prop where
  found : db.attempts.get? attemptID = some attempt
  tenantID : attempt.tenantID = run.tenantID
  runID : attempt.runID = run.id
  number : attempt.attemptNumber = run.attemptCount
  pending : attempt.status = .pending
  version : attempt.version = version
  key : .attempt attemptID ∈ held

/-! ## Databases after a commit -/

def Db.created (db : Db) (request : CreateRequest) (event : OutboxEvent) : Db :=
  { db with
    runs := db.runs.put (createdRow request.run)
    attempts := db.attempts.put request.attempt.inserted
    outbox := db.outbox.put event }

/-- Put a run row and publish its event. -/
def Db.publish (db : Db) (row : RunRow) (event : OutboxEvent) : Db :=
  { db with runs := db.runs.put row, outbox := db.outbox.put event }

/-- Put a run row and one of its attempts, and publish the event. -/
def Db.advance (db : Db) (row : RunRow) (attempt : AgentRunAttempt) (event : OutboxEvent) : Db :=
  { db with runs := db.runs.put row, attempts := db.attempts.put attempt, outbox := db.outbox.put event }

/-- The run after a transition that a command made. -/
def AgentRun.bumped (run : AgentRun) : AgentRun := { run with version := run.version + 1 }

/-- The database after an assignment. -/
def Db.assign (db : Db) (request : SchedulingIntentRequest) (row : RunRow) (attempt : AgentRunAttempt)
    (event : OutboxEvent) : Db :=
  { db.hold (request.reservation row attempt).bundle with
    runs := db.runs.put (assignedRow request row)
    attempts := db.attempts.put (assignedAttempt request (request.assignment row) attempt)
    outbox := db.outbox.put event
    intents := db.intents.put (request.intent row attempt) }

/-- The database after a claim. -/
def Db.claimAll (db : Db) (request : SchedulerClaimRequest) (taken : List RunRow) : Db :=
  { db with runs := (taken.map (claimedRow request)).foldl Table.put db.runs }

/-! ## Commits -/

/-- A call that succeeds with a reply and takes the database from `before` to another one. -/
inductive Commit (held : List Key) (before : Db) : (call : Call) → call.Reply → Db → Prop where
  | created (request : CreateRequest) (event : OutboxEvent)
      (initial : validateInitialAttempt request.run request.attempt = true)
      (publishes : Publishes held before
        (newAgentRunRequested request.run request.attempt request.eventID request.promptParses) event)
      (checks : (createdRow request.run).checks = true) (attemptChecks : request.attempt.inserted.checks = true)
      (newRun : before.runs.get? request.run.id = none)
      (newKey : before.runByKey? request.run.tenantID request.run.idempotencyKey = none)
      (newAttempt : before.attempts.get? request.attempt.id = none)
      (keys : [.run request.run.id, .idempotencyKey request.run.tenantID request.run.idempotencyKey,
        .attempt request.attempt.id] ⊆ held) :
      Commit held before (.create request) () (before.created request event)
  | saved (request : TransitionRequest) (row : RunRow) (moved : AgentRun)
      (moves : row.run.transition request.target request.failure request.now = .ok moved)
      (updates : Updates held before request.tenantID request.runID row (savedRow moved row))
      (started : row.run.status.isWaiting = false) (forward : request.target ≠ .queued) :
      Commit held before (.transitionRun request) (savedRow moved row).run
        { before with runs := before.runs.put (savedRow moved row) }
  | savedAttempt (request : AttemptTransitionRequest) (attempt moved : AgentRunAttempt)
      (found : before.attempts.get? attempt.id = some attempt)
      (same : attempt.tenantID = request.tenantID ∧ attempt.runID = request.runID ∧
        attempt.attemptNumber = request.attemptNumber)
      (moves : attempt.transition request.target request.failure request.now = .ok moved)
      (checks : (Platform.savedAttempt moved attempt).checks = true)
      (started : ∀ row, before.runs.get? attempt.runID = some row → row.run.status.isWaiting = true →
        attempt.attemptNumber < row.run.attemptCount)
      (key : .attempt attempt.id ∈ held) :
      Commit held before (.transitionAttempt request) (Platform.savedAttempt moved attempt)
        { before with attempts := before.attempts.put (Platform.savedAttempt moved attempt) }
  | cancelReplayed (request : CancelRunRequest) (row : RunRow) (response : IdempotencyResponse) (run : AgentRun)
      (locks : Locks held before request.tenantID request.runID row)
      (receipt : receiptOf .cancel request.commandID row.lastCommand = some response)
      (applies : applyCommandResponse row.run response = .ok run) :
      Commit held before (.cancel request) ⟨run, true⟩ before
  | cancelRepeated (request : CancelRunRequest) (row : RunRow)
      (locks : Locks held before request.tenantID request.runID row)
      (receipt : receiptOf .cancel request.commandID row.lastCommand = none)
      (ended : row.run.status.isCancel = true) : Commit held before (.cancel request) ⟨row.run, true⟩ before
  | cancelled (request : CancelRunRequest) (row : RunRow) (moved : AgentRun) (event : OutboxEvent)
      (receipt : receiptOf .cancel request.commandID row.lastCommand = none)
      (going : row.run.status.isCancel = false ∧ row.run.status.isTerminal = false)
      (moves : (request.record row.run).transition .cancelling .none request.now = .ok moved)
      (updates : Updates held before request.tenantID request.runID row (cancelledRow request moved.bumped row))
      (publishes : Publishes held before (newAgentRunCancelRequested moved.bumped request.commandID request.eventID)
        event) :
      Commit held before (.cancel request) ⟨moved.bumped, false⟩
        (before.publish (cancelledRow request moved.bumped row) event)
  | retryReplayed (request : RetryRunRequest) (row : RunRow) (response : IdempotencyResponse) (run : AgentRun)
      (locks : Locks held before request.tenantID request.runID row)
      (receipt : receiptOf .retry request.commandID row.lastCommand = some response)
      (applies : applyCommandResponse row.run response = .ok run) :
      Commit held before (.retry request) ⟨run, true⟩ before
  | retried (request : RetryRunRequest) (row : RunRow) (moved : AgentRun) (attempt : AgentRunAttempt)
      (event : OutboxEvent) (receipt : receiptOf .retry request.commandID row.lastCommand = none)
      (retryable : row.run.canRetry = true) (moves : row.run.transition .queued .none request.now = .ok moved)
      (made : newAgentRunAttempt request.attemptID moved.tenantID moved.id moved.attemptCount request.now = .ok attempt)
      (updates : Updates held before request.tenantID request.runID row (retriedRow request moved.bumped row))
      (attemptChecks : attempt.inserted.checks = true) (newAttempt : before.attempts.get? request.attemptID = none)
      (attemptKey : .attempt request.attemptID ∈ held)
      (publishes : Publishes held before (newAgentRunRetryRequested moved.bumped row.run.status row.run.failureCategory
        request.actor request.commandID request.eventID) event) :
      Commit held before (.retry request) ⟨moved.bumped, false⟩
        (before.advance (retriedRow request moved.bumped row) attempt.inserted event)
  | claimed (request : SchedulerClaimRequest) (taken : List RunRow) (reply : List ClaimedRun)
      (described : ∀ claim ∈ reply, ∃ row ∈ taken, ∃ attempt, claim = claimedRun request row attempt)
      (members : ∀ row ∈ taken, row ∈ before.runs ∧ before.claimable request.now row = true ∧
        (claimedRow request row).checks = true ∧ .run row.run.id ∈ held)
      (distinct : (taken.map fun row => row.run.id).Nodup) :
      Commit held before (.claim request) reply (before.claimAll request taken)
  | renewed (request : RenewRequest) (row : RunRow) (leased : request.matches row = true)
      (updates : Updates held before request.tenantID request.runID row (renewedRow request row)) :
      Commit held before (.renew request) (renewedRow request row).run.version
        { before with runs := before.runs.put (renewedRow request row) }
  | evaluated (run : ClaimedRun) (now : Time) (decision : EligibilityDecision) :
      Commit held before (.evaluate run now) decision before
  | scheduleReplayed (request : SchedulingIntentRequest) (row : RunRow) (result : SchedulingIntentResult)
      (locks : Locks held before request.claim.tenantID request.claim.id row) (assigned : row.run.status = .provisioning)
      (replayed : result.replayed = true) : Commit held before (.schedule request) result before
  | scheduled (request : SchedulingIntentRequest) (row : RunRow) (attempt : AgentRunAttempt) (policy : SchedulingPolicy)
      (capacity : ClusterCapacity) (event : OutboxEvent)
      (leased : row.leasedBy request.leaseOwner request.now request.claim.version = true)
      (updates : Updates held before request.claim.tenantID request.claim.id row (assignedRow request row))
      (locksAttempt : LocksPending held before row.run request.attemptID request.attemptVersion attempt)
      (attemptChecks : (assignedAttempt request (request.assignment row) attempt).checks = true)
      (admission : Admission held before (request.reservation row attempt) policy capacity)
      (publishes : Publishes held before (newAgentRunScheduled (request.assignedRun row.run) attempt
        (request.assignment row) request.eventID request.correlationID request.causationID) event)
      (newIntent : before.intents.get? request.eventID = none)
      (noIntent : before.NoIntent row.run.tenantID row.run.id attempt.attemptNumber)
      (intentKeys : [.intent request.eventID, .intentOf row.run.tenantID row.run.id attempt.attemptNumber] ⊆ held) :
      Commit held before (.schedule request)
        ⟨row.run.version + 1, attempt.version + 1, request.capacityID, request.budgetID, request.eventID, false⟩
        (before.assign request row attempt event)
  | deferReplayed (request : CapacityWaitRequest) (row : RunRow) (result : SchedulingIntentResult)
      (locks : Locks held before request.claim.tenantID request.claim.id row) (replayed : result.replayed = true) :
      Commit held before (.deferCapacity request) result before
  | deferred (request : CapacityWaitRequest) (row : RunRow) (event : OutboxEvent)
      (leased : row.leasedBy request.leaseOwner request.now request.claim.version = true)
      (updates : Updates held before request.claim.tenantID request.claim.id row (deferredRow request row))
      (publishes : Publishes held before (newAgentRunCapacityWait
        { row.run with status := .capacityWait, version := row.run.version + 1, updatedAt := request.now }
        request.reasonCode request.reason request.nextEligibleAt request.eventID request.correlationID
        request.causationID) event) :
      Commit held before (.deferCapacity request) ⟨row.run.version + 1, 0, .nil, .nil, request.eventID, false⟩
        (before.publish (deferredRow request row) event)
  | rejectReplayed (request : SchedulingRejectRequest) (row : RunRow) (result : SchedulingIntentResult)
      (locks : Locks held before request.claim.tenantID request.claim.id row) (replayed : result.replayed = true) :
      Commit held before (.reject request) result before
  | rejected (request : SchedulingRejectRequest) (row : RunRow) (attempt : AgentRunAttempt) (event : OutboxEvent)
      (leased : row.leasedBy request.leaseOwner request.now request.claim.version = true)
      (updates : Updates held before request.claim.tenantID request.claim.id row (rejectedRow request row))
      (locksAttempt : LocksPending held before row.run request.claim.attemptID request.claim.attemptVersion attempt)
      (attemptChecks : (rejectedAttempt request attempt).checks = true)
      (publishes : Publishes held before (newAgentRunSchedulingRejected
        { row.run with
          status := .policyRejected, failureCategory := .known .policy, version := row.run.version + 1,
          updatedAt := request.now, completedAt := some request.now }
        request.reasonCode request.reason request.eventID request.correlationID request.causationID) event) :
      Commit held before (.reject request) ⟨row.run.version + 1, attempt.version + 1, .nil, .nil, request.eventID, false⟩
        (before.advance (rejectedRow request row) (rejectedAttempt request attempt) event)
  | reserveFound (request : ReservationRequest) (existing : ReservationBundle)
      (valid : request.valid = true) (agrees : request.agrees existing = true)
      (capacity : before.capacities.get? existing.capacity.id = some existing.capacity)
      (budget : before.budgets.get? existing.budget.id = some existing.budget)
      (paired : existing.budget.capacityReservationID = existing.capacity.id)
      (active : existing.capacity.tenantID = request.tenantID ∧ existing.capacity.runID = request.runID ∧
        existing.capacity.attemptNumber = request.attemptNumber ∧ existing.capacity.state = .reserved) :
      Commit held before (.reserve request) existing before
  | reserved (request : ReservationRequest) (policy : SchedulingPolicy) (capacity : ClusterCapacity)
      (valid : request.valid = true) (admission : Admission held before request policy capacity) :
      Commit held before (.reserve request) request.bundle (before.hold request.bundle)
  | unmoved (request : ReservationTransition) : Commit held before (.transitionReservation request) false before
  | closed (request : ReservationTransition) (bundle : ReservationBundle)
      (same : bundle.capacity.tenantID = request.tenantID ∧ bundle.capacity.runID = request.runID ∧
        bundle.capacity.attemptNumber = request.attemptNumber)
      (closes : Closes held before bundle request.target) :
      Commit held before (.transitionReservation request) true (before.close bundle request.target request.now)
  | registered (write : ClusterWrite) (clusters : Table fun row : ExecutionCluster => row.id)
      (key : .cluster write.capacity.clusterID ∈ held) :
      Commit held before (.registerCluster write) ()
        { before with
          clusters := clusters, snapshots := before.snapshots.put write.capacity.stored
          allowlists := before.allowlists.put ⟨write.capacity.clusterID, write.allowedTenants⟩ }
  | reported (write : ClusterWrite) (expectedVersion : Int) (clusters : Table fun row : ExecutionCluster => row.id)
      (key : .cluster write.capacity.clusterID ∈ held) :
      Commit held before (.updateCluster write expectedVersion) ()
        { before with
          clusters := clusters, snapshots := before.snapshots.put write.capacity.stored
          allowlists := before.allowlists.put ⟨write.capacity.clusterID, write.allowedTenants⟩ }
  | administered (change : Administration) (key : change.key ∈ held) :
      Commit held before (.administer change) () (before.apply change.write)

end AgentForge.Platform
