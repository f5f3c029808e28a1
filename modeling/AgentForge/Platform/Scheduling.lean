import AgentForge.Platform.Reservations

/-!
# Scheduling transactions

The evaluation of a claimed run (`adapters/postgres/scheduler_eligibility.go`) and the three ways a
scheduler ends a claim: an assignment with its reservations, event and handoff intent in one transaction,
a deferral, or a rejection (`adapters/postgres/scheduling_intent.go`). The log of decisions that the
evaluation also writes is read by nothing here and left out.
-/

set_option autoImplicit false

namespace AgentForge.Platform

open Operator Lib

/-! ## Evaluation -/

/-- `readSchedulingUsage`. -/
def readSchedulingUsage (tenantID : UUID) (createdBy : String) (now : Time) : Program SchedulingUsage := do
  let usage ← Tx.perform (selectRunUsage tenantID createdBy)
  let used ← Tx.perform (selectBudgetUsed tenantID (day now))
  return { usage with budgetUsedMinorUnits := used }

def evaluate (run : ClaimedRun) (now : Time) : Program EligibilityDecision := do
  Tx.check (run.id.version == 7 && run.tenantID.version == 7 && run.projectID.version == 7 && 1 ≤ run.attemptNumber &&
    1 ≤ run.version && !Time.isZero now) (.invalid "claimed run identity and evaluation time are required")
  let (tenantStatus, projectStatus) ← required (selectOwnership run.tenantID run.projectID) .notFound
  let policy ← Tx.perform (lockPolicy run.tenantID)
  let usage ← readSchedulingUsage run.tenantID run.createdBy now
  Tx.lift (evaluateEligibility {
    tenantStatus := tenantStatus, projectStatus := projectStatus,
    request := ⟨run.runtime, run.executionProfile, run.createdBy, run.cpuMillis, run.memoryMiB⟩,
    policy := policy, usage := usage, now := now })

/-! ## Requests and results -/

structure SchedulingIntentRequest where
  claim : ClaimedRun
  leaseOwner : String
  attemptID : UUID
  attemptVersion : Int
  clusterID : String
  clusterFreshness : Duration
  strategy : String
  selectionScore : Int
  budgetMinorUnits : Int
  reservationTTL : Duration
  correlationID : String
  causationID : String
  now : Time
  desiredState : AgentRunDesiredState
  /-- The identifiers of the new rows. -/
  capacityID : UUID
  budgetID : UUID
  eventID : UUID
  deriving DecidableEq

structure CapacityWaitRequest where
  claim : ClaimedRun
  leaseOwner : String
  reasonCode : String
  reason : String
  nextEligibleAt : Time
  correlationID : String
  causationID : String
  now : Time
  eventID : UUID
  deriving DecidableEq

structure SchedulingRejectRequest where
  claim : ClaimedRun
  leaseOwner : String
  reasonCode : String
  reason : String
  correlationID : String
  causationID : String
  now : Time
  eventID : UUID
  deriving DecidableEq

structure SchedulingIntentResult where
  runVersion : Int
  attemptVersion : Int
  capacityReservationID : UUID
  budgetReservationID : UUID
  eventID : UUID
  replayed : Bool
  deriving DecidableEq

def SchedulingIntentRequest.wellFormed (request : SchedulingIntentRequest) : Bool :=
  request.claim.tenantID != .nil && request.claim.id != .nil && request.attemptID != .nil &&
    1 ≤ request.claim.version && 1 ≤ request.attemptVersion && !isBlank request.leaseOwner &&
    request.clusterID != "" && 0 < request.clusterFreshness && request.strategy != "" && 0 ≤ request.selectionScore &&
    0 ≤ request.budgetMinorUnits && 0 < request.reservationTTL && request.reservationTTL ≤ 86400 * second &&
    !Time.isZero request.now && !isBlank request.correlationID && !isBlank request.causationID

/-- The desired state agrees with the claimed run. -/
def SchedulingIntentRequest.describesClaim (request : SchedulingIntentRequest) : Bool :=
  request.desiredState.runtime == request.claim.runtime &&
    request.desiredState.executionProfile == request.claim.executionProfile &&
    request.desiredState.taskReference == request.claim.promptReference &&
    request.desiredState.timeoutSeconds == request.claim.timeoutSeconds &&
    request.desiredState.maxAttempts == request.claim.maxAttempts &&
    request.desiredState.cpuMillis == request.claim.cpuMillis &&
    request.desiredState.memoryMiB == request.claim.memoryMiB

def validateSchedulingIntent (request : SchedulingIntentRequest) : Except Error Unit :=
  if !request.wellFormed then .error (.invalid "scheduling intent request is invalid")
  else if !request.describesClaim then .error (.invalid "scheduling desired state does not match claimed run")
  else
    match request.desiredState.validate request.claim.attemptNumber with
    | .error message => .error (.invalid message)
    | .ok () => .ok ()

/-! ## Parts of the transactions -/

/-- The run is SCHEDULING under the caller's unexpired lease at the claimed version. -/
def RunRow.leasedBy (row : RunRow) (owner : String) (now : Time) (version : Int) : Bool :=
  row.run.status == .scheduling && row.run.version == version &&
    row.lease.any fun lease => lease.owner == owner && now < lease.expiresAt

/-- The current attempt, locked, if it is pending at the expected version. -/
def lockPendingAttempt (run : AgentRun) (attemptID : UUID) (expectedVersion : Int) : Program AgentRunAttempt := do
  let attempt ← required (lockAttempt run.tenantID run.id attemptID run.attemptCount) .notFound
  Tx.check (attempt.status == .pending && attempt.version == expectedVersion) .versionConflict
  return attempt

/-- The policy of the tenant, locked, if it admits the run. -/
def admitEligible (row : RunRow) (now : Time) : Program (Option SchedulingPolicy) := do
  let policy ← Tx.perform (lockPolicy row.run.tenantID)
  let (tenantStatus, projectStatus) ← required (selectOwnership row.run.tenantID row.run.projectID) .notFound
  let usage ← readSchedulingUsage row.run.tenantID row.run.createdBy now
  let decision ← Tx.lift (evaluateEligibility {
    tenantStatus := tenantStatus, projectStatus := projectStatus,
    request := ⟨row.run.runtime, row.executionProfile, row.run.createdBy, row.run.cpuMillis, row.run.memoryMiB⟩,
    policy := policy, usage := usage, now := now })
  Tx.check (decision.outcome == .eligible) (.eligibilityDenied decision)
  return policy

/-- The cluster of a request, locked, if it may take the run. -/
def lockEligibleCluster (id : String) (tenantID : UUID) (runtime profile : String) (now : Time) (freshness : Duration) :
    Program ClusterCandidate := do
  let candidate ← required (lockEligible id tenantID runtime profile (now - freshness)) .capacityUnavailable
  Tx.check (candidate.cluster.valid now && candidate.capacity.valid now) .capacityUnavailable
  return candidate

/-- The reservation request of an assignment. -/
def SchedulingIntentRequest.reservation (request : SchedulingIntentRequest) (row : RunRow) (attempt : AgentRunAttempt) :
    ReservationRequest where
  tenantID := row.run.tenantID
  runID := row.run.id
  attemptID := attempt.id
  attemptNumber := attempt.attemptNumber
  clusterID := request.clusterID
  cpuMillis := row.run.cpuMillis
  memoryMiB := row.run.memoryMiB
  budgetMinorUnits := request.budgetMinorUnits
  now := request.now
  ttl := request.reservationTTL
  capacityID := request.capacityID
  budgetID := request.budgetID

def SchedulingIntentRequest.assignment (request : SchedulingIntentRequest) (row : RunRow) : Assignment where
  selectedCluster := request.clusterID
  executionProfile := row.executionProfile
  capacityReservationID := request.capacityID
  budgetReservationID := request.budgetID

/-- The columns that an assignment sets on the attempt. -/
def assignedAttempt (request : SchedulingIntentRequest) (assignment : Assignment) (attempt : AgentRunAttempt) :
    AgentRunAttempt :=
  { attempt with
    status := .starting
    version := attempt.version + 1
    assignment := some assignment
    updatedAt := pgTime request.now }

/-- The columns that an assignment sets on the run. -/
def assignedRow (request : SchedulingIntentRequest) (row : RunRow) : RunRow :=
  { row with
    run := { row.run with
      status := .provisioning
      version := row.run.version + 1
      updatedAt := pgTime request.now }
    lease := none
    nextEligibleAt := none
    decisionCode := some "SCHEDULED"
    decisionReason := some "cluster selected and resources reserved"
    strategy := some request.strategy
    selectionScore := some request.selectionScore }

/-- The handoff intent of an assignment. -/
def SchedulingIntentRequest.intent (request : SchedulingIntentRequest) (row : RunRow) (attempt : AgentRunAttempt) :
    IntentRow where
  eventID := request.eventID
  tenantID := row.run.tenantID
  runID := row.run.id
  attemptID := attempt.id
  attemptNumber := attempt.attemptNumber
  clusterID := request.clusterID
  desiredState := request.desiredState
  createdAt := pgTime request.now

/-- The run after an assignment, as the event describes it. -/
def SchedulingIntentRequest.assignedRun (request : SchedulingIntentRequest) (run : AgentRun) : AgentRun :=
  { run with status := .provisioning, version := run.version + 1, updatedAt := request.now }

/-- Write the assignment: the attempt, the run, the event and the intent. -/
def recordAssignment (request : SchedulingIntentRequest) (row : RunRow) (attempt : AgentRunAttempt) :
    Program SchedulingIntentResult := do
  let _ ← exec (updateAttempt attempt.tenantID attempt.id (·.version == request.attemptVersion)
    (assignedAttempt request (request.assignment row)))
  let updated ← exec (updateRun row.run.tenantID row.run.id (·.run.version == request.claim.version) (assignedRow request))
  Tx.check updated.isSome .versionConflict
  let event ← Tx.lift (newAgentRunScheduled (request.assignedRun row.run) attempt (request.assignment row)
    request.eventID request.correlationID request.causationID)
  exec (insertEvent event)
  exec (insertIntent (request.intent row attempt))
  return ⟨row.run.version + 1, attempt.version + 1, request.capacityID, request.budgetID, request.eventID, false⟩

/-! ## Schedule -/

/-- The reservation that an attempt was assigned with. -/
def Db.assigned? (db : Db) (run : AgentRun) :
    Option (AgentRunAttempt × Assignment × CapacityReservation × BudgetReservation) := do
  let attempt ← db.attempt? run.tenantID run.id run.attemptCount
  let assignment ← attempt.assignment
  let capacity ← db.capacities.get? assignment.capacityReservationID
  let budget ← db.budgets.get? assignment.budgetReservationID
  return (attempt, assignment, capacity, budget)

/-- The stored assignment has the values of the request. -/
def SchedulingIntentRequest.agrees (request : SchedulingIntentRequest) (row again : RunRow) (assignment : Assignment)
    (capacity : CapacityReservation) (budget : BudgetReservation) : Bool :=
  assignment.selectedCluster == request.clusterID &&
    assignment.executionProfile == request.claim.executionProfile && capacity.cpuMillis == row.run.cpuMillis &&
    capacity.memoryMiB == row.run.memoryMiB && budget.amountMinorUnits == request.budgetMinorUnits &&
    capacity.expiresAt - capacity.createdAt == request.reservationTTL && again.strategy == some request.strategy &&
    again.selectionScore == some request.selectionScore

/-- `replaySchedulingIntent`. -/
def replaySchedulingIntent (request : SchedulingIntentRequest) (row : RunRow) : Program SchedulingIntentResult := do
  let (attempt, assignment, capacity, budget) ←
    required (Statement.query fun db : Db => db.assigned? row.run) .notFound
  let again ← required (selectRun row.run.tenantID row.run.id) .notFound
  Tx.check (request.agrees row again assignment capacity budget) .conflict
  let eventID ← required (selectEvent row.run.tenantID row.run.id .scheduled row.run.version) .notFound
  let stored ← required (selectIntent eventID row.run.tenantID row.run.id row.run.attemptCount) .notFound
  Tx.check (stored == request.desiredState) .conflict
  return ⟨row.run.version, attempt.version, assignment.capacityReservationID, assignment.budgetReservationID, eventID, true⟩

/-- The part of Schedule after the run is known to be under the caller's lease. -/
def scheduleLeased (request : SchedulingIntentRequest) (row : RunRow) : Program SchedulingIntentResult := do
  let attempt ← lockPendingAttempt row.run request.attemptID request.attemptVersion
  let policy ← admitEligible row request.now
  let candidate ← lockEligibleCluster request.clusterID row.run.tenantID row.run.runtime row.executionProfile request.now
    request.clusterFreshness
  admitCapacity request.clusterID candidate.capacity row.run.cpuMillis row.run.memoryMiB request.now
  admitBudget row.run.tenantID (policy.map (·.dailyBudgetMinorUnits)) request.budgetMinorUnits request.now
  let bundle ← Tx.lift (newReservationBundle (request.reservation row attempt))
  recordBundle bundle
  recordAssignment request row attempt

/-- The desired state describes the run. -/
def SchedulingIntentRequest.describes (request : SchedulingIntentRequest) (run : AgentRun) : Bool :=
  request.desiredState.runtime == run.runtime && request.desiredState.taskReference == run.promptReference &&
    request.desiredState.timeoutSeconds == run.timeoutSeconds && request.desiredState.maxAttempts == run.maxAttempts

def schedule (request : SchedulingIntentRequest) : Program SchedulingIntentResult := do
  Tx.lift (validateSchedulingIntent request)
  let row ← required (lockRun request.claim.tenantID request.claim.id) .notFound
  if row.run.status = .provisioning then replaySchedulingIntent request row
  else do
    Tx.check (row.leasedBy request.leaseOwner request.now request.claim.version &&
      row.executionProfile == request.claim.executionProfile) .versionConflict
    Tx.check (request.describes row.run) .conflict
    scheduleLeased request row

/-! ## DeferCapacity -/

def CapacityWaitRequest.valid (request : CapacityWaitRequest) : Bool :=
  request.claim.tenantID != .nil && request.claim.id != .nil && !isBlank request.leaseOwner &&
    1 ≤ request.claim.version && !Time.isZero request.now && request.now < request.nextEligibleAt &&
    present 80 request.reasonCode && present 500 request.reason && !isBlank request.correlationID &&
    !isBlank request.causationID

/-- The columns that a deferral sets. -/
def deferredRow (request : CapacityWaitRequest) (row : RunRow) : RunRow :=
  { row with
    run := { row.run with
      status := .capacityWait
      version := row.run.version + 1
      updatedAt := pgTime request.now }
    lease := none
    nextEligibleAt := some (pgTime request.nextEligibleAt)
    decisionCode := some request.reasonCode
    decisionReason := some request.reason }

/-- The run already waits for this deferral. -/
def CapacityWaitRequest.agrees (request : CapacityWaitRequest) (row again : RunRow) : Bool :=
  row.run.version == request.claim.version + 1 && again.decisionCode == some request.reasonCode &&
    again.decisionReason == some request.reason && again.nextEligibleAt == some request.nextEligibleAt

def deferCapacity (request : CapacityWaitRequest) : Program SchedulingIntentResult := do
  Tx.check request.valid (.invalid "capacity-wait request is invalid")
  let row ← required (lockRun request.claim.tenantID request.claim.id) .notFound
  if row.run.status = .capacityWait then do
    let again ← required (selectRun row.run.tenantID row.run.id) .notFound
    Tx.check (request.agrees row again) .versionConflict
    let eventID ← required (selectEvent row.run.tenantID row.run.id .capacityWait row.run.version) .notFound
    return ⟨row.run.version, 0, .nil, .nil, eventID, true⟩
  else do
    Tx.check (row.leasedBy request.leaseOwner request.now request.claim.version) .versionConflict
    let updated ← exec (updateRun row.run.tenantID row.run.id (·.run.version == request.claim.version) (deferredRow request))
    Tx.check updated.isSome .versionConflict
    let run := { row.run with status := .capacityWait, version := row.run.version + 1, updatedAt := request.now }
    let event ← Tx.lift (newAgentRunCapacityWait run request.reasonCode request.reason request.nextEligibleAt
      request.eventID request.correlationID request.causationID)
    exec (insertEvent event)
    return ⟨run.version, 0, .nil, .nil, request.eventID, false⟩

/-! ## Reject -/

def SchedulingRejectRequest.valid (request : SchedulingRejectRequest) : Bool :=
  request.claim.tenantID != .nil && request.claim.id != .nil && 1 ≤ request.claim.version &&
    !isBlank request.leaseOwner && !Time.isZero request.now && present 80 request.reasonCode &&
    present 500 request.reason && !isBlank request.correlationID && !isBlank request.causationID

def rejectedAttempt (request : SchedulingRejectRequest) (attempt : AgentRunAttempt) : AgentRunAttempt :=
  { attempt with
    status := .cancelled
    version := attempt.version + 1
    updatedAt := pgTime request.now
    completedAt := some (pgTime request.now) }

/-- The columns that a rejection sets on the run. -/
def rejectedRow (request : SchedulingRejectRequest) (row : RunRow) : RunRow :=
  { row with
    run := { row.run with
      status := .policyRejected
      failureCategory := .known .policy
      version := row.run.version + 1
      updatedAt := pgTime request.now
      completedAt := some (pgTime request.now) }
    lease := none
    nextEligibleAt := none
    decisionCode := some request.reasonCode
    decisionReason := some request.reason }

/-- The rejection is already recorded. -/
def SchedulingRejectRequest.agrees (request : SchedulingRejectRequest) (row again : RunRow) : Bool :=
  row.run.version == request.claim.version + 1 && again.decisionCode == some request.reasonCode &&
    again.decisionReason == some request.reason

def replayRejection (request : SchedulingRejectRequest) (row : RunRow) : Program SchedulingIntentResult := do
  let again ← required (selectRun row.run.tenantID row.run.id) .notFound
  Tx.check (request.agrees row again) .conflict
  let eventID ← required (selectEvent row.run.tenantID row.run.id .failed row.run.version) .notFound
  let attempt ← required (selectAttempt row.run.tenantID row.run.id row.run.attemptCount) .notFound
  Tx.check (attempt.status == .cancelled) .notFound
  return ⟨row.run.version, attempt.version, .nil, .nil, eventID, true⟩

/-- The part of Reject after the run is known to be under the caller's lease. -/
def rejectLeased (request : SchedulingRejectRequest) (row : RunRow) : Program SchedulingIntentResult := do
  let attempt ← lockPendingAttempt row.run request.claim.attemptID request.claim.attemptVersion
  let closed ← exec (updateAttempt attempt.tenantID attempt.id (·.version == attempt.version) (rejectedAttempt request))
  Tx.check closed.isSome .versionConflict
  let updated ← exec (updateRun row.run.tenantID row.run.id (·.run.version == request.claim.version) (rejectedRow request))
  Tx.check updated.isSome .versionConflict
  let run := { row.run with
    status := .policyRejected, failureCategory := .known .policy, version := row.run.version + 1,
    updatedAt := request.now, completedAt := some request.now }
  let event ← Tx.lift (newAgentRunSchedulingRejected run request.reasonCode request.reason request.eventID
    request.correlationID request.causationID)
  exec (insertEvent event)
  return ⟨run.version, attempt.version + 1, .nil, .nil, request.eventID, false⟩

def reject (request : SchedulingRejectRequest) : Program SchedulingIntentResult := do
  Tx.check request.valid (.invalid "scheduling rejection request is invalid")
  let row ← required (lockRun request.claim.tenantID request.claim.id) .notFound
  if row.run.status = .policyRejected then replayRejection request row
  else do
    Tx.check (row.leasedBy request.leaseOwner request.now request.claim.version) .versionConflict
    rejectLeased request row

end AgentForge.Platform
