import AgentForge.Platform.Identity

/-!
# Runs and attempts of the platform

The aggregate behind one accepted task request and the history of its execution attempts
(`domain/agent_run.go`), with the errors of the domain (`domain/errors.go`). Identifiers that the source
draws with `uuid.NewV7` are arguments here.
-/

set_option autoImplicit false

namespace AgentForge.Platform

open Operator

/-! ## Errors -/

inductive EligibilityOutcome
  | eligible
  | defer
  | reject
  deriving DecidableEq

structure EligibilityDecision where
  outcome : EligibilityOutcome
  code : String
  explanation : String
  nextEligibleAt : Option Time
  deriving DecidableEq

/-- The errors that callers can tell apart, and those that carry only a text. -/
inductive Error
  | validation (message : String)
  | notFound
  | conflict
  | versionConflict
  | invalidTransition
  | capacityUnavailable
  | budgetUnavailable
  | runTerminal
  | retryNotAllowed
  | idempotencyKeyReused
  | unauthorized
  | eligibilityDenied (decision : EligibilityDecision)
  | invalid (message : String)
  /-- Any other failure that PostgreSQL reports. -/
  | database
  deriving DecidableEq

/-! ## Text -/

/-- `unicode.IsSpace`. -/
def isUnicodeSpace (c : Char) : Bool :=
  [0x09, 0x0a, 0x0b, 0x0c, 0x0d, 0x20, 0x85, 0xa0, 0x1680, 0x2028, 0x2029, 0x202f, 0x205f, 0x3000].contains c.toNat ||
    (0x2000 ≤ c.toNat && c.toNat ≤ 0x200a)

/-- Drop a kind of characters at both ends. -/
def trimBoth (drop : Char → Bool) (text : List Char) : List Char :=
  ((text.dropWhile drop).reverse.dropWhile drop).reverse

/-- `strings.TrimSpace`. -/
def trimSpace (text : String) : String := String.ofList (trimBoth isUnicodeSpace text.toList)

-- A check of a request would otherwise be evaluated whenever a transaction is elaborated.
attribute [irreducible] trimSpace

/-- A text that is empty or all spaces. -/
def isBlank (text : String) : Bool := trimSpace text == ""

/-! ## Statuses -/

inductive AgentRunStatus
  | queued
  | scheduling
  | capacityWait
  | provisioning
  | running
  | testing
  | building
  | scanning
  | readyToDeploy
  | deploying
  | cancelling
  | succeeded
  | cancelled
  | provisioningFailed
  | executionFailed
  | buildFailed
  | policyRejected
  | deploymentFailed
  | timedOut
  deriving DecidableEq

namespace AgentRunStatus

def isTerminal : AgentRunStatus → Bool
  | succeeded | cancelled | provisioningFailed | executionFailed | buildFailed | policyRejected | deploymentFailed
  | timedOut => true
  | _ => false

/-- The terminal statuses that need a failure category. -/
def isFailure (status : AgentRunStatus) : Bool :=
  status.isTerminal && status != succeeded && status != cancelled

/-- The statuses before an assignment: the run waits for the Scheduler. -/
def isWaiting : AgentRunStatus → Bool
  | queued | scheduling | capacityWait => true
  | _ => false

/-- The statuses from PROVISIONING to DEPLOYING, in which the run occupies a cluster. -/
def isOccupying : AgentRunStatus → Bool
  | provisioning | running | testing | building | scanning | readyToDeploy | deploying => true
  | _ => false

def isCancel : AgentRunStatus → Bool
  | cancelling | cancelled => true
  | _ => false

end AgentRunStatus

/-- A failure category as the source holds it: a text that may be empty or outside the taxonomy. -/
inductive Failure
  | none
  | known (category : FailureCategory)
  | unknown (text : String)
  deriving DecidableEq

def Failure.isValid : Failure → Bool
  | known _ => true
  | none | unknown _ => false

inductive AgentRunAttemptStatus
  | pending
  | starting
  | active
  | completed
  | failed
  | cancelled
  | timedOut
  deriving DecidableEq

/-- The statuses that need a failure category. -/
def AgentRunAttemptStatus.needsFailure : AgentRunAttemptStatus → Bool
  | failed | timedOut => true
  | _ => false

/-! ## Runs -/

structure AgentRun where
  id : UUID
  tenantID : UUID
  projectID : UUID
  promptReference : String
  runtime : String
  cpuMillis : Int
  memoryMiB : Int
  timeoutSeconds : Int
  maxAttempts : Int
  attemptCount : Int
  status : AgentRunStatus
  failureCategory : Failure
  idempotencyKey : String
  requestHash : String
  version : Int
  createdBy : String
  cancellationReason : String
  cancellationRequestedBy : String
  cancellationRequestedAt : Option Time
  createdAt : Time
  updatedAt : Time
  completedAt : Option Time
  deriving DecidableEq

structure NewAgentRunInput where
  tenantID : UUID
  projectID : UUID
  promptReference : String
  runtime : String
  cpuMillis : Int
  memoryMiB : Int
  timeoutSeconds : Int
  maxAttempts : Int
  idempotencyKey : String
  requestHash : String
  createdBy : String
  deriving DecidableEq

/-- The input with its texts trimmed, as `NewAgentRun` stores it. -/
def NewAgentRunInput.trimmed (input : NewAgentRunInput) : NewAgentRunInput :=
  { input with
    promptReference := trimSpace input.promptReference
    runtime := trimSpace input.runtime
    idempotencyKey := trimSpace input.idempotencyKey
    requestHash := trimSpace input.requestHash
    createdBy := trimSpace input.createdBy }

/-- A text of 1 to `limit` bytes. -/
def lengthWithin (limit : Nat) (text : String) : Bool := text.utf8ByteSize != 0 && text.utf8ByteSize ≤ limit

/-- The checks of `NewAgentRun` on the trimmed input. -/
def NewAgentRunInput.validate (input : NewAgentRunInput) : Except Error Unit := do
  if input.tenantID = .nil ∨ input.projectID = .nil then
    throw (.validation "run tenant and project IDs are required")
  if !lengthWithin 2048 input.promptReference then
    throw (.validation "prompt reference must contain 1 to 2048 characters")
  if !lengthWithin 120 input.runtime then
    throw (.validation "runtime must contain 1 to 120 characters")
  if input.cpuMillis < 1 ∨ input.cpuMillis > 128000 ∨ input.memoryMiB < 1 ∨ input.memoryMiB > 524288 then
    throw (.validation "resource request is outside supported bounds")
  if input.timeoutSeconds < 1 ∨ input.timeoutSeconds > 86400 then
    throw (.validation "timeout must be between 1 and 86400 seconds")
  if input.maxAttempts < 1 ∨ input.maxAttempts > 10 then
    throw (.validation "maximum attempts must be between 1 and 10")
  if !lengthWithin 255 input.idempotencyKey || !lengthWithin 128 input.requestHash ||
      !lengthWithin 255 input.createdBy then
    throw (.validation "idempotency key, request hash, and actor are required")

/-- The queued run of a validated input. -/
def NewAgentRunInput.run (input : NewAgentRunInput) (id : UUID) (now : Time) : AgentRun where
  id := id
  tenantID := input.tenantID
  projectID := input.projectID
  promptReference := input.promptReference
  runtime := input.runtime
  cpuMillis := input.cpuMillis
  memoryMiB := input.memoryMiB
  timeoutSeconds := input.timeoutSeconds
  maxAttempts := input.maxAttempts
  attemptCount := 1
  status := .queued
  failureCategory := .none
  idempotencyKey := input.idempotencyKey
  requestHash := input.requestHash
  version := 1
  createdBy := input.createdBy
  cancellationReason := ""
  cancellationRequestedBy := ""
  cancellationRequestedAt := none
  createdAt := now
  updatedAt := now
  completedAt := none

def newAgentRun (input : NewAgentRunInput) (id : UUID) (now : Time) : Except Error AgentRun := do
  input.trimmed.validate
  return input.trimmed.run id now

namespace AgentRun

/-- The manual-retry exception. -/
def canRetry (run : AgentRun) : Bool :=
  run.status.isTerminal && run.attemptCount < run.maxAttempts && run.failureCategory == .known .transientDependency

/-- The transition graph. -/
def canTransition (run : AgentRun) (target : AgentRunStatus) : Bool :=
  if run.status = target then true
  else if target = .cancelling then !run.status.isTerminal && run.status != .cancelling
  else
    match run.status with
    | .queued => target = .scheduling
    | .scheduling => [.capacityWait, .provisioning, .policyRejected, .timedOut].contains target
    | .capacityWait => [.scheduling, .timedOut].contains target
    | .provisioning => [.running, .provisioningFailed, .timedOut].contains target
    | .running => [.testing, .executionFailed, .timedOut].contains target
    | .testing => [.building, .executionFailed, .timedOut].contains target
    | .building => [.scanning, .buildFailed, .timedOut].contains target
    | .scanning => [.readyToDeploy, .policyRejected, .timedOut].contains target
    | .readyToDeploy => target = .deploying
    | .deploying => [.succeeded, .deploymentFailed, .timedOut].contains target
    | .cancelling => target = .cancelled
    | .provisioningFailed | .executionFailed | .buildFailed | .deploymentFailed | .timedOut =>
      target = .queued && run.canRetry
    | .succeeded | .cancelled | .policyRejected => false

variable {run run' : AgentRun}

theorem canRetry_iff :
    run.canRetry = true ↔ run.status.isTerminal = true ∧ run.attemptCount < run.maxAttempts ∧
      run.failureCategory = .known .transientDependency := by
  simp [canRetry, and_assoc]

variable {target : AgentRunStatus}

/-- Only a retry leaves a terminal status. -/
theorem transition_of_terminal (allowed : run.canTransition target = true) (differs : target ≠ run.status) :
    run.status.isTerminal = true ↔ target = .queued := by
  unfold canTransition at allowed
  cases target <;> cases status : run.status <;> simp_all [AgentRunStatus.isTerminal]

/-- A run that goes back to QUEUED can be retried. -/
theorem canRetry_of_requeue (allowed : run.canTransition .queued = true) (differs : .queued ≠ run.status) :
    run.canRetry = true := by
  unfold canTransition at allowed
  cases status : run.status <;> simp_all

/-- The fields that a change of status sets besides the status. -/
def enter (run : AgentRun) (target : AgentRunStatus) (failure : Failure) (now : Time) : AgentRun :=
  if target = .queued && run.status.isTerminal then
    { run with attemptCount := run.attemptCount + 1, failureCategory := .none, completedAt := none }
  else if target.isTerminal then { run with completedAt := some now, failureCategory := failure }
  else run

def transition (run : AgentRun) (target : AgentRunStatus) (failure : Failure) (now : Time) :
    Except Error AgentRun :=
  if !run.canTransition target then .error .invalidTransition
  else if target = run.status then .ok run
  else if target.isFailure && failure = .none then .error (.invalid "failure category is required")
  else if target.isFailure && !failure.isValid then .error (.invalid "failure category is not valid")
  else .ok { run.enter target failure now with status := target, updatedAt := now }

/-- A transition either changes nothing or follows an edge of the graph. -/
theorem transition_ok {failure : Failure} {now : Time} (moved : run.transition target failure now = .ok run') :
    run.canTransition target = true ∧ (target = run.status ∧ run' = run ∨
      target ≠ run.status ∧ (target.isFailure = true → failure.isValid = true) ∧
        run' = { run.enter target failure now with status := target, updatedAt := now }) := by
  unfold transition at moved
  split at moved
  · cases moved
  · next allowed =>
    refine ⟨by simpa using allowed, ?_⟩
    split at moved
    · next same => exact .inl ⟨same, by cases moved; rfl⟩
    · next differs =>
      split at moved
      · cases moved
      · split at moved
        · cases moved
        · next valid =>
          refine .inr ⟨differs, fun failed => ?_, by cases moved; rfl⟩
          simpa [failed] using valid

theorem transition_status {failure : Failure} {now : Time} (moved : run.transition target failure now = .ok run') :
    run'.status = target := by
  obtain ⟨-, ⟨same, rfl⟩ | ⟨-, -, rfl⟩⟩ := transition_ok moved
  · exact same.symm
  · rfl

end AgentRun

/-! ## Attempts -/

/-- The columns that a Schedule transaction sets on an attempt, all of them or none. -/
structure Assignment where
  selectedCluster : String
  executionProfile : String
  capacityReservationID : UUID
  budgetReservationID : UUID
  deriving DecidableEq

structure AgentRunAttempt where
  id : UUID
  tenantID : UUID
  runID : UUID
  attemptNumber : Int
  status : AgentRunAttemptStatus
  failureCategory : Failure
  version : Int
  assignment : Option Assignment
  workloadReference : String
  createdAt : Time
  updatedAt : Time
  startedAt : Option Time
  completedAt : Option Time
  deriving DecidableEq

/-- The pending attempt with a number. -/
def newAgentRunAttempt (id tenantID runID : UUID) (number : Int) (now : Time) : Except Error AgentRunAttempt :=
  if tenantID = .nil ∨ runID = .nil ∨ number < 1 then
    .error (.validation "attempt tenant, run, and number are required")
  else
    .ok {
      id := id, tenantID := tenantID, runID := runID, attemptNumber := number, status := .pending,
      failureCategory := .none, version := 1, assignment := none, workloadReference := "", createdAt := now,
      updatedAt := now, startedAt := none, completedAt := none }

theorem newAgentRunAttempt_ok {id tenantID runID : UUID} {number : Int} {now : Time} {attempt : AgentRunAttempt}
    (made : newAgentRunAttempt id tenantID runID number now = .ok attempt) :
    1 ≤ number ∧ attempt = {
      id := id, tenantID := tenantID, runID := runID, attemptNumber := number, status := .pending,
      failureCategory := .none, version := 1, assignment := none, workloadReference := "", createdAt := now,
      updatedAt := now, startedAt := none, completedAt := none } := by
  unfold newAgentRunAttempt at made
  split at made
  · cases made
  · next valid =>
    cases made
    exact ⟨by omega, rfl⟩

namespace AgentRunAttempt

/-- The attempt lifecycle graph. -/
def canTransition (attempt : AgentRunAttempt) (target : AgentRunAttemptStatus) : Bool :=
  if attempt.status = target then true
  else
    match attempt.status with
    | .pending => [.starting, .cancelled, .timedOut].contains target
    | .starting => [.active, .failed, .cancelled, .timedOut].contains target
    | .active => [.completed, .failed, .cancelled, .timedOut].contains target
    | .completed | .failed | .cancelled | .timedOut => false

/-- The fields that a change of status sets besides the status. -/
def enter (attempt : AgentRunAttempt) (target : AgentRunAttemptStatus) (failure : Failure) (now : Time) :
    AgentRunAttempt :=
  match target with
  | .active => { attempt with startedAt := some now }
  | .failed | .timedOut => { attempt with failureCategory := failure, completedAt := some now }
  | .completed | .cancelled => { attempt with completedAt := some now }
  | .pending | .starting => attempt

def transition (attempt : AgentRunAttempt) (target : AgentRunAttemptStatus) (failure : Failure) (now : Time) :
    Except Error AgentRunAttempt :=
  if !attempt.canTransition target then .error .invalidTransition
  else if target = attempt.status then .ok attempt
  else if target.needsFailure && failure = .none then .error (.invalid "failure category is required")
  else if target.needsFailure && !failure.isValid then .error (.invalid "failure category is not valid")
  else .ok { attempt.enter target failure now with status := target, updatedAt := now }

variable {attempt attempt' : AgentRunAttempt}

theorem transition_ok {target : AgentRunAttemptStatus} {failure : Failure} {now : Time}
    (moved : attempt.transition target failure now = .ok attempt') :
    attempt.canTransition target = true ∧ (target = attempt.status ∧ attempt' = attempt ∨
      target ≠ attempt.status ∧
        attempt' = { attempt.enter target failure now with status := target, updatedAt := now }) := by
  unfold transition at moved
  split at moved
  · cases moved
  · next allowed =>
    refine ⟨by simpa using allowed, ?_⟩
    split at moved
    · next same => exact .inl ⟨same, by cases moved; rfl⟩
    · next differs =>
      split at moved
      · cases moved
      · split at moved
        · cases moved
        · exact .inr ⟨differs, by cases moved; rfl⟩

theorem transition_status {target : AgentRunAttemptStatus} {failure : Failure} {now : Time}
    (moved : attempt.transition target failure now = .ok attempt') : attempt'.status = target := by
  obtain ⟨-, ⟨same, rfl⟩ | ⟨-, rfl⟩⟩ := transition_ok moved
  · exact same.symm
  · rfl

/-- No edge leads back to PENDING. -/
theorem canTransition_pending (back : attempt.canTransition .pending = true) : attempt.status = .pending := by
  unfold canTransition at back
  split at back
  · assumption
  · split at back <;> simp at back

end AgentRunAttempt

end AgentForge.Platform
