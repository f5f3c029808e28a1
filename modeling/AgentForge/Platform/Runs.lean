import AgentForge.Platform.Statements

/-!
# The run repository

The transactions on runs and attempts that clients and the later stages make
(`adapters/postgres/agent_runs.go`): creating a run, saving a transition, and the commands Cancel and Retry
with their receipts. The identifiers a transaction draws are fields of its request.
-/

set_option autoImplicit false

namespace AgentForge.Platform

open Operator Lib

/-- A transaction of the platform. -/
abbrev Program (α : Type) := Tx Db Key Write Error α

/-- Run a statement that may fail. -/
def exec {α : Type} (statement : SQL (Except Error α)) : Program α := Tx.perform statement >>= Tx.lift

/-- Run a query that has to return a row. -/
def required {α : Type} (query : SQL (Option α)) (missing : Error) : Program α :=
  Tx.perform query >>= fun found => Tx.lift (found.elim (.error missing) .ok)

/-! ## Stored rows and receipts -/

/-- The run as its columns keep it. -/
def AgentRun.stored (run : AgentRun) : AgentRun :=
  { run with
    cancellationRequestedAt := run.cancellationRequestedAt.map pgTime
    createdAt := pgTime run.createdAt
    updatedAt := pgTime run.updatedAt
    completedAt := run.completedAt.map pgTime }

/-- The attempt as its columns keep it. -/
def AgentRunAttempt.stored (attempt : AgentRunAttempt) : AgentRunAttempt :=
  { attempt with
    createdAt := pgTime attempt.createdAt
    updatedAt := pgTime attempt.updatedAt
    startedAt := attempt.startedAt.map pgTime
    completedAt := attempt.completedAt.map pgTime }

/-- The row that `insertAttempt` writes: it names no reservation columns, and a new attempt has no cluster. -/
def AgentRunAttempt.inserted (attempt : AgentRunAttempt) : AgentRunAttempt := { attempt.stored with assignment := none }

def marshalIdempotencyResponse (run : AgentRun) : IdempotencyResponse where
  id := run.id
  projectID := run.projectID
  runtime := run.runtime
  cpuMillis := run.cpuMillis
  memoryMiB := run.memoryMiB
  timeoutSeconds := run.timeoutSeconds
  maxAttempts := run.maxAttempts
  attemptCount := run.attemptCount
  status := run.status
  createdAt := run.createdAt
  updatedAt := run.updatedAt

/-- The fields that a stored response restores. -/
def AgentRun.restore (run : AgentRun) (response : IdempotencyResponse) : AgentRun :=
  { run with
    runtime := response.runtime
    cpuMillis := response.cpuMillis
    memoryMiB := response.memoryMiB
    timeoutSeconds := response.timeoutSeconds
    maxAttempts := response.maxAttempts
    attemptCount := response.attemptCount
    status := response.status
    createdAt := response.createdAt
    updatedAt := response.updatedAt }

def applyCommandResponse (run : AgentRun) (response : IdempotencyResponse) : Except Error AgentRun :=
  if response.id ≠ run.id ∨ response.projectID ≠ run.projectID ∨ response.attemptCount < 1 ∨
      Time.isZero response.createdAt ∨ Time.isZero response.updatedAt then
    .error (.invalid "stored command response is invalid")
  else .ok (run.restore response)

/-! ## Create -/

structure CreateRequest where
  run : AgentRun
  attempt : AgentRunAttempt
  eventID : UUID
  /-- What `url.Parse` says of the prompt reference. -/
  promptParses : Bool

def validateInitialAttempt (run : AgentRun) (attempt : AgentRunAttempt) : Bool :=
  run.status == .queued && run.attemptCount == 1 && attempt.tenantID == run.tenantID && attempt.runID == run.id &&
    attempt.attemptNumber == 1 && attempt.status == .pending

/-- The row that Create inserts; the columns it does not name take their defaults. -/
def createdRow (run : AgentRun) : RunRow where
  run := run.stored
  priority := 0
  executionProfile := "standard"
  preferredRegion := none
  nextEligibleAt := none
  lease := none
  decisionCode := none
  decisionReason := none
  strategy := none
  selectionScore := none
  idempotencyResponse := some (marshalIdempotencyResponse run)
  lastCommand := none

def create (request : CreateRequest) : Program Unit := do
  Tx.check (validateInitialAttempt request.run request.attempt) (.invalid "initial run and attempt state is invalid")
  let event ← Tx.lift (newAgentRunRequested request.run request.attempt request.eventID request.promptParses)
  exec (insertRun (createdRow request.run))
  exec (insertAttempt request.attempt.inserted)
  exec (insertEvent event)

/-! ## Transition and save -/

/-- The columns that `updateRun` sets; the scheduler's lease is not among them. -/
def savedRow (run : AgentRun) (row : RunRow) : RunRow :=
  { row with run := { row.run with
    status := run.status
    failureCategory := run.failureCategory
    attemptCount := run.attemptCount
    version := row.run.version + 1
    updatedAt := pgTime run.updatedAt
    cancellationReason := run.cancellationReason
    cancellationRequestedBy := run.cancellationRequestedBy
    cancellationRequestedAt := run.cancellationRequestedAt.map pgTime
    completedAt := run.completedAt.map pgTime } }

/-- `saveError`: an update that matched no row. -/
def saveError {α : Type} (tenantID runID : UUID) : Program α :=
  Tx.perform (selectRun tenantID runID) >>= fun found =>
    .fail (if found.isSome then .versionConflict else .notFound)

/-- `Save`. -/
def save (run : AgentRun) (expectedVersion : Int) : Program AgentRun := do
  let updated ← exec (updateRun run.tenantID run.id (·.run.version == expectedVersion) (savedRow run))
  match updated with
  | some row => return row.run
  | none => saveError run.tenantID run.id

structure TransitionRequest where
  tenantID : UUID
  runID : UUID
  target : AgentRunStatus
  failure : Failure
  now : Time

/-- A later stage loads a run that it owns, which is past the Scheduler, moves it and saves it. -/
def transitionAndSave (request : TransitionRequest) : Program AgentRun := do
  let row ← required (selectRun request.tenantID request.runID) .notFound
  Tx.check (!row.run.status.isWaiting && request.target != .queued) .invalidTransition
  let run ← Tx.lift (row.run.transition request.target request.failure request.now)
  save run row.run.version

/-- The columns that `SaveAttempt` sets. -/
def savedAttempt (attempt row : AgentRunAttempt) : AgentRunAttempt :=
  { row with
    status := attempt.status
    failureCategory := attempt.failureCategory
    assignment := attempt.assignment
    workloadReference := attempt.workloadReference
    version := row.version + 1
    updatedAt := pgTime attempt.updatedAt
    startedAt := attempt.startedAt.map pgTime
    completedAt := attempt.completedAt.map pgTime }

/-- `SaveAttempt`. -/
def saveAttempt (attempt : AgentRunAttempt) (expectedVersion : Int) : Program AgentRunAttempt := do
  let updated ← exec (updateAttempt attempt.tenantID attempt.id (·.version == expectedVersion) (savedAttempt attempt))
  match updated with
  | some row => return row
  | none => saveError attempt.tenantID attempt.runID

structure AttemptTransitionRequest where
  tenantID : UUID
  runID : UUID
  attemptNumber : Int
  target : AgentRunAttemptStatus
  failure : Failure
  now : Time

/-- An attempt of a run that is past the Scheduler. -/
def selectStartedAttempt (tenantID runID : UUID) (number : Int) : SQL (Option AgentRunAttempt) :=
  .query fun db =>
    match db.run? tenantID runID with
    | none => none
    | some row => if row.run.status.isWaiting then none else db.attempt? tenantID runID number

/-- A later stage loads an attempt of a run that it owns, moves it and saves it. -/
def transitionAndSaveAttempt (request : AttemptTransitionRequest) : Program AgentRunAttempt := do
  let attempt ← required (selectStartedAttempt request.tenantID request.runID request.attemptNumber) .notFound
  let moved ← Tx.lift (attempt.transition request.target request.failure request.now)
  saveAttempt moved attempt.version

/-! ## Commands -/

structure RunCommandResult where
  run : AgentRun
  replayed : Bool
  deriving DecidableEq

structure CancelRunRequest where
  tenantID : UUID
  runID : UUID
  commandID : String
  reason : String
  actor : String
  now : Time
  eventID : UUID
  deriving DecidableEq

structure RetryRunRequest where
  tenantID : UUID
  runID : UUID
  commandID : String
  actor : String
  now : Time
  attemptID : UUID
  eventID : UUID
  deriving DecidableEq

def CancelRunRequest.valid (request : CancelRunRequest) : Bool :=
  request.tenantID != .nil && request.runID != .nil && present 255 request.commandID && present 255 request.actor &&
    present 500 request.reason && !Time.isZero request.now

def RetryRunRequest.valid (request : RetryRunRequest) : Bool :=
  request.tenantID != .nil && request.runID != .nil && present 255 request.commandID && present 255 request.actor &&
    !Time.isZero request.now

/-- The run, locked, and its last command, which a second statement reads. -/
def lockedCommandRun (tenantID runID : UUID) : Program (RunRow × Option CommandReceipt) := do
  let row ← required (lockRun tenantID runID) .notFound
  let again ← required (selectRun tenantID runID) .notFound
  return (row, again.lastCommand)

/-- The stored response, if the last command is this one. -/
def receiptOf (type : CommandType) (commandID : String) (last : Option CommandReceipt) : Option IdempotencyResponse :=
  match last with
  | some receipt => if receipt.type = type ∧ receipt.id = commandID then some receipt.response else none
  | none => none

/-- The run with the cancellation of a request recorded. -/
def CancelRunRequest.record (request : CancelRunRequest) (run : AgentRun) : AgentRun :=
  { run with
    cancellationReason := request.reason
    cancellationRequestedBy := request.actor
    cancellationRequestedAt := some request.now }

/-- The columns that Cancel sets. -/
def cancelledRow (request : CancelRunRequest) (run : AgentRun) (row : RunRow) : RunRow :=
  { row with
    run := { row.run with
      status := run.status
      version := row.run.version + 1
      updatedAt := pgTime run.updatedAt
      cancellationReason := run.cancellationReason
      cancellationRequestedBy := run.cancellationRequestedBy
      cancellationRequestedAt := run.cancellationRequestedAt.map pgTime }
    lease := none
    nextEligibleAt := none
    lastCommand := some ⟨.cancel, request.commandID, marshalIdempotencyResponse run⟩ }

/-- The part of Cancel that changes the run. -/
def cancelLocked (request : CancelRunRequest) (row : RunRow) : Program RunCommandResult := do
  let moved ← Tx.lift ((request.record row.run).transition .cancelling .none request.now)
  let run := { moved with version := moved.version + 1 }
  let updated ← exec (updateRun request.tenantID request.runID (·.run.version == row.run.version)
    (cancelledRow request run))
  Tx.check updated.isSome .versionConflict
  let event ← Tx.lift (newAgentRunCancelRequested run request.commandID request.eventID)
  exec (insertEvent event)
  return ⟨run, false⟩

def cancel (request : CancelRunRequest) : Program RunCommandResult := do
  Tx.check request.valid (.validation "cancellation command is invalid")
  let (row, last) ← lockedCommandRun request.tenantID request.runID
  match receiptOf .cancel request.commandID last with
  | some response => do
    let run ← Tx.lift (applyCommandResponse row.run response)
    return ⟨run, true⟩
  | none =>
    if row.run.status.isCancel then return ⟨row.run, true⟩
    else if row.run.status.isTerminal then .fail .runTerminal
    else cancelLocked request row

/-- The columns that Retry sets. -/
def retriedRow (request : RetryRunRequest) (run : AgentRun) (row : RunRow) : RunRow :=
  { row with
    run := { row.run with
      status := .queued
      failureCategory := .none
      attemptCount := run.attemptCount
      version := row.run.version + 1
      updatedAt := pgTime run.updatedAt
      completedAt := none }
    lease := none
    nextEligibleAt := none
    lastCommand := some ⟨.retry, request.commandID, marshalIdempotencyResponse run⟩ }

/-- The part of Retry that changes the run. -/
def retryLocked (request : RetryRunRequest) (row : RunRow) : Program RunCommandResult := do
  let moved ← Tx.lift (row.run.transition .queued .none request.now)
  let run := { moved with version := moved.version + 1 }
  let attempt ← Tx.lift (newAgentRunAttempt request.attemptID run.tenantID run.id run.attemptCount request.now)
  let updated ← exec (updateRun request.tenantID request.runID (·.run.version == row.run.version)
    (retriedRow request run))
  Tx.check updated.isSome .versionConflict
  exec (insertAttempt attempt.inserted)
  let event ← Tx.lift (newAgentRunRetryRequested run row.run.status row.run.failureCategory request.actor
    request.commandID request.eventID)
  exec (insertEvent event)
  return ⟨run, false⟩

def retry (request : RetryRunRequest) : Program RunCommandResult := do
  Tx.check request.valid (.validation "retry command is invalid")
  let (row, last) ← lockedCommandRun request.tenantID request.runID
  match receiptOf .retry request.commandID last with
  | some response => do
    let run ← Tx.lift (applyCommandResponse row.run response)
    return ⟨run, true⟩
  | none => if !row.run.canRetry then .fail .retryNotAllowed else retryLocked request row

end AgentForge.Platform
