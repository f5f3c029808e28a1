import AgentForge.Operator.Api
import AgentForge.Operator.Builder

/-!
# Status updates of the controller

Every change of a condition reads the clock, so the functions that set conditions are programs. The
controller passes the run along; here each function returns the run it has changed.
-/

set_option autoImplicit false

namespace AgentForge.Operator

open Lib

/-- The programs of the controller. -/
abbrev Ctl := Prog Op Op.Res

/-- One call to the API server. -/
def call (op : Op) : Ctl op.Res := Prog.perform op

/-- `r.now()`. -/
def now : Ctl Time := call .now

/-- A recorded time, or the current one if none is recorded. -/
def orNow (time : Time) : Ctl Time := if time.isZero then now else pure time

inductive ErrorClass
  | transient
  | permanent
  deriving DecidableEq

structure ReconcileError where
  errorClass : ErrorClass
  reason : String
  deriving DecidableEq

/-- Errors that may succeed when retried are transient, refused requests are permanent. -/
def ApiError.errorClass : ApiError → ErrorClass
  | invalid | badRequest | forbidden | unauthorized | methodNotSupported => .permanent
  | _ => .transient

def classifyAPIError (reason : String) (e : ApiError) : ReconcileError := ⟨e.errorClass, reason⟩

/-- The run with another status. -/
def AgentRun.withStatus (run : AgentRun) (status : AgentRunStatus) : AgentRun := { run with status }

def setCondition (run : AgentRun) (type : ConditionType) (status : ConditionStatus) (reason message : String) :
    Ctl AgentRun := do
  let time ← now
  return run.withStatus { run.status with
    conditions := setStatusCondition run.status.conditions
      { type, status, observedGeneration := run.metadata.generation, lastTransitionTime := time, reason, message } }

/-- Several conditions in turn. -/
def setConditions (run : AgentRun) : List (ConditionType × ConditionStatus × String × String) → Ctl AgentRun
  | [] => return run
  | (type, status, reason, message) :: rest => do
    let run ← setCondition run type status reason message
    setConditions run rest

/-- `slices.SortFunc` of the attempts by number. -/
def sortAttempts (attempts : List AttemptStatus) : List AttemptStatus :=
  attempts.insertionSort fun left right => left.attempt ≤ right.attempt

/-- Replace the first entry of this attempt, or append it. -/
def replaceAttempt (current : AttemptStatus) : List AttemptStatus → List AttemptStatus
  | [] => [current]
  | entry :: rest => if entry.attempt = current.attempt then current :: rest else entry :: replaceAttempt current rest

/-- Record the top-level status under the current attempt. -/
def upsertAttemptStatus (run : AgentRun) : AgentRun :=
  let status := run.status
  let current : AttemptStatus :=
    { attempt := currentAttempt run, jobName := status.jobName, podName := status.podName, phase := status.phase
      startTime := status.startTime, completionTime := status.completionTime
      failureCategory := status.failureCategory, failureReason := status.failureReason
      artifactManifestRef := status.artifactManifestRef }
  run.withStatus { status with attempts := sortAttempts (replaceAttempt current status.attempts) }

def currentAttemptTerminal (run : AgentRun) : Bool :=
  run.status.attempt == currentAttempt run && run.status.terminal

/-! ## Initialisation -/

/-- The fields both initialisations fill in while they are empty. -/
def initializeIdentity (run : AgentRun) : AgentRun :=
  run.withStatus { run.status with
    phase := run.status.phase.or (some .pending)
    attempt := if run.status.attempt = 0 then run.spec.attempt else run.status.attempt
    ns := if run.status.ns = "" then run.metadata.ns else run.status.ns
    observedGeneration := run.metadata.generation }

def initializeCancellationStatus (run : AgentRun) : Ctl AgentRun :=
  setCondition (initializeIdentity run) .specValid .true "Accepted" "AgentRun desired state is valid"

/-- Give every prerequisite condition that is missing its initial value. -/
def initializeMissing (run : AgentRun) : List ConditionType → Ctl AgentRun
  | [] => return run
  | type :: rest => do
    if (findStatusCondition run.status.conditions type).isNone then
      let run ← setCondition run type .false "ReconciliationPending" "Prerequisite has not been reconciled"
      initializeMissing run rest
    else initializeMissing run rest

def initializeAcceptedStatus (run : AgentRun) : Ctl AgentRun := do
  let run := initializeIdentity run
  let run := run.withStatus { run.status with failureCategory := none, failureReason := "" }
  let run ← setConditions run
    [(.specValid, .true, "Accepted", "AgentRun desired state is valid"),
      (.ready, .false, "ReconciliationPending", "Execution resources have not been reconciled")]
  initializeMissing run [.serviceAccountReady, .configurationReady, .workspaceReady, .networkPolicyReady, .jobReady]

def initializeInvalidStatus (run : AgentRun) : Ctl AgentRun :=
  setConditions
    (run.withStatus { run.status with
      phase := some .failed, observedGeneration := run.metadata.generation, attempt := run.spec.attempt
      ns := run.metadata.ns, failureCategory := some .validation
      failureReason := "AgentRun desired state failed controller validation" })
    [(.specValid, .false, "InvalidSpec", "AgentRun desired state is invalid"),
      (.ready, .false, "InvalidSpec", "Execution resources will not be reconciled")]

def initializeDeletingStatus (run : AgentRun) : Ctl AgentRun := do
  let run ← setCondition
    (run.withStatus { run.status with observedGeneration := run.metadata.generation })
    .ready .false "Deleting" "AgentRun deletion is in progress"
  if (findStatusCondition run.status.conditions .cleanupPending).isNone then
    setCondition run .cleanupPending .true "CleanupStarted" "Retained workspace handoff is in progress"
  else return run

/-! ## Projection of observations -/

def projectLifecycle (run : AgentRun) (observation : LifecycleObservation) : Ctl AgentRun := do
  let run ← setCondition
    (run.withStatus { run.status with
      phase := some observation.phase, podName := observation.podName, startTime := observation.startTime
      completionTime := observation.completionTime, failureCategory := observation.failureCategory
      failureReason := observation.failureReason, artifactManifestRef := observation.artifactManifestRef })
    .ready (if observation.phase = .succeeded then .true else .false) observation.reason observation.message
  return upsertAttemptStatus run

/-- A Job that the status names is gone. -/
def missingJobObservation (run : AgentRun) : LifecycleObservation where
  phase := .failed
  reason := "JobMissing"
  message := "Previously observed execution Job is missing"
  podName := run.status.podName
  startTime := run.status.startTime
  completionTime := run.status.completionTime
  failureCategory := some .internal
  failureReason := "Previously observed execution Job was deleted"

def recordMissingJob (run : AgentRun) (jobName : String) : Ctl AgentRun :=
  let run := run.withStatus { run.status with jobName }
  projectLifecycle run (missingJobObservation run)

def recordPrerequisiteReady (run : AgentRun) (type : ConditionType) (reason message : String) : Ctl AgentRun :=
  setCondition run type .true reason message

def recordPrerequisiteFailure (run : AgentRun) (type : ConditionType) (e : ReconcileError)
    (category : FailureCategory) : Ctl AgentRun :=
  let failureReason := type.text ++ " could not be reconciled"
  setConditions
    (run.withStatus { run.status with
      phase := some (if e.errorClass = .permanent then .failed else .provisioning)
      failureCategory := some category, failureReason })
    [(type, .false, e.reason, failureReason),
      (.ready, .false, e.reason, "Execution prerequisites are not ready")]

/-! ## Retry -/

def retryAllowed (run : AgentRun) : Bool :=
  run.status.phase == some .failed && run.status.attempt == currentAttempt run &&
    run.status.attempt < run.spec.retryPolicy.maxAttempts &&
    match run.status.failureCategory with
    | some .transientDependency =>
      run.spec.retryPolicy.retryableFailureCategories.items.contains .transientDependency
    | some .internal => run.spec.retryPolicy.retryableFailureCategories.items.contains .internal
    | _ => false

/-- The completion time, or the time at which `RetryReady` became false. Zero if there is neither. -/
def retryAnchor (run : AgentRun) : Time :=
  match run.status.completionTime with
  | some time => if time.isZero then pendingSince else time
  | none => pendingSince
where
  pendingSince : Time :=
    match run.status.conditions.find? fun c => c.type == .retryReady && c.status == .false with
    | some condition => condition.lastTransitionTime
    | none => 0

/-- Doubling, cut off at the maximum. -/
def doubled (maximum : Duration) : Nat → Duration → Duration
  | 0, base => base
  | exponent + 1, base =>
    if base < maximum then (if base > maximum / 2 then maximum else doubled maximum exponent (base * 2)) else base

def retryDelay (ext : Externals) (run : AgentRun) (currentAttempt nextAttempt : Int) : Duration :=
  let maximum := run.spec.retryPolicy.maxBackoffSeconds * second
  let base := doubled maximum (currentAttempt - run.spec.attempt).toNat
    (run.spec.retryPolicy.initialBackoffSeconds * second)
  let hash := (ext.sha256 (run.spec.runID ++ ":" ++ toString nextAttempt)).extractLsb' 192 64
  let permille : Int := 500 + (hash.toNat % 501 : Nat)
  min base maximum * permille / 1000

/-- The delay after which the controller wants to be called again; zero asks for none. -/
structure Result where
  requeueAfter : Duration := 0
  deriving DecidableEq

/-- `time.Millisecond`. -/
def millisecond : Duration := 1000000

/-- The status of the next attempt before anything of it exists. -/
def advanceAttempt (run : AgentRun) : AgentRun :=
  run.withStatus { run.status with
    attempt := currentAttempt run + 1, phase := some .pending, jobName := "", podName := "", startTime := none
    completionTime := none, heartbeatTime := none, failureCategory := none, failureReason := ""
    artifactManifestRef := "", observedGeneration := run.metadata.generation }

def reconcileRetry (ext : Externals) (run : AgentRun) : Ctl (AgentRun × Result) := do
  let current := currentAttempt run
  let next := current + 1
  let anchor ← orNow (retryAnchor run)
  let readyAt := anchor + retryDelay ext run current next
  let time ← now
  if readyAt - time > 0 then
    let run ← setConditions run
      [(.retryReady, .false, "BackoffPending",
          "Retry attempt " ++ toString next ++ " is waiting for bounded backoff"),
        (.ready, .false, "RetryBackoff", "Execution retry is waiting for bounded backoff")]
    return (run, ⟨readyAt - time⟩)
  else
    let run ← setConditions (advanceAttempt run)
      [(.retryReady, .true, "RetryStarted",
          "Retry attempt " ++ toString next ++ " is ready for reconciliation"),
        (.jobReady, .false, "RetryPending", "A new deterministic execution Job has not been created"),
        (.ready, .false, "RetryPending", "Execution retry resources have not been reconciled")]
    return (upsertAttemptStatus run, ⟨millisecond⟩)

/-- Write the status under the resource version of `before`, unless nothing changed. The answer is
whether it wrote, and the run as the server returned it. -/
def patchStatusIfChanged (before after : AgentRun) : Ctl (Except ApiError (Bool × AgentRun)) := do
  if before.status = after.status then return .ok (false, after)
  else
    match ← call (.patchRunStatus before.metadata.resourceVersion after.status) with
    | .ok stored => return .ok (true, stored)
    | .error e => return .error e

end AgentForge.Operator
