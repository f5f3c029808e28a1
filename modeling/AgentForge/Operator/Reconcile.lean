import AgentForge.Operator.Matching
import AgentForge.Operator.Status

/-!
# The reconcile loop

The program of one reconcile, in the order of its API calls: cleanup of a deleted run, validation,
the terminal branch with its retry, cancellation, and the prerequisites up to the Job. Go functions
that return early with an updated run return the run together with the result and the error.
-/

set_option autoImplicit false

namespace AgentForge.Operator

open Lib

/-- The reconciler's own configuration; the clock and the client are the API server. -/
structure Reconciler where
  ext : Externals
  resourceBuilder : Option Builder

/-- An updated run with the result and error of the function that updated it. -/
structure Outcome where
  run : AgentRun
  result : Result := {}
  error : Option ReconcileError := none

def prerequisiteRequeue : Duration := 5 * second

def cancellationRequeue : Duration := 5 * second

def cancellationDeadline : Duration := 120 * second

def cleanupRequeue : Duration := 15 * second

def cleanupDeadline : Duration := 600 * second

def retainedResourcesFinalizer : String := "execution.agentforge.dev/retained-resources"

def retentionStateAnnotationKey : String := "execution.agentforge.dev/retention-state"

/-- The retry of a named child failed: another owner holds it, or the API reported an error. -/
inductive PrerequisiteError
  | resourceConflict (kind : Kind) (name : String)
  | api (e : ApiError)

/-- Ensure one child: read it, check its owner, and apply it when it is absent or differs. -/
def ensureObject (r : Reconciler) (run : AgentRun) (kind : Kind) (desired : kind.Object) :
    Ctl (Except PrerequisiteError Unit) := do
  let metadata := kind.metadata desired
  match ← call (.get kind metadata.name) with
  | .ok existing =>
    match validateExistingOwnership run metadata (kind.metadata existing) with
    | .error _ => return .error (.resourceConflict kind metadata.name)
    | .ok () => if managedObjectMatches r.ext kind desired existing then return .ok () else apply metadata
  | .error .notFound => apply metadata
  | .error e => return .error (.api e)
where
  apply (metadata : ObjectMeta) : Ctl (Except PrerequisiteError Unit) := do
    match ← call (.apply kind desired) with
    | .ok () => return .ok ()
    | .error .conflict => return .error (.resourceConflict kind metadata.name)
    | .error e => return .error (.api e)

/-- The error class and failure category of a failed prerequisite. -/
def PrerequisiteError.classify (reason : String) : PrerequisiteError → ReconcileError × FailureCategory
  | resourceConflict _ _ => (⟨.permanent, reason⟩, .conflict)
  | api e => (classifyAPIError reason e, if e.errorClass = .permanent then .policy else .transientDependency)

def handlePrerequisiteError (run : AgentRun) (type : ConditionType) (reason : String) (e : PrerequisiteError) :
    Ctl Outcome := do
  let (reconcileError, category) := e.classify reason
  let run ← recordPrerequisiteFailure run type reconcileError category
  return { run, error := some reconcileError }

/-! ## The Job -/

/-- Project what the Job and its Pods show. -/
def observeJob (r : Reconciler) (run : AgentRun) (job : Job) : Ctl Outcome := do
  match ← call (.listPods job.metadata.name) with
  | .error e => handlePrerequisiteError run .jobReady "PodListFailed" (.api e)
  | .ok pods =>
    let observation := observeLifecycle r.ext job pods
    let run ← projectLifecycle run observation
    if observation.phase = .provisioning || observation.phase = .running then
      return { run, result := ⟨prerequisiteRequeue⟩ }
    else return { run }

/-- Create or confirm the Job, remember its name, and observe it. -/
def ensureJob (r : Reconciler) (run : AgentRun) (desired : Job) : Ctl Outcome := do
  match ← ensureObject r run .job desired with
  | .error e => handlePrerequisiteError run .jobReady "JobReconcileFailed" e
  | .ok () =>
    let run := run.withStatus { run.status with jobName := desired.metadata.name }
    let run ← recordPrerequisiteReady run .jobReady "JobReady" "Execution Job is created"
    match ← call (.get .job desired.metadata.name) with
    | .error e => handlePrerequisiteError run .jobReady "JobReadFailed" (.api e)
    | .ok job => observeJob r run job

/-- A Job that the status already names must still exist; it is not created again. -/
def reconcileJob (r : Reconciler) (run : AgentRun) (desired : Job) : Ctl Outcome := do
  if run.status.jobName = "" then ensureJob r run desired
  else if run.status.jobName ≠ desired.metadata.name then
    let e : ReconcileError := ⟨.permanent, "JobIdentityConflict"⟩
    let run ← recordPrerequisiteFailure run .jobReady e .internal
    return { run, error := some e }
  else
    match ← call (.get .job desired.metadata.name) with
    | .error .notFound => return { run := ← recordMissingJob run desired.metadata.name }
    | .error e => handlePrerequisiteError run .jobReady "JobReadFailed" (.api e)
    | .ok existing =>
      if existing.metadata.deleting then return { run := ← recordMissingJob run desired.metadata.name }
      else ensureJob r run desired

/-! ## The other prerequisites -/

def reconcileNetworkPolicy (r : Reconciler) (run : AgentRun) (desired : ExecutionResources) : Ctl Outcome := do
  match ← ensureObject r run .networkPolicy desired.networkPolicy with
  | .error e => handlePrerequisiteError run .networkPolicyReady "NetworkPolicyReconcileFailed" e
  | .ok () =>
    let run ← recordPrerequisiteReady run .networkPolicyReady "NetworkPolicyReady" "Workload network policy is ready"
    reconcileJob r run desired.job

/-- The storage class of the claim binds its volume only when a Pod uses it. -/
def workspaceWaitsForFirstConsumer (workspace : PersistentVolumeClaim) : Ctl (Except ApiError Bool) := do
  match workspace.spec.storageClassName with
  | none => return .ok false
  | some name =>
    if name = "" then return .ok false
    else
      match ← call (.getStorageClass name) with
      | .ok storageClass => return .ok (storageClass.volumeBindingMode == some .waitForFirstConsumer)
      | .error .notFound => return .ok false
      | .error e => return .error e

/-- The workspace claim must be bound, or be waiting for its first consumer. -/
def awaitWorkspace (r : Reconciler) (run : AgentRun) (desired : ExecutionResources)
    (workspace : PersistentVolumeClaim) : Ctl Outcome := do
  if workspace.phase = some .bound then
    let run ← recordPrerequisiteReady run .workspaceReady "WorkspaceReady" "Workspace storage is bound"
    reconcileNetworkPolicy r run desired
  else
    let run := run.withStatus { run.status with phase := some .provisioning }
    match ← workspaceWaitsForFirstConsumer workspace with
    | .error e => handlePrerequisiteError run .workspaceReady "StorageClassReadFailed" (.api e)
    | .ok false =>
      let run ← setConditions run
        [(.workspaceReady, .false, "StoragePending", "Workspace storage is not bound"),
          (.networkPolicyReady, .false, "WorkspacePending", "Network policy waits for workspace storage"),
          (.jobReady, .false, "WorkspacePending", "Execution Job waits for workspace storage"),
          (.ready, .false, "StoragePending", "Execution is waiting for workspace storage")]
      return { run, result := ⟨prerequisiteRequeue⟩ }
    | .ok true =>
      let run ← setCondition run .workspaceReady .false "FirstConsumerPending"
        "Workspace binding requires an execution Pod consumer"
      reconcileNetworkPolicy r run desired

def reconcileWorkspace (r : Reconciler) (run : AgentRun) (desired : ExecutionResources) : Ctl Outcome := do
  match ← ensureObject r run .persistentVolumeClaim desired.workspace with
  | .error e => handlePrerequisiteError run .workspaceReady "WorkspaceReconcileFailed" e
  | .ok () =>
    match ← call (.get .persistentVolumeClaim desired.workspace.metadata.name) with
    | .error e => handlePrerequisiteError run .workspaceReady "WorkspaceReadFailed" (.api e)
    | .ok workspace => awaitWorkspace r run desired workspace

/-- A reference of the run to an object in its namespace. -/
inductive Reference
  | configMap (name : String)
  | secret (name : String)

/-- Only the existence of the object is read. -/
def Reference.read : Reference → Ctl (Except ApiError Unit)
  | .configMap name => do
    match ← call (.get .configMap name) with
    | .ok _ => return .ok ()
    | .error e => return .error e
  | .secret name => call (.getSecret name)

def Reference.text : Reference → String
  | .configMap name => "ConfigMap \"" ++ name ++ "\""
  | .secret name => "Secret \"" ++ name ++ "\""

/-- `slices.Sort` followed by `slices.Compact`. -/
def sortedNames (names : List String) : List String :=
  (names.insertionSort (· ≤ ·)).dedup

/-- The references in the order they are read. -/
def configurationReferences (spec : AgentRunSpec) : List Reference :=
  (sortedNames (spec.artifactDestinationRef.name :: spec.configurationRefs.items.map (·.name))).map .configMap ++
    (sortedNames (spec.secretRefs.items.map (·.name))).map .secret

/-- Whether every referenced object exists; the first missing one is recorded in the conditions. -/
def configurationReferencesReady (run : AgentRun) : List Reference → Ctl (Except ApiError (Bool × AgentRun))
  | [] => return .ok (true, run)
  | reference :: rest => do
    match ← reference.read with
    | .ok () => configurationReferencesReady run rest
    | .error .notFound =>
      let run ← setConditions run
        [(.configurationReady, .false, "ReferenceNotFound", "Required " ++ reference.text ++ " is not available"),
          (.workspaceReady, .false, "ConfigurationPending", "Workspace waits for execution configuration"),
          (.networkPolicyReady, .false, "ConfigurationPending", "Network policy waits for execution configuration"),
          (.jobReady, .false, "ConfigurationPending", "Execution Job waits for execution configuration"),
          (.ready, .false, "ConfigurationPending", "Execution configuration references are not ready")]
      return .ok (false, run)
    | .error e => return .error e

def reconcileConfiguration (r : Reconciler) (run : AgentRun) (desired : ExecutionResources) : Ctl Outcome := do
  match ← configurationReferencesReady run (configurationReferences run.spec) with
  | .error e => handlePrerequisiteError run .configurationReady "ConfigurationReadFailed" (.api e)
  | .ok (false, run) =>
    return { run := run.withStatus { run.status with phase := some .provisioning }, result := ⟨prerequisiteRequeue⟩ }
  | .ok (true, run) =>
    match ← ensureObject r run .configMap desired.configuration with
    | .error e => handlePrerequisiteError run .configurationReady "ConfigurationReconcileFailed" e
    | .ok () =>
      let run ← recordPrerequisiteReady run .configurationReady "ConfigurationReady"
        "Execution configuration references are ready"
      reconcileWorkspace r run desired

/-- A failure before the first API call. -/
def failPrerequisites (run : AgentRun) (reason : String) (category : FailureCategory) : Ctl Outcome := do
  let e : ReconcileError := ⟨.permanent, reason⟩
  let run ← recordPrerequisiteFailure run .configurationReady e category
  return { run, error := some e }

def reconcilePrerequisites (r : Reconciler) (run : AgentRun) : Ctl Outcome := do
  match r.resourceBuilder with
  | none => failPrerequisites run "ResourceBuilderMissing" .internal
  | some builder =>
    match builder.buildAll r.ext run with
    | .error _ => failPrerequisites run "ResourceBuildFailed" .policy
    | .ok desired =>
      match ← ensureObject r run .serviceAccount desired.serviceAccount with
      | .error e => handlePrerequisiteError run .serviceAccountReady "ServiceAccountReconcileFailed" e
      | .ok () =>
        let run ← recordPrerequisiteReady run .serviceAccountReady "ServiceAccountReady"
          "Workload ServiceAccount is ready"
        reconcileConfiguration r run desired

/-! ## Cancellation -/

/-- When graceful termination started: the transition of `CancellationComplete` to false. -/
def cancellationStartedAt (run : AgentRun) : Time :=
  match run.status.conditions.find? fun c => c.type == .cancellationComplete && c.status == .false with
  | some condition => condition.lastTransitionTime
  | none => 0

def cancellationWasForced (run : AgentRun) (time : Time) : Bool :=
  match findStatusCondition run.status.conditions .cancellationComplete with
  | some condition =>
    condition.reason == "ForcedTerminationPending" || condition.reason == "ForcedCancellation" ||
      (condition.status == .false && time ≥ condition.lastTransitionTime + cancellationDeadline)
  | none => false

def projectCancelling (run : AgentRun) (forced : Bool) : Ctl AgentRun := do
  let reason := if forced then "ForcedTerminationPending" else "GracefulTerminationPending"
  let message :=
    if forced then "Execution Job exceeded the cancellation deadline and is being forcibly terminated"
    else "Execution Job is terminating within the cancellation deadline"
  let run ← setConditions (run.withStatus { run.status with phase := some .cancelling })
    [(.cancellationComplete, .false, reason, message),
      (.jobReady, .false, "CancellationInProgress", "Execution Job is being terminated"),
      (.ready, .false, "CancellationInProgress", "Cancellation is not yet complete")]
  return upsertAttemptStatus run

/-- The completion time of the status, or the current time. -/
def completionTimeOrNow (run : AgentRun) : Ctl Time :=
  match run.status.completionTime with
  | some time => pure time
  | none => now

def completeCancellation (run : AgentRun) (forced : Bool) : Ctl AgentRun := do
  let completion ← completionTimeOrNow run
  let reason := if forced then "ForcedCancellation" else "GracefulCancellation"
  let message :=
    if forced then "Execution cancellation completed after forced termination"
    else "Execution cancellation completed gracefully"
  let run ← setConditions
    (run.withStatus { run.status with phase := some .cancelled, completionTime := some completion })
    [(.cancellationComplete, .true, reason, message),
      (.jobReady, .false, "ExecutionCancelled", "Execution Job is absent after cancellation"),
      (.ready, .false, "ExecutionCancelled", "Execution was cancelled")]
  return upsertAttemptStatus run

def recordCancellationError (run : AgentRun) (reason : String) (e : ReconcileError) : Ctl Outcome := do
  let category : FailureCategory :=
    if reason = "CancellationJobConflict" || reason = "CancellationIdentityInvalid" then .internal
    else if e.errorClass = .permanent then .policy
    else .transientDependency
  let message := "Cancellation reconciliation could not make progress"
  let run ← setConditions
    (run.withStatus { run.status with
      phase := some .cancelling, failureCategory := some category, failureReason := message })
    [(.cancellationComplete, .false, reason, message), (.ready, .false, reason, message)]
  return { run := upsertAttemptStatus run, error := some e }

/-- Delete without grace the Pods that this Job controls; an absent one is fine. -/
def deletePods (job : Job) : List Pod → Ctl (Except ApiError Unit)
  | [] => return .ok ()
  | pod :: rest =>
    if ownedByJob job pod then do
      match ← call (.deletePod pod.metadata.name) with
      | .ok () => deletePods job rest
      | .error .notFound => deletePods job rest
      | .error e => return .error e
    else deletePods job rest

/-- Delete the Job in the foreground; an absent one is fine. -/
def deleteJob (job : Job) (zeroGrace : Bool) : Ctl (Except ApiError Unit) := do
  match ← call (.deleteJob job.metadata.name zeroGrace) with
  | .ok () => return .ok ()
  | .error .notFound => return .ok ()
  | .error e => return .error e

def forceDeleteExecution (job : Job) : Ctl (Except ApiError Unit) := do
  match ← call (.listPods job.metadata.name) with
  | .error e => return .error e
  | .ok pods =>
    match ← deletePods job pods with
    | .error e => return .error e
    | .ok () => deleteJob job true

/-- Terminate a Job that has not ended by itself, gracefully until the deadline. -/
def terminateJob (run : AgentRun) (job : Job) : Ctl Outcome := do
  let started ← orNow (cancellationStartedAt run)
  let time ← now
  let forced : Bool := time ≥ started + cancellationDeadline
  let run ← projectCancelling run forced
  if forced then
    match ← forceDeleteExecution job with
    | .error e => recordCancellationError run "ForcedCancellationFailed" (classifyAPIError "ForcedCancellationFailed" e)
    | .ok () => return { run, result := ⟨cancellationRequeue⟩ }
  else if job.metadata.deleting then return { run, result := ⟨cancellationRequeue⟩ }
  else
    match ← deleteJob job false with
    | .error e =>
      recordCancellationError run "GracefulCancellationFailed" (classifyAPIError "GracefulCancellationFailed" e)
    | .ok () => return { run, result := ⟨cancellationRequeue⟩ }

/-- A Job that has ended by itself keeps its own result; any other one is terminated. -/
def cancelJob (r : Reconciler) (run : AgentRun) (job : Job) : Ctl Outcome := do
  if job.metadata.deleting then terminateJob run job
  else
    match ← call (.listPods job.metadata.name) with
    | .error e =>
      recordCancellationError run "CancellationPodReadFailed" (classifyAPIError "CancellationPodReadFailed" e)
    | .ok pods =>
      let observation := observeLifecycle r.ext job pods
      if observation.phase = .succeeded || observation.phase = .failed then
        return { run := ← projectLifecycle run observation }
      else terminateJob run job

def reconcileCancellation (r : Reconciler) (run : AgentRun) : Ctl Outcome := do
  if run.status.jobName = "" then return { run := ← completeCancellation run false }
  else
    match forAgentRun run with
    | .error _ =>
      recordCancellationError run "CancellationIdentityInvalid" ⟨.permanent, "CancellationIdentityInvalid"⟩
    | .ok names =>
      if run.status.jobName ≠ names.job then
        recordCancellationError run "CancellationJobConflict" ⟨.permanent, "CancellationJobConflict"⟩
      else
        match ← call (.get .job run.status.jobName) with
        | .error .notFound =>
          let time ← now
          return { run := ← completeCancellation run (cancellationWasForced run time) }
        | .error e =>
          recordCancellationError run "CancellationJobReadFailed" (classifyAPIError "CancellationJobReadFailed" e)
        | .ok job => cancelJob r run job

/-! ## Cleanup of a deleted run -/

/-- When cleanup started: the deletion of the run, or else the pending condition. -/
def cleanupStartedAt (run : AgentRun) : Time :=
  match run.metadata.deletionTimestamp with
  | some time => time
  | none =>
    match run.status.conditions.find? fun c => c.type == .cleanupPending && c.status == .true with
    | some condition => condition.lastTransitionTime
    | none => 0

def workspaceNameForAttempt (run : AgentRun) (attempt : Int) : Except String String :=
  (forAgentRun (run.withStatus { run.status with attempt })).map (·.workspace)

def validateRetainedWorkspace (run : AgentRun) (workspace : PersistentVolumeClaim) : Except String Unit :=
  if workspace.metadata.controllerOf.isSome then .error "retained workspace unexpectedly has a controller owner"
  else if workspace.metadata.annotations.at ownerUIDAnnotationKey != run.metadata.uid then
    .error "retained workspace owner identity does not match"
  else if workspace.metadata.annotations.at retentionAnnotationKey != "Retain" then
    .error "retained workspace policy marker does not match"
  else .ok ()

/-- The result of the cleanup: whether it is complete, and the error that keeps it from progress. -/
structure Cleanup where
  run : AgentRun
  complete : Bool
  error : Option ReconcileError := none

def completeCleanup (run : AgentRun) (reason message : String) : Ctl AgentRun :=
  setCondition run .cleanupPending .false reason message

/-- The clock is read only when a start is recorded. -/
def cleanupDeadlineElapsed (run : AgentRun) : Ctl Bool :=
  if (cleanupStartedAt run).isZero then pure false
  else do
    let time ← now
    return time ≥ cleanupStartedAt run + cleanupDeadline

/-- After the deadline the finalizer is released for review instead of blocking the namespace. -/
def handleCleanupFailure (run : AgentRun) (reason : String) (e : ReconcileError) : Ctl Cleanup := do
  if ← cleanupDeadlineElapsed run then
    let run ← completeCleanup run "CleanupEscalated"
      "Cleanup deadline elapsed; finalizer release requires retained-resource operator review"
    return { run, complete := true }
  else
    let run ← setCondition run .cleanupPending .true reason "Retained workspace handoff could not make progress"
    return { run, complete := false, error := some e }

/-- Release the retained workspace of each attempt. -/
def releaseWorkspaces (run : AgentRun) : List Int → Ctl Cleanup
  | [] => do
    let run ← completeCleanup run "CleanupComplete" "Retained workspace handoff is complete"
    return { run, complete := true }
  | attempt :: rest => do
    match workspaceNameForAttempt run attempt with
    | .error _ => handleCleanupFailure run "CleanupIdentityInvalid" ⟨.permanent, "CleanupIdentityInvalid"⟩
    | .ok name =>
      match ← call (.get .persistentVolumeClaim name) with
      | .error .notFound => releaseWorkspaces run rest
      | .error e =>
        handleCleanupFailure run "RetainedWorkspaceReadFailed" (classifyAPIError "RetainedWorkspaceReadFailed" e)
      | .ok workspace =>
        match validateRetainedWorkspace run workspace with
        | .error _ => handleCleanupFailure run "RetainedWorkspaceConflict" ⟨.permanent, "RetainedWorkspaceConflict"⟩
        | .ok () =>
          let annotations := workspace.metadata.annotations
          if annotations.at retentionStateAnnotationKey = "Released" then releaseWorkspaces run rest
          else
            match ← call (.patchWorkspace workspace.metadata.resourceVersion name
                (mergeMap annotations [(retentionStateAnnotationKey, "Released")])) with
            | .error e =>
              handleCleanupFailure run "RetentionHandoffFailed" (classifyAPIError "RetentionHandoffFailed" e)
            | .ok () => releaseWorkspaces run rest

/-- The attempts from the scheduled one to the current one. -/
def observedAttempts (run : AgentRun) : List Int :=
  (List.range (currentAttempt run - run.spec.attempt + 1).toNat).map fun offset => run.spec.attempt + offset

def reconcileCleanup (run : AgentRun) : Ctl Cleanup := do
  let run ← initializeDeletingStatus run
  if run.spec.workspace.retentionPolicy ≠ .retain then
    let run ← completeCleanup run "CleanupNotRequired" "No explicitly retained resource requires cleanup"
    return { run, complete := true }
  else releaseWorkspaces run (observedAttempts run)

/-! ## Reconcile -/

/-- What a reconcile returns to its queue. -/
structure ReconcileResult where
  result : Result := {}
  error : Option ReconcileError := none

/-- The deletion branch. -/
def reconcileDeletion (run : AgentRun) : Ctl ReconcileResult := do
  if !run.metadata.finalizers.contains retainedResourcesFinalizer then return {}
  else
    let cleanup ← reconcileCleanup run
    match ← patchStatusIfChanged run cleanup.run with
    | .error _ => return { result := ⟨cleanupRequeue⟩ }
    | .ok (_, run) =>
      if cleanup.error.isSome || !cleanup.complete then return { result := ⟨cleanupRequeue⟩ }
      else
        let finalizers := run.metadata.finalizers.filter (· != retainedResourcesFinalizer)
        match ← call (.patchRunFinalizers run.metadata.resourceVersion finalizers) with
        | .ok _ => return {}
        | .error _ =>
          let before := { run with metadata := { run.metadata with finalizers } }
          let after ← setCondition before .cleanupPending .true "FinalizerRemovalFailed"
            "Cleanup completed but finalizer removal could not make progress"
          let _ ← patchStatusIfChanged before after
          return { result := ⟨cleanupRequeue⟩ }

/-- Write the status of a branch and return what the branch returned. -/
def finish (before : AgentRun) (reason : String) (outcome : Outcome) : Ctl ReconcileResult := do
  match ← patchStatusIfChanged before outcome.run with
  | .error e => return { error := some (classifyAPIError reason e) }
  | .ok _ => return { result := outcome.result, error := outcome.error }

/-- A finished attempt is retried when that is allowed; otherwise only the generation is noted. -/
def reconcileTerminal (r : Reconciler) (before : AgentRun) : Ctl ReconcileResult := do
  if before.spec.desiredState = .running && retryAllowed before then
    let (run, result) ← reconcileRetry r.ext before
    finish before "RetryStatusWriteFailed" { run, result }
  else
    let generation := before.metadata.generation
    let run ← setCondition
      (before.withStatus { before.status with
        observedGeneration := generation
        conditions := before.status.conditions.map fun c => { c with observedGeneration := generation } })
      .specValid .true "Accepted" "AgentRun desired state is valid"
    finish before "TerminalStatusWriteFailed" { run }

/-- The branches of a valid run that is not being deleted. -/
def reconcileValid (r : Reconciler) (before : AgentRun) : Ctl ReconcileResult := do
  if currentAttemptTerminal before then reconcileTerminal r before
  else if before.spec.desiredState = .cancelled then
    let run ← initializeCancellationStatus before
    finish before "CancellationStatusWriteFailed" (← reconcileCancellation r run)
  else
    let run ← initializeAcceptedStatus before
    let outcome ← reconcilePrerequisites r run
    if outcome.error.isNone && retryAllowed outcome.run then
      let (run, result) ← reconcileRetry r.ext outcome.run
      finish before "StatusWriteFailed" { run, result }
    else finish before "StatusWriteFailed" outcome

/-- One reconcile of the run. -/
def reconcile (r : Reconciler) : Ctl ReconcileResult := do
  match ← call .getRun with
  | .error .notFound => return {}
  | .error e => return { error := some (classifyAPIError "FetchFailed" e) }
  | .ok run =>
    if run.metadata.deleting then reconcileDeletion run
    else
      match validateAgentRun r.ext run with
      | .error _ =>
        let invalid ← initializeInvalidStatus run
        finish run "InvalidSpecStatusWriteFailed" { run := invalid, error := some ⟨.permanent, "InvalidSpec"⟩ }
      | .ok () =>
        if run.spec.workspace.retentionPolicy = .retain &&
            !run.metadata.finalizers.contains retainedResourcesFinalizer then
          match ← call (.patchRunFinalizers run.metadata.resourceVersion
              (run.metadata.finalizers ++ [retainedResourcesFinalizer])) with
          | .error e => return { error := some (classifyAPIError "FinalizerWriteFailed" e) }
          | .ok run => reconcileValid r run
        else reconcileValid r run

/-- The activation that the work queue starts. It never runs two for one AgentRun at a time. -/
def controller (r : Reconciler) : Ctl Unit := do
  let _ ← reconcile r
  return ()

end AgentForge.Operator
