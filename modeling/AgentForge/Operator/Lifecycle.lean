import AgentForge.Operator.Validation

/-!
# Observing the Job and its Pods

`observeLifecycle` reads one Job and the Pods listed for it and decides the phase of the attempt.
It is pure; the controller projects its result into the status.
-/

set_option autoImplicit false

namespace AgentForge.Operator

structure LifecycleObservation where
  phase : AgentRunPhase
  reason : String
  message : String
  podName : String := ""
  startTime : Option Time := none
  completionTime : Option Time := none
  failureCategory : Option FailureCategory := none
  failureReason : String := ""
  artifactManifestRef : String := ""
  deriving DecidableEq

/-! ## Reading Jobs and Pods -/

/-- The first condition of this type that is true. -/
def findJobCondition (job : Job) (type : JobConditionType) : Option JobCondition :=
  job.status.conditions.find? fun condition => condition.type == type && condition.status == .true

def findPodCondition (pod : Pod) (type : String) : Option PodCondition :=
  pod.conditions.find? (·.type == type)

/-- The Job is over: it has a true `Complete` or `Failed` condition and starts no more Pods. -/
def Job.finished (job : Job) : Bool :=
  (findJobCondition job .complete).isSome || (findJobCondition job .failed).isSome

def jobCompletionTime (job : Job) : Option Time :=
  match job.status.completionTime with
  | some time => some time
  | none =>
    match findJobCondition job .failed with
    | some condition => some condition.lastTransitionTime
    | none => (findJobCondition job .failureTarget).map (·.lastTransitionTime)

/-- The first time that is present and not zero. -/
def firstTime (values : List (Option Time)) : Option Time :=
  (values.find? fun value => value.any (!·.isZero)).join

/-- The Pod's controller is this very Job. -/
def ownedByJob (job : Job) (pod : Pod) : Bool :=
  pod.metadata.controllerOf.any fun owner =>
    owner.apiVersion == "batch/v1" && owner.kind == "Job" && owner.name == job.metadata.name &&
      owner.uid == job.metadata.uid

/-- Pods by creation time, then name. -/
def podOrder (left right : Pod) : Bool :=
  left.metadata.creationTimestamp < right.metadata.creationTimestamp ||
    (left.metadata.creationTimestamp == right.metadata.creationTimestamp && left.metadata.name ≤ right.metadata.name)

/-- The newest Pod that this Job controls. -/
def selectLifecyclePod (job : Job) (pods : List Pod) : Option Pod :=
  ((pods.filter (ownedByJob job)).insertionSort fun left right => podOrder left right).getLast?

def runnerContainerStatus (pod : Pod) : Option ContainerStatus :=
  pod.containerStatuses.find? (·.name == "runner")

def runnerTermination (pod : Pod) : Option ContainerStateTerminated :=
  (runnerContainerStatus pod).bind (·.terminated)

/-! ## Result evidence -/

def isSchemeCharacter (c : Char) : Bool :=
  ('a' ≤ c && c ≤ 'z') || ('0' ≤ c && c ≤ '9') || ['+', '.', '-'].contains c

def isSpace (c : Char) : Bool := ['\t', '\n', '\x0c', '\r', ' '].contains c

/-- A scheme of 2 to 32 characters, `://`, and at least one character, none of them a space. -/
def matchesReference (space : Char → Bool) (value : String) : Bool :=
  let characters := value.toList
  let scheme := characters.takeWhile isSchemeCharacter
  match characters.dropWhile isSchemeCharacter with
  | ':' :: '/' :: '/' :: path =>
    (scheme.head?.any fun c => 'a' ≤ c && c ≤ 'z') && 2 ≤ scheme.length && scheme.length ≤ 32 &&
      !path.isEmpty && path.all (!space ·)
  | _ => false

/-- The pattern `^[a-z][a-z0-9+.-]{1,31}://[^\s]+$`. -/
def matchesManifestReference (value : String) : Bool := matchesReference isSpace value

def maximumTerminationEvidenceBytes : Nat := 4096

def parseTerminationEvidence (ext : Externals) (message : String) : Except String TerminationEvidence :=
  if message.utf8ByteSize == 0 || message.utf8ByteSize > maximumTerminationEvidenceBytes then
    .error "termination evidence size is invalid"
  else match ext.decodeEvidence message with
    | .error reason => .error ("decode termination evidence: " ++ reason)
    | .ok (_, false) => .error "termination evidence contains trailing data"
    | .ok (evidence, true) =>
      if evidence.schemaVersion != 1 || evidence.artifactManifestRef.utf8ByteSize > 2048 ||
          !matchesManifestReference evidence.artifactManifestRef then
        .error "termination evidence fields are invalid"
      else .ok evidence

/-! ## Classification -/

def failedObservation (reason message : String) (category : FailureCategory) (pod : Pod) : LifecycleObservation where
  phase := .failed
  reason := reason
  message := message
  failureCategory := some category
  failureReason := message
  startTime := pod.startTime
  completionTime :=
    match runnerTermination pod with
    | some terminated => if terminated.finishedAt.isZero then none else some terminated.finishedAt
    | none => none

/-- The failure a waiting reason of the runner container stands for. -/
def waitingFailure (waiting : String) : Option (String × String × FailureCategory) :=
  if waiting == "ErrImagePull" || waiting == "ImagePullBackOff" then
    some ("ImagePullFailed", "Runner image could not be pulled", .transientDependency)
  else if waiting == "InvalidImageName" then
    some ("InvalidImage", "Runner image reference was rejected", .permanentDependency)
  else if waiting == "CreateContainerConfigError" then
    some ("ConfigurationError", "Runner container configuration was rejected", .policy)
  else if waiting == "CreateContainerError" || waiting == "RunContainerError" then
    some ("ContainerStartFailed", "Runner container could not start", .permanentDependency)
  else none

/-- The failure a nonzero exit of the runner container stands for. -/
def terminatedFailure (terminated : ContainerStateTerminated) : Option (String × String × FailureCategory) :=
  if terminated.exitCode == 0 then none
  else if terminated.reason == "OOMKilled" then
    some ("OOMKilled", "Runner exceeded its memory limit", .execution)
  else some ("ProcessExitNonZero", "Runner process exited with a nonzero status", .execution)

/-- The failure the state of a Pod stands for. -/
def podFailure (pod : Pod) : Option (String × String × FailureCategory) :=
  if pod.reason == "Evicted" then some ("PodEvicted", "Execution Pod was evicted", .transientDependency)
  else if pod.reason == "NodeLost" then
    some ("NodeLost", "Execution Pod was lost with its node", .transientDependency)
  else match runnerContainerStatus pod with
    | none => none
    | some container =>
      match container.waiting.bind waitingFailure with
      | some failure => some failure
      | none => container.terminated.bind terminatedFailure

def terminalPodObservation (pod : Pod) : Option LifecycleObservation :=
  (podFailure pod).map fun (reason, message, category) => failedObservation reason message category pod

def classifyJobFailure (reason : String) : FailureCategory × String × String :=
  if reason == "DeadlineExceeded" then
    (.execution, "DeadlineExceeded", "Execution exceeded its active deadline")
  else if reason == "BackoffLimitExceeded" then
    (.execution, "JobFailed", "Execution Job exhausted its zero-retry policy")
  else (.execution, "JobFailed", "Execution Job reported failure")

/-- The scheduling and phase checks for a Pod whose runner container says nothing. -/
def observePodConditions (observation : LifecycleObservation) (pod : Pod) : LifecycleObservation :=
  let byPhase :=
    if pod.phase == some .running then
      { observation with phase := .running, reason := "PodRunning", message := "Execution Pod is running" }
    else observation
  match findPodCondition pod "PodScheduled" with
  | none => byPhase
  | some condition =>
    if condition.status == .false && condition.reason == "Unschedulable" then
      { observation with reason := "PodUnschedulable", message := "Execution Pod cannot currently be scheduled" }
    else if condition.status == .true then
      { observation with
        reason := "PodScheduled", message := "Execution Pod is scheduled and waiting for the runner" }
    else byPhase

def observeNonTerminalPod (observation : LifecycleObservation) (pod : Pod) : LifecycleObservation :=
  match runnerContainerStatus pod with
  | none => observePodConditions observation pod
  | some container =>
    match container.running with
    | some startedAt =>
      { observation with
        phase := .running, reason := "RunnerActive", message := "Runner container is active"
        startTime := if startedAt.isZero then observation.startTime else some startedAt }
    | none =>
      match container.waiting with
      | some waiting =>
        if waiting == "ContainerCreating" then
          { observation with reason := "ContainerCreating", message := "Runner container is being created" }
        else { observation with reason := "PodPending", message := "Runner container is waiting" }
      | none =>
        if container.terminated.any (·.exitCode == 0) then
          { observation with
            reason := "JobCompletionPending"
            message := "Runner exited successfully and Job completion is pending" }
        else observePodConditions observation pod

/-- The observation of a Job that is complete or has a succeeded Pod. -/
def observeCompletion (ext : Externals) (job : Job) (observation : LifecycleObservation) :
    Option Pod → LifecycleObservation
  | none =>
    { observation with
      reason := "ResultEvidencePending", message := "Completed Job is waiting for Pod result evidence" }
  | some pod =>
    match runnerTermination pod with
    | none =>
      { observation with
        reason := "ResultEvidencePending"
        message := "Completed Job is waiting for runner termination evidence" }
    | some terminated =>
      let completionTime := firstTime [job.status.completionTime, some terminated.finishedAt]
      match parseTerminationEvidence ext terminated.message with
      | .error _ =>
        { phase := .failed, reason := "ResultEvidenceInvalid"
          message := "Runner completed without valid mandatory result evidence"
          podName := pod.metadata.name, startTime := observation.startTime, completionTime
          failureCategory := some .execution
          failureReason := "Mandatory result evidence is missing or invalid" }
      | .ok evidence =>
        { phase := .succeeded, reason := "ResultEvidenceReady"
          message := "Execution completed with mandatory result evidence"
          podName := pod.metadata.name, startTime := observation.startTime, completionTime
          artifactManifestRef := evidence.artifactManifestRef }

/-- What is known before any terminal evidence is read. -/
def initialObservation (job : Job) (pod : Option Pod) : LifecycleObservation where
  phase := .provisioning
  reason := "PodPending"
  message := "Execution is waiting for an observed Pod"
  podName := (pod.map (·.metadata.name)).getD ""
  startTime := job.status.startTime.or (pod.bind (·.startTime))

/-- The Job's own conditions and counters, once the Pod shows no failure. -/
def observeJobStatus (ext : Externals) (job : Job) (pod : Option Pod) (observation : LifecycleObservation) :
    LifecycleObservation :=
  match (findJobCondition job .failed).or (findJobCondition job .failureTarget) with
  | some condition =>
    let (category, reason, message) := classifyJobFailure condition.reason
    { phase := .failed, reason, message, podName := observation.podName, startTime := observation.startTime
      completionTime := firstTime [job.status.completionTime, some condition.lastTransitionTime]
      failureCategory := some category, failureReason := message }
  | none =>
    if job.status.failed > 0 && job.status.active == 0 then
      { phase := .failed, reason := "JobFailed", message := "Execution Job reported failure"
        podName := observation.podName, startTime := observation.startTime
        completionTime := jobCompletionTime job, failureCategory := some .execution
        failureReason := "Execution Job reported failure" }
    else if (findJobCondition job .complete).isSome || job.status.succeeded > 0 then
      observeCompletion ext job observation pod
    else match pod with
      | none =>
        if job.status.active > 0 then
          { observation with
            reason := "JobActive", message := "Execution Job is active and waiting for a Pod" }
        else observation
      | some pod => observeNonTerminalPod observation pod

def observeLifecycle (ext : Externals) (job : Job) (pods : List Pod) : LifecycleObservation :=
  let pod := selectLifecyclePod job pods
  let observation := initialObservation job pod
  match pod, pod.bind terminalPodObservation with
  | some pod, some failed =>
    { failed with
      completionTime := failed.completionTime.or (jobCompletionTime job)
      startTime := failed.startTime.or observation.startTime
      podName := pod.metadata.name }
  | pod, _ => observeJobStatus ext job pod observation

end AgentForge.Operator
