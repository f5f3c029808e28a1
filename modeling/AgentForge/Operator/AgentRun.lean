import AgentForge.Operator.Kubernetes

/-!
# The AgentRun resource

The custom resource of `api/v1alpha1`: an execution intent that is immutable but for `desiredState`,
and the status the controller projects. Values that the schema enumerates are inductive types, an
empty string of such a type is `none`, and a Go slice is `none` when it is nil.
-/

set_option autoImplicit false

namespace AgentForge.Operator

/-- A Go slice: `none` is nil. -/
abbrev Slice (α : Type) := Option (List α)

/-- The elements of a slice; nil has none. -/
def Slice.items {α : Type} (s : Slice α) : List α := s.getD []

structure LocalObjectReference where
  name : String
  deriving DecidableEq

inductive DesiredState
  | running
  | cancelled
  deriving DecidableEq

inductive NetworkProfile
  | isolated
  | restrictedEgress
  deriving DecidableEq

inductive WorkspaceRetentionPolicy
  | delete
  | retain
  deriving DecidableEq

inductive FailureCategory
  | validation
  | authentication
  | authorization
  | quota
  | conflict
  | transientDependency
  | permanentDependency
  | execution
  | policy
  | internal
  deriving DecidableEq

inductive AgentRunPhase
  | pending
  | provisioning
  | running
  | succeeded
  | failed
  | cancelling
  | cancelled
  deriving DecidableEq

/-- The phases that end an attempt. -/
def AgentRunPhase.terminal : AgentRunPhase → Bool
  | succeeded | failed | cancelled => true
  | pending | provisioning | running | cancelling => false

structure RetryPolicy where
  maxAttempts : Int
  initialBackoffSeconds : Int
  maxBackoffSeconds : Int
  retryableFailureCategories : Slice FailureCategory
  deriving DecidableEq

structure ResourceValues where
  cpuMillis : Int
  memoryMiB : Int
  deriving DecidableEq

structure ResourceRequirements where
  requests : ResourceValues
  limits : ResourceValues
  deriving DecidableEq

structure WorkspaceSpec where
  sizeGiB : Int
  storageClassName : String
  retentionPolicy : WorkspaceRetentionPolicy
  deriving DecidableEq

structure NetworkSpec where
  profile : NetworkProfile
  allowedDestinationsRef : Option LocalObjectReference
  deriving DecidableEq

structure AgentRunSpec where
  tenantID : String
  projectID : String
  runID : String
  attemptID : String
  attempt : Int
  runnerImage : String
  runtime : String
  executionProfile : String
  taskRef : String
  timeoutSeconds : Int
  retryPolicy : RetryPolicy
  resources : ResourceRequirements
  workspace : WorkspaceSpec
  network : NetworkSpec
  artifactDestinationRef : LocalObjectReference
  configurationRefs : Slice LocalObjectReference
  secretRefs : Slice LocalObjectReference
  deployOnSuccess : Bool
  desiredState : DesiredState
  deriving DecidableEq

structure AttemptStatus where
  attempt : Int
  jobName : String
  podName : String
  phase : Option AgentRunPhase
  startTime : Option Time
  completionTime : Option Time
  failureCategory : Option FailureCategory
  failureReason : String
  artifactManifestRef : String
  deriving DecidableEq

inductive ConditionType
  | specValid
  | serviceAccountReady
  | configurationReady
  | workspaceReady
  | networkPolicyReady
  | jobReady
  | ready
  | cancellationComplete
  | retryReady
  | cleanupPending
  deriving DecidableEq

/-- The text of a condition type, as `recordPrerequisiteFailure` prints it. -/
def ConditionType.text : ConditionType → String
  | specValid => "SpecValid"
  | serviceAccountReady => "ServiceAccountReady"
  | configurationReady => "ConfigurationReady"
  | workspaceReady => "WorkspaceReady"
  | networkPolicyReady => "NetworkPolicyReady"
  | jobReady => "JobReady"
  | ready => "Ready"
  | cancellationComplete => "CancellationComplete"
  | retryReady => "RetryReady"
  | cleanupPending => "CleanupPending"

structure Condition where
  type : ConditionType
  status : ConditionStatus
  observedGeneration : Int
  lastTransitionTime : Time
  reason : String
  message : String
  deriving DecidableEq

structure AgentRunStatus where
  phase : Option AgentRunPhase := none
  observedGeneration : Int := 0
  attempt : Int := 0
  ns : String := ""
  jobName : String := ""
  podName : String := ""
  startTime : Option Time := none
  completionTime : Option Time := none
  heartbeatTime : Option Time := none
  failureCategory : Option FailureCategory := none
  failureReason : String := ""
  artifactManifestRef : String := ""
  attempts : List AttemptStatus := []
  conditions : List Condition := []
  deriving DecidableEq

/-- The status carries a terminal phase. -/
def AgentRunStatus.terminal (s : AgentRunStatus) : Bool :=
  match s.phase with
  | some phase => phase.terminal
  | none => false

structure AgentRun where
  metadata : ObjectMeta
  spec : AgentRunSpec
  status : AgentRunStatus := {}
  deriving DecidableEq

/-! ## Conditions -/

/-- `meta.FindStatusCondition`. -/
def findStatusCondition (conditions : List Condition) (type : ConditionType) : Option Condition :=
  conditions.find? (·.type == type)

/-- `meta.SetStatusCondition`: the transition time moves only with the status. -/
def setStatusCondition : List Condition → Condition → List Condition
  | [], new => [new]
  | existing :: rest, new =>
    if existing.type = new.type then
      { new with lastTransitionTime :=
          if existing.status = new.status then existing.lastTransitionTime else new.lastTransitionTime } :: rest
    else existing :: setStatusCondition rest new

/-! ## Persistence of times

A `metav1.Time` is stored with second precision, and a zero one is stored as null. -/

def Time.stored (t : Time) : Time := t / second * second

def storedTime (t : Option Time) : Option Time :=
  match t with
  | some value => if value.isZero then none else some value.stored
  | none => none

def AttemptStatus.stored (a : AttemptStatus) : AttemptStatus :=
  { a with startTime := storedTime a.startTime, completionTime := storedTime a.completionTime }

def Condition.stored (c : Condition) : Condition :=
  { c with lastTransitionTime := c.lastTransitionTime.stored }

/-- The status after a round trip through the API server. -/
def AgentRunStatus.stored (s : AgentRunStatus) : AgentRunStatus :=
  { s with
    startTime := storedTime s.startTime
    completionTime := storedTime s.completionTime
    heartbeatTime := storedTime s.heartbeatTime
    attempts := s.attempts.map AttemptStatus.stored
    conditions := s.conditions.map Condition.stored }

/-! ## Attempts and child names (`internal/naming`) -/

/-- The observed attempt, or the scheduled one before status initialisation. -/
def currentAttempt (run : AgentRun) : Int :=
  if run.status.attempt ≥ run.spec.attempt then run.status.attempt else run.spec.attempt

def isLowerHex (character : Char) : Bool :=
  ('0' ≤ character && character ≤ '9') || ('a' ≤ character && character ≤ 'f')

/-- `strings.ReplaceAll(value, "-", "")`. -/
def withoutDashes (value : String) : List Char :=
  value.toList.filter (· != '-')

/-- The controller's own check of a lowercase version 7 UUID. Dashes at further positions pass it. -/
def isUUIDv7 (value : String) : Bool :=
  let characters := value.toList
  characters.length == 36 && characters[8]? == some '-' && characters[13]? == some '-' &&
    characters[18]? == some '-' && characters[23]? == some '-' && characters[14]? == some '7' &&
    (characters[19]?.any fun variant => ['8', '9', 'a', 'b'].contains variant) &&
    (withoutDashes value).all isLowerHex

structure ResourceNames where
  serviceAccount : String
  configuration : String
  workspace : String
  networkPolicy : String
  job : String
  deriving DecidableEq

/-- The common stem of the child names of one attempt. -/
def childBase (runID : String) (attempt : Int) : String :=
  "ar-" ++ String.ofList (withoutDashes runID) ++ "-a" ++ toString attempt

/-- The child names of one attempt. -/
def namesOf (runID : String) (attempt : Int) : ResourceNames where
  serviceAccount := childBase runID attempt ++ "-sa"
  configuration := childBase runID attempt ++ "-config"
  workspace := childBase runID attempt ++ "-workspace"
  networkPolicy := childBase runID attempt ++ "-network"
  job := childBase runID attempt ++ "-job"

/-- The Job name of an attempt of this run. -/
def jobNameOf (run : AgentRun) (attempt : Int) : String := (namesOf run.spec.runID attempt).job

/-- Every child name, derived from the run identity and the observed attempt. -/
def forAgentRun (run : AgentRun) : Except String ResourceNames :=
  let attempt := currentAttempt run
  if !isUUIDv7 run.spec.runID then .error "invalid immutable run identity"
  else if attempt < 1 || attempt > run.spec.retryPolicy.maxAttempts || attempt > 10 then
    .error "invalid current attempt"
  else .ok (namesOf run.spec.runID attempt)

theorem forAgentRun_eq_ok {run : AgentRun} {names : ResourceNames} :
    forAgentRun run = .ok names ↔
      isUUIDv7 run.spec.runID = true ∧ 1 ≤ currentAttempt run ∧
        currentAttempt run ≤ run.spec.retryPolicy.maxAttempts ∧ currentAttempt run ≤ 10 ∧
        names = namesOf run.spec.runID (currentAttempt run) := by
  unfold forAgentRun
  simp only [Bool.not_eq_true', Bool.or_eq_true, decide_eq_true_eq]
  split
  · next invalid => simp [invalid]
  · next valid =>
    split
    · next outside =>
      simp only [reduceCtorEq, false_iff, not_and]
      omega
    · next inside =>
      rw [Bool.not_eq_false] at valid
      rw [Except.ok.injEq]
      refine ⟨fun same => ⟨valid, by omega, by omega, by omega, same.symm⟩, fun h => h.2.2.2.2.symm⟩

end AgentForge.Operator
