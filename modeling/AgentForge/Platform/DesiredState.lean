import AgentForge.Operator.Builder
import AgentForge.Operator.Lifecycle

/-!
# The desired state handed to Kubernetes

The Scheduler's complete intent for one attempt (`domain/execution_intent.go`). It is validated before
it is persisted and again before it is projected into an AgentRun. The retention policy and the network
profile are enumerations, so that `Validate` need not refuse other texts of them.
-/

set_option autoImplicit false

namespace AgentForge.Platform

open Operator

structure AgentRunDesiredState where
  runnerImage : String
  runtime : String
  executionProfile : String
  taskReference : String
  timeoutSeconds : Int
  maxAttempts : Int
  initialBackoffSeconds : Int
  maxBackoffSeconds : Int
  retryableFailureCategories : List FailureCategory
  cpuMillis : Int
  memoryMiB : Int
  cpuLimitMillis : Int
  memoryLimitMiB : Int
  workspaceSizeGiB : Int
  storageClassName : String
  workspaceRetentionPolicy : WorkspaceRetentionPolicy
  networkProfile : NetworkProfile
  allowedDestinationsRef : String
  artifactDestinationRef : String
  configurationRefs : List String
  secretRefs : List String
  deployOnSuccess : Bool
  deriving DecidableEq

/-! ## Patterns -/

/-- The pattern `^[a-z0-9][a-z0-9._-]{0,N}$`. -/
def matchesIdentifier (limit : Nat) (value : String) : Bool :=
  match value.toList with
  | [] => false
  | first :: rest =>
    isLowerAlphanumeric first && rest.length ≤ limit &&
      rest.all fun c => isLowerAlphanumeric c || ['.', '_', '-'].contains c

/-- The pattern `^[a-z0-9][a-z0-9./:_-]*@sha256:[a-f0-9]{64}$`. -/
def matchesDigestImage (value : String) : Bool :=
  let characters := value.toList
  let digest := (characters.dropWhile (· != '@')).drop 8
  (match characters.takeWhile (· != '@') with
    | [] => false
    | first :: rest =>
      isLowerAlphanumeric first && rest.all fun c => isLowerAlphanumeric c || ['.', '/', ':', '_', '-'].contains c) &&
    (characters.dropWhile (· != '@')).take 8 == "@sha256:".toList && digest.length == 64 && digest.all isLowerHex

/-- A `[[:space:]]` character. -/
def isPosixSpace (c : Char) : Bool := c == '\x0b' || isSpace c

/-- The pattern `^[a-z][a-z0-9+.-]{1,31}://[^[:space:]]+$`. -/
def matchesTaskReference (value : String) : Bool := matchesReference isPosixSpace value

def validDesiredReference (reference : String) : Bool := isDNS1123Subdomain reference

/-- Valid references, at most 32 and no two equal. -/
def validDesiredReferences (references : List String) : Bool :=
  references.length ≤ 32 && references.all validDesiredReference && references.Nodup

/-! ## Validation -/

/-- The bounds and patterns that `Validate` checks in one condition. -/
def AgentRunDesiredState.wellFormed (desired : AgentRunDesiredState) (attempt : Int) : Bool :=
  desired.runnerImage.utf8ByteSize ≤ 512 && matchesDigestImage desired.runnerImage &&
    matchesIdentifier 119 desired.runtime && matchesIdentifier 62 desired.executionProfile &&
    desired.taskReference.utf8ByteSize ≤ 2048 && matchesTaskReference desired.taskReference &&
    1 ≤ attempt && attempt ≤ 10 && attempt ≤ desired.maxAttempts && desired.maxAttempts ≤ 10 &&
    1 ≤ desired.timeoutSeconds && desired.timeoutSeconds ≤ 86400 &&
    1 ≤ desired.initialBackoffSeconds && desired.initialBackoffSeconds ≤ 3600 &&
    desired.initialBackoffSeconds ≤ desired.maxBackoffSeconds && desired.maxBackoffSeconds ≤ 21600 &&
    1 ≤ desired.cpuMillis && desired.cpuMillis ≤ 128000 && 1 ≤ desired.memoryMiB && desired.memoryMiB ≤ 524288 &&
    desired.cpuMillis ≤ desired.cpuLimitMillis && desired.cpuLimitMillis ≤ 128000 &&
    desired.memoryMiB ≤ desired.memoryLimitMiB && desired.memoryLimitMiB ≤ 524288 &&
    1 ≤ desired.workspaceSizeGiB && desired.workspaceSizeGiB ≤ 2048 &&
    (desired.storageClassName == "" || validDesiredReference desired.storageClassName) &&
    validDesiredReference desired.artifactDestinationRef &&
    match desired.networkProfile with
    | .isolated => desired.allowedDestinationsRef == ""
    | .restrictedEgress => validDesiredReference desired.allowedDestinationsRef

/-- The loop over the retry categories, with the ones seen before. -/
def validateCategories (seen : List FailureCategory) : List FailureCategory → Except String Unit
  | [] => .ok ()
  | category :: rest =>
    if category ≠ .transientDependency ∧ category ≠ .internal then
      .error "AgentRun desired retry category is invalid"
    else if seen.contains category then .error "AgentRun desired retry category is duplicated"
    else validateCategories (category :: seen) rest

def AgentRunDesiredState.validate (desired : AgentRunDesiredState) (attempt : Int) : Except String Unit := do
  if !desired.wellFormed attempt then throw "AgentRun desired state is invalid"
  validateCategories [] desired.retryableFailureCategories
  if !validDesiredReferences desired.configurationRefs || !validDesiredReferences desired.secretRefs then
    throw "AgentRun desired references are invalid"

end AgentForge.Platform
