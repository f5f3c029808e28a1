import AgentForge.Lib.Json
import AgentForge.Operator.AgentRun

/-!
# Controller-side validation of an AgentRun

`validateAgentRun` runs before anything is created. What it calls outside this repository
(`net/url`, hashing, JSON) comes in as `Externals`, over which every result is quantified.
-/

set_option autoImplicit false

namespace AgentForge.Operator

open Lib

/-- The components of a parsed URL that the checks read. -/
structure URL where
  scheme : String
  host : String
  opaqueData : String
  deriving DecidableEq

/-- An IP prefix: its address as a number, its length, and whether it is IPv4. -/
structure IPPrefix where
  is4 : Bool
  address : Nat
  bits : Nat
  deriving DecidableEq

/-- The result evidence a runner leaves in its termination message. -/
structure TerminationEvidence where
  schemaVersion : Int
  artifactManifestRef : String
  deriving DecidableEq

/-- The functions of other modules that the operator calls. -/
structure Externals where
  /-- `url.Parse`. -/
  parseURL : String → Option URL
  /-- `sha256.Sum256`, as a big-endian number. -/
  sha256 : String → BitVec 256
  /-- `json.Marshal`. -/
  marshalJSON : Json → String
  /-- `netip.ParsePrefix`. -/
  parseIPPrefix : String → Option IPPrefix
  /-- `netip.Prefix.String`. -/
  formatIPPrefix : IPPrefix → String
  /-- `metav1.LabelSelectorAsSelector` accepts the selector. -/
  acceptsSelector : LabelSelector → Bool
  /-- A strict `json.Decoder` on a termination message: the evidence it decodes first, and whether
  the message ends there; or the decoder's error. -/
  decodeEvidence : String → Except String (TerminationEvidence × Bool)

/-- `strings.LastIndex`, on characters. -/
def lastIndexOf (pattern : List Char) : List Char → Option Nat
  | [] => if pattern.isEmpty then some 0 else none
  | c :: rest =>
    match lastIndexOf pattern rest with
    | some i => some (i + 1)
    | none => if pattern.isPrefixOf (c :: rest) then some 0 else none

def isBlank (c : Char) : Bool := [' ', '\t', '\r', '\n'].contains c

def isDigestImage (value : String) : Bool :=
  let characters := value.toList
  match lastIndexOf "@sha256:".toList characters with
  | none => false
  | some separator =>
    1 ≤ separator && separator + 8 + 64 == characters.length &&
      !(characters.take separator).any isBlank && (characters.drop (separator + 8)).all isLowerHex

def isSecureReference (ext : Externals) (value : String) : Bool :=
  if value.utf8ByteSize > 2048 || value.toList.any isBlank then false
  else match ext.parseURL value with
    | none => false
    | some parsed =>
      2 ≤ parsed.scheme.utf8ByteSize && parsed.scheme.toList == parsed.scheme.toList.map Char.toLower &&
        (parsed.host != "" || parsed.opaqueData != "")

def validateNetwork (network : NetworkSpec) : Except String Unit :=
  match network.profile with
  | .isolated =>
    if network.allowedDestinationsRef.isSome then
      .error "isolated network cannot include allowed destinations"
    else .ok ()
  | .restrictedEgress =>
    if network.allowedDestinationsRef.isNone then
      .error "restricted egress requires an allowed destination reference"
    else .ok ()

/-- The first identifier that is not a UUID fails the check. -/
def validateIdentifiers : List (String × String) → Except String Unit
  | [] => .ok ()
  | (name, value) :: rest =>
    if !isUUIDv7 value then .error (name ++ " must be a lowercase UUIDv7") else validateIdentifiers rest

/-- The checks on the immutable part of the spec, in source order. -/
def validateSpec (ext : Externals) (spec : AgentRunSpec) : Except String Unit := do
  validateIdentifiers
    [("tenantId", spec.tenantID), ("projectId", spec.projectID), ("runId", spec.runID),
      ("attemptId", spec.attemptID)]
  if spec.attempt < 1 || spec.attempt > 10 || spec.attempt > spec.retryPolicy.maxAttempts then
    throw "attempt must be within the retry ceiling"
  if !isDigestImage spec.runnerImage then throw "runnerImage must use a sha256 digest"
  if !isSecureReference ext spec.taskRef then throw "taskRef must be a secure reference"
  if spec.timeoutSeconds < 1 || spec.timeoutSeconds > 86400 then
    throw "timeoutSeconds is outside the approved range"
  if spec.resources.limits.cpuMillis < spec.resources.requests.cpuMillis ||
      spec.resources.limits.memoryMiB < spec.resources.requests.memoryMiB then
    throw "resource limits must cover requests"
  validateNetwork spec.network

/-- The controller's validation. `desiredState` is one of the two enumerated values by its type. -/
def validateAgentRun (ext : Externals) (run : AgentRun) : Except String Unit :=
  if run.metadata.generation < 1 then .error "metadata generation must be positive"
  else match validateSpec ext run.spec with
    | .error reason => .error reason
    | .ok () =>
      match forAgentRun run with
      | .error reason => .error reason
      | .ok _ => .ok ()

end AgentForge.Operator
