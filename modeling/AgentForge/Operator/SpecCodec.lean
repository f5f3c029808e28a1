import AgentForge.Operator.Builder

/-!
# The stored form of an AgentRun spec

The API server keeps the JSON that a client sends, and a later read decodes it. Under the field tags of
`AgentRunSpec` everything survives this round trip but for empty slices: they are left out and come
back as nil (`AgentRunSpec.ofJson_toJson`).
-/

set_option autoImplicit false

namespace AgentForge.Operator

open Lib Lib.Json

/-! ## Enumerations -/

def WorkspaceRetentionPolicy.text : WorkspaceRetentionPolicy → String
  | delete => "Delete"
  | retain => "Retain"

def WorkspaceRetentionPolicy.ofText (s : String) : Option WorkspaceRetentionPolicy :=
  [delete, retain].find? (·.text == s)

def NetworkProfile.ofText (s : String) : Option NetworkProfile :=
  [isolated, restrictedEgress].find? (·.text == s)

def DesiredState.text : DesiredState → String
  | running => "Running"
  | cancelled => "Cancelled"

def DesiredState.ofText (s : String) : Option DesiredState :=
  [running, cancelled].find? (·.text == s)

def FailureCategory.text : FailureCategory → String
  | validation => "VALIDATION"
  | authentication => "AUTHENTICATION"
  | authorization => "AUTHORIZATION"
  | quota => "QUOTA"
  | conflict => "CONFLICT"
  | transientDependency => "TRANSIENT_DEPENDENCY"
  | permanentDependency => "PERMANENT_DEPENDENCY"
  | execution => "EXECUTION"
  | policy => "POLICY"
  | internal => "INTERNAL"

def FailureCategory.ofText (s : String) : Option FailureCategory :=
  [validation, authentication, authorization, quota, conflict, transientDependency, permanentDependency, execution,
    policy, internal].find? (·.text == s)

theorem WorkspaceRetentionPolicy.ofText_text (p : WorkspaceRetentionPolicy) : ofText p.text = some p := by
  cases p <;> decide

theorem NetworkProfile.ofText_text (p : NetworkProfile) : ofText p.text = some p := by
  cases p <;> decide

theorem DesiredState.ofText_text (s : DesiredState) : ofText s.text = some s := by
  cases s <;> decide

theorem FailureCategory.ofText_text (c : FailureCategory) : ofText c.text = some c := by
  cases c <;> decide

/-- The value of an enumeration, which has no empty text. -/
def asEnum {α : Type} (ofText : String → Option α) (value : Json) : Option α := value.asString.bind ofText

/-- A slice, as it is decoded when its member is present. -/
def asSlice {α : Type} (element : Json → Option α) (value : Json) : Option (Slice α) := (asList element value).map some

/-! ## Structs -/

def LocalObjectReference.toJson (reference : LocalObjectReference) : Json :=
  .obj <| member "name" (.str reference.name) []

def LocalObjectReference.ofJson (value : Json) : Option LocalObjectReference := do
  let members ← value.asObject
  return ⟨← members.read "name" (some "") asString⟩

def ResourceValues.toJson (values : ResourceValues) : Json :=
  .obj <| member "cpuMillis" (.num values.cpuMillis) <| member "memoryMiB" (.num values.memoryMiB) []

def ResourceValues.ofJson (value : Json) : Option ResourceValues := do
  let members ← value.asObject
  return ⟨← members.read "cpuMillis" (some 0) asInt, ← members.read "memoryMiB" (some 0) asInt⟩

def ResourceRequirements.toJson (resources : ResourceRequirements) : Json :=
  .obj <| member "requests" resources.requests.toJson <| member "limits" resources.limits.toJson []

def ResourceRequirements.ofJson (value : Json) : Option ResourceRequirements := do
  let members ← value.asObject
  return ⟨← members.read "requests" (some ⟨0, 0⟩) ResourceValues.ofJson,
    ← members.read "limits" (some ⟨0, 0⟩) ResourceValues.ofJson⟩

def RetryPolicy.toJson (policy : RetryPolicy) : Json :=
  let categories := policy.retryableFailureCategories.items
  .obj <| member "maxAttempts" (.num policy.maxAttempts) <|
    omitEmpty "initialBackoffSeconds" (policy.initialBackoffSeconds == 0) (.num policy.initialBackoffSeconds) <|
    omitEmpty "maxBackoffSeconds" (policy.maxBackoffSeconds == 0) (.num policy.maxBackoffSeconds) <|
    omitEmpty "retryableFailureCategories" categories.isEmpty (.arr (categories.map fun c => .str c.text)) []

def RetryPolicy.ofJson (value : Json) : Option RetryPolicy := do
  let members ← value.asObject
  return ⟨← members.read "maxAttempts" (some 0) asInt, ← members.read "initialBackoffSeconds" (some 0) asInt,
    ← members.read "maxBackoffSeconds" (some 0) asInt,
    ← members.read "retryableFailureCategories" (some none) (asSlice (asEnum FailureCategory.ofText))⟩

def WorkspaceSpec.toJson (workspace : WorkspaceSpec) : Json :=
  .obj <| member "sizeGiB" (.num workspace.sizeGiB) <|
    omitEmpty "storageClassName" (workspace.storageClassName == "") (.str workspace.storageClassName) <|
    member "retentionPolicy" (.str workspace.retentionPolicy.text) []

def WorkspaceSpec.ofJson (value : Json) : Option WorkspaceSpec := do
  let members ← value.asObject
  return ⟨← members.read "sizeGiB" (some 0) asInt, ← members.read "storageClassName" (some "") asString,
    ← members.read "retentionPolicy" none (asEnum WorkspaceRetentionPolicy.ofText)⟩

def NetworkSpec.toJson (network : NetworkSpec) : Json :=
  .obj <| member "profile" (.str network.profile.text) <|
    omitNil "allowedDestinationsRef" LocalObjectReference.toJson network.allowedDestinationsRef []

def NetworkSpec.ofJson (value : Json) : Option NetworkSpec := do
  let members ← value.asObject
  return ⟨← members.read "profile" none (asEnum NetworkProfile.ofText),
    ← members.read "allowedDestinationsRef" (some none) fun value => (LocalObjectReference.ofJson value).map some⟩

def AgentRunSpec.toJson (spec : AgentRunSpec) : Json :=
  let references (slice : Slice LocalObjectReference) : Json := .arr (slice.items.map LocalObjectReference.toJson)
  .obj <| member "tenantId" (.str spec.tenantID) <| member "projectId" (.str spec.projectID) <|
    member "runId" (.str spec.runID) <| member "attemptId" (.str spec.attemptID) <|
    member "attempt" (.num spec.attempt) <| member "runnerImage" (.str spec.runnerImage) <|
    member "runtime" (.str spec.runtime) <| member "executionProfile" (.str spec.executionProfile) <|
    member "taskRef" (.str spec.taskRef) <| member "timeoutSeconds" (.num spec.timeoutSeconds) <|
    member "retryPolicy" spec.retryPolicy.toJson <| member "resources" spec.resources.toJson <|
    member "workspace" spec.workspace.toJson <| member "network" spec.network.toJson <|
    member "artifactDestinationRef" spec.artifactDestinationRef.toJson <|
    omitEmpty "configurationRefs" spec.configurationRefs.items.isEmpty (references spec.configurationRefs) <|
    omitEmpty "secretRefs" spec.secretRefs.items.isEmpty (references spec.secretRefs) <|
    omitEmpty "deployOnSuccess" (!spec.deployOnSuccess) (.bool spec.deployOnSuccess) <|
    member "desiredState" (.str spec.desiredState.text) []

/-- The fields in the order of the struct. -/
def AgentRunSpec.ofJson (value : Json) : Option AgentRunSpec := do
  let members ← value.asObject
  AgentRunSpec.mk
    <$> members.read "tenantId" (some "") asString
    <*> members.read "projectId" (some "") asString
    <*> members.read "runId" (some "") asString
    <*> members.read "attemptId" (some "") asString
    <*> members.read "attempt" (some 0) asInt
    <*> members.read "runnerImage" (some "") asString
    <*> members.read "runtime" (some "") asString
    <*> members.read "executionProfile" (some "") asString
    <*> members.read "taskRef" (some "") asString
    <*> members.read "timeoutSeconds" (some 0) asInt
    <*> members.read "retryPolicy" (some ⟨0, 0, 0, none⟩) RetryPolicy.ofJson
    <*> members.read "resources" (some ⟨⟨0, 0⟩, ⟨0, 0⟩⟩) ResourceRequirements.ofJson
    <*> members.read "workspace" none WorkspaceSpec.ofJson
    <*> members.read "network" none NetworkSpec.ofJson
    <*> members.read "artifactDestinationRef" (some ⟨""⟩) LocalObjectReference.ofJson
    <*> members.read "configurationRefs" (some none) (asSlice LocalObjectReference.ofJson)
    <*> members.read "secretRefs" (some none) (asSlice LocalObjectReference.ofJson)
    <*> members.read "deployOnSuccess" (some false) asBool
    <*> members.read "desiredState" none (asEnum DesiredState.ofText)

/-! ## The round trip -/

/-- An empty slice comes back as nil. -/
def Slice.stored {α : Type} (slice : Slice α) : Slice α := if slice.items.isEmpty then none else slice

def RetryPolicy.stored (policy : RetryPolicy) : RetryPolicy :=
  { policy with retryableFailureCategories := policy.retryableFailureCategories.stored }

/-- The spec that a read returns for a spec that was written. -/
def AgentRunSpec.stored (spec : AgentRunSpec) : AgentRunSpec :=
  { spec with
    retryPolicy := spec.retryPolicy.stored
    configurationRefs := spec.configurationRefs.stored
    secretRefs := spec.secretRefs.stored }

section RoundTrip

theorem asEnum_str {α : Type} (ofText : String → Option α) (s : String) : asEnum ofText (.str s) = ofText s := rfl

theorem LocalObjectReference.ofJson_toJson (reference : LocalObjectReference) :
    ofJson reference.toJson = some reference := rfl

theorem ResourceValues.ofJson_toJson (values : ResourceValues) : ofJson values.toJson = some values := rfl

theorem ResourceRequirements.ofJson_toJson (resources : ResourceRequirements) :
    ofJson resources.toJson = some resources := rfl

/-- A slice member reads back as the slice, with nil for an empty one. -/
theorem asSlice_stored {α : Type} (element : Json → Option α) (write : α → Json)
    (inverse : ∀ a, element (write a) = some a) (slice : Slice α) :
    (bif slice.items.isEmpty then some none else asSlice element (.arr (slice.items.map write))) =
      some slice.stored := by
  rw [asSlice, asList_map inverse]
  match slice with
  | none | some [] | some (_ :: _) => rfl

theorem zero_or_same {α : Type} [BEq α] [LawfulBEq α] {zero a : α} :
    (bif a == zero then some zero else some a) = some a := by
  cases same : a == zero
  · rfl
  · rw [eq_of_beq same]; rfl

theorem RetryPolicy.ofJson_toJson (policy : RetryPolicy) : ofJson policy.toJson = some policy.stored := by
  have categories := asSlice_stored (asEnum FailureCategory.ofText) (fun c => .str c.text)
    FailureCategory.ofText_text policy.retryableFailureCategories
  simp (disch := decide) only [ofJson, toJson, asObject, asInt, read_member_ne, read_member, read_omitEmpty_ne,
    read_omitEmpty, read_nil, zero_or_same, categories, Option.bind_eq_bind, Option.bind_some, Option.pure_def, stored]

theorem WorkspaceSpec.ofJson_toJson (workspace : WorkspaceSpec) : ofJson workspace.toJson = some workspace := by
  simp (disch := decide) only [ofJson, toJson, asObject, asInt, asString, read_member_ne, read_member,
    read_omitEmpty_ne, read_omitEmpty, read_nil, zero_or_same, asEnum_str, WorkspaceRetentionPolicy.ofText_text,
    Option.bind_eq_bind, Option.bind_some, Option.pure_def]

theorem NetworkSpec.ofJson_toJson (network : NetworkSpec) : ofJson network.toJson = some network := by
  obtain ⟨profile, reference⟩ := network
  cases reference <;>
    simp (disch := decide) only [ofJson, toJson, asObject, read_member_ne, read_member, read_omitNil, read_nil, asEnum_str,
      NetworkProfile.ofText_text, LocalObjectReference.ofJson_toJson, Option.elim, Option.map_some, Option.bind_eq_bind, Option.bind_some, Option.pure_def]

/-- Reading what was written gives the spec back, but for its empty slices. -/
theorem AgentRunSpec.ofJson_toJson (spec : AgentRunSpec) : ofJson spec.toJson = some spec.stored := by
  have configuration := asSlice_stored _ _ LocalObjectReference.ofJson_toJson spec.configurationRefs
  have secrets := asSlice_stored _ _ LocalObjectReference.ofJson_toJson spec.secretRefs
  have deploy : (bif !spec.deployOnSuccess then some false else some spec.deployOnSuccess) =
      some spec.deployOnSuccess := by
    cases spec.deployOnSuccess <;> rfl
  simp (disch := decide) only [ofJson, toJson, asObject, asInt, asString, asBool, read_member_ne, read_member,
    read_omitEmpty_ne, read_omitEmpty, read_nil, asEnum_str, DesiredState.ofText_text, RetryPolicy.ofJson_toJson,
    ResourceRequirements.ofJson_toJson, WorkspaceSpec.ofJson_toJson, NetworkSpec.ofJson_toJson,
    LocalObjectReference.ofJson_toJson, configuration, secrets, deploy, Option.bind_eq_bind, Option.bind_some,
    Option.map_eq_map, Option.map_some, Option.seq_some, stored]

end RoundTrip

end AgentForge.Operator
