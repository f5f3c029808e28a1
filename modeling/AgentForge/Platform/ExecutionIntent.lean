import Mathlib.Data.List.Sort
import AgentForge.Events.Requested
import AgentForge.Lib.JsonText
import AgentForge.Platform.DesiredState

/-!
# Execution intents

The trusted defaults of the Scheduler and the desired state that they give to a run (`config/execution_intent.go`). The run,
the event and the desired state check the prompt reference one after the other, each in its own way: the length, `url.Parse`
and a pattern (`neverRejected_iff`).
-/

set_option autoImplicit false

namespace AgentForge.Platform

open Lib
open Operator (Time isDNS1123Subdomain)

/-! ## Configuration -/

structure ExecutionIntentConfig where
  runnerImages : JsonText.TextMap
  workspaceSizeGiB : Int
  storageClassName : String
  artifactDestinationRef : String
  configurationRefs : List String
  secretRefs : List String

/-- `os.LookupEnv`. -/
abbrev LookupEnv := String → Option String

def validObjectReference (reference : String) : Bool := isDNS1123Subdomain reference

/-- The loop over the references, with those seen before. -/
def checkReferences (name : String) (seen : List String) : List String → Except String Unit
  | [] => .ok ()
  | reference :: rest =>
    if !validObjectReference reference then .error (name ++ " contains an invalid DNS subdomain name")
    else if seen.contains reference then .error (name ++ " contains a duplicate reference")
    else checkReferences name (reference :: seen) rest

/-- `sort.Strings`. -/
def sortStrings (texts : List String) : List String := texts.insertionSort (· ≤ ·)

def referenceList (lookup : LookupEnv) (name : String) : Except String (List String) :=
  match lookup name with
  | none => .ok []
  | some value =>
    if isBlank value then .ok []
    else do
      let parts := (value.toList.splitOn ',').map fun part => trimSpace (String.ofList part)
      if parts.length > 32 then throw (name ++ " must contain at most 32 references")
      checkReferences name [] parts
      return sortStrings parts

/-- Every runtime of the map and the image that it has there. -/
def validImages (images : JsonText.TextMap) : Bool :=
  images.all fun (runtime, _) => (images.find runtime).any fun image =>
    matchesIdentifier 119 runtime && image.utf8ByteSize ≤ 512 && matchesDigestImage image

def loadRunnerImages (lookup : LookupEnv) : Except String JsonText.TextMap := do
  let rawImages := (lookup "AGENTFORGE_SCHEDULER_RUNNER_IMAGES").getD ""
  if isBlank rawImages then throw "AGENTFORGE_SCHEDULER_RUNNER_IMAGES is required"
  let images := ((JsonText.unmarshal rawImages).bind JsonText.asTextMap).getD []
  if images = [] then throw "AGENTFORGE_SCHEDULER_RUNNER_IMAGES must be a non-empty JSON object"
  if !validImages images then throw "AGENTFORGE_SCHEDULER_RUNNER_IMAGES contains invalid runtime or digest"
  return images

def loadWorkspaceSize (lookup : LookupEnv) : Except String Int :=
  match lookup "AGENTFORGE_SCHEDULER_WORKSPACE_SIZE_GIB" with
  | none => .error "AGENTFORGE_SCHEDULER_WORKSPACE_SIZE_GIB is required"
  | some workspace =>
    match Events.atoi (trimSpace workspace) with
    | none => .error "AGENTFORGE_SCHEDULER_WORKSPACE_SIZE_GIB must be between 1 and 2048"
    | some size =>
      if size < 1 ∨ size > 2048 then .error "AGENTFORGE_SCHEDULER_WORKSPACE_SIZE_GIB must be between 1 and 2048"
      else .ok size

def loadStorageClass (lookup : LookupEnv) : Except String String := do
  let name := trimSpace ((lookup "AGENTFORGE_SCHEDULER_STORAGE_CLASS").getD "")
  if name ≠ "" ∧ !validObjectReference name then throw "AGENTFORGE_SCHEDULER_STORAGE_CLASS must be a DNS subdomain name"
  return name

def loadArtifactDestination (lookup : LookupEnv) : Except String String :=
  match lookup "AGENTFORGE_SCHEDULER_ARTIFACT_DESTINATION_REF" with
  | none => .error "AGENTFORGE_SCHEDULER_ARTIFACT_DESTINATION_REF must be a DNS subdomain name"
  | some artifact =>
    if validObjectReference (trimSpace artifact) then .ok (trimSpace artifact)
    else .error "AGENTFORGE_SCHEDULER_ARTIFACT_DESTINATION_REF must be a DNS subdomain name"

def loadExecutionIntent (lookup : LookupEnv) : Except String ExecutionIntentConfig := do
  let runnerImages ← loadRunnerImages lookup
  let workspaceSizeGiB ← loadWorkspaceSize lookup
  let storageClassName ← loadStorageClass lookup
  let artifactDestinationRef ← loadArtifactDestination lookup
  let configurationRefs ← referenceList lookup "AGENTFORGE_SCHEDULER_CONFIGURATION_REFS"
  let secretRefs ← referenceList lookup "AGENTFORGE_SCHEDULER_SECRET_REFS"
  return { runnerImages, workspaceSizeGiB, storageClassName, artifactDestinationRef, configurationRefs, secretRefs }

def ExecutionIntentConfig.desiredState (configuration : ExecutionIntentConfig) (run : AgentRun) (profile : String) :
    Except String AgentRunDesiredState :=
  match configuration.runnerImages.find run.runtime with
  | none => .error "no trusted runner image is configured for runtime"
  | some image => .ok {
      runnerImage := image
      runtime := run.runtime
      executionProfile := profile
      taskReference := run.promptReference
      timeoutSeconds := run.timeoutSeconds
      maxAttempts := run.maxAttempts
      initialBackoffSeconds := 5
      maxBackoffSeconds := 300
      retryableFailureCategories := [.transientDependency, .internal]
      cpuMillis := run.cpuMillis
      memoryMiB := run.memoryMiB
      cpuLimitMillis := run.cpuMillis
      memoryLimitMiB := run.memoryMiB
      workspaceSizeGiB := configuration.workspaceSizeGiB
      storageClassName := configuration.storageClassName
      workspaceRetentionPolicy := .delete
      networkProfile := .isolated
      allowedDestinationsRef := ""
      artifactDestinationRef := configuration.artifactDestinationRef
      configurationRefs := configuration.configurationRefs
      secretRefs := configuration.secretRefs
      deployOnSuccess := false }

/-! ## Accepted configurations -/

/-- What `loadExecutionIntent` has checked. -/
structure ExecutionIntentConfig.Valid (configuration : ExecutionIntentConfig) : Prop where
  images : validImages configuration.runnerImages = true
  workspace : 1 ≤ configuration.workspaceSizeGiB ∧ configuration.workspaceSizeGiB ≤ 2048
  storageClass : configuration.storageClassName = "" ∨ validDesiredReference configuration.storageClassName = true
  artifact : validDesiredReference configuration.artifactDestinationRef = true
  configurationRefs : validDesiredReferences configuration.configurationRefs = true
  secretRefs : validDesiredReferences configuration.secretRefs = true

theorem checkReferences_ok {name : String} {seen references : List String}
    (checked : checkReferences name seen references = .ok ()) :
    (∀ reference ∈ references, validDesiredReference reference = true ∧ reference ∉ seen) ∧ references.Nodup := by
  induction references generalizing seen with
  | nil => simp
  | cons reference rest ih =>
    unfold checkReferences at checked
    split at checked
    · cases checked
    · next valid =>
      split at checked
      · cases checked
      · next fresh =>
        obtain ⟨others, distinct⟩ := ih checked
        refine ⟨List.forall_mem_cons.mpr ⟨⟨by simpa [validObjectReference, validDesiredReference] using valid,
          by simpa using fresh⟩, fun other member => ?_⟩, List.nodup_cons.mpr ⟨fun again => ?_, distinct⟩⟩
        · obtain ⟨known, apart⟩ := others other member
          exact ⟨known, fun before => apart (List.mem_cons_of_mem _ before)⟩
        · exact (others reference again).2 List.mem_cons_self

theorem validDesiredReferences_sort {references : List String} (short : references.length ≤ 32)
    (known : ∀ reference ∈ references, validDesiredReference reference = true) (distinct : references.Nodup) :
    validDesiredReferences (sortStrings references) = true := by
  have perm : (sortStrings references).Perm references := List.perm_insertionSort _ _
  simp only [validDesiredReferences, Bool.and_eq_true, decide_eq_true_eq, List.all_eq_true]
  exact ⟨⟨perm.length_eq ▸ short, fun reference member => known reference (perm.mem_iff.mp member)⟩,
    perm.nodup_iff.mpr distinct⟩

theorem referenceList_ok {lookup : LookupEnv} {name : String} {references : List String}
    (listed : referenceList lookup name = .ok references) : validDesiredReferences references = true := by
  unfold referenceList at listed
  split at listed
  · cases listed
    decide
  · split at listed
    · cases listed
      decide
    · simp only [guard_eq_ok, bind_eq_ok] at listed
      obtain ⟨short, _, checked, same⟩ := listed
      cases same
      obtain ⟨known, distinct⟩ := checkReferences_ok checked
      exact validDesiredReferences_sort (by omega) (fun reference member => (known reference member).1) distinct

theorem valid_of_loaded {lookup : LookupEnv} {configuration : ExecutionIntentConfig}
    (loaded : loadExecutionIntent lookup = .ok configuration) : configuration.Valid := by
  simp only [loadExecutionIntent, bind_eq_ok] at loaded
  obtain ⟨images, loadedImages, workspace, loadedWorkspace, storage, loadedStorage, artifact, loadedArtifact, configurationRefs,
    listed, secretRefs, listedSecrets, same⟩ := loaded
  cases same
  refine ⟨?_, ?_, ?_, ?_, referenceList_ok listed, referenceList_ok listedSecrets⟩
  · simp only [loadRunnerImages, guard_eq_ok, Bool.not_eq_true', Bool.not_eq_false] at loadedImages
    obtain ⟨-, -, valid, same⟩ := loadedImages
    cases same
    exact valid
  · unfold loadWorkspaceSize at loadedWorkspace
    split at loadedWorkspace
    · cases loadedWorkspace
    · split at loadedWorkspace
      · cases loadedWorkspace
      · split at loadedWorkspace
        · cases loadedWorkspace
        · cases loadedWorkspace
          dsimp only
          omega
  · simp only [loadStorageClass, guard_eq_ok] at loadedStorage
    obtain ⟨valid, same⟩ := loadedStorage
    cases same
    by_cases empty : trimSpace ((lookup "AGENTFORGE_SCHEDULER_STORAGE_CLASS").getD "") = ""
    · exact .inl empty
    · exact .inr (by simpa [empty, validObjectReference, validDesiredReference] using valid)
  · unfold loadArtifactDestination at loadedArtifact
    split at loadedArtifact
    · cases loadedArtifact
    · split at loadedArtifact
      · next valid =>
        cases loadedArtifact
        exact valid
      · cases loadedArtifact

/-- The image that a runtime has in an accepted configuration. -/
theorem ExecutionIntentConfig.Valid.image {configuration : ExecutionIntentConfig} (valid : configuration.Valid)
    {runtime image : String} (found : configuration.runnerImages.find runtime = some image) :
    matchesIdentifier 119 runtime = true ∧ image.utf8ByteSize ≤ 512 ∧ matchesDigestImage image = true := by
  have member : (runtime, image) ∈ configuration.runnerImages := by
    obtain ⟨before, after, split, -⟩ := List.lookup_eq_some_iff.mp found
    exact List.mem_reverse.mp (split ▸ by simp)
  have checked := List.all_eq_true.mp valid.images _ member
  simpa [found, and_assoc] using checked

/-! ## Desired states -/

section Intent

variable {input : NewAgentRunInput} {id : UUID} {now : Time} {run : AgentRun}

/-- The desired state of an accepted run is valid for all its attempts exactly if the prompt reference matches the pattern. -/
theorem desiredState_valid {configuration : ExecutionIntentConfig} (accepted : Events.Accepted input id now run)
    (valid : configuration.Valid) {desired : AgentRunDesiredState} (built : configuration.desiredState run "standard" = .ok desired)
    {attempt : Int} (first : 1 ≤ attempt) (last : attempt ≤ run.maxAttempts) :
    desired.validate attempt = .ok () ↔ matchesTaskReference run.promptReference = true := by
  unfold ExecutionIntentConfig.desiredState at built
  split at built
  · cases built
  · next image found =>
    cases built
    obtain ⟨runtime, size, digest⟩ := valid.image found
    obtain ⟨cpu, cpu'⟩ := accepted.cpu
    obtain ⟨memory, memory'⟩ := accepted.memory
    obtain ⟨timeout, timeout'⟩ := accepted.timeout
    obtain ⟨workspace, workspace'⟩ := valid.workspace
    have artifact := valid.artifact
    have prompt : run.promptReference.utf8ByteSize ≤ 2048 := by
      have within := accepted.prompt
      simp only [lengthWithin, Bool.and_eq_true, decide_eq_true_eq] at within
      exact within.2
    have attempts := accepted.attempts.2
    have bounded : attempt ≤ 10 := by omega
    have profile : matchesIdentifier 62 "standard" = true := by decide
    have storage : (configuration.storageClassName == "" || validDesiredReference configuration.storageClassName) = true := by
      rcases valid.storageClass with empty | named
      · simp [empty]
      · simp [named]
    have categories : validateCategories [] [.transientDependency, .internal] = .ok () := by decide
    simp only [AgentRunDesiredState.validate, guard_eq_ok, bind_eq_ok]
    constructor
    · rintro ⟨formed, -⟩
      simp only [Bool.not_eq_true', Bool.not_eq_false, AgentRunDesiredState.wellFormed, Bool.and_eq_true] at formed
      tauto
    · intro matched
      refine ⟨?_, (), categories, ?_⟩
      · simp [AgentRunDesiredState.wellFormed, *]
      · rw [if_neg (by simp [valid.configurationRefs, valid.secretRefs])]
        rfl

end Intent

/-! ## A configuration for a runtime -/

def trustedImage : String := "runner@sha256:0123456789abcdef0123456789abcdef0123456789abcdef0123456789abcdef"

/-- The variables of a configuration with one runtime. -/
def trustedLookup (runtime : String) : LookupEnv := fun name =>
  if name = "AGENTFORGE_SCHEDULER_RUNNER_IMAGES" then some (JsonText.marshal (.obj [(runtime, .str trustedImage)]))
  else if name = "AGENTFORGE_SCHEDULER_WORKSPACE_SIZE_GIB" then some "1"
  else if name = "AGENTFORGE_SCHEDULER_ARTIFACT_DESTINATION_REF" then some "artifacts"
  else none

def trustedConfig (runtime : String) : ExecutionIntentConfig := ⟨[(runtime, trustedImage)], 1, "", "artifacts", [], []⟩

theorem loadRunnerImages_trusted {runtime : String} (named : matchesIdentifier 119 runtime = true) :
    loadRunnerImages (trustedLookup runtime) = .ok [(runtime, trustedImage)] := by
  have looked : trustedLookup runtime "AGENTFORGE_SCHEDULER_RUNNER_IMAGES" =
      some (JsonText.marshal (.obj [(runtime, .str trustedImage)])) := if_pos rfl
  have filled : isBlank (JsonText.marshal (.obj [(runtime, .str trustedImage)])) = false :=
    Events.isBlank_eq_false (c := '\x7b') (by simp [JsonText.marshal, JsonText.print]) (by decide)
  have read : JsonText.unmarshal (JsonText.marshal (.obj [(runtime, .str trustedImage)])) =
      some (.obj [(runtime, .str trustedImage)]) :=
    JsonText.unmarshal_marshal (by simp [Json.depth, Json.membersDepth, JsonText.maxNesting])
  have valid : validImages [(runtime, trustedImage)] = true := by
    have image : trustedImage.utf8ByteSize ≤ 512 ∧ matchesDigestImage trustedImage = true := by decide +kernel
    simp [validImages, JsonText.TextMap.find, named, image]
  simp only [loadRunnerImages, guard_eq_ok, looked, Option.getD_some, filled, read]
  refine ⟨by simp, by simp [JsonText.asTextMap, Json.asString], ?_, ?_⟩
  · simp [JsonText.asTextMap, Json.asString, valid]
  · simp [JsonText.asTextMap, Json.asString]
    rfl

theorem loadExecutionIntent_trusted {runtime : String} (named : matchesIdentifier 119 runtime = true) :
    loadExecutionIntent (trustedLookup runtime) = .ok (trustedConfig runtime) := by
  -- the other variables do not depend on the runtime
  have rest : ∀ name ≠ "AGENTFORGE_SCHEDULER_RUNNER_IMAGES", trustedLookup runtime name = trustedLookup "python" name :=
    fun name other => by rw [trustedLookup, if_neg other, trustedLookup, if_neg other]
  have size : loadWorkspaceSize (trustedLookup runtime) = .ok 1 := by
    rw [loadWorkspaceSize, rest _ (by decide)]
    decide +kernel
  have storage : loadStorageClass (trustedLookup runtime) = .ok "" := by
    rw [loadStorageClass, rest _ (by decide)]
    decide +kernel
  have artifact : loadArtifactDestination (trustedLookup runtime) = .ok "artifacts" := by
    rw [loadArtifactDestination, rest _ (by decide)]
    decide +kernel
  have configurationRefs : referenceList (trustedLookup runtime) "AGENTFORGE_SCHEDULER_CONFIGURATION_REFS" = .ok [] := by
    rw [referenceList, rest _ (by decide)]
    decide +kernel
  have secretRefs : referenceList (trustedLookup runtime) "AGENTFORGE_SCHEDULER_SECRET_REFS" = .ok [] := by
    rw [referenceList, rest _ (by decide)]
    decide +kernel
  rw [loadExecutionIntent, loadRunnerImages_trusted named, size, storage, artifact, configurationRefs, secretRefs]
  rfl

/-! ## Acceptance -/

section Acceptance

variable {F : Events.Format} {input : NewAgentRunInput} {id attemptID eventID : UUID} {now : Time} {run : AgentRun}
  {attempt : AgentRunAttempt}

/-- No later layer rejects the run: its event is built, and every accepted configuration with an image for its runtime gives
desired states that are valid for all its attempts. -/
structure NeverRejected (F : Events.Format) (run : AgentRun) (attempt : AgentRunAttempt) (eventID : UUID) : Prop where
  event : ∃ event, Events.newAgentRunRequested F run attempt eventID = .ok event
  desired : ∀ lookup configuration desired number, loadExecutionIntent lookup = .ok configuration →
    configuration.desiredState run "standard" = .ok desired → 1 ≤ number → number ≤ run.maxAttempts →
    desired.validate number = .ok ()

/-- An accepted run is never rejected later exactly if the clock shows a time that JSON can hold, `url.Parse` finds a scheme in
the prompt reference, which has `://` in it, and a reference whose runtime can have an image matches the pattern of tasks. -/
theorem neverRejected_iff (made : newAgentRun input id now = .ok run)
    (first : newAgentRunAttempt attemptID run.tenantID run.id 1 now = .ok attempt) (tenant : input.tenantID.validV7 = true)
    (project : input.projectID.validV7 = true) (isRun : id.validV7 = true) (event : eventID.validV7 = true) :
    NeverRejected F run attempt eventID ↔
      now ≠ 0 ∧ Events.isWritable now = true ∧ Events.isPromptURL F (trimSpace input.promptReference) = true ∧
        (matchesIdentifier 119 (trimSpace input.runtime) = true →
          matchesTaskReference (trimSpace input.promptReference) = true) := by
  have accepted := Events.accepted_of_new made
  have number : attempt.attemptNumber = 1 := by rw [(newAgentRunAttempt_ok first).2]
  have built := @Events.newAgentRunRequested_iff F input id eventID now run attempt accepted number tenant project isRun event
  have prompt : run.promptReference = trimSpace input.promptReference := by
    rw [accepted.run_eq]
    rfl
  have runtime : run.runtime = trimSpace input.runtime := by
    rw [accepted.run_eq]
    rfl
  rw [← prompt, ← runtime]
  constructor
  · rintro ⟨event, desired⟩
    obtain ⟨occurred, writable, url⟩ := built.mp event
    refine ⟨occurred, writable, url, fun named => ?_⟩
    have loaded := loadExecutionIntent_trusted named
    have image : ∃ desired, (trustedConfig run.runtime).desiredState run "standard" = .ok desired := by
      rw [ExecutionIntentConfig.desiredState, show (trustedConfig run.runtime).runnerImages.find run.runtime =
        some trustedImage by simp [trustedConfig, JsonText.TextMap.find]]
      exact ⟨_, rfl⟩
    obtain ⟨_, image⟩ := image
    have valid := desired _ _ _ 1 loaded image (le_refl _) accepted.attempts.1
    exact (desiredState_valid accepted (valid_of_loaded loaded) image (le_refl _) accepted.attempts.1).mp valid
  · rintro ⟨occurred, writable, url, matched⟩
    refine ⟨built.mpr ⟨occurred, writable, url⟩, fun lookup configuration desired number loaded state low high => ?_⟩
    have valid := valid_of_loaded loaded
    refine (desiredState_valid accepted valid state low high).mpr (matched ?_)
    unfold ExecutionIntentConfig.desiredState at state
    split at state
    · cases state
    · next found => exact (valid.image found).1

end Acceptance

namespace IntentSample

def id (last : BitVec 8) : UUID := ⟨#v[0x01, 0x92, 0, 0, 0, 0, 0x70, 0, 0x80, 0, 0, 0, 0, 0, 0, last]⟩

def input (promptReference : String) : NewAgentRunInput where
  tenantID := id 1
  projectID := id 2
  promptReference := promptReference
  runtime := "python"
  cpuMillis := 500
  memoryMiB := 512
  timeoutSeconds := 600
  maxAttempts := 3
  idempotencyKey := "key"
  requestHash := "hash"
  createdBy := "user"

def run (promptReference : String) : AgentRun := (input promptReference).run (id 3) 1000000000

def attempt : AgentRunAttempt where
  id := id 4
  tenantID := id 1
  runID := id 3
  attemptNumber := 1
  status := .pending
  failureCategory := .none
  version := 1
  assignment := none
  workloadReference := ""
  createdAt := 1000000000
  updatedAt := 1000000000
  startedAt := none
  completedAt := none

theorem neverRejected_sample :
    NeverRejected Events.Plain.format (run "https://example.com/task") attempt (id 5) :=
  (@neverRejected_iff Events.Plain.format (input "https://example.com/task") (id 3) (id 4) (id 5) 1000000000 _ attempt
    (by decide +kernel) (by decide +kernel) (by decide) (by decide) (by decide) (by decide)).mpr (by decide +kernel)

/-- A scheme in capital letters: `url.Parse` accepts it, so that the run and its event are stored, and the desired state of the
run is refused. -/
theorem intent_rejected :
    newAgentRun (input "HTTPS://example.com/task") (id 3) 1000000000 = .ok (run "HTTPS://example.com/task") ∧
    (∃ event, Events.newAgentRunRequested Events.Plain.format (run "HTTPS://example.com/task") attempt (id 5) = .ok event) ∧
    loadExecutionIntent (trustedLookup "python") = .ok (trustedConfig "python") ∧
    ∃ desired, (trustedConfig "python").desiredState (run "HTTPS://example.com/task") "standard" = .ok desired ∧
      desired.validate 1 = .error "AgentRun desired state is invalid" := by
  have made : newAgentRun (input "HTTPS://example.com/task") (id 3) 1000000000 = .ok (run "HTTPS://example.com/task") := by
    decide +kernel
  have built := @Events.newAgentRunRequested_iff Events.Plain.format _ _ (id 5) _ _ attempt (Events.accepted_of_new made) rfl
    (by decide) (by decide) (by decide) (by decide)
  exact ⟨made, built.mpr (by decide +kernel), loadExecutionIntent_trusted (by decide), _, rfl, by decide +kernel⟩

end IntentSample

end AgentForge.Platform
