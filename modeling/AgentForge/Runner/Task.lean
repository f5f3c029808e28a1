import AgentForge.Operator.JobInvariant
import AgentForge.Runner.Config

/-!
# The signed task

`LoadSignedTask` (`agent-runner/internal/runner/task.go`). The envelope is read from a mounted Secret, its signature is checked
against a key of a mounted trust bundle, and its identity against the runtime configuration. The identity has the number of the
attempt in it, and an envelope that was signed for one attempt is refused for every other (`accepts_retry`).
-/

set_option autoImplicit false

namespace AgentForge.Runner

open Lib Operator

/-! ## The library -/

structure TaskURL where
  scheme : String
  host : String
  path : String
  deriving DecidableEq

/-- The functions of other modules that the check calls. -/
structure Verifier where
  /-- `url.Parse`. -/
  parseURL : String → Option TaskURL
  /-- `base64.StdEncoding.DecodeString`. -/
  decodeBase64 : String → Option (List UInt8)
  /-- `ed25519.Verify` of a key, a message and a signature. -/
  verify : List UInt8 → String → List UInt8 → Bool

/-- `ed25519.PublicKeySize`. -/
def publicKeySize : Nat := 32

/-! ## The envelope -/

structure TaskEnvelope where
  schemaVersion : Int
  keyID : String
  tenantID : String
  projectID : String
  runID : String
  attemptID : String
  attempt : Int
  template : String
  tests : List (List String)
  deriving DecidableEq

def TaskEnvelope.zero : TaskEnvelope := ⟨0, "", "", "", "", "", 0, "", []⟩

def taskFields : List (Lib.Field TaskEnvelope) :=
  [intField "schemaVersion" fun schemaVersion t => { t with schemaVersion },
    textField "keyId" fun keyID t => { t with keyID },
    textField "tenantId" fun tenantID t => { t with tenantID },
    textField "projectId" fun projectID t => { t with projectID },
    textField "runId" fun runID t => { t with runID },
    textField "attemptId" fun attemptID t => { t with attemptID },
    intField "attempt" fun attempt t => { t with attempt },
    textField "template" fun template t => { t with template },
    sliceField "tests" asTexts fun tests t => { t with tests }]

/-- The envelope is for this execution. -/
def TaskEnvelope.identifies (task : TaskEnvelope) (config : RuntimeConfig) : Bool :=
  task.tenantID == config.tenantID && task.projectID == config.projectID && task.runID == config.runID &&
    task.attemptID == config.attemptID && task.attempt == config.attempt

def TaskEnvelope.validate (task : TaskEnvelope) (config : RuntimeConfig) : Except String Unit := do
  if task.schemaVersion ≠ 1 ∨ task.keyID = "" ∨ task.template ≠ "python-basic" ∨ task.tests = [] then
    throw "task envelope is invalid"
  if !task.identifies config then throw "task envelope identity does not match runtime config"
  if task.tests.any List.isEmpty then throw "task contains an empty test command"

/-! ## The trust bundle -/

/-- A map is added to, and emptied by `null`. -/
def trustFields : List (Lib.Field JsonText.TextMap) :=
  [.pointer "keys" JsonText.asTextMap fun found keys => (found.map (keys ++ ·)).getD []]

section Loading

variable (library : Verifier) (files : Files)

/-- The loop over the references, with the bundle found before. -/
def loadTrustBundles (root : String) : List String → Option JsonText.TextMap → Except String (Option JsonText.TextMap)
  | [], found => .ok found
  | reference :: rest, found =>
    match files (Paths.join [root, reference, "task-trust.json"]) with
    | .error .notExist => loadTrustBundles root rest found
    | .error (.other reason) => .error ("read task trust bundle: " ++ reason)
    | .ok contents =>
      if found.isSome then .error "exactly one task trust bundle is required"
      else
        match decodeFirst trustFields [] contents with
        | none => .error "decode task trust bundle"
        | some bundle => loadTrustBundles root rest (some bundle)

def loadTrustBundle (references : List String) (root : String) : Except String JsonText.TextMap :=
  match loadTrustBundles files root references none with
  | .error reason => .error reason
  | .ok none => .error "exactly one task trust bundle is required"
  | .ok (some keys) => if keys.isEmpty then .error "exactly one task trust bundle is required" else .ok keys

/-- The mount of the Secret that the reference names, if it is an approved one. -/
def taskPath (taskRef : String) (secretRefs : List String) (secretRoot : String) : Except String String := do
  match library.parseURL taskRef with
  | none => throw "taskRef must use secret://<name>/<key>"
  | some parsed =>
    if parsed.scheme ≠ "secret" ∨ parsed.host = "" ∨ parsed.path = "" then throw "taskRef must use secret://<name>/<key>"
    let key := Paths.base parsed.path
    if key = "." ∨ key = "/" ∨ parsed.path ≠ "/" ++ key ∨ !secretRefs.contains parsed.host ∨
        !matchesReferenceName parsed.host then
      throw "task reference is not an approved secret projection"
    let path := Paths.join [secretRoot, parsed.host, key]
    if Paths.dir path ≠ Paths.join [secretRoot, parsed.host] then throw "task reference escapes secret mount"
    return path

/-- The envelope with a valid signature. -/
def loadVerifiedTask (taskRef : String) (secretRefs configurationRefs : List String) (secretRoot configRoot : String) :
    Except String TaskEnvelope := do
  let path ← taskPath library taskRef secretRefs secretRoot
  match files path, files (path ++ ".sig") with
  | .error e, _ => throw ("read task envelope: " ++ e.text)
  | .ok _, .error e => throw ("read task signature: " ++ e.text)
  | .ok body, .ok signatureText =>
    match decodeFirst taskFields .zero body with
    | none => throw "decode task envelope"
    | some task =>
      let keyring ← loadTrustBundle files configurationRefs configRoot
      match keyring.find task.keyID with
      | none => throw "task signing key is not trusted"
      | some encoded =>
        match library.decodeBase64 encoded with
        | none => throw "task signing key is invalid"
        | some publicKey =>
          if publicKey.length ≠ publicKeySize then throw "task signing key is invalid"
          match library.decodeBase64 signatureText with
          | none => throw "task signature is invalid"
          | some signature =>
            if !library.verify publicKey body signature then throw "task signature is invalid"
            return task

variable {library files} in
/-- What a task that loads has passed: the signature is checked on the bytes that are decoded, with the key that the
only trust bundle has under the task's key ID. -/
theorem loadVerifiedTask_eq_ok {taskRef : String} {secretRefs configurationRefs : List String}
    {secretRoot configRoot : String} {task : TaskEnvelope} :
    loadVerifiedTask library files taskRef secretRefs configurationRefs secretRoot configRoot = .ok task ↔
      ∃ path body signatureText keyring encoded publicKey signature,
        taskPath library taskRef secretRefs secretRoot = .ok path ∧ files path = .ok body ∧
        files (path ++ ".sig") = .ok signatureText ∧ decodeFirst taskFields .zero body = some task ∧
        loadTrustBundle files configurationRefs configRoot = .ok keyring ∧ keyring.find task.keyID = some encoded ∧
        library.decodeBase64 encoded = some publicKey ∧ publicKey.length = publicKeySize ∧
        library.decodeBase64 signatureText = some signature ∧ library.verify publicKey body signature = true := by
  rw [loadVerifiedTask]
  constructor
  · intro loaded
    obtain ⟨path, isPath, loaded⟩ := bind_eq_ok.mp loaded
    split at loaded
    · cases loaded
    · cases loaded
    next body signatureText isBody isSignature =>
      split at loaded
      · cases loaded
      next decoded isDecoded =>
        obtain ⟨keyring, isKeyring, loaded⟩ := bind_eq_ok.mp loaded
        split at loaded
        · cases loaded
        next encoded isEncoded =>
          split at loaded
          · cases loaded
          next publicKey isKey =>
            obtain ⟨sized, loaded⟩ := guard_eq_ok.mp loaded
            split at loaded
            · cases loaded
            next signature isBytes =>
              obtain ⟨verified, loaded⟩ := guard_eq_ok.mp loaded
              cases loaded
              exact ⟨path, body, signatureText, keyring, encoded, publicKey, signature, isPath, isBody, isSignature,
                isDecoded, isKeyring, isEncoded, isKey, Decidable.of_not_not sized, isBytes, by simpa using verified⟩
  · rintro ⟨path, body, signatureText, keyring, encoded, publicKey, signature, isPath, isBody, isSignature, isDecoded,
      isKeyring, isEncoded, isKey, sized, isBytes, verified⟩
    refine bind_eq_ok.mpr ⟨path, isPath, ?_⟩
    simp only [isBody, isSignature, isDecoded]
    refine bind_eq_ok.mpr ⟨keyring, isKeyring, ?_⟩
    simp only [isEncoded, isKey, isBytes]
    exact guard_eq_ok.mpr ⟨not_not_intro sized, guard_eq_ok.mpr ⟨by simp [verified], rfl⟩⟩

def loadSignedTask (config : RuntimeConfig) (secretRoot configRoot : String) : Except String TaskEnvelope := do
  let task ← loadVerifiedTask library files config.taskRef config.secretRefs config.configurationRefs secretRoot configRoot
  task.validate config
  return task

end Loading

def defaultSecretRoot : String := "/var/run/agentforge/secrets"

def defaultConfigRoot : String := "/etc/agentforge/config"

def configPath : String := "/etc/agentforge/runtime/config.json"

/-! ## Retries -/

section Retries

variable {ext : Externals} {library : Verifier} {mounts : Files} {run failed : AgentRun}

/-- The runner accepts the signed task with the configuration that the operator writes for the run. -/
def Accepts (ext : Externals) (library : Verifier) (mounts : Files) (run : AgentRun) : Prop :=
  ∃ config task, loadRuntimeConfig (fun _ => .ok (ext.marshalJSON (runnerConfiguration run))) configPath = .ok config ∧
    loadSignedTask library mounts config defaultSecretRoot defaultConfigRoot = .ok task

theorem validate_identifies {task : TaskEnvelope} {config : RuntimeConfig} (valid : task.validate config = .ok ()) :
    task.identifies config = true := by
  simp only [TaskEnvelope.validate, guard_eq_ok, Bool.not_eq_true', Bool.not_eq_false] at valid
  exact valid.2.1

/-- The runner reads the configuration that the operator wrote. -/
theorem loadRuntimeConfig_written (json : ext.marshalJSON = JsonText.marshal) (checked : Checked run) :
    loadRuntimeConfig (fun _ => .ok (ext.marshalJSON (runnerConfiguration run))) configPath =
      (runtimeConfig run).check.map fun _ => runtimeConfig run := by
  rw [json]
  generalize files : (fun _ => Except.ok (JsonText.marshal (runnerConfiguration run)) : Files) = mounted
  have mount : mounted configPath = .ok (JsonText.marshal (runnerConfiguration run)) := by rw [← files]
  exact loadRuntimeConfig_mounted checked.attempt checked.timeout (by decide) mount

theorem loaded_eq {config : RuntimeConfig} (json : ext.marshalJSON = JsonText.marshal) (checked : Checked run)
    (loaded : loadRuntimeConfig (fun _ => .ok (ext.marshalJSON (runnerConfiguration run))) configPath = .ok config) :
    runtimeConfig run = config := by
  rw [loadRuntimeConfig_written json checked] at loaded
  cases passed : (runtimeConfig run).check with
  | error reason =>
    rw [passed] at loaded
    exact nomatch loaded
  | ok _ =>
    rw [passed] at loaded
    exact Except.ok.inj loaded

/-- An accepted task has the attempt of the run. -/
theorem Accepts.attempt (json : ext.marshalJSON = JsonText.marshal) (checked : Checked run)
    (accepts : Accepts ext library mounts run) :
    ∃ task, loadVerifiedTask library mounts run.spec.taskRef (referenceNames run.spec.secretRefs.items)
      (referenceNames run.spec.configurationRefs.items) defaultSecretRoot defaultConfigRoot = .ok task ∧
      task.attempt = currentAttempt run := by
  obtain ⟨config, task, loaded, signed⟩ := accepts
  obtain rfl := loaded_eq json checked loaded
  simp only [loadSignedTask, bind_eq_ok] at signed
  obtain ⟨task', verified, _, valid, last⟩ := signed
  have identifies := validate_identifies valid
  simp only [TaskEnvelope.identifies, Bool.and_eq_true, beq_iff_eq] at identifies
  exact ⟨task', verified, identifies.2⟩

/-- A task that is accepted for one attempt is accepted for no other. -/
theorem accepts_retry (json : ext.marshalJSON = JsonText.marshal) (checked : Checked run) (checkedFailed : Checked failed)
    (same : failed.spec = run.spec) (first : Accepts ext library mounts run) (second : Accepts ext library mounts failed) :
    currentAttempt failed = currentAttempt run := by
  obtain ⟨task, loaded, attempt⟩ := first.attempt json checked
  obtain ⟨task', loaded', attempt'⟩ := second.attempt json checkedFailed
  rw [same, loaded] at loaded'
  cases loaded'
  exact attempt'.symm.trans attempt

/-- The retry policy lets the operator start another attempt after the scheduled one. -/
def CanRetry (spec : AgentRunSpec) : Prop :=
  spec.attempt < spec.retryPolicy.maxAttempts ∧ spec.attempt < 10 ∧
    ∃ category ∈ spec.retryPolicy.retryableFailureCategories.items, category = .transientDependency ∨ category = .internal

/-- The controller and the builder accept the run. -/
structure Built (ext : Externals) (b : Builder) (run : AgentRun) : Prop where
  valid : validateAgentRun ext run = .ok ()
  resolved : ∃ context, b.resolve ext run = .ok context

theorem Built.checked {b : Builder} (built : Built ext b run) : Checked run := by
  obtain ⟨context, resolved⟩ := built.resolved
  exact checked_of_built built.valid resolved

/-- The run after its scheduled attempt has failed for a reason. -/
def failedFirst (run : AgentRun) (category : FailureCategory) : AgentRun :=
  run.withStatus { attempt := run.spec.attempt, phase := some .failed, failureCategory := some category }

theorem retryAllowed_failedFirst {category : FailureCategory}
    (retryable : category = .transientDependency ∨ category = .internal)
    (listed : category ∈ run.spec.retryPolicy.retryableFailureCategories.items)
    (more : run.spec.attempt < run.spec.retryPolicy.maxAttempts) : retryAllowed (failedFirst run category) = true := by
  rcases retryable with rfl | rfl <;>
    simp [retryAllowed, failedFirst, AgentRun.withStatus, currentAttempt, more, listed]

theorem currentAttempt_advance (failed : AgentRun) : currentAttempt (advanceAttempt failed) = currentAttempt failed + 1 := by
  have started := currentAttempt_ge failed
  change (if currentAttempt failed + 1 ≥ failed.spec.attempt then currentAttempt failed + 1 else failed.spec.attempt) = _
  exact if_pos (by omega)

/-- The next attempt is built like the scheduled one. -/
theorem Built.next {b : Builder} (built : Built ext b run) {category : FailureCategory}
    (more : run.spec.attempt < run.spec.retryPolicy.maxAttempts) (bounded : run.spec.attempt < 10) :
    Built ext b (advanceAttempt (failedFirst run category)) := by
  have checked := built.checked
  have scheduled : currentAttempt (failedFirst run category) = run.spec.attempt := if_pos (le_refl _)
  have attempt := currentAttempt_advance (failedFirst run category)
  rw [scheduled] at attempt
  have identified := checked.identities run.spec.runID (by simp)
  have low : 1 ≤ run.spec.attempt := by
    have valid := built.valid
    unfold validateAgentRun at valid
    split at valid
    · cases valid
    · split at valid
      · cases valid
      · next accepted => exact (validateSpec_attempt accepted).2.1
  have named : forAgentRun (advanceAttempt (failedFirst run category)) =
      .ok (namesOf run.spec.runID (run.spec.attempt + 1)) := by
    refine forAgentRun_eq_ok.mpr ⟨identified, ?_, ?_, ?_, ?_⟩
    · omega
    · rw [attempt]
      exact more
    · omega
    · rw [attempt]
      rfl
  constructor
  · have valid := built.valid
    unfold validateAgentRun at valid ⊢
    rw [named]
    split at valid
    · cases valid
    · next generation =>
      split at valid
      · cases valid
      · next accepted =>
        rw [if_neg (show ¬ (advanceAttempt (failedFirst run category)).metadata.generation < 1 from generation),
          show (advanceAttempt (failedFirst run category)).spec = run.spec from rfl, accepted]
  · obtain ⟨context, resolved⟩ := built.resolved
    simp only [Builder.resolve, Builder.select, guard_eq_ok, bind_eq_ok] at resolved ⊢
    obtain ⟨selected, ⟨persisted, identity, _, validated, names, -, profile, chosen, egress, allowed, -⟩, -⟩ := resolved
    exact ⟨_, _, ⟨persisted, identity, _, validated, _, named, _, chosen, _, allowed, rfl⟩, rfl⟩

/-- Every retry of a run whose task is accepted is accepted too, exactly if there are no retries. -/
theorem accepts_retries_iff {b : Builder} (json : ext.marshalJSON = JsonText.marshal) (built : Built ext b run)
    (scheduled : currentAttempt run = run.spec.attempt) (first : Accepts ext library mounts run) :
    (∀ failed : AgentRun, failed.spec = run.spec → retryAllowed failed = true → Built ext b (advanceAttempt failed) →
      Accepts ext library mounts (advanceAttempt failed)) ↔ ¬ CanRetry run.spec := by
  constructor
  · rintro accepted ⟨more, bounded, category, listed, retryable⟩
    have next : Built ext b (advanceAttempt (failedFirst run category)) := built.next more bounded
    have second := accepted (failedFirst run category) rfl (retryAllowed_failedFirst retryable listed more) next
    have same := accepts_retry json built.checked next.checked rfl first second
    rw [currentAttempt_advance, scheduled] at same
    have attempt : currentAttempt (failedFirst run category) = run.spec.attempt := if_pos (le_refl _)
    omega
  · intro refused failed same allowed next
    refine absurd ?_ refused
    have started := currentAttempt_ge failed
    have bounded := next.checked.attempt.2
    rw [currentAttempt_advance] at bounded
    simp only [retryAllowed, Bool.and_eq_true, beq_iff_eq, decide_eq_true_eq] at allowed
    obtain ⟨⟨⟨-, current⟩, more⟩, listed⟩ := allowed
    rw [same] at started more listed
    refine ⟨by omega, by omega, ?_⟩
    split at listed
    · exact ⟨_, by simpa using listed, .inl rfl⟩
    · exact ⟨_, by simpa using listed, .inr rfl⟩
    · cases listed

end Retries

/-! ## A signed task -/

theorem decodeFirst_marshal {S : Type} {fields : List (Lib.Field S)} {zero : S} {document : Json}
    (shallow : document.depth ≤ JsonText.maxNesting) :
    decodeFirst fields zero (JsonText.marshal document) = decodeStruct true fields zero document := by
  rw [decodeFirst, JsonText.firstDocument_marshal shallow, Option.bind_some]

/-- The first public key of the test vectors of RFC 8032, in base64 and decoded. -/
def sampleKey : String × List UInt8 :=
  ("11qYAYKxCrfVS/7TyWQHOg7hcvPapiMlrwIaaPcHURo=",
    [215, 90, 152, 1, 130, 177, 10, 183, 213, 75, 254, 211, 201, 100, 7, 58, 14, 225, 114, 243, 218, 166, 35, 37, 175, 2, 26,
      104, 247, 7, 81, 26])

/-- The signature of the sample's task with that key, in base64 and decoded. -/
def sampleSignature : String × List UInt8 :=
  ("Pxs1AaLzEnzvkY3Pa2RXaCA0YOwzQXbkvW9A4Fo73yJwgVZXWPvZ18lmc8Uqgkwo6Xe85Wt8UUGef3sBKraFCg==",
    [63, 27, 53, 1, 162, 243, 18, 124, 239, 145, 141, 207, 107, 100, 87, 104, 32, 52, 96, 236, 51, 65, 118, 228, 189, 111, 64,
      224, 90, 59, 223, 34, 112, 129, 86, 87, 88, 251, 217, 215, 201, 102, 115, 197, 42, 130, 76, 40, 233, 119, 188, 229, 107,
      124, 81, 65, 158, 127, 123, 1, 42, 182, 133, 10])

/-- One reference, one key and one signature are known. -/
def sampleVerifier : Verifier where
  parseURL := fun text => if text = "secret://task/envelope.json" then some ⟨"secret", "task", "/envelope.json"⟩ else none
  decodeBase64 := fun text => [sampleKey, sampleSignature].lookup text
  verify := fun publicKey body signature =>
    publicKey == sampleKey.2 && body == JsonText.marshal document && signature == sampleSignature.2
where
  /-- The task of the first attempt. -/
  document : Json := .obj
    [("schemaVersion", .num 1), ("keyId", .str "operator"), ("tenantId", .str sampleTenant),
      ("projectId", .str "019b0000-0000-7000-8000-00000000000b"), ("runId", .str "019b0000-0000-7000-8000-000000000001"),
      ("attemptId", .str "019b0000-0000-7000-8000-00000000000c"), ("attempt", .num 1), ("template", .str "python-basic"),
      ("tests", .arr [.arr [.str "pytest"]])]

def trustDocument : Json := .obj [("keys", .obj [("operator", .str sampleKey.1)])]

/-- The task, its signature and the trust bundle are mounted. -/
def sampleMounts : Files := fun path =>
  if path = "/var/run/agentforge/secrets/task/envelope.json" then .ok (JsonText.marshal sampleVerifier.document)
  else if path = "/var/run/agentforge/secrets/task/envelope.json.sig" then .ok sampleSignature.1
  else if path = "/etc/agentforge/config/trust/task-trust.json" then .ok (JsonText.marshal trustDocument)
  else .error .notExist

def sampleTask : TaskEnvelope :=
  ⟨1, "operator", sampleTenant, "019b0000-0000-7000-8000-00000000000b", "019b0000-0000-7000-8000-000000000001",
    "019b0000-0000-7000-8000-00000000000c", 1, "python-basic", [["pytest"]]⟩

/-- The files that the check reads. -/
def Mounted (files : Files) : Prop :=
  ∀ path ∈ ["/var/run/agentforge/secrets/task/envelope.json", "/var/run/agentforge/secrets/task/envelope.json.sig",
    "/etc/agentforge/config/trust/task-trust.json", "/etc/agentforge/config/settings/task-trust.json"],
    files path = sampleMounts path

/-- Where the files of the sample are looked for: the two places for a trust bundle, and the task. -/
def MountedPaths : Type :=
  {paths : String × String × String //
    Paths.join [defaultConfigRoot, "settings", "task-trust.json"] = paths.1 ∧
    Paths.join [defaultConfigRoot, "trust", "task-trust.json"] = paths.2.1 ∧
    taskPath sampleVerifier "secret://task/envelope.json" ["task"] defaultSecretRoot = .ok paths.2.2}

def samplePaths : MountedPaths :=
  ⟨("/etc/agentforge/config/settings/task-trust.json", "/etc/agentforge/config/trust/task-trust.json",
    "/var/run/agentforge/secrets/task/envelope.json"), by decide +kernel⟩

theorem loadTrustBundle_sample {files : Files} (mounted : Mounted files) :
    loadTrustBundle files ["settings", "trust"] defaultConfigRoot = .ok [("operator", sampleKey.1)] := by
  have settings : Paths.join [defaultConfigRoot, "settings", "task-trust.json"] =
      "/etc/agentforge/config/settings/task-trust.json" := samplePaths.2.1
  have trust : Paths.join [defaultConfigRoot, "trust", "task-trust.json"] =
      "/etc/agentforge/config/trust/task-trust.json" := samplePaths.2.2.1
  have absent : files "/etc/agentforge/config/settings/task-trust.json" = .error .notExist := mounted _ (by simp)
  have present : files "/etc/agentforge/config/trust/task-trust.json" = .ok (JsonText.marshal trustDocument) :=
    mounted _ (by simp)
  have decoded : decodeFirst trustFields [] (JsonText.marshal trustDocument) = some [("operator", sampleKey.1)] := by
    rw [decodeFirst_marshal (by decide)]
    decide +kernel
  simp [loadTrustBundle, loadTrustBundles, settings, trust, absent, present, decoded]

theorem loadVerifiedTask_sample {files : Files} (mounted : Mounted files) :
    loadVerifiedTask sampleVerifier files "secret://task/envelope.json" ["task"] ["settings", "trust"] defaultSecretRoot
      defaultConfigRoot = .ok sampleTask := by
  have path : taskPath sampleVerifier "secret://task/envelope.json" ["task"] defaultSecretRoot =
      .ok "/var/run/agentforge/secrets/task/envelope.json" := samplePaths.2.2.2
  have body : files "/var/run/agentforge/secrets/task/envelope.json" = .ok (JsonText.marshal sampleVerifier.document) :=
    mounted _ (by simp)
  have signature : files ("/var/run/agentforge/secrets/task/envelope.json" ++ ".sig") = .ok sampleSignature.1 :=
    mounted _ (by simp)
  have decoded : decodeFirst taskFields .zero (JsonText.marshal sampleVerifier.document) = some sampleTask := by
    rw [decodeFirst_marshal (by decide)]
    decide +kernel
  have verified : sampleVerifier.verify sampleKey.2 (JsonText.marshal sampleVerifier.document) sampleSignature.2 =
      true := by simp [sampleVerifier]
  exact loadVerifiedTask_eq_ok.mpr ⟨_, _, _, _, _, _, _, path, body, signature, decoded, loadTrustBundle_sample mounted, rfl,
    by decide +kernel, rfl, by decide +kernel, verified⟩

theorem runtimeConfig_sample : runtimeConfig (sampleRun sampleTenant) =
    ⟨1, sampleTenant, "019b0000-0000-7000-8000-00000000000b", "019b0000-0000-7000-8000-000000000001",
      "019b0000-0000-7000-8000-00000000000c", 1, "secret://task/envelope.json", 600, ["settings", "trust"], ["task"],
      "artifacts"⟩ := by decide +kernel

theorem loadSignedTask_sample {files : Files} (mounted : Mounted files) :
    loadSignedTask sampleVerifier files (runtimeConfig (sampleRun sampleTenant)) defaultSecretRoot defaultConfigRoot =
      .ok sampleTask := by
  rw [runtimeConfig_sample, loadSignedTask, loadVerifiedTask_sample mounted]
  decide +kernel

/-- The task is accepted with every configuration that is the sample's. -/
theorem accepts_sample {run : AgentRun} (checked : Checked run)
    (same : runtimeConfig run = runtimeConfig (sampleRun sampleTenant)) :
    Accepts textExternals sampleVerifier sampleMounts run := by
  refine ⟨runtimeConfig run, sampleTask, ?_, ?_⟩
  · rw [loadRuntimeConfig_written rfl checked, same]
    decide +kernel
  · rw [same]
    exact loadSignedTask_sample fun _ _ => rfl

theorem built_sample : Built textExternals newDefaultBuilder (sampleRun sampleTenant) := by
  obtain ⟨context, resolved, -⟩ := @exists_built sampleTenant sampleAccepted.2.2
  exact ⟨sampleAccepted.2.1, context, resolved⟩

/-- The first attempt is accepted, the controller retries it, and the retry is refused because it is a retry. -/
theorem retry_refused :
    let run := sampleRun sampleTenant
    let retried := advanceAttempt (failedFirst run .transientDependency)
    Built textExternals newDefaultBuilder run ∧ Accepts textExternals sampleVerifier sampleMounts run ∧
      retryAllowed (failedFirst run .transientDependency) = true ∧ Built textExternals newDefaultBuilder retried ∧
      loadSignedTask sampleVerifier sampleMounts (runtimeConfig retried) defaultSecretRoot defaultConfigRoot =
        .error "task envelope identity does not match runtime config" ∧
      ¬ Accepts textExternals sampleVerifier sampleMounts retried := by
  have first : Accepts textExternals sampleVerifier sampleMounts (sampleRun sampleTenant) :=
    accepts_sample built_sample.checked rfl
  have next : Built textExternals newDefaultBuilder (advanceAttempt (failedFirst (sampleRun sampleTenant) .transientDependency)) :=
    built_sample.next (by decide) (by decide)
  refine ⟨built_sample, first, by decide, next, ?_, fun second => ?_⟩
  · have config : runtimeConfig (advanceAttempt (failedFirst (sampleRun sampleTenant) .transientDependency)) =
        { runtimeConfig (sampleRun sampleTenant) with attempt := 2 } := rfl
    rw [config, runtimeConfig_sample, loadSignedTask, loadVerifiedTask_sample fun _ _ => rfl]
    decide +kernel
  · have same := accepts_retry rfl built_sample.checked next.checked rfl first second
    exact absurd same (by decide)

/-- The sample without retries. -/
def unretried : AgentRun :=
  { sampleRun sampleTenant with
    spec := { sampleSpec sampleTenant with retryPolicy := ⟨1, 5, 300, some [.transientDependency]⟩ } }

/-- A run that the controller and the builder accept. -/
def AcceptedRun : Type :=
  {run : AgentRun // validateAgentRun textExternals run = .ok () ∧ (newDefaultBuilder.select run).isOk = true}

def unretriedAccepted : AcceptedRun := ⟨unretried, by decide +kernel⟩

theorem built_unretried : Built textExternals newDefaultBuilder unretried := by
  have selects : (newDefaultBuilder.select unretried).isOk = true := unretriedAccepted.2.2
  refine ⟨unretriedAccepted.2.1, ?_⟩
  cases selected : newDefaultBuilder.select unretried with
  | error reason =>
    rw [selected] at selects
    cases selects
  | ok choice =>
    rw [Builder.resolve, selected]
    exact ⟨_, rfl⟩

theorem accepts_retries_of_unretried : ¬ CanRetry unretried.spec ∧
    ∀ failed : AgentRun, failed.spec = unretried.spec → retryAllowed failed = true →
      Built textExternals newDefaultBuilder (advanceAttempt failed) →
      Accepts textExternals sampleVerifier sampleMounts (advanceAttempt failed) := by
  have single : ¬ CanRetry unretried.spec := fun retries => absurd retries.1 (by decide)
  exact ⟨single,
    (accepts_retries_iff rfl built_unretried rfl (accepts_sample built_unretried.checked rfl)).mpr single⟩

end AgentForge.Runner
