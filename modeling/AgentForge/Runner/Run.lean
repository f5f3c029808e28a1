import AgentForge.Operator.Lifecycle
import AgentForge.Runner.Artifacts

/-!
# The runner

`Run` (`agent-runner/internal/runner/runner.go`). A runner that exits with 0 has published its artifacts and written the
reference of the manifest to the termination log. The operator reads it back, but bounds the reference where the runner bounds
the message, and refuses white space that the runner lets through (`terminationEvidence_iff`).
-/

set_option autoImplicit false

namespace AgentForge.Runner

open Lib Operator

/-! ## Exits -/

/-- The codes of failures. -/
inductive ExitCode
  | config
  | policy
  | command
  | deadline
  | cancelled
  | artifacts
  | internal
  deriving DecidableEq

def ExitCode.number : ExitCode → Nat
  | config => 2
  | policy => 3
  | command => 4
  | deadline => 5
  | cancelled => 6
  | artifacts => 7
  | internal => 8

structure Failure where
  code : ExitCode
  reason : String
  deriving DecidableEq

/-- Programs that may exit. -/
abbrev Attempt := ExceptT Failure Act

def orExit {α : Type} (code : ExitCode) (about : String) : Except String α → Attempt α
  | .ok a => pure a
  | .error reason => throw ⟨code, about ++ reason⟩

def exitCode : Except Failure Unit → Nat
  | .ok () => 0
  | .error failure => failure.code.number

/-! ## Run -/

structure Options where
  configPath : String
  workspace : String
  secretRoot : String
  configRoot : String
  artifactConfigPath : String
  terminationLogPath : String

def orDefault (text fallback : String) : String := if text = "" then fallback else text

def Options.withDefaults (options : Options) : Options :=
  { options with
    secretRoot := orDefault options.secretRoot defaultSecretRoot
    configRoot := orDefault options.configRoot defaultConfigRoot
    artifactConfigPath := orDefault options.artifactConfigPath "/etc/agentforge/artifacts/config.json"
    terminationLogPath := orDefault options.terminationLogPath "/dev/termination-log" }

def writePythonTemplate (workspace template : String) : Act (Except String Unit) := do
  if template ≠ "python-basic" then return .error "unsupported controlled template"
  else
    match ← call (.writeFile (Paths.join [workspace, "app.py"]) "def add(left, right):\n    return left + right\n") with
    | .error reason => return .error reason
    | .ok () =>
      call (.writeFile (Paths.join [workspace, "test_app.py"])
        ("import unittest\nfrom app import add\n\nclass AppTest(unittest.TestCase):\n    def test_add(self):\n" ++
          "        self.assertEqual(add(2, 3), 5)\n\nif __name__ == '__main__':\n    unittest.main()\n"))

def runCommands : List (List String) → Act (Except CommandError (List CommandResult))
  | [] => return .ok []
  | command :: rest => do
    match ← call (.emit "command.started" (command.headD "")) with
    | .error reason => return .error (.other reason)
    | .ok () =>
      match ← call (.execute command) with
      | .error e => return .error e
      | .ok result =>
        match ← call (.emit "command.finished" "controlled command completed") with
        | .error reason => return .error (.other reason)
        | .ok () => return (← runCommands rest).map (result :: ·)

def runTests (workspace : String) (task : TaskEnvelope) : Act (Except CommandError (List CommandResult)) := do
  match ← call (.stat (Paths.join [workspace, "app.py"])) with
  | .error reason => return .error (.other ("controlled template check: " ++ reason))
  | .ok () =>
    match ← call (.stat (Paths.join [workspace, "test_app.py"])) with
    | .error reason => return .error (.other ("controlled template check: " ++ reason))
    | .ok () => runCommands task.tests

def CommandError.failure : CommandError → Failure
  | deadlineExceeded => ⟨.deadline, "context deadline exceeded"⟩
  | canceled => ⟨.cancelled, "context canceled"⟩
  | policy => ⟨.policy, "command violates runner policy"⟩
  | other reason => ⟨.command, reason⟩

def orFail {α : Type} : Except CommandError α → Attempt α
  | .ok a => pure a
  | .error e => throw e.failure

def terminationEvidence (reference : String) : Json := .obj
  [("schemaVersion", .num 1), ("artifactManifestRef", .str reference)]

def writeTerminationEvidence (path reference : String) : Act (Except String Unit) :=
  let contents := JsonText.marshal (terminationEvidence reference)
  if contents.utf8ByteSize > 4096 then return .error "termination evidence exceeds limit"
  else call (.writeFile path contents)

section Run

variable (library : Library) (files : Files)

/-- `Run` from the workspace to the tests. -/
def runChecks (options : Options) (config : RuntimeConfig) (task : TaskEnvelope) : Attempt (List CommandResult) := do
  orExit .internal "create workspace: " (← call (.mkdirAll options.workspace))
  orExit .config "" (← call (.newRedactor options.secretRoot config.secretRefs))
  orExit .internal "" (← call (.emit "run.started" "deterministic runner started"))
  orExit .internal "" (← writePythonTemplate options.workspace task.template)
  orExit .internal "" (← call (.emit "workspace.ready" "controlled template created"))
  let results ← orFail (← runTests options.workspace task)
  orExit .internal "" (← call (.emit "tests.passed" "controlled template checks passed"))
  return results

/-- `Run` after the tests. -/
def runPublication (options : Options) (config : RuntimeConfig) (results : List CommandResult) : Attempt Unit := do
  let store ← orExit .artifacts ""
    (← loadArtifactStore files options.artifactConfigPath options.workspace options.secretRoot config.secretRefs)
  let trajectory ← call .trajectory
  let reference ← orExit .artifacts "" (← publishArtifacts library store config options.workspace trajectory results)
  orExit .artifacts "" (← writeTerminationEvidence options.terminationLogPath reference)
  let _ ← call (.emit "run.succeeded" "mandatory artifacts are durable")

def run (options : Options) : Attempt Unit :=
  if options.workspace = "" then throw ⟨.config, "AGENTFORGE_WORKSPACE is required"⟩
  else do
    let options := options.withDefaults
    let config ← orExit .config "" (loadRuntimeConfig files options.configPath)
    let task ← orExit .config "" (loadSignedTask library.toVerifier files config options.secretRoot options.configRoot)
    let results ← runChecks options config task
    runPublication library files options config results

end Run

/-! ## References -/

namespace ArtifactStore

/-- What stands before the key in a reference. -/
def location : ArtifactStore → String
  | filesystem root => "file://" ++ (if root = "/" then root else root ++ "/")
  | s3 bucket keyPrefix => "s3://" ++ bucket ++ "/" ++ (if keyPrefix = "" then "" else keyPrefix ++ "/")

/-- A root is the canonical name of a directory. -/
def Canonical : ArtifactStore → Prop
  | filesystem root => Paths.isAbs root = true ∧ Paths.clean root = root
  | s3 .. => True

end ArtifactStore

/-- The configuration passed the runner's checks. -/
structure Named (config : RuntimeConfig) : Prop where
  attempt : 1 ≤ config.attempt
  identities : ∀ id ∈ config.identities, matchesReferenceName id = true

variable {config : RuntimeConfig}

theorem named_of_loaded {files : Files} {path : String} (loaded : loadRuntimeConfig files path = .ok config) :
    Named config := by
  unfold loadRuntimeConfig at loaded
  split at loaded
  · cases loaded
  · split at loaded
    · cases loaded
    · split at loaded
      · cases loaded
      · split at loaded
        · cases loaded
        · next checked =>
          cases loaded
          simp only [RuntimeConfig.check, guard_eq_ok, not_or, Bool.not_eq_true', Bool.not_eq_false, List.all_eq_true]
            at checked
          exact ⟨by omega, fun id member => (isName_iff id).mp (checked.2.1 id member)⟩

theorem normal_of_matchesReferenceName {name : String} (matched : matchesReferenceName name = true) :
    Paths.Normal name.toList := by
  have other : ∀ text : String, matchesReferenceName text = false → name.toList ≠ text.toList := fun text refused same => by
    rw [String.toList_injective same, refused] at matched
    cases matched
  refine ⟨other "" (by decide), other "." (by decide), other ".." (by decide), fun slash => ?_⟩
  rcases mem_matchesReferenceName matched '/' slash with lower | dash | dot
  · revert lower
    decide
  · cases dash
  · cases dot

/-- The characters of a natural number. -/
theorem toList_toString {n : Int} (positive : 1 ≤ n) : (toString n).toList = Nat.toDigits 10 n.toNat := by
  obtain ⟨k, rfl⟩ := Int.eq_ofNat_of_zero_le (by omega : 0 ≤ n)
  exact String.toList_ofList

theorem normal_toString {n : Int} (positive : 1 ≤ n) : Paths.Normal (toString n).toList := by
  have digits : ∀ c ∈ (toString n).toList, c.isDigit = true := by
    rw [toList_toString positive]
    exact JsonText.isDigit_toDigits _
  refine ⟨?_, fun same => ?_, fun same => ?_, fun slash => absurd (digits _ slash) (by decide)⟩
  · rw [toList_toString positive]
    exact Nat.toDigits_ne_nil
  · exact absurd (digits '.' (by rw [same]; decide)) (by decide)
  · exact absurd (digits '.' (by rw [same]; decide)) (by decide)

/-- The components that all keys of an execution begin with. -/
def executionComponents (config : RuntimeConfig) : List Paths.Component :=
  ["tenants", config.tenantID, "projects", config.projectID, "runs", config.runID, "attempts",
    toString config.attempt].map String.toList

theorem normal_execution (named : Named config) : ∀ c ∈ executionComponents config, Paths.Normal c := by
  have constant : ∀ text ∈ ["tenants", "projects", "runs", "attempts"], Paths.Normal text.toList := by
    intro text member
    refine ⟨?_, ?_, ?_, ?_⟩ <;> revert text <;> decide
  have identity : ∀ id ∈ config.identities, Paths.Normal id.toList := fun id member =>
    normal_of_matchesReferenceName (named.identities id member)
  simp only [executionComponents, List.map_cons, List.map_nil, List.forall_mem_cons]
  refine ⟨constant _ (by simp), identity _ ?_, constant _ (by simp), identity _ ?_, constant _ (by simp), identity _ ?_,
    constant _ (by simp), normal_toString named.attempt, by simp⟩ <;> simp [RuntimeConfig.identities]

theorem executionPrefix_eq (config : RuntimeConfig) :
    executionPrefix config = String.ofList (Paths.relative (executionComponents config)) := by
  refine String.toList_injective ?_
  simp [executionPrefix, executionComponents, Paths.relative, List.intercalate]

/-- A key of an execution, from the components below it. -/
theorem executionKey_eq (config : RuntimeConfig) {tail : List Paths.Component} (filled : tail ≠ []) :
    executionPrefix config ++ Paths.absolute tail = String.ofList (Paths.relative (executionComponents config ++ tail)) := by
  refine String.toList_injective ?_
  rw [executionPrefix_eq, Paths.relative_append (by simp [executionComponents]) filled]
  simp [Paths.absolute]

/-- The file of a key. -/
theorem filesystemPath_execution {root tail : List Paths.Component} (rootNormal : ∀ c ∈ root, Paths.Normal c)
    (named : Named config) (tailNormal : ∀ c ∈ tail, Paths.Normal c) (filled : tail ≠ []) :
    filesystemPath (Paths.absolute root) (executionPrefix config ++ Paths.absolute tail) =
      .ok (Paths.absolute (root ++ (executionComponents config ++ tail))) := by
  have keyNormal : ∀ c ∈ executionComponents config ++ tail, Paths.Normal c := fun c member =>
    (List.mem_append.mp member).elim (normal_execution named c) (tailNormal c)
  have below : (Paths.rel (Paths.absolute root) (Paths.absolute (root ++ (executionComponents config ++ tail)))).all
      Paths.escapes = false := by
    rw [Paths.rel_absolute rootNormal keyNormal]
    exact Paths.escapes_relative keyNormal
  rw [filesystemPath, if_neg, executionKey_eq config filled, Paths.join_absolute rootNormal keyNormal]
  · exact if_neg (by simp [below])
  · rw [executionPrefix_eq]
    simp [Paths.isAbs, Paths.isRooted, Paths.relative, executionComponents, List.intercalate, String.ext_iff]

/-- Components that stand for themselves, by evaluation. -/
theorem normal_constants (tail : List Paths.Component)
    (known : tail.all (fun c => c != [] && c != Paths.current && c != Paths.parent && !c.contains '/') = true) :
    ∀ c ∈ tail, Paths.Normal c := by
  intro c member
  have checked := List.all_eq_true.mp known c member
  simp only [Bool.and_eq_true, bne_iff_ne, Bool.not_eq_true', List.contains_eq_mem, decide_eq_false_iff_not] at checked
  exact ⟨checked.1.1.1, checked.1.1.2, checked.1.2, checked.2⟩

/-- A reference is the location and the key. -/
theorem reference_eq {store : ArtifactStore} (canonical : store.Canonical) (named : Named config) :
    store.reference (manifestKey config) = store.location ++ manifestKey config := by
  cases store with
  | s3 bucket keyPrefix =>
    by_cases empty : keyPrefix = ""
    · simp [ArtifactStore.reference, ArtifactStore.location, fullKey, empty]
    · simp [ArtifactStore.reference, ArtifactStore.location, fullKey, empty, String.append_assoc]
  | filesystem root =>
    obtain ⟨root, rootNormal, rfl⟩ := Paths.exists_components canonical.1 canonical.2
    have tail : "/result-manifest.json" = Paths.absolute ["result-manifest.json".toList] := by decide +kernel
    have path := filesystemPath_execution rootNormal named
      (normal_constants ["result-manifest.json".toList] (by decide +kernel)) (by simp)
    rw [← tail] at path
    have text := Paths.absolute_append rootNormal
      (show executionComponents config ++ ["result-manifest.json".toList] ≠ [] by simp)
    rw [← executionKey_eq config (by simp), ← tail] at text
    rw [ArtifactStore.reference, manifestKey, path, text, ArtifactStore.location]
    simp only [String.append_assoc]

/-! ## Evidence -/

theorem decodeEvidence_marshal (reference : String) :
    decodeEvidence (JsonText.marshal (terminationEvidence reference)) = .ok (⟨1, reference⟩, true) := by
  have decoded : decodeStruct true evidenceFields ⟨0, ""⟩ (terminationEvidence reference) = some ⟨1, reference⟩ := rfl
  have shallow : (terminationEvidence reference).depth ≤ JsonText.maxNesting := by
    simp [terminationEvidence, Json.depth, Json.membersDepth, JsonText.maxNesting]
  rw [decodeEvidence, JsonText.firstDocument_marshal shallow]
  dsimp only
  rw [decoded]
  rfl

/-- What the operator makes of a message that the runner wrote. -/
theorem parseTerminationEvidence_marshal {ext : Externals} {reference : String} (json : ext.decodeEvidence = decodeEvidence)
    (bounded : (JsonText.marshal (terminationEvidence reference)).utf8ByteSize ≤ 4096) :
    parseTerminationEvidence ext (JsonText.marshal (terminationEvidence reference)) =
      if reference.utf8ByteSize ≤ 2048 ∧ matchesManifestReference reference = true then .ok ⟨1, reference⟩
      else .error "termination evidence fields are invalid" := by
  have filled : (JsonText.marshal (terminationEvidence reference)).utf8ByteSize ≠ 0 := by
    simp [JsonText.marshal, terminationEvidence, JsonText.print, String.ext_iff]
  rw [parseTerminationEvidence, if_neg (by simp [maximumTerminationEvidenceBytes, filled, bounded]), json,
    decodeEvidence_marshal]
  by_cases short : reference.utf8ByteSize ≤ 2048
  · cases matched : matchesManifestReference reference <;> simp [matched, short]
  · simp [short, Nat.lt_of_not_le short]

/-- After a known scheme only white space matters. -/
theorem matchesManifestReference_append {scheme rest : String} (known : scheme = "file" ∨ scheme = "s3")
    (filled : rest.toList ≠ []) :
    matchesManifestReference (scheme ++ "://" ++ rest) = rest.toList.all (!isSpace ·) := by
  have nonempty : rest.toList.isEmpty = false := by simpa using filled
  rcases known with rfl | rfl <;>
    simp [matchesManifestReference, matchesReference, isSchemeCharacter, nonempty]

/-- The white space and the length that the operator accepts. -/
structure Fits (store : ArtifactStore) (config : RuntimeConfig) : Prop where
  spaceless : store.location.toList.all (!isSpace ·) = true
  short : store.location.utf8ByteSize + config.tenantID.utf8ByteSize + config.projectID.utf8ByteSize +
    config.runID.utf8ByteSize + (toString config.attempt).utf8ByteSize + 55 ≤ 2048

theorem manifestKey_append (config : RuntimeConfig) : manifestKey config =
    "tenants/" ++ config.tenantID ++ "/projects/" ++ config.projectID ++ "/runs/" ++ config.runID ++ "/attempts/" ++
      toString config.attempt ++ "/result-manifest.json" := by
  refine String.toList_injective ?_
  simp [manifestKey, executionPrefix]

theorem utf8ByteSize_manifestKey (config : RuntimeConfig) : (manifestKey config).utf8ByteSize =
    config.tenantID.utf8ByteSize + config.projectID.utf8ByteSize + config.runID.utf8ByteSize +
      (toString config.attempt).utf8ByteSize + 55 := by
  have constants : "tenants/".utf8ByteSize = 8 ∧ "/projects/".utf8ByteSize = 10 ∧ "/runs/".utf8ByteSize = 6 ∧
      "/attempts/".utf8ByteSize = 10 ∧ "/result-manifest.json".utf8ByteSize = 21 := by decide
  rw [manifestKey_append]
  simp only [String.utf8ByteSize_append]
  omega

theorem spaceless_of {text : List Char} {P : Char → Prop} (all : ∀ c ∈ text, P c)
    (other : ∀ c ∈ ['\t', '\n', '\x0c', '\r', ' '], ¬ P c) : text.all (!isSpace ·) = true := by
  simp only [List.all_eq_true, Bool.not_eq_true']
  intro c member
  by_contra space
  rw [Bool.not_eq_false] at space
  exact other c (List.contains_iff_mem.mp space) (all c member)

theorem spaceless_manifestKey (named : Named config) : (manifestKey config).toList.all (!isSpace ·) = true := by
  have identity : ∀ id ∈ config.identities, id.toList.all (!isSpace ·) = true := fun id member =>
    spaceless_of (mem_matchesReferenceName (named.identities id member)) (by simp [isLowerAlphanumeric])
  have number : (toString config.attempt).toList.all (!isSpace ·) = true := by
    rw [toList_toString named.attempt]
    exact spaceless_of (JsonText.isDigit_toDigits _) (by simp [Char.isDigit])
  have constants : "tenants/".toList.all (!isSpace ·) = true ∧ "/projects/".toList.all (!isSpace ·) = true ∧
      "/runs/".toList.all (!isSpace ·) = true ∧ "/attempts/".toList.all (!isSpace ·) = true ∧
      "/result-manifest.json".toList.all (!isSpace ·) = true := by decide
  rw [manifestKey_append]
  simp only [String.toList_append, List.all_append, number, constants, identity config.tenantID (by simp [RuntimeConfig.identities]),
    identity config.projectID (by simp [RuntimeConfig.identities]), identity config.runID (by simp [RuntimeConfig.identities]),
    Bool.and_self]

/-- The scheme of a store and what follows it. -/
theorem location_scheme (store : ArtifactStore) :
    ∃ scheme rest, (scheme = "file" ∨ scheme = "s3") ∧ store.location = scheme ++ "://" ++ rest := by
  cases store with
  | filesystem root => exact ⟨"file", _, .inl rfl, rfl⟩
  | s3 bucket keyPrefix =>
    refine ⟨"s3", bucket ++ "/" ++ (if keyPrefix = "" then "" else keyPrefix ++ "/"), .inr rfl, ?_⟩
    simp only [ArtifactStore.location, ← String.append_assoc]
    rfl

theorem fits_iff {store : ArtifactStore} (canonical : store.Canonical) (named : Named config) :
    (store.reference (manifestKey config)).utf8ByteSize ≤ 2048 ∧
      matchesManifestReference (store.reference (manifestKey config)) = true ↔ Fits store config := by
  obtain ⟨scheme, rest, known, location⟩ := location_scheme store
  have spaceless : (scheme ++ "://").toList.all (!isSpace ·) = true := by rcases known with rfl | rfl <;> decide
  have filled : (rest ++ manifestKey config).toList ≠ [] := by simp [manifestKey_append]
  have matched : matchesManifestReference (store.reference (manifestKey config)) =
      store.location.toList.all (!isSpace ·) := by
    rw [reference_eq canonical named, location, String.append_assoc, matchesManifestReference_append known filled,
      String.toList_append, List.all_append, spaceless_manifestKey named, String.toList_append, List.all_append, spaceless]
    simp
  rw [matched, reference_eq canonical named, String.utf8ByteSize_append, utf8ByteSize_manifestKey]
  constructor
  · rintro ⟨short, clear⟩
    exact ⟨clear, by omega⟩
  · rintro ⟨clear, short⟩
    exact ⟨by omega, clear⟩

/-! ## Runs that succeed -/

section Success

variable {answer : Oracle Op Op.Res} {log log' : List (Event Op Op.Res)}
  {workspace secretRoot path reference : String}

theorem consult_orExit {α : Type} {code : ExitCode} {about : String} {result : Except String α} {a : α} :
    (orExit code about result).run.consult answer log = (.ok a, log') ↔ result = .ok a ∧ log = log' := by
  cases result with
  | ok b => exact consult_pure_ok.trans (by simp)
  | error reason => exact ⟨fun same => (nomatch same), fun ⟨same, _⟩ => nomatch same⟩

/-- `EvalSymlinks` returns clean paths, and absolute ones for absolute paths. -/
def ResolvesPaths (answer : Oracle Op Op.Res) : Prop :=
  ∀ log path found, Paths.isAbs path = true → answer log (.evalSymlinks path) = .ok found →
    Paths.isAbs found = true ∧ Paths.clean found = found

theorem canonical_of_confined {root found : String} (resolves : ResolvesPaths answer)
    (confined : (confinedArtifactRoot workspace root).consult answer log = (.ok found, log')) :
    Paths.isAbs found = true ∧ Paths.clean found = found := by
  unfold confinedArtifactRoot at confined
  split at confined
  · cases confined
  · next relative =>
    rw [Prog.consult_bind] at confined
    split at confined
    · cases confined
    · rw [Prog.consult_bind] at confined
      split at confined
      · cases confined
      · rw [Prog.consult_bind] at confined
        split at confined
        · cases confined
        · next resolved =>
          split at confined
          · cases confined
          · cases confined
            exact resolves _ root _ (by simpa using relative) resolved

theorem canonical_of_s3 {files : Files} {config : ArtifactConfig} {approved : List String} {store : ArtifactStore}
    (loaded : (loadS3Store files config secretRoot approved).consult answer log = (.ok store, log')) :
    store.Canonical := by
  unfold loadS3Store at loaded
  split at loaded
  · cases loaded
  · split at loaded
    · cases loaded
    · split at loaded
      · cases loaded
      · rw [Prog.consult_bind] at loaded
        split at loaded
        · cases loaded
        · cases loaded
          trivial

theorem canonical_of_loaded {files : Files} {approved : List String} {store : ArtifactStore}
    (resolves : ResolvesPaths answer)
    (loaded : (loadArtifactStore files path workspace secretRoot approved).consult answer log = (.ok store, log')) :
    store.Canonical := by
  unfold loadArtifactStore at loaded
  split at loaded
  · cases loaded
  · split at loaded
    · cases loaded
    · next config _ =>
      split at loaded
      · cases loaded
      · split at loaded
        · split at loaded
          · cases loaded
          · rw [Prog.consult_bind] at loaded
            cases confined : (confinedArtifactRoot workspace config.root).consult answer log with
            | mk result mid =>
              rw [confined] at loaded
              cases result with
              | error reason => cases loaded
              | ok root =>
                cases loaded
                exact canonical_of_confined resolves confined
        · split at loaded
          · exact canonical_of_s3 loaded
          · cases loaded

/-- What is returned is the reference of the manifest. -/
theorem publishArtifacts_ok {library : Library} {store : ArtifactStore} {config : RuntimeConfig}
    {trajectory : String} {results : List CommandResult}
    (published : (publishArtifacts library store config workspace trajectory results).consult answer log =
      (.ok reference, log')) : reference = store.reference (manifestKey config) := by
  unfold publishArtifacts at published
  rw [Prog.consult_bind] at published
  split at published
  · cases published
  · rw [Prog.consult_bind] at published
    split at published
    · cases published
    · rw [Prog.consult_bind] at published
      split at published
      · cases published
      · cases published
        rfl

theorem writeTerminationEvidence_ok
    (written : (writeTerminationEvidence path reference).consult answer log = (.ok (), log')) :
    (JsonText.marshal (terminationEvidence reference)).utf8ByteSize ≤ 4096 ∧
      log' = ⟨.writeFile path (JsonText.marshal (terminationEvidence reference)), .ok ()⟩ :: log := by
  simp only [writeTerminationEvidence] at written
  split at written
  · cases written
  · next bounded =>
    obtain ⟨accepted, events⟩ := Prod.ext_iff.mp written
    refine ⟨by omega, events.symm.trans ?_⟩
    exact congrArg (fun res : Op.Res (.writeFile path _) => (⟨_, res⟩ : Event Op Op.Res) :: log) accepted

theorem consult_writeTerminationEvidence
    (bounded : (JsonText.marshal (terminationEvidence reference)).utf8ByteSize ≤ 4096)
    (accepted : answer log (.writeFile path (JsonText.marshal (terminationEvidence reference))) = .ok ()) :
    (writeTerminationEvidence path reference).consult answer log =
      (.ok (), ⟨.writeFile path (JsonText.marshal (terminationEvidence reference)), .ok ()⟩ :: log) := by
  rw [writeTerminationEvidence, if_neg (by omega), call, Prog.consult_perform, accepted]

/-- The contents that a run wrote last to a file. -/
def written (path : String) : List (Event Op Op.Res) → Option String
  | [] => none
  | ⟨.writeFile other contents, .ok ()⟩ :: rest => if other = path then some contents else written path rest
  | _ :: rest => written path rest

theorem written_write {contents kind message : String} {res : Op.Res (.emit kind message)} :
    written path (⟨.emit kind message, res⟩ :: ⟨.writeFile path contents, .ok ()⟩ :: log) = some contents := if_pos rfl

/-- The parts of a run that exits with 0. -/
structure Succeeded (library : Library) (files : Files) (options : Options) (answer : Oracle Op Op.Res)
    (log : List (Event Op Op.Res)) (config : RuntimeConfig) (store : ArtifactStore) (reference message : String) : Prop where
  loaded : loadRuntimeConfig files options.configPath = .ok config
  stored : Prog.During answer log (loadArtifactStore files options.withDefaults.artifactConfigPath options.workspace
    options.withDefaults.secretRoot config.secretRefs) (.ok store)
  published : ∃ trajectory results, Prog.During answer log
    (publishArtifacts library store config options.workspace trajectory results) (.ok reference)
  wrote : written options.withDefaults.terminationLogPath log = some message

theorem succeeded_of_run {library : Library} {files : Files} {options : Options}
    (exited : (run library files options).run.consult answer [] = (.ok (), log)) :
    ∃ config store reference, Succeeded library files options answer log config store reference
        (JsonText.marshal (terminationEvidence reference)) ∧
      (JsonText.marshal (terminationEvidence reference)).utf8ByteSize ≤ 4096 := by
  unfold run at exited
  split at exited
  · cases exited
  · simp only [runPublication, consult_bind_ok, consult_orExit, consult_lift_ok, consult_pure_ok] at exited
    obtain ⟨config, _, ⟨loaded, rfl⟩, task, _, ⟨-, rfl⟩, results, _, -, exited⟩ := exited
    obtain ⟨_, afterStore, stored, store, _, ⟨rfl, rfl⟩, trajectory, _, recorded, _, afterPublish, published, reference, _,
      ⟨rfl, rfl⟩, _, _, wrote, _, _, ⟨rfl, rfl⟩, _, _, emitted, -, rfl⟩ := exited
    have later := Prog.suffix_of_consult wrote |>.trans (Prog.suffix_of_consult emitted)
    have last := Prog.suffix_of_consult recorded |>.trans (Prog.suffix_of_consult published) |>.trans later
    obtain ⟨bounded, rfl⟩ := writeTerminationEvidence_ok wrote
    refine ⟨config, store, reference, ⟨loaded, ⟨_, _, stored, last⟩, ⟨trajectory, results, _, _, published, later⟩, ?_⟩, bounded⟩
    cases emitted
    exact written_write

/-- A runner that exits with 0 is believed exactly if the place of its artifacts has no white space in its name and is not too
long. -/
theorem terminationEvidence_iff {ext : Externals} {library : Library} {files : Files} {options : Options}
    (json : ext.decodeEvidence = decodeEvidence) (resolves : ResolvesPaths answer)
    (exited : exitCode ((run library files options).run.consult answer []).1 = 0) :
    ∃ config store reference message,
      Succeeded library files options answer ((run library files options).run.consult answer []).2 config store reference
        message ∧
      (parseTerminationEvidence ext message = .ok ⟨1, reference⟩ ↔ Fits store config) := by
  cases ran : (run library files options).run.consult answer [] with
  | mk result log =>
    rw [ran] at exited
    match result with
    | .error failure => cases failed : failure.code <;> simp [exitCode, failed, ExitCode.number] at exited
    | .ok () =>
      obtain ⟨config, store, reference, succeeded, bounded⟩ := succeeded_of_run ran
      refine ⟨config, store, reference, _, succeeded, ?_⟩
      obtain ⟨_, _, _, _, published, -⟩ := succeeded.published
      obtain ⟨_, _, stored, -⟩ := succeeded.stored
      obtain rfl := publishArtifacts_ok published
      rw [parseTerminationEvidence_marshal json bounded,
        ← fits_iff (canonical_of_loaded resolves stored) (named_of_loaded succeeded.loaded)]
      split <;> simp_all

end Success

/-! ## A run -/

def sampleLibrary : Library where
  toVerifier := sampleVerifier
  sha256 := fun _ => List.replicate sha256Size 0

def sampleOptions : Options := ⟨configPath, "/workspace", "", "", "", ""⟩

/-- The artifacts go to a directory of the workspace. -/
def artifactFiles (root : String) : Files := fun path =>
  if path = configPath then .ok (JsonText.marshal (runnerConfiguration (sampleRun sampleTenant)))
  else if path = "/etc/agentforge/artifacts/config.json" then .ok (JsonText.marshal document)
  else sampleMounts path
where
  document : Json := .obj [("schemaVersion", .num 1), ("backend", .str "filesystem"), ("root", .str root)]

/-- Nothing fails, and there are no links. -/
def sampleAnswer (root : String) : Oracle Op Op.Res := fun log op =>
  match op with
  | .evalSymlinks path => if path = "/workspace" ∨ path = root then .ok path else .error "no such file or directory"
  | .sourceSnapshot .. => .ok []
  | .readFile path =>
    match log with
    | ⟨.replaceFile other contents, _⟩ :: _ => if other = path then .ok contents else .error "no such file or directory"
    | _ => .error "no such file or directory"
  | .statObject .. => .error "no bucket"
  | .trajectory => ""
  | .execute arguments => .ok ⟨arguments, 0, "", ""⟩
  | .mkdirAll _ | .stat _ | .writeFile .. | .newClient .. | .replaceFile .. | .putObject .. | .wait _ | .newRedactor ..
  | .emit .. => .ok ()

/-- A directory of artifacts inside the workspace. -/
def ArtifactRoot : Type :=
  {root : String // (Paths.isAbs root = true ∧ Paths.clean root = root) ∧
    (Paths.rel "/workspace" root).all Paths.escapes = false}

def sampleRoot : ArtifactRoot := ⟨"/workspace/artifacts", by decide +kernel⟩

/-- A root with a space in its name. -/
def spacedRoot : ArtifactRoot := ⟨"/workspace/my artifacts", by decide +kernel⟩

section Sample

variable {root : String} {log : List (Event Op Op.Res)}

theorem resolves_sample (rooted : Paths.isAbs root = true) (clean : Paths.clean root = root) :
    ResolvesPaths (sampleAnswer root) := by
  intro log path found abs answered
  simp only [sampleAnswer] at answered
  split at answered
  · next known =>
    cases answered
    rcases known with rfl | rfl
    · decide +kernel
    · exact ⟨rooted, clean⟩
  · cases answered

theorem putVerified_sample {key contentType path : String} {contents : Bytes} (found : filesystemPath root key = .ok path) :
    ∃ log', (putVerified sampleLibrary (.filesystem root) key contentType contents).consult (sampleAnswer root) log =
      (.ok (artifactObject sampleLibrary key contentType contents), log') := by
  have put : ((ArtifactStore.filesystem root).put sampleLibrary key contentType contents).consult (sampleAnswer root) log =
      (.ok (artifactObject sampleLibrary key contentType contents), ⟨.replaceFile path contents, .ok ()⟩ :: log) := by
    rw [ArtifactStore.put, found]
    rfl
  have answered : sampleAnswer root (⟨.replaceFile path contents, .ok ()⟩ :: log) (.readFile path) = .ok contents := if_pos rfl
  have head : ((ArtifactStore.filesystem root).head sampleLibrary key).consult (sampleAnswer root)
      (⟨.replaceFile path contents, .ok ()⟩ :: log) = (.ok (artifactObject sampleLibrary key "" contents),
        ⟨.readFile path, .ok contents⟩ :: ⟨.replaceFile path contents, .ok ()⟩ :: log) := by
    rw [ArtifactStore.head, found, Prog.consult_bind, call, Prog.consult_perform, answered]
    rfl
  have once : (putOnce sampleLibrary (.filesystem root) key contentType contents).consult (sampleAnswer root) log =
      (.ok (artifactObject sampleLibrary key contentType contents),
        ⟨.readFile path, .ok contents⟩ :: ⟨.replaceFile path contents, .ok ()⟩ :: log) := by
    rw [putOnce, Prog.consult_bind, put]
    dsimp only
    rw [Prog.consult_bind, head]
    dsimp only
    rw [if_pos ⟨rfl, rfl⟩]
    rfl
  rw [putVerified, putAttempts, Prog.consult_bind, once]
  exact ⟨_, rfl⟩

theorem putAll_sample {objects : List (String × String × Bytes)}
    (found : ∀ object ∈ objects, ∃ path, filesystemPath root object.1 = .ok path) :
    ∃ published log', (putAll sampleLibrary (.filesystem root) objects).consult (sampleAnswer root) log =
      (.ok published, log') := by
  induction objects generalizing log with
  | nil => exact ⟨[], log, rfl⟩
  | cons object rest ih =>
    obtain ⟨key, contentType, contents⟩ := object
    obtain ⟨⟨path, first⟩, others⟩ := List.forall_mem_cons.mp found
    obtain ⟨mid, put⟩ := @putVerified_sample root log key contentType path contents first
    obtain ⟨published, log', rest⟩ := @ih mid others
    rw [putAll, Prog.consult_bind, put]
    dsimp only
    rw [Prog.consult_bind, rest]
    exact ⟨_, _, rfl⟩

/-- Every key of an execution has a file. -/
theorem exists_filesystemPath {config : RuntimeConfig} (canonical : (ArtifactStore.filesystem root).Canonical)
    (named : Named config) (tail : List Paths.Component)
    (known : tail.all (fun c => c != [] && c != Paths.current && c != Paths.parent && !c.contains '/') = true)
    (filled : tail ≠ []) : ∃ path, filesystemPath root (executionPrefix config ++ Paths.absolute tail) = .ok path := by
  obtain ⟨root, rootNormal, rfl⟩ := Paths.exists_components canonical.1 canonical.2
  exact ⟨_, filesystemPath_execution rootNormal named (normal_constants tail known) filled⟩

theorem publishArtifacts_sample {config : RuntimeConfig} {workspace trajectory : String} {results : List CommandResult}
    (canonical : (ArtifactStore.filesystem root).Canonical) (named : Named config) :
    ∃ log', (publishArtifacts sampleLibrary (.filesystem root) config workspace trajectory results).consult
      (sampleAnswer root) log = (.ok ((ArtifactStore.filesystem root).reference (manifestKey config)), log') := by
  have listed : ∀ object ∈ listedObjects config [] trajectory results,
      ∃ path, filesystemPath root object.1 = .ok path := by
    simp only [listedObjects, List.forall_mem_cons]
    exact ⟨exists_filesystemPath canonical named ["source.tar.gz".toList] (by decide +kernel) (by simp),
      exists_filesystemPath canonical named ["test-report.json".toList] (by decide +kernel) (by simp),
      exists_filesystemPath canonical named ["trajectory".toList, "000001.jsonl".toList] (by decide +kernel) (by simp),
      exists_filesystemPath canonical named ["logs".toList, "stdout.txt".toList] (by decide +kernel) (by simp),
      exists_filesystemPath canonical named ["logs".toList, "stderr.txt".toList] (by decide +kernel) (by simp), by simp⟩
  obtain ⟨path, found⟩ := exists_filesystemPath canonical named ["result-manifest.json".toList] (by decide +kernel) (by simp)
  obtain ⟨published, mid, all⟩ := @putAll_sample root (⟨.sourceSnapshot workspace root, .ok []⟩ :: log) _ listed
  obtain ⟨log', manifest⟩ := @putVerified_sample root mid (manifestKey config) "application/json" path
    (utf8 (JsonText.marshal (resultManifest config published trajectory))) found
  refine ⟨log', ?_⟩
  have snapshot : (call (.sourceSnapshot workspace root)).consult (sampleAnswer root) log =
      (.ok [], ⟨.sourceSnapshot workspace root, .ok []⟩ :: log) := rfl
  rw [publishArtifacts]
  dsimp only
  rw [Prog.consult_bind, snapshot]
  dsimp only
  rw [Prog.consult_bind, all]
  dsimp only
  rw [Prog.consult_bind, manifest]
  rfl

/-- A directory of artifacts that exists and has no links in its name. -/
theorem loadArtifactStore_mounted {answer : Oracle Op Op.Res} (canonical : (ArtifactStore.filesystem root).Canonical)
    (inside : (Paths.rel "/workspace" root).all Paths.escapes = false) (approved : List String)
    (made : ∀ log, answer log (.mkdirAll root) = .ok ())
    (workspace : ∀ log, answer log (.evalSymlinks "/workspace") = .ok "/workspace")
    (resolved : ∀ log, answer log (.evalSymlinks root) = .ok root) :
    (loadArtifactStore (artifactFiles root) "/etc/agentforge/artifacts/config.json" "/workspace" defaultSecretRoot
      approved).consult answer log = (.ok (.filesystem root), ⟨.evalSymlinks root, .ok root⟩ ::
        ⟨.evalSymlinks "/workspace", .ok "/workspace"⟩ :: ⟨.mkdirAll root, .ok ()⟩ :: log) := by
  have mounted : artifactFiles root "/etc/agentforge/artifacts/config.json" =
      .ok (JsonText.marshal (artifactFiles.document root)) := rfl
  have decoded : decodeFirst artifactFields .zero (JsonText.marshal (artifactFiles.document root)) =
      some { ArtifactConfig.zero with schemaVersion := 1, backend := "filesystem", root := root } := by
    rw [decodeFirst_marshal (by simp [artifactFiles.document, Json.depth, Json.membersDepth, JsonText.maxNesting])]
    rfl
  have filled : root ≠ "" := by
    rintro rfl
    exact absurd canonical.1 (by decide)
  have confined : (confinedArtifactRoot "/workspace" root).consult answer log = (.ok root, ⟨.evalSymlinks root, .ok root⟩ ::
      ⟨.evalSymlinks "/workspace", .ok "/workspace"⟩ :: ⟨.mkdirAll root, .ok ()⟩ :: log) := by
    simp [confinedArtifactRoot, canonical.1, Prog.consult_bind, call, made, workspace, resolved, inside]
  rw [loadArtifactStore, mounted]
  dsimp only
  rw [decoded]
  simp [filled, Prog.consult_bind, confined, Except.map]

theorem loadArtifactStore_sample (canonical : (ArtifactStore.filesystem root).Canonical)
    (inside : (Paths.rel "/workspace" root).all Paths.escapes = false) (approved : List String) :
    ∃ log', (loadArtifactStore (artifactFiles root) "/etc/agentforge/artifacts/config.json" "/workspace" defaultSecretRoot
      approved).consult (sampleAnswer root) log = (.ok (.filesystem root), log') :=
  ⟨_, loadArtifactStore_mounted canonical inside approved (fun _ => rfl) (fun _ => by simp [sampleAnswer])
    fun _ => if_pos (.inr rfl)⟩

theorem loadRuntimeConfig_sample :
    loadRuntimeConfig (artifactFiles root) configPath = .ok (runtimeConfig (sampleRun sampleTenant)) := by
  rw [loadRuntimeConfig_mounted built_sample.checked.attempt built_sample.checked.timeout (by decide) (if_pos rfl)]
  decide +kernel

theorem loadSignedTask_artifacts : loadSignedTask sampleVerifier (artifactFiles root) (runtimeConfig (sampleRun sampleTenant))
    defaultSecretRoot defaultConfigRoot = .ok sampleTask := by
  refine loadSignedTask_sample fun path member => ?_
  simp only [List.mem_cons, List.not_mem_nil, or_false] at member
  rw [artifactFiles, if_neg, if_neg] <;> rcases member with rfl | rfl | rfl | rfl <;> decide

theorem withDefaults_sample : sampleOptions.withDefaults = ⟨configPath, "/workspace", defaultSecretRoot, defaultConfigRoot,
    "/etc/agentforge/artifacts/config.json", "/dev/termination-log"⟩ := by simp [Options.withDefaults, orDefault, sampleOptions]

theorem runChecks_sample : ∃ log, (runChecks sampleOptions.withDefaults (runtimeConfig (sampleRun sampleTenant))
    sampleTask).run.consult (sampleAnswer root) [] = (.ok [⟨["pytest"], 0, "", ""⟩], log) := ⟨_, rfl⟩

/-- A run that succeeds, and the message that it wrote. -/
theorem run_sample (canonical : (ArtifactStore.filesystem root).Canonical)
    (inside : (Paths.rel "/workspace" root).all Paths.escapes = false)
    (bounded : (JsonText.marshal (terminationEvidence ((ArtifactStore.filesystem root).reference
      (manifestKey (runtimeConfig (sampleRun sampleTenant)))))).utf8ByteSize ≤ 4096) :
    ∃ log, (run sampleLibrary (artifactFiles root) sampleOptions).run.consult (sampleAnswer root) [] = (.ok (), log) ∧
      written "/dev/termination-log" log = some (JsonText.marshal (terminationEvidence
        ((ArtifactStore.filesystem root).reference (manifestKey (runtimeConfig (sampleRun sampleTenant)))))) := by
  have loaded := @loadRuntimeConfig_sample root
  have signed := @loadSignedTask_artifacts root
  obtain ⟨checked, checks⟩ := @runChecks_sample root
  obtain ⟨afterStore, stored⟩ := @loadArtifactStore_sample root checked canonical inside
    (runtimeConfig (sampleRun sampleTenant)).secretRefs
  obtain ⟨afterPublish, published⟩ := @publishArtifacts_sample root (⟨.trajectory, ""⟩ :: afterStore)
    (runtimeConfig (sampleRun sampleTenant)) "/workspace" "" [⟨["pytest"], 0, "", ""⟩] canonical (named_of_loaded loaded)
  have wrote := @consult_writeTerminationEvidence (sampleAnswer root) afterPublish "/dev/termination-log" _ bounded rfl
  refine ⟨⟨.emit "run.succeeded" "mandatory artifacts are durable", .ok ()⟩ ::
    ⟨.writeFile "/dev/termination-log" _, .ok ()⟩ :: afterPublish, ?_, written_write⟩
  rw [run, if_neg (by decide)]
  simp only [runPublication, consult_bind_ok, consult_orExit, consult_lift_ok, consult_pure_ok]
  rw [withDefaults_sample] at checks ⊢
  exact ⟨_, _, ⟨loaded, rfl⟩, _, _, ⟨signed, rfl⟩, _, _, checks, _, _, stored, _, _, ⟨rfl, rfl⟩, _, _, rfl, _, _, published, _, _,
    ⟨rfl, rfl⟩, _, _, wrote, _, _, ⟨rfl, rfl⟩, _, _, rfl, trivial, rfl⟩

end Sample

theorem canonical_sample : (ArtifactStore.filesystem "/workspace/artifacts").Canonical := sampleRoot.2.1

theorem canonical_spaced : (ArtifactStore.filesystem "/workspace/my artifacts").Canonical := spacedRoot.2.1

theorem terminationEvidence_of_sample : ∃ config store reference message,
    Succeeded sampleLibrary (artifactFiles "/workspace/artifacts") sampleOptions (sampleAnswer "/workspace/artifacts")
      ((run sampleLibrary (artifactFiles "/workspace/artifacts") sampleOptions).run.consult
        (sampleAnswer "/workspace/artifacts") []).2 config store reference message ∧
    (parseTerminationEvidence textExternals message = .ok ⟨1, reference⟩ ↔ Fits store config) := by
  obtain ⟨log, ran, -⟩ := run_sample canonical_sample sampleRoot.2.2 (by
    rw [reference_eq canonical_sample (named_of_loaded (@loadRuntimeConfig_sample "")), runtimeConfig_sample, JsonText.marshal,
      String.utf8ByteSize_ofList]
    decide +kernel)
  refine terminationEvidence_iff rfl (resolves_sample canonical_sample.1 canonical_sample.2) ?_
  rw [ran]
  rfl

/-- The artifacts are in a directory with a space in its name: the runner exits with 0, and the operator refuses its message. -/
theorem terminationEvidence_refused : ∃ message,
    exitCode ((run sampleLibrary (artifactFiles "/workspace/my artifacts") sampleOptions).run.consult
      (sampleAnswer "/workspace/my artifacts") []).1 = 0 ∧
    written "/dev/termination-log" ((run sampleLibrary (artifactFiles "/workspace/my artifacts") sampleOptions).run.consult
      (sampleAnswer "/workspace/my artifacts") []).2 = some message ∧
    parseTerminationEvidence textExternals message = .error "termination evidence fields are invalid" := by
  have bounded : (JsonText.marshal (terminationEvidence ((ArtifactStore.filesystem "/workspace/my artifacts").reference
      (manifestKey (runtimeConfig (sampleRun sampleTenant)))))).utf8ByteSize ≤ 4096 := by
    rw [reference_eq canonical_spaced (named_of_loaded (@loadRuntimeConfig_sample "")), runtimeConfig_sample,
      JsonText.marshal, String.utf8ByteSize_ofList]
    decide +kernel
  obtain ⟨log, ran, wrote⟩ := run_sample canonical_spaced spacedRoot.2.2 bounded
  rw [ran]
  refine ⟨_, rfl, wrote, ?_⟩
  rw [parseTerminationEvidence_marshal rfl bounded, if_neg]
  rw [reference_eq canonical_spaced (named_of_loaded (@loadRuntimeConfig_sample "")), runtimeConfig_sample]
  decide +kernel

end AgentForge.Runner
