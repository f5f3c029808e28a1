import Mathlib.Algebra.Group.Int.Defs
import Mathlib.Data.List.Sort
import Mathlib.Data.List.TakeWhile
import AgentForge.Lib.JsonText
import AgentForge.Lib.Paths
import AgentForge.Lib.Struct
import AgentForge.Operator.Builder

/-!
# The runtime configuration

`LoadRuntimeConfig` (`agent-runner/internal/runner/config.go`) reads the `config.json` that the operator's `buildConfigMap`
mounts. The two sides check the same run on their own: the controller accepts any 36 characters with dashes and digits in the
right places as an identity, the runner wants a DNS name.
-/

set_option autoImplicit false

namespace AgentForge.Runner

open Lib Operator
open Lib.Field (value_str value_num pointer_arr)

/-! ## Files -/

inductive FileError
  | notExist
  | other (reason : String)
  deriving DecidableEq

def FileError.text : FileError → String
  | notExist => "no such file or directory"
  | other reason => reason

/-- `os.ReadFile`. -/
abbrev Files := String → Except FileError String

/-- A strict decoder on the first document of a text. -/
def decodeFirst {S : Type} (fields : List (Lib.Field S)) (zero : S) (contents : String) : Option S :=
  (JsonText.firstDocument contents).bind fun found => decodeStruct true fields zero found.1

/-! ## Types of fields -/

/-- An `int`. -/
def asInt (json : Json) : Option Int := json.asInt.bind fun n => if -(2 ^ 63) ≤ n ∧ n < 2 ^ 63 then some n else none

/-- An element of a slice of strings; `null` leaves it empty. -/
def asText : Json → Option String
  | .null => some ""
  | json => json.asString

/-- An element of a slice of slices. -/
def asTexts : Json → Option (List String)
  | .null => some []
  | json => json.asList asText

section Fields

variable {S : Type}

def intField (name : String) (put : Int → S → S) : Lib.Field S := .value name asInt put

def textField (name : String) (put : String → S → S) : Lib.Field S := .value name Json.asString put

/-- A slice; `null` empties it. -/
def sliceField {α : Type} (name : String) (element : Json → Option α) (put : List α → S → S) : Lib.Field S :=
  .pointer name (Json.asList element) fun found => put (found.getD [])

end Fields

/-! ## The configuration -/

structure RuntimeConfig where
  schemaVersion : Int
  tenantID : String
  projectID : String
  runID : String
  attemptID : String
  attempt : Int
  taskRef : String
  timeoutSeconds : Int
  configurationRefs : List String
  secretRefs : List String
  artifactDestinationRef : String
  deriving DecidableEq

def RuntimeConfig.zero : RuntimeConfig := ⟨0, "", "", "", "", 0, "", 0, [], [], ""⟩

def runtimeFields : List (Lib.Field RuntimeConfig) :=
  [intField "schemaVersion" fun schemaVersion c => { c with schemaVersion },
    textField "tenantId" fun tenantID c => { c with tenantID },
    textField "projectId" fun projectID c => { c with projectID },
    textField "runId" fun runID c => { c with runID },
    textField "attemptId" fun attemptID c => { c with attemptID },
    intField "attempt" fun attempt c => { c with attempt },
    textField "taskRef" fun taskRef c => { c with taskRef },
    intField "timeoutSeconds" fun timeoutSeconds c => { c with timeoutSeconds },
    sliceField "configurationRefs" asText fun configurationRefs c => { c with configurationRefs },
    sliceField "secretRefs" asText fun secretRefs c => { c with secretRefs },
    textField "artifactDestinationRef" fun artifactDestinationRef c => { c with artifactDestinationRef }]

/-- The pattern `^[a-z0-9]([-a-z0-9]*[a-z0-9])?(\.[a-z0-9]([-a-z0-9]*[a-z0-9])?)*$`. -/
def matchesReferenceName (value : String) : Bool := (value.toList.splitOn '.').all isDNSLabel

/-- The pattern, and that the value is the last element of itself as a path. -/
def isName (value : String) : Bool := matchesReferenceName value && Paths.base value == value

/-- `slices.IsSorted`. -/
def isSorted : List String → Bool
  | first :: second :: rest => !(second < first) && isSorted (second :: rest)
  | _ => true

/-- `slices.Compact`. -/
def compact : List String → List String
  | first :: second :: rest =>
    if first = second then compact (second :: rest) else first :: compact (second :: rest)
  | references => references

def validateReferences (references : List String) : Except String Unit := do
  if !isSorted references || (compact references).length != references.length then
    throw "references must be sorted and unique"
  if !references.all isName then throw "invalid reference"

def RuntimeConfig.identities (config : RuntimeConfig) : List String :=
  [config.tenantID, config.projectID, config.runID, config.attemptID, config.artifactDestinationRef]

/-- The checks on a decoded configuration. -/
def RuntimeConfig.check (config : RuntimeConfig) : Except String Unit := do
  if config.schemaVersion ≠ 1 ∨ config.timeoutSeconds < 1 ∨ config.attempt < 1 then
    throw "runtime config has unsupported schema or bounds"
  if !config.identities.all isName then throw "runtime config contains an invalid identity"
  match validateReferences config.configurationRefs with
  | .error reason => throw ("configuration refs: " ++ reason)
  | .ok () =>
    match validateReferences config.secretRefs with
    | .error reason => throw ("secret refs: " ++ reason)
    | .ok () => pure ()

def loadRuntimeConfig (files : Files) (path : String) : Except String RuntimeConfig :=
  if path = "" then .error "AGENTFORGE_RUN_CONFIG is required"
  else
    match files path with
    | .error e => .error ("read runtime config: " ++ e.text)
    | .ok contents =>
      match decodeFirst runtimeFields .zero contents with
      | none => .error "decode runtime config"
      | some config =>
        match config.check with
        | .error reason => .error reason
        | .ok () => .ok config

/-! ## Names -/

variable {value : String} {run : AgentRun}

theorem base_eq (filled : value ≠ "") (slash : '/' ∉ value.toList) : Paths.base value = value := by
  have characters : value.toList.reverse ≠ [] := by simpa using filled
  obtain ⟨c, rest, reversed⟩ := List.exists_cons_of_ne_nil characters
  have others : ∀ x ∈ c :: rest, (x != '/') = true := by
    intro x member
    rw [← reversed, List.mem_reverse] at member
    simpa using fun same : x = '/' => slash (same ▸ member)
  have first : (c == '/') = false := by simpa using others c List.mem_cons_self
  rw [Paths.base, if_neg filled, reversed, List.dropWhile_cons_of_neg (by simp [first]), List.takeWhile_eq_self_iff.mpr others]
  dsimp only
  rw [← reversed, List.reverse_reverse, String.ofList_toList]

/-- The characters of a DNS name. -/
theorem mem_matchesReferenceName (matched : matchesReferenceName value = true) :
    ∀ c ∈ value.toList, isLowerAlphanumeric c = true ∨ c = '-' ∨ c = '.' := by
  intro c member
  have joined : ['.'].intercalate (value.toList.splitOn '.') = value.toList := List.intercalate_splitOn '.'
  rw [← joined] at member
  have inside : c = '.' ∨ ∃ label ∈ value.toList.splitOn '.', c ∈ label := by
    have mem_join : ∀ labels : List (List Char), c ∈ ['.'].intercalate labels → c = '.' ∨ ∃ label ∈ labels, c ∈ label := by
      intro labels
      induction labels with
      | nil => intro found; cases found
      | cons first rest ih =>
        intro found
        by_cases filled : rest = []
        · subst filled
          exact .inr ⟨first, List.mem_cons_self, by simpa using found⟩
        · rw [List.intercalate_cons_of_ne_nil filled] at found
          simp only [List.append_assoc, List.mem_append, List.mem_singleton] at found
          rcases found with here | dot | later
          · exact .inr ⟨first, List.mem_cons_self, here⟩
          · exact .inl dot
          · exact (ih later).imp id fun ⟨label, known, here⟩ => ⟨label, List.mem_cons_of_mem _ known, here⟩
    exact mem_join _ member
  rcases inside with dot | ⟨label, known, here⟩
  · exact .inr (.inr dot)
  · have accepted := List.all_eq_true.mp matched label known
    simp only [isDNSLabel, Bool.and_eq_true, List.all_eq_true, Bool.or_eq_true, beq_iff_eq] at accepted
    exact (accepted.1.1 c here).imp id .inl

/-- A text that matches the pattern is its own last element. -/
theorem isName_iff (value : String) : isName value = true ↔ matchesReferenceName value = true := by
  simp only [isName, Bool.and_eq_true, beq_iff_eq, and_iff_left_iff_imp]
  intro matched
  refine base_eq ?_ fun slash => ?_
  · rintro rfl
    revert matched
    decide
  · rcases mem_matchesReferenceName matched '/' slash with lower | dash | dot
    · revert lower
      decide
    · cases dash
    · cases dot

/-- An identity that neither begins nor ends with a dash. -/
def Undashed (value : String) : Prop := value.toList.head? ≠ some '-' ∧ value.toList.getLast? ≠ some '-'

instance (value : String) : Decidable (Undashed value) := inferInstanceAs (Decidable (_ ∧ _))

/-- The controller lets an identity begin or end with a dash, the runner does not. -/
theorem isName_of_isUUIDv7 (accepted : isUUIDv7 value = true) : isName value = true ↔ Undashed value := by
  simp only [isUUIDv7, withoutDashes, Bool.and_eq_true, beq_iff_eq, List.all_eq_true, List.mem_filter, bne_iff_ne] at accepted
  obtain ⟨⟨⟨⟨⟨⟨⟨size, -⟩, -⟩, -⟩, -⟩, -⟩, -⟩, digits⟩ := accepted
  have characters : ∀ c ∈ value.toList, c ≠ '-' → isLowerAlphanumeric c = true := by
    intro c member other
    have hex := digits c ⟨member, other⟩
    simp only [isLowerHex, isLowerAlphanumeric, Bool.and_eq_true, Bool.or_eq_true, decide_eq_true_eq] at hex ⊢
    rcases hex with digit | ⟨low, high⟩
    · exact .inr digit
    · exact .inl ⟨low, high.trans (by decide)⟩
  have undotted : '.' ∉ value.toList := by
    intro member
    have lower := characters '.' member (by decide)
    revert lower
    decide
  have all : value.toList.all (fun c => isLowerAlphanumeric c || c == '-') = true := by
    rw [List.all_eq_true]
    intro c member
    by_cases dash : c = '-'
    · simp [dash]
    · simp [characters c member dash]
  have ends : ∀ found : Option Char, (∀ c ∈ found, c ∈ value.toList) → found ≠ none →
      (found.any isLowerAlphanumeric = true ↔ found ≠ some '-') := by
    rintro (_ | c) inside filled
    · exact absurd rfl filled
    · simp only [Option.any_some, ne_eq, Option.some.injEq]
      refine ⟨?_, characters c (inside c rfl)⟩
      rintro lower rfl
      revert lower
      decide
  have filled : value.toList ≠ [] := by
    intro empty
    simp [empty] at size
  rw [isName_iff, matchesReferenceName, List.splitOn_eq_singleton undotted, Undashed,
    ← ends _ (fun c found => List.mem_of_mem_head? found) (by simpa using filled),
    ← ends _ (fun c found => List.mem_of_mem_getLast? found) (by simpa using filled)]
  simp only [List.all_cons, List.all_nil, Bool.and_true, isDNSLabel, all, Bool.true_and, Bool.and_eq_true]

theorem isName_of_isDNS1123Subdomain (accepted : isDNS1123Subdomain value = true) : isName value = true := by
  simp only [isDNS1123Subdomain, Bool.and_eq_true] at accepted
  exact (isName_iff value).mpr accepted.2

/-! ## References -/

theorem isSorted_of_pairwise {references : List String} (sorted : references.Pairwise (· ≤ ·)) : isSorted references = true := by
  induction references with
  | nil => rfl
  | cons first rest ih =>
    obtain ⟨above, later⟩ := List.pairwise_cons.mp sorted
    cases rest with
    | nil => rfl
    | cons second rest =>
      have ordered := above second List.mem_cons_self
      simp [isSorted, ih later, not_lt.mpr ordered]

theorem compact_of_nodup {references : List String} (unique : references.Nodup) : compact references = references := by
  induction references with
  | nil => rfl
  | cons first rest ih =>
    obtain ⟨new, later⟩ := List.nodup_cons.mp unique
    cases rest with
    | nil => rfl
    | cons second rest =>
      have different : first ≠ second := fun same => new (same ▸ List.mem_cons_self)
      rw [compact, if_neg different, ih later]

theorem referenceNames_perm (references : List LocalObjectReference) :
    (referenceNames references).Perm (references.map (·.name)) := (List.perm_insertionSort _ _).map _

theorem referenceNames_sorted (references : List LocalObjectReference) : (referenceNames references).Pairwise (· ≤ ·) := by
  have total : Std.Total fun left right : LocalObjectReference => left.name ≤ right.name := ⟨fun _ _ => le_total _ _⟩
  have trans : IsTrans LocalObjectReference fun left right => left.name ≤ right.name := ⟨fun _ _ _ => le_trans⟩
  exact List.pairwise_map.mpr (List.pairwise_insertionSort _ _)

/-- The names that the builder writes pass the runner's check. -/
theorem validateReferences_referenceNames {references : List LocalObjectReference} (unique : (references.map (·.name)).Nodup)
    (accepted : ∀ reference ∈ references, isDNS1123Subdomain reference.name = true) :
    validateReferences (referenceNames references) = .ok () := by
  have nodup := (referenceNames_perm references).nodup_iff.mpr unique
  have names : (referenceNames references).all isName = true := by
    rw [List.all_eq_true]
    intro name member
    obtain ⟨reference, known, rfl⟩ := List.mem_map.mp ((referenceNames_perm references).mem_iff.mp member)
    exact isName_of_isDNS1123Subdomain (accepted reference known)
  simp [validateReferences, isSorted_of_pairwise (referenceNames_sorted references), compact_of_nodup nodup, names]
  rfl

/-! ## The round trip -/

/-- The configuration that the operator writes for the current attempt. -/
def runtimeConfig (run : AgentRun) : RuntimeConfig where
  schemaVersion := 1
  tenantID := run.spec.tenantID
  projectID := run.spec.projectID
  runID := run.spec.runID
  attemptID := run.spec.attemptID
  attempt := currentAttempt run
  taskRef := run.spec.taskRef
  timeoutSeconds := run.spec.timeoutSeconds
  configurationRefs := referenceNames run.spec.configurationRefs.items
  secretRefs := referenceNames run.spec.secretRefs.items
  artifactDestinationRef := run.spec.artifactDestinationRef.name

theorem runtime_names : runtimeFields.map Lib.Field.name =
    ["schemaVersion", "tenantId", "projectId", "runId", "attemptId", "attempt", "taskRef", "timeoutSeconds",
      "configurationRefs", "secretRefs", "artifactDestinationRef"] := rfl

theorem asInt_num {n : Int} (low : -(2 ^ 63) ≤ n) (high : n < 2 ^ 63) : asInt (.num n) = some n := by
  simp only [asInt, Json.asInt, Option.bind_some]
  exact if_pos ⟨low, high⟩

theorem asList_texts (texts : List String) : Json.asList asText (.arr (texts.map .str)) = some texts :=
  @Json.asList_map String asText Json.str (fun _ => rfl) texts

/-- The document is decoded into the configuration. -/
theorem decodeStruct_runnerConfiguration (attempt : 1 ≤ currentAttempt run ∧ currentAttempt run ≤ 10)
    (timeout : 1 ≤ run.spec.timeoutSeconds ∧ run.spec.timeoutSeconds ≤ 86400) :
    decodeStruct true runtimeFields .zero (runnerConfiguration run) = some (runtimeConfig run) := by
  have attemptRead := asInt_num (n := currentAttempt run) (by omega) (by omega)
  have timeoutRead := asInt_num (n := run.spec.timeoutSeconds) (by omega) (by omega)
  have written : runnerConfiguration run =
      .obj (Json.member "artifactDestinationRef" (.str run.spec.artifactDestinationRef.name) <|
        Json.member "attempt" (.num (currentAttempt run)) <|
        Json.member "attemptId" (.str run.spec.attemptID) <|
        Json.member "configurationRefs" (.arr ((referenceNames run.spec.configurationRefs.items).map .str)) <|
        Json.member "projectId" (.str run.spec.projectID) <|
        Json.member "runId" (.str run.spec.runID) <|
        Json.member "schemaVersion" (.num 1) <|
        Json.member "secretRefs" (.arr ((referenceNames run.spec.secretRefs.items).map .str)) <|
        Json.member "taskRef" (.str run.spec.taskRef) <|
        Json.member "tenantId" (.str run.spec.tenantID) <|
        Json.member "timeoutSeconds" (.num run.spec.timeoutSeconds) []) := rfl
  rw [written]
  simp only [decodeStruct]
  refine decode_member runtime_names 10 (by decide) rfl (value_str rfl) ?_
  refine decode_member runtime_names 5 (by decide) rfl (value_num attemptRead) ?_
  refine decode_member runtime_names 4 (by decide) rfl (value_str rfl) ?_
  refine decode_member runtime_names 8 (by decide) rfl (pointer_arr (asList_texts _)) ?_
  refine decode_member runtime_names 2 (by decide) rfl (value_str rfl) ?_
  refine decode_member runtime_names 3 (by decide) rfl (value_str rfl) ?_
  refine decode_member runtime_names 0 (by decide) rfl (value_num rfl) ?_
  refine decode_member runtime_names 9 (by decide) rfl (pointer_arr (asList_texts _)) ?_
  refine decode_member runtime_names 6 (by decide) rfl (value_str rfl) ?_
  refine decode_member runtime_names 1 (by decide) rfl (value_str rfl) ?_
  exact decode_member runtime_names 7 (by decide) rfl (value_num timeoutRead) rfl

theorem depth_runnerConfiguration (run : AgentRun) : (runnerConfiguration run).depth ≤ JsonText.maxNesting := by
  have texts : ∀ names : List String, Json.listDepth (names.map .str) = 0 := by
    intro names
    induction names with
    | nil => simp [Json.listDepth]
    | cons name rest ih => simp [Json.listDepth, ih]
  simp [runnerConfiguration, Json.membersDepth, texts, JsonText.maxNesting]

/-- The written configuration is decoded and checked. -/
theorem loadRuntimeConfig_mounted {files : Files} {path : String}
    (attempt : 1 ≤ currentAttempt run ∧ currentAttempt run ≤ 10)
    (timeout : 1 ≤ run.spec.timeoutSeconds ∧ run.spec.timeoutSeconds ≤ 86400) (named : path ≠ "")
    (mounted : files path = .ok (JsonText.marshal (runnerConfiguration run))) :
    loadRuntimeConfig files path = (runtimeConfig run).check.map fun _ => runtimeConfig run := by
  have decoded : decodeFirst runtimeFields .zero (JsonText.marshal (runnerConfiguration run)) = some (runtimeConfig run) := by
    rw [decodeFirst, JsonText.firstDocument_marshal (depth_runnerConfiguration run), Option.bind_some]
    exact decodeStruct_runnerConfiguration attempt timeout
  rw [loadRuntimeConfig, if_neg named, mounted]
  dsimp only
  rw [decoded]
  dsimp only
  cases (runtimeConfig run).check <;> rfl

/-- What the runner has to find in the configuration of a run. -/
structure Carries (run : AgentRun) (config : RuntimeConfig) : Prop where
  tenantID : config.tenantID = run.spec.tenantID
  projectID : config.projectID = run.spec.projectID
  runID : config.runID = run.spec.runID
  attemptID : config.attemptID = run.spec.attemptID
  attempt : config.attempt = currentAttempt run
  taskRef : config.taskRef = run.spec.taskRef
  timeoutSeconds : config.timeoutSeconds = run.spec.timeoutSeconds
  artifactDestinationRef : config.artifactDestinationRef = run.spec.artifactDestinationRef.name
  configurationRefs : config.configurationRefs.Pairwise (· ≤ ·) ∧
    config.configurationRefs.Perm (run.spec.configurationRefs.items.map (·.name))
  secretRefs : config.secretRefs.Pairwise (· ≤ ·) ∧ config.secretRefs.Perm (run.spec.secretRefs.items.map (·.name))

theorem carries_runtimeConfig (run : AgentRun) : Carries run (runtimeConfig run) where
  tenantID := rfl
  projectID := rfl
  runID := rfl
  attemptID := rfl
  attempt := rfl
  taskRef := rfl
  timeoutSeconds := rfl
  artifactDestinationRef := rfl
  configurationRefs := ⟨referenceNames_sorted _, referenceNames_perm _⟩
  secretRefs := ⟨referenceNames_sorted _, referenceNames_perm _⟩

/-- What the controller and the builder have checked of a run whose configuration is built. -/
structure Checked (run : AgentRun) : Prop where
  identities : ∀ id ∈ [run.spec.tenantID, run.spec.projectID, run.spec.runID, run.spec.attemptID], isUUIDv7 id = true
  attempt : 1 ≤ currentAttempt run ∧ currentAttempt run ≤ 10
  timeout : 1 ≤ run.spec.timeoutSeconds ∧ run.spec.timeoutSeconds ≤ 86400
  references : ∀ reference ∈ run.spec.configurationRefs.items ++ run.spec.secretRefs.items ++
    [run.spec.artifactDestinationRef], isDNS1123Subdomain reference.name = true

theorem validateIdentifiers_ok {identifiers : List (String × String)} (valid : validateIdentifiers identifiers = .ok ()) :
    ∀ id ∈ identifiers.map Prod.snd, isUUIDv7 id = true := by
  induction identifiers with
  | nil => simp
  | cons first rest ih =>
    obtain ⟨name, value⟩ := first
    rw [validateIdentifiers] at valid
    split at valid
    · cases valid
    · next accepted => exact List.forall_mem_cons.mpr ⟨by simpa using accepted, ih valid⟩

theorem checked_of_built {ext : Externals} {b : Builder} {context : BuildContext}
    (valid : validateAgentRun ext run = .ok ()) (resolved : b.resolve ext run = .ok context) : Checked run := by
  have spec : validateSpec ext run.spec = .ok () ∧ ∃ names, forAgentRun run = .ok names := by
    unfold validateAgentRun at valid
    split at valid
    · cases valid
    · split at valid
      · cases valid
      · next accepted =>
        split at valid
        · cases valid
        · next names named => exact ⟨accepted, names, named⟩
  obtain ⟨accepted, names, named⟩ := spec
  obtain ⟨-, low, -, high, -⟩ := forAgentRun_eq_ok.mp named
  have identified : ∀ id ∈ [run.spec.tenantID, run.spec.projectID, run.spec.runID, run.spec.attemptID],
      isUUIDv7 id = true := by
    simp only [validateSpec, bind_eq_ok] at accepted
    obtain ⟨_, identified, -⟩ := accepted
    exact validateIdentifiers_ok identified
  have built : validateRunForBuild run.spec = .ok () := by
    simp only [Builder.resolve, bind_eq_ok] at resolved
    obtain ⟨selected, chosen, -⟩ := resolved
    simp only [Builder.select, guard_eq_ok, bind_eq_ok] at chosen
    obtain ⟨-, -, _, checked, -⟩ := chosen
    exact checked
  unfold validateRunForBuild at built
  dsimp only at built
  split at built
  · cases built
  · simp only [guard_eq_ok, Bool.or_eq_true, decide_eq_true_eq, not_or, not_lt] at built
    obtain ⟨-, -, ⟨⟨timeoutLow, timeoutHigh⟩, -⟩, -, references⟩ := built
    refine ⟨identified, ⟨low, high⟩, ⟨timeoutLow, by omega⟩, ?_⟩
    split at references
    · cases references
    · next found =>
      intro reference member
      simpa using List.find?_eq_none.mp found reference member

theorem check_runtimeConfig (checked : Checked run)
    (configurations : (run.spec.configurationRefs.items.map (·.name)).Nodup)
    (secrets : (run.spec.secretRefs.items.map (·.name)).Nodup) :
    (runtimeConfig run).check = .ok () ↔
      ∀ id ∈ [run.spec.tenantID, run.spec.projectID, run.spec.runID, run.spec.attemptID], Undashed id := by
  have bounds : ¬ ((runtimeConfig run).schemaVersion ≠ 1 ∨ (runtimeConfig run).timeoutSeconds < 1 ∨
      (runtimeConfig run).attempt < 1) := by
    simp only [runtimeConfig, ne_eq, not_true_eq_false, false_or, not_or, not_lt]
    exact ⟨checked.timeout.1, checked.attempt.1⟩
  have references := checked.references
  simp only [List.forall_mem_append, List.forall_mem_singleton] at references
  obtain ⟨⟨configurationNames, secretNames⟩, artifact⟩ := references
  have first : validateReferences (runtimeConfig run).configurationRefs = .ok () :=
    validateReferences_referenceNames configurations configurationNames
  have second : validateReferences (runtimeConfig run).secretRefs = .ok () :=
    validateReferences_referenceNames secrets secretNames
  have names : (runtimeConfig run).identities.all isName = true ↔
      ∀ id ∈ [run.spec.tenantID, run.spec.projectID, run.spec.runID, run.spec.attemptID], Undashed id := by
    have split : (runtimeConfig run).identities =
        [run.spec.tenantID, run.spec.projectID, run.spec.runID, run.spec.attemptID] ++
          [run.spec.artifactDestinationRef.name] := rfl
    rw [split, List.all_append, Bool.and_eq_true, List.all_eq_true]
    simp only [List.all_cons, List.all_nil, isName_of_isDNS1123Subdomain artifact, Bool.and_true, and_true]
    exact forall₂_congr fun id member => isName_of_isUUIDv7 (checked.identities id member)
  rw [← names, RuntimeConfig.check, guard_eq_ok, guard_eq_ok, first]
  dsimp only
  rw [second]
  simp only [bounds, not_false_eq_true, true_and, Bool.not_eq_true', Bool.not_eq_false, pure, Except.pure, and_true]

/-- The runner reads back the configuration of a run whose identities have no dash at an end. -/
theorem loadRuntimeConfig_buildConfigMap {ext : Externals} {b : Builder} {run : AgentRun} {context : BuildContext}
    {files : Files} {path text : String} (json : ext.marshalJSON = JsonText.marshal)
    (valid : validateAgentRun ext run = .ok ()) (resolved : b.resolve ext run = .ok context)
    (configurations : (run.spec.configurationRefs.items.map (·.name)).Nodup)
    (secrets : (run.spec.secretRefs.items.map (·.name)).Nodup)
    (written : (buildConfigMap ext context).data.lookup "config.json" = some text) (named : path ≠ "")
    (mounted : files path = .ok text) :
    (∃ config, loadRuntimeConfig files path = .ok config ∧ Carries run config) ↔
      ∀ id ∈ [run.spec.tenantID, run.spec.projectID, run.spec.runID, run.spec.attemptID], Undashed id := by
  have checked := checked_of_built valid resolved
  have same : context.run = run := by
    simp only [Builder.resolve, bind_eq_ok] at resolved
    obtain ⟨selected, -, last⟩ := resolved
    cases last
    rfl
  obtain rfl : text = JsonText.marshal (runnerConfiguration run) := by
    rw [buildConfigMap, json, same] at written
    simpa using written.symm
  rw [← check_runtimeConfig checked configurations secrets,
    loadRuntimeConfig_mounted checked.attempt checked.timeout named mounted]
  constructor
  · rintro ⟨config, loaded, -⟩
    cases passed : (runtimeConfig run).check with
    | error reason =>
      rw [passed] at loaded
      cases loaded
    | ok _ => rfl
  · intro passed
    rw [passed]
    exact ⟨_, rfl, carries_runtimeConfig run⟩

/-! ## A run -/

/-- The fields of the evidence in a termination message. -/
def evidenceFields : List (Lib.Field TerminationEvidence) :=
  [intField "schemaVersion" fun schemaVersion e => { e with schemaVersion },
    textField "artifactManifestRef" fun artifactManifestRef e => { e with artifactManifestRef }]

/-- The evidence that a strict decoder finds first, and whether the message ends there. -/
def decodeEvidence (message : String) : Except String (TerminationEvidence × Bool) :=
  match JsonText.firstDocument message with
  | none => .error "invalid character"
  | some (document, rest) =>
    match decodeStruct true evidenceFields ⟨0, ""⟩ document with
    | none => .error "unknown field"
    | some evidence => .ok (evidence, JsonText.atEnd rest)

/-- The library with JSON as it is written and read. -/
def textExternals : Externals where
  parseURL := fun _ => some ⟨"secret", "task", ""⟩
  sha256 := fun _ => 0
  marshalJSON := JsonText.marshal
  parseIPPrefix := fun _ => none
  formatIPPrefix := fun _ => ""
  acceptsSelector := fun _ => true
  decodeEvidence := decodeEvidence

def sampleSpec (tenantID : String) : AgentRunSpec where
  tenantID := tenantID
  projectID := "019b0000-0000-7000-8000-00000000000b"
  runID := "019b0000-0000-7000-8000-000000000001"
  attemptID := "019b0000-0000-7000-8000-00000000000c"
  attempt := 1
  runnerImage := "runner@sha256:0123456789abcdef0123456789abcdef0123456789abcdef0123456789abcdef"
  runtime := "python"
  executionProfile := "standard"
  taskRef := "secret://task/envelope.json"
  timeoutSeconds := 600
  retryPolicy := ⟨3, 5, 300, some [.transientDependency]⟩
  resources := ⟨⟨100, 128⟩, ⟨200, 256⟩⟩
  workspace := ⟨1, "local", .delete⟩
  network := ⟨.isolated, none⟩
  artifactDestinationRef := ⟨"artifacts"⟩
  configurationRefs := some [⟨"trust"⟩, ⟨"settings"⟩]
  secretRefs := some [⟨"task"⟩]
  deployOnSuccess := false
  desiredState := .running

def sampleTenant : String := "019b0000-0000-7000-8000-00000000000a"

def sampleRun (tenantID : String) : AgentRun where
  metadata := { name := "run-1", ns := "tenant-1", uid := "uid-1", resourceVersion := 1, generation := 1 }
  spec := sampleSpec tenantID

/-- The configuration is mounted. -/
def sampleFiles (tenantID : String) : Files := fun path =>
  if path = "/run/config.json" then .ok (JsonText.marshal (runnerConfiguration (sampleRun tenantID))) else .error .notExist

/-- The builder writes the configuration that is mounted. -/
theorem exists_built {tenantID : String} (selects : (newDefaultBuilder.select (sampleRun tenantID)).isOk = true) :
    ∃ context, newDefaultBuilder.resolve textExternals (sampleRun tenantID) = .ok context ∧
      (buildConfigMap textExternals context).data.lookup "config.json" =
        some (JsonText.marshal (runnerConfiguration (sampleRun tenantID))) := by
  cases selected : newDefaultBuilder.select (sampleRun tenantID) with
  | error reason =>
    rw [selected] at selects
    cases selects
  | ok choice =>
    rw [Builder.resolve, selected]
    exact ⟨_, rfl, by simp [buildConfigMap, textExternals]⟩

theorem sampleFiles_mounted (tenantID : String) : sampleFiles tenantID "/run/config.json" =
    .ok (JsonText.marshal (runnerConfiguration (sampleRun tenantID))) := if_pos rfl

/-- A tenant whose identity begins with a dash. -/
def dashedTenant : String := "-19b0000-0000-7000-8000-00000000000a"

/-- A tenant whose run the controller and the builder accept. -/
def AcceptedTenant : Type :=
  {tenantID : String // validateAgentRun textExternals (sampleRun tenantID) = .ok () ∧
    (newDefaultBuilder.select (sampleRun tenantID)).isOk = true}

def sampleAccepted : AcceptedTenant := ⟨sampleTenant, by decide +kernel⟩

def dashedAccepted : AcceptedTenant := ⟨dashedTenant, by decide +kernel⟩

theorem loadRuntimeConfig_of_sample : ∃ config, loadRuntimeConfig (sampleFiles sampleTenant) "/run/config.json" = .ok config ∧
    Carries (sampleRun sampleTenant) config := by
  obtain ⟨context, resolved, written⟩ := @exists_built sampleTenant sampleAccepted.2.2
  exact (loadRuntimeConfig_buildConfigMap rfl sampleAccepted.2.1 resolved (by decide) (by decide) written (by decide)
    (sampleFiles_mounted sampleTenant)).mpr (by decide)

/-- The controller and the builder accept the dashed tenant, and the runner refuses the configuration. -/
theorem loadRuntimeConfig_fails : validateAgentRun textExternals (sampleRun dashedTenant) = .ok () ∧
    (∃ context, newDefaultBuilder.resolve textExternals (sampleRun dashedTenant) = .ok context ∧
      (buildConfigMap textExternals context).data.lookup "config.json" =
        some (JsonText.marshal (runnerConfiguration (sampleRun dashedTenant)))) ∧
    sampleFiles dashedTenant "/run/config.json" = .ok (JsonText.marshal (runnerConfiguration (sampleRun dashedTenant))) ∧
    loadRuntimeConfig (sampleFiles dashedTenant) "/run/config.json" = .error "runtime config contains an invalid identity" :=
  ⟨dashedAccepted.2.1, exists_built dashedAccepted.2.2, sampleFiles_mounted dashedTenant, by
    rw [loadRuntimeConfig_mounted (by decide) (by decide) (by decide) (sampleFiles_mounted dashedTenant)]
    decide +kernel⟩

end AgentForge.Runner
