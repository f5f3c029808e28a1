import AgentForge.Events.Format
import AgentForge.Lib.Usage
import AgentForge.Runner.Run

/-!
# Object keys of artifacts

The runner writes its objects under the identity of its execution. The platform registers an artifact under such a key
(`domain/artifact.go`), recovers the key's parts from it (`application/artifacts/service.go`) and writes them out
again (`ports/artifacts.go`). A key is a list of components with slashes between them, so the three agree, and a key
belongs to one tenant, project, run, attempt and name.
-/

set_option autoImplicit false

namespace AgentForge.Artifacts

open Lib Platform Runner

/-! ## Registering an artifact -/

structure NewArtifactInput where
  tenantID : UUID
  projectID : UUID
  runID : UUID
  attemptID : UUID
  attemptNumber : Int
  objectKey : String
  contentType : String
  sizeBytes : Int
  sha256 : String
  retentionClass : String
  createdBy : String
  deriving DecidableEq

structure Artifact where
  id : UUID
  tenantID : UUID
  projectID : UUID
  runID : UUID
  attemptID : UUID
  attemptNumber : Int
  objectKey : String
  contentType : String
  sizeBytes : Int
  sha256 : String
  retentionClass : String
  createdBy : String
  createdAt : Operator.Time
  deriving DecidableEq

/-- `tenants/%s/projects/%s/runs/%s/attempts/%d/`. -/
def attemptPrefix (tenantID projectID runID : UUID) (attempt : Int) : String :=
  "tenants/" ++ tenantID.text ++ "/projects/" ++ projectID.text ++ "/runs/" ++ runID.text ++ "/attempts/" ++
    toString attempt ++ "/"

def isUnsafeSegment (segment : List Char) : Bool := segment == [] || segment == Paths.current || segment == Paths.parent

def hasUnsafeObjectKeySegment (key : String) : Bool := (key.toList.splitOn '/').any isUnsafeSegment

/-- The pattern `^[0-9a-f]{64}$`. -/
def matchesSHA256 (text : String) : Bool :=
  text.toList.length == 64 && text.toList.all fun c => ('0' ≤ c && c ≤ '9') || ('a' ≤ c && c ≤ 'f')

section NewArtifact

variable (toUpper : String → String)

def NewArtifactInput.trimmed (input : NewArtifactInput) : NewArtifactInput :=
  { input with
    objectKey := trimSpace input.objectKey
    contentType := trimSpace input.contentType
    sha256 := trimSpace input.sha256
    retentionClass := toUpper (trimSpace input.retentionClass)
    createdBy := trimSpace input.createdBy }

def NewArtifactInput.owned (input : NewArtifactInput) : Bool :=
  input.tenantID != .nil && input.projectID != .nil && input.runID != .nil && input.attemptID != .nil &&
    1 ≤ input.attemptNumber && input.attemptNumber ≤ 10

def NewArtifactInput.validKey (input : NewArtifactInput) : Bool :=
  let start := attemptPrefix input.tenantID input.projectID input.runID input.attemptNumber
  start.utf8ByteSize < input.objectKey.utf8ByteSize && input.objectKey.utf8ByteSize ≤ 2048 &&
    start.toList.isPrefixOf input.objectKey.toList && !input.objectKey.toList.contains '\\' &&
    !hasUnsafeObjectKeySegment input.objectKey

def NewArtifactInput.validContent (input : NewArtifactInput) : Bool :=
  input.contentType != "" && input.contentType.utf8ByteSize ≤ 255 && 0 ≤ input.sizeBytes && matchesSHA256 input.sha256

def NewArtifactInput.validRetention (input : NewArtifactInput) : Bool :=
  input.retentionClass == "HOT" || input.retentionClass == "ARCHIVE"

def NewArtifactInput.validActor (input : NewArtifactInput) : Bool :=
  input.createdBy != "" && input.createdBy.utf8ByteSize ≤ 255

/-- The artifact of an input that passed the checks. -/
def NewArtifactInput.artifact (input : NewArtifactInput) (id : UUID) (now : Operator.Time) : Artifact where
  id := id
  tenantID := input.tenantID
  projectID := input.projectID
  runID := input.runID
  attemptID := input.attemptID
  attemptNumber := input.attemptNumber
  objectKey := input.objectKey
  contentType := input.contentType
  sizeBytes := input.sizeBytes
  sha256 := input.sha256
  retentionClass := input.retentionClass
  createdBy := input.createdBy
  createdAt := now

/-- `NewArtifact` with the identifier that it generates. -/
def newArtifact (input : NewArtifactInput) (id : UUID) (now : Operator.Time) : Except Error Artifact :=
  let input := input.trimmed toUpper
  if !input.owned then .error (.validation "artifact ownership is invalid")
  else if !input.validKey then .error (.validation "artifact object key is invalid")
  else if !input.validContent then .error (.validation "artifact content metadata is invalid")
  else if !input.validRetention then .error (.validation "artifact retention class is invalid")
  else if !input.validActor then .error (.validation "artifact actor is invalid")
  else .ok (input.artifact id now)

end NewArtifact

/-! ## Addressing an artifact -/

structure ArtifactKey where
  tenantID : UUID
  projectID : UUID
  runID : UUID
  attempt : Int
  name : String
  deriving DecidableEq

def ArtifactKey.objectName (key : ArtifactKey) : Except String String :=
  if key.tenantID = .nil ∨ key.projectID = .nil ∨ key.runID = .nil ∨ key.attempt < 1 then .error "artifact scope is invalid"
  else if key.name = "" ∨ '\\' ∈ key.name.toList ∨ Paths.isAbs key.name = true ∨ Paths.clean key.name ≠ key.name then
    .error "artifact name is invalid"
  else if (key.name.toList.splitOn '/').any isUnsafeSegment then .error "artifact name is invalid"
  else .ok (attemptPrefix key.tenantID key.projectID key.runID key.attempt ++ key.name)

/-- `strings.CutPrefix`. -/
def cutPrefix (text start : String) : Option String :=
  if start.toList.isPrefixOf text.toList then some (String.ofList (text.toList.drop start.toList.length)) else none

def keyForArtifact (artifact : Artifact) : Except String ArtifactKey :=
  match cutPrefix artifact.objectKey
      (attemptPrefix artifact.tenantID artifact.projectID artifact.runID artifact.attemptNumber) with
  | none => .error "artifact metadata object key is invalid"
  | some name =>
    let key : ArtifactKey := ⟨artifact.tenantID, artifact.projectID, artifact.runID, artifact.attemptNumber, name⟩
    if key.objectName = .ok artifact.objectKey then .ok key else .error "artifact metadata object key is invalid"

/-! ## Components -/

section Components

variable {tenantID projectID runID : UUID} {attempt : Int}

/-- The characters of an identifier. -/
theorem mem_text {id : UUID} {c : Char} (member : c ∈ id.text.toList) :
    c = '-' ∨ ∃ n : Fin 16, c = Nat.digitChar n := by
  obtain ⟨a, b, c', d, e, -, -, -, -, -, digits, text⟩ := Events.text_groups id
  by_cases dash : c = '-'
  · exact .inl dash
  · have inside : c ∈ id.hex := by
      rw [text] at member
      simpa [digits, dash] using member
    obtain ⟨byte, -, digit⟩ := List.mem_flatMap.mp inside
    simp only [UUID.byteHex, List.mem_cons, List.not_mem_nil, or_false] at digit
    rcases digit with rfl | rfl
    · exact .inr ⟨⟨byte.toNat / 16, by omega⟩, rfl⟩
    · exact .inr ⟨⟨byte.toNat % 16, by omega⟩, rfl⟩

/-- A character of a key that the platform writes itself. -/
def NameChar (c : Char) : Prop := c ≠ '/' ∧ c ≠ '\\' ∧ c ≠ '.' ∧ isUnicodeSpace c = false

instance (c : Char) : Decidable (NameChar c) := inferInstanceAs (Decidable (_ ∧ _))

theorem nameChar_digitChar : ∀ n : Fin 16, NameChar (Nat.digitChar n) := by decide

theorem nameChar_text {id : UUID} {c : Char} (member : c ∈ id.text.toList) : NameChar c := by
  rcases mem_text member with rfl | ⟨n, rfl⟩
  · decide
  · exact nameChar_digitChar n

theorem nameChar_toString {n : Int} (positive : 1 ≤ n) {c : Char} (member : c ∈ (toString n).toList) : NameChar c := by
  rw [toList_toString positive] at member
  have digit := JsonText.isDigit_toDigits _ c member
  refine ⟨?_, ?_, ?_, ?_⟩
  · rintro rfl
    exact absurd digit (by decide)
  · rintro rfl
    exact absurd digit (by decide)
  · rintro rfl
    exact absurd digit (by decide)
  · simp only [Char.isDigit, Bool.and_eq_true, decide_eq_true_eq] at digit
    have low : 48 ≤ c.toNat := digit.1
    have high : c.toNat ≤ 57 := digit.2
    simp only [isUnicodeSpace, List.contains_eq_mem, List.mem_cons, List.not_mem_nil, or_false, Bool.or_eq_false_iff,
      decide_eq_false_iff_not, Bool.and_eq_false_iff, not_le, not_or]
    omega

theorem normal_of_nameChar {component : List Char} (filled : component ≠ []) (plain : ∀ c ∈ component, NameChar c) :
    Paths.Normal component := by
  refine ⟨filled, ?_, ?_, fun slash => (plain '/' slash).1 rfl⟩
  · rintro rfl
    exact (plain '.' (by decide)).2.2.1 rfl
  · rintro rfl
    exact (plain '.' (by decide)).2.2.1 rfl

/-- The components that the keys of an attempt begin with. -/
def attemptComponents (tenantID projectID runID : UUID) (attempt : Int) : List Paths.Component :=
  ["tenants", tenantID.text, "projects", projectID.text, "runs", runID.text, "attempts", toString attempt].map String.toList

theorem text_ne_nil (id : UUID) : id.text.toList ≠ [] := by
  intro empty
  have size := Events.utf8ByteSize_text id
  rw [String.toList_eq_nil_iff.mp empty] at size
  cases size

theorem plain_constants : ["tenants", "projects", "runs", "attempts"].all
    (fun text => text.toList != [] && text.toList.all fun c => decide (NameChar c)) = true := by decide +kernel

theorem plain_components (positive : 1 ≤ attempt) :
    ∀ component ∈ attemptComponents tenantID projectID runID attempt, component ≠ [] ∧ ∀ c ∈ component, NameChar c := by
  have constant : ∀ text ∈ ["tenants", "projects", "runs", "attempts"], text.toList ≠ [] ∧ ∀ c ∈ text.toList, NameChar c := by
    intro text member
    have known := List.all_eq_true.mp plain_constants text member
    simpa using known
  have identity : ∀ id : UUID, id.text.toList ≠ [] ∧ ∀ c ∈ id.text.toList, NameChar c := fun id =>
    ⟨text_ne_nil id, fun _ => nameChar_text⟩
  have number : (toString attempt).toList ≠ [] ∧ ∀ c ∈ (toString attempt).toList, NameChar c :=
    ⟨(normal_toString positive).filled, fun _ => nameChar_toString positive⟩
  simp only [attemptComponents, List.map_cons, List.map_nil, List.forall_mem_cons]
  exact ⟨constant _ (by simp), identity _, constant _ (by simp), identity _, constant _ (by simp), identity _,
    constant _ (by simp), number, by simp⟩

/-- Texts between constants that begin and end with slashes. The constants are variables here: comparing literals is
expensive. -/
theorem toList_slashes {p q r s t x y z n : String} {a b c d : Paths.Component} (first : p.toList = a ++ ['/'])
    (second : q.toList = '/' :: (b ++ ['/'])) (third : r.toList = '/' :: (c ++ ['/']))
    (fourth : s.toList = '/' :: (d ++ ['/'])) (last : t.toList = ['/']) :
    (p ++ x ++ q ++ y ++ r ++ z ++ s ++ n ++ t).toList =
      Paths.relative [a, x.toList, b, y.toList, c, z.toList, d, n.toList] ++ ['/'] := by
  simp [Paths.relative, List.intercalate, first, second, third, fourth, last]

theorem toList_attemptPrefix :
    (attemptPrefix tenantID projectID runID attempt).toList =
      Paths.relative (attemptComponents tenantID projectID runID attempt) ++ ['/'] := by
  have constants : "tenants/".toList = "tenants".toList ++ ['/'] ∧ "/projects/".toList = '/' :: ("projects".toList ++ ['/']) ∧
      "/runs/".toList = '/' :: ("runs".toList ++ ['/']) ∧ "/attempts/".toList = '/' :: ("attempts".toList ++ ['/']) ∧
      "/".toList = ['/'] := by decide +kernel
  exact toList_slashes constants.1 constants.2.1 constants.2.2.1 constants.2.2.2.1 constants.2.2.2.2

/-- The segments of a key are those of the attempt and those of the name. -/
theorem splitOn_key (positive : 1 ≤ attempt) (name : String) :
    (attemptPrefix tenantID projectID runID attempt ++ name).toList.splitOn '/' =
      attemptComponents tenantID projectID runID attempt ++ name.toList.splitOn '/' := by
  rw [String.toList_append, toList_attemptPrefix, List.append_assoc, List.singleton_append, List.splitOn_append_cons_self,
    Paths.relative, List.splitOn_intercalate _ _ (by simp [attemptComponents])]
  intro component member
  obtain ⟨filled, plain⟩ := plain_components positive component member
  exact fun slash => (plain '/' slash).1 rfl

end Components

/-! ## What an accepted key is made of -/

section Accepted

variable {toUpper : String → String} {input : NewArtifactInput} {id : UUID} {now : Operator.Time} {artifact : Artifact}

theorem newArtifact_eq_ok : newArtifact toUpper input id now = .ok artifact ↔
    (input.trimmed toUpper).owned = true ∧ (input.trimmed toUpper).validKey = true ∧
      ((input.trimmed toUpper).validContent = true ∧ (input.trimmed toUpper).validRetention = true ∧
        (input.trimmed toUpper).validActor = true) ∧ artifact = (input.trimmed toUpper).artifact id now := by
  unfold newArtifact
  dsimp only
  cases (input.trimmed toUpper).owned with
  | false => simp
  | true =>
    cases (input.trimmed toUpper).validKey with
    | false => simp
    | true =>
      cases (input.trimmed toUpper).validContent with
      | false => simp
      | true =>
        cases (input.trimmed toUpper).validRetention with
        | false => simp
        | true =>
          cases (input.trimmed toUpper).validActor with
          | false => simp
          | true => simpa using eq_comm

/-- A name below an attempt. -/
structure SafeName (name : String) : Prop where
  segments : ∀ segment ∈ name.toList.splitOn '/', Paths.Normal segment
  backslash : '\\' ∉ name.toList

/-- The key of the artifact is that of its attempt and this name. -/
structure Artifact.KeyedBy (artifact : Artifact) (name : String) : Prop where
  identities : artifact.tenantID ≠ .nil ∧ artifact.projectID ≠ .nil ∧ artifact.runID ≠ .nil
  attempt : 1 ≤ artifact.attemptNumber
  key : artifact.objectKey =
    attemptPrefix artifact.tenantID artifact.projectID artifact.runID artifact.attemptNumber ++ name
  safe : SafeName name

theorem normal_of_safe {text : List Char} (safe : (text.splitOn '/').any isUnsafeSegment = false) :
    ∀ segment ∈ text.splitOn '/', Paths.Normal segment := by
  intro segment member
  have known := List.any_eq_false.mp safe segment member
  simp only [isUnsafeSegment, Bool.or_eq_true, beq_iff_eq, not_or] at known
  exact ⟨known.1.1, known.1.2, known.2, Paths.slash_not_mem member⟩

theorem safe_of_normal {text : List Char} (normal : ∀ segment ∈ text.splitOn '/', Paths.Normal segment) :
    (text.splitOn '/').any isUnsafeSegment = false := by
  rw [List.any_eq_false]
  intro segment member
  have known := normal segment member
  simp [isUnsafeSegment, known.filled, known.current, known.parent]

/-- An accepted key is a safe name below its attempt. -/
theorem exists_keyedBy (accepted : newArtifact toUpper input id now = .ok artifact) : ∃ name, artifact.KeyedBy name := by
  obtain ⟨owned, valid, -, rfl⟩ := newArtifact_eq_ok.mp accepted
  simp only [NewArtifactInput.owned, Bool.and_eq_true, bne_iff_ne, decide_eq_true_eq] at owned
  obtain ⟨⟨⟨⟨⟨tenant, project⟩, run⟩, -⟩, positive⟩, -⟩ := owned
  simp only [NewArtifactInput.validKey, Bool.and_eq_true, decide_eq_true_eq, List.isPrefixOf_iff_prefix, Bool.not_eq_true',
    List.contains_eq_mem, decide_eq_false_iff_not] at valid
  obtain ⟨⟨⟨-, rest, split⟩, backslash⟩, safe⟩ := valid
  have key : (input.trimmed toUpper).objectKey = attemptPrefix (input.trimmed toUpper).tenantID
      (input.trimmed toUpper).projectID (input.trimmed toUpper).runID (input.trimmed toUpper).attemptNumber ++
      String.ofList rest := String.toList_injective (by rw [String.toList_append, String.toList_ofList, split])
  refine ⟨String.ofList rest, ⟨tenant, project, run⟩, positive, key, ⟨fun segment member => ?_, fun inside => ?_⟩⟩
  · refine normal_of_safe safe segment ?_
    rw [key, splitOn_key positive]
    exact List.mem_append_right _ member
  · refine backslash ?_
    rw [key, String.toList_append]
    exact List.mem_append_right _ inside

theorem objectName_of_safe {key : ArtifactKey} (identities : key.tenantID ≠ .nil ∧ key.projectID ≠ .nil ∧ key.runID ≠ .nil)
    (positive : 1 ≤ key.attempt) (safe : SafeName key.name) :
    key.objectName = .ok (attemptPrefix key.tenantID key.projectID key.runID key.attempt ++ key.name) := by
  obtain ⟨relative, cleaned⟩ := Paths.clean_of_normal safe.segments
  have filled : key.name ≠ "" := fun empty => by
    have segments := safe.segments
    rw [empty] at segments
    exact absurd rfl (segments [] (by simp)).filled
  rw [ArtifactKey.objectName, if_neg, if_neg, if_neg]
  · rw [safe_of_normal safe.segments]
    decide
  · rintro (empty | slash | rooted | dirty)
    · exact filled empty
    · exact safe.backslash slash
    · rw [relative] at rooted
      cases rooted
    · exact dirty cleaned
  · rintro (nil | nil | nil | few)
    · exact identities.1 nil
    · exact identities.2.1 nil
    · exact identities.2.2 nil
    · omega

/-- The parts of an accepted key are recovered from it, and they write the key again. -/
theorem keyForArtifact_of_keyedBy {name : String} (keyed : artifact.KeyedBy name) :
    keyForArtifact artifact =
        .ok ⟨artifact.tenantID, artifact.projectID, artifact.runID, artifact.attemptNumber, name⟩ ∧
      ArtifactKey.objectName ⟨artifact.tenantID, artifact.projectID, artifact.runID, artifact.attemptNumber, name⟩ =
        .ok artifact.objectKey := by
  have written : ArtifactKey.objectName
      ⟨artifact.tenantID, artifact.projectID, artifact.runID, artifact.attemptNumber, name⟩ = .ok artifact.objectKey := by
    rw [keyed.key]
    exact objectName_of_safe keyed.identities keyed.attempt keyed.safe
  have cut : cutPrefix artifact.objectKey
      (attemptPrefix artifact.tenantID artifact.projectID artifact.runID artifact.attemptNumber) = some name := by
    rw [cutPrefix, keyed.key, String.toList_append, if_pos (List.isPrefixOf_iff_prefix.mpr (List.prefix_append _ _)),
      List.drop_left, String.ofList_toList]
  exact ⟨by rw [keyForArtifact, cut]; exact if_pos written, written⟩

/-- A key belongs to one attempt of one run, and to one name there. -/
theorem keyedBy_injective {other : Artifact} {name name' : String} (keyed : artifact.KeyedBy name)
    (keyed' : other.KeyedBy name') (same : artifact.objectKey = other.objectKey) :
    artifact.tenantID = other.tenantID ∧ artifact.projectID = other.projectID ∧ artifact.runID = other.runID ∧
      artifact.attemptNumber = other.attemptNumber ∧ name = name' := by
  have segments := congrArg (fun key => key.toList.splitOn '/') same
  simp only [keyed.key, keyed'.key, splitOn_key keyed.attempt, splitOn_key keyed'.attempt] at segments
  obtain ⟨attempt, names⟩ := List.append_inj segments (by simp [attemptComponents])
  simp only [attemptComponents, List.map_cons, List.map_nil, List.cons.injEq, String.toList_inj, true_and, and_true] at attempt
  obtain ⟨tenant, project, run, number⟩ := attempt
  have identity : ∀ {a b : UUID}, a.text = b.text → a = b := fun texts =>
    UUID.withoutDashes_text_injective (congrArg Operator.withoutDashes texts)
  refine ⟨identity tenant, identity project, identity run, Int.repr_injective number, String.toList_injective ?_⟩
  calc name.toList = ['/'].intercalate (name.toList.splitOn '/') := (List.intercalate_splitOn _).symm
    _ = ['/'].intercalate (name'.toList.splitOn '/') := by rw [names]
    _ = name'.toList := List.intercalate_splitOn _

end Accepted

/-! ## The keys of the runner -/

/-- The keys that `publishArtifacts` writes: those of the listed objects, and the manifest's. -/
def publishedKeys (config : RuntimeConfig) (snapshot : Bytes) (trajectory : String) (results : List CommandResult) :
    List String :=
  (listedObjects config snapshot trajectory results).map Prod.fst ++ [manifestKey config]

/-- Programs that store objects under some keys only. -/
def storing (store : ArtifactStore) (keys : List String) : Usage Op Op.Res where
  calls := fun _ op =>
    match op with
    | .replaceFile path _ => ∃ key ∈ keys, ∃ root, store = .filesystem root ∧ filesystemPath root key = .ok path
    | .putObject bucket name .. => ∃ key ∈ keys, ∃ start, store = .s3 bucket start ∧ name = fullKey start key
    | _ => True
  answers := fun _ _ _ => True

section Storing

variable {library : Library} {store : ArtifactStore} {keys : List String} {key contentType : String} {contents : Bytes}

theorem put_storing (known : key ∈ keys) :
    (storing store keys).Returns (store.put library key contentType contents) fun _ => True := by
  cases store with
  | filesystem root =>
    cases found : filesystemPath root key with
    | error reason =>
      rw [ArtifactStore.put, found]
      exact .pure trivial
    | ok path =>
      rw [ArtifactStore.put, found]
      exact .bind (.perform fun _ => ⟨key, known, root, rfl, found⟩) fun _ _ => .pure trivial
  | s3 bucket start => exact .bind (.perform fun _ => ⟨key, known, start, rfl, rfl⟩) fun _ _ => .pure trivial

theorem head_storing : (storing store keys).Returns (store.head library key) fun _ => True := by
  cases store with
  | filesystem root =>
    cases found : filesystemPath root key with
    | error reason =>
      rw [ArtifactStore.head, found]
      exact .pure trivial
    | ok path =>
      rw [ArtifactStore.head, found]
      exact .bind (.perform fun _ => trivial) fun _ _ => .pure trivial
  | s3 bucket start => exact .bind (.perform fun _ => trivial) fun _ _ => .pure trivial

theorem putOnce_storing (known : key ∈ keys) :
    (storing store keys).Returns (putOnce library store key contentType contents) fun _ => True := by
  refine .bind (put_storing known) fun result _ => ?_
  cases result with
  | error reason => exact .pure trivial
  | ok object =>
    refine .bind head_storing fun read _ => ?_
    cases read with
    | error reason => exact .pure trivial
    | ok head =>
      dsimp only
      split
      · exact .pure trivial
      · exact .pure trivial

theorem putAttempts_storing (known : key ∈ keys) (limit left : Nat) (last : String) :
    (storing store keys).Returns (putAttempts library store key contentType contents limit left last) fun _ => True := by
  induction left generalizing last with
  | zero => exact .pure trivial
  | succ left ih =>
    refine .bind (putOnce_storing known) fun result _ => ?_
    cases result with
    | ok object => exact .pure trivial
    | error reason =>
      refine .bind (.perform fun _ => trivial) fun waited _ => ?_
      cases waited with
      | error cancelled => exact .pure trivial
      | ok => exact ih reason

theorem putAll_storing {objects : List (String × String × Bytes)} (known : ∀ object ∈ objects, object.1 ∈ keys) :
    (storing store keys).Returns (putAll library store objects) fun _ => True := by
  induction objects with
  | nil => exact .pure trivial
  | cons object rest ih =>
    obtain ⟨first, others⟩ := List.forall_mem_cons.mp known
    refine .bind (putAttempts_storing first 3 3 "") fun result _ => ?_
    cases result with
    | error reason => exact .pure trivial
    | ok object => exact .bind (ih others) fun _ _ => .pure trivial

/-- Whatever its calls are answered, the runner stores objects under the published keys only. -/
theorem publishArtifacts_storing (config : RuntimeConfig) (workspace trajectory : String) (results : List CommandResult) :
    (storing store (publishedKeys config [] trajectory results)).Returns
      (publishArtifacts library store config workspace trajectory results) fun _ => True := by
  refine .bind (.perform fun _ => trivial) fun snapshot _ => ?_
  cases snapshot with
  | error reason => exact .pure trivial
  | ok snapshot =>
    refine .bind (putAll_storing fun object member => ?_) fun published _ => ?_
    · change object.1 ∈ publishedKeys config snapshot trajectory results
      exact List.mem_append_left _ (List.mem_map_of_mem member)
    · cases published with
      | error reason => exact .pure trivial
      | ok published =>
        refine .bind (putAttempts_storing (by simp [publishedKeys]) 3 3 "") fun result _ => ?_
        cases result with
        | error reason => exact .pure trivial
        | ok object => exact .pure trivial

end Storing

/-- The names below an attempt. -/
def publishedNames : List String :=
  ["source.tar.gz", "test-report.json", "trajectory/000001.jsonl", "logs/stdout.txt", "logs/stderr.txt",
    "result-manifest.json"]

theorem publishedNames_checked : publishedNames.all (fun name => !(name.toList.splitOn '/').any isUnsafeSegment &&
    !name.toList.contains '\\' && name.toList.all (!isUnicodeSpace ·) && decide (0 < name.utf8ByteSize) &&
    decide (name.utf8ByteSize ≤ 100)) = true := by decide +kernel

/-- The identities of a configuration are those of an attempt. -/
structure Identified (config : RuntimeConfig) (tenantID projectID runID : UUID) : Prop where
  tenant : config.tenantID = tenantID.text
  project : config.projectID = projectID.text
  run : config.runID = runID.text

section Published

variable {config : RuntimeConfig} {tenantID projectID runID : UUID} {attempt : Int}

theorem executionPrefix_slash (identified : Identified config tenantID projectID runID) (name : String) :
    executionPrefix config ++ ("/" ++ name) = attemptPrefix tenantID projectID runID config.attempt ++ name := by
  have components : executionComponents config = attemptComponents tenantID projectID runID config.attempt := by
    rw [executionComponents, attemptComponents, identified.tenant, identified.project, identified.run]
  refine String.toList_injective ?_
  rw [executionPrefix_eq, components]
  simp [toList_attemptPrefix]

theorem exists_name_of_published (identified : Identified config tenantID projectID runID) {snapshot : Bytes}
    {trajectory : String} {results : List CommandResult} {key : String}
    (member : key ∈ publishedKeys config snapshot trajectory results) :
    ∃ name ∈ publishedNames, key = attemptPrefix tenantID projectID runID config.attempt ++ name := by
  have slash : ∀ name ∈ publishedNames, executionPrefix config ++ ("/" ++ name) = key →
      ∃ name ∈ publishedNames, key = attemptPrefix tenantID projectID runID config.attempt ++ name :=
    fun name known same => ⟨name, known, same ▸ executionPrefix_slash identified name⟩
  simp only [publishedKeys, listedObjects, manifestKey, List.map_cons, List.map_nil, List.cons_append, List.nil_append,
    List.mem_cons, List.not_mem_nil, or_false] at member
  rcases member with rfl | rfl | rfl | rfl | rfl | rfl
  · exact slash "source.tar.gz" (by simp [publishedNames]) rfl
  · exact slash "test-report.json" (by simp [publishedNames]) rfl
  · exact slash "trajectory/000001.jsonl" (by simp [publishedNames]) rfl
  · exact slash "logs/stdout.txt" (by simp [publishedNames]) rfl
  · exact slash "logs/stderr.txt" (by simp [publishedNames]) rfl
  · exact slash "result-manifest.json" (by simp [publishedNames]) rfl

theorem utf8ByteSize_toString (positive : 1 ≤ attempt) (few : attempt ≤ 10) : (toString attempt).utf8ByteSize ≤ 2 := by
  have all : (List.range 11).all (fun n => decide ((toString (n : Int)).utf8ByteSize ≤ 2)) = true := by decide +kernel
  obtain ⟨n, rfl⟩ := Int.eq_ofNat_of_zero_le (by omega : 0 ≤ attempt)
  exact of_decide_eq_true (List.all_eq_true.mp all n (List.mem_range.mpr (by omega)))

theorem utf8ByteSize_slashes {p q r s t x y z n : String} (constants : p.utf8ByteSize = 8 ∧ q.utf8ByteSize = 10 ∧
    r.utf8ByteSize = 6 ∧ s.utf8ByteSize = 10 ∧ t.utf8ByteSize = 1)
    (identities : x.utf8ByteSize = 36 ∧ y.utf8ByteSize = 36 ∧ z.utf8ByteSize = 36) (number : n.utf8ByteSize ≤ 2) :
    (p ++ x ++ q ++ y ++ r ++ z ++ s ++ n ++ t).utf8ByteSize ≤ 145 := by
  simp only [String.utf8ByteSize_append]
  omega

theorem utf8ByteSize_attemptPrefix (positive : 1 ≤ attempt) (few : attempt ≤ 10) :
    (attemptPrefix tenantID projectID runID attempt).utf8ByteSize ≤ 145 := by
  have constants : "tenants/".utf8ByteSize = 8 ∧ "/projects/".utf8ByteSize = 10 ∧ "/runs/".utf8ByteSize = 6 ∧
      "/attempts/".utf8ByteSize = 10 ∧ "/".utf8ByteSize = 1 := by decide +kernel
  exact utf8ByteSize_slashes constants ⟨Events.utf8ByteSize_text _, Events.utf8ByteSize_text _, Events.utf8ByteSize_text _⟩
    (utf8ByteSize_toString positive few)

theorem trimSpace_of_spaceless {text : String} (spaceless : ∀ c ∈ text.toList, isUnicodeSpace c = false) :
    trimSpace text = text := by
  have kept : ∀ characters : List Char, (∀ c ∈ characters, isUnicodeSpace c = false) →
      characters.dropWhile isUnicodeSpace = characters := by
    intro characters all
    cases characters with
    | nil => rfl
    | cons c rest => rw [List.dropWhile_cons_of_neg (by simp [all c (by simp)])]
  unfold trimSpace trimBoth
  rw [kept _ spaceless, kept _ fun c member => spaceless c (List.mem_reverse.mp member), List.reverse_reverse,
    String.ofList_toList]

/-- The characters that the keys of an attempt begin with. -/
theorem mem_attemptPrefix (positive : 1 ≤ attempt) {c : Char}
    (member : c ∈ (attemptPrefix tenantID projectID runID attempt).toList) : c = '/' ∨ NameChar c := by
  have plain := @plain_components tenantID projectID runID attempt positive
  rw [toList_attemptPrefix] at member
  simp only [attemptComponents, Paths.relative, List.intercalate, List.map_cons, List.map_nil, List.intersperse,
    List.flatten_cons, List.flatten_nil, List.append_nil, List.mem_append, List.mem_singleton, List.forall_mem_cons] at member plain
  grind

/-- A safe name of at most 100 bytes gives a valid key. -/
theorem validKey_of_safe {input : NewArtifactInput} {name : String}
    (bounds : 1 ≤ input.attemptNumber ∧ input.attemptNumber ≤ 10)
    (keyed : input.objectKey = attemptPrefix input.tenantID input.projectID input.runID input.attemptNumber ++ name)
    (safe : SafeName name) (filled : 0 < name.utf8ByteSize) (short : name.utf8ByteSize ≤ 100) : input.validKey = true := by
  have size := @utf8ByteSize_attemptPrefix input.tenantID input.projectID input.runID _ bounds.1 bounds.2
  have segments : hasUnsafeObjectKeySegment input.objectKey = false := by
    rw [hasUnsafeObjectKeySegment, keyed]
    refine safe_of_normal fun segment inside => ?_
    rw [splitOn_key bounds.1] at inside
    rcases List.mem_append.mp inside with start | rest
    · obtain ⟨nonempty, plain⟩ := plain_components bounds.1 segment start
      exact normal_of_nameChar nonempty plain
    · exact safe.segments segment rest
  have backslash : '\\' ∉ input.objectKey.toList := by
    rw [keyed, String.toList_append]
    intro inside
    rcases List.mem_append.mp inside with start | rest
    · rcases mem_attemptPrefix bounds.1 start with other | plain
      · cases other
      · exact plain.2.1 rfl
    · exact safe.backslash rest
  have start : (attemptPrefix input.tenantID input.projectID input.runID input.attemptNumber).toList <+:
      input.objectKey.toList := by
    rw [keyed, String.toList_append]
    exact List.prefix_append _ _
  have bytes : input.objectKey.utf8ByteSize =
      (attemptPrefix input.tenantID input.projectID input.runID input.attemptNumber).utf8ByteSize + name.utf8ByteSize := by
    rw [keyed, String.utf8ByteSize_append]
  simp only [NewArtifactInput.validKey, bytes, segments, List.isPrefixOf_iff_prefix.mpr start, List.contains_eq_mem, backslash,
    decide_false, Bool.not_false, Bool.and_true, Bool.and_eq_true, decide_eq_true_eq]
  omega

/-- Every key that the runner writes is accepted for its attempt. -/
theorem published_accepted {toUpper : String → String} {input : NewArtifactInput} {id : UUID} {now : Operator.Time}
    {snapshot : Bytes} {trajectory : String} {results : List CommandResult} {key : String}
    (identified : Identified config tenantID projectID runID) (member : key ∈ publishedKeys config snapshot trajectory results)
    (scope : input.tenantID = tenantID ∧ input.projectID = projectID ∧ input.runID = runID ∧
      input.attemptNumber = config.attempt ∧ input.objectKey = key)
    (owned : input.owned = true) (metadata : (input.trimmed toUpper).validContent = true ∧
      (input.trimmed toUpper).validRetention = true ∧ (input.trimmed toUpper).validActor = true) :
    ∃ artifact, newArtifact toUpper input id now = .ok artifact ∧ artifact.objectKey = key := by
  obtain ⟨name, known, rfl⟩ := exists_name_of_published identified member
  obtain ⟨rfl, rfl, rfl, number, keyed⟩ := scope
  rw [← number] at keyed
  have checked := List.all_eq_true.mp publishedNames_checked name known
  simp only [Bool.and_eq_true, Bool.not_eq_true', decide_eq_true_eq, List.contains_eq_mem, decide_eq_false_iff_not,
    List.all_eq_true] at checked
  obtain ⟨⟨⟨⟨safe, backslash⟩, spaceless⟩, filled⟩, short⟩ := checked
  have bounds : 1 ≤ input.attemptNumber ∧ input.attemptNumber ≤ 10 := by
    simp only [NewArtifactInput.owned, Bool.and_eq_true, decide_eq_true_eq] at owned
    exact ⟨owned.1.2, owned.2⟩
  have trimmed : trimSpace input.objectKey = input.objectKey := by
    refine trimSpace_of_spaceless fun c inside => ?_
    rw [keyed, String.toList_append] at inside
    rcases List.mem_append.mp inside with start | rest
    · rcases mem_attemptPrefix bounds.1 start with rfl | plain
      · decide
      · exact plain.2.2.2
    · exact spaceless c rest
  have valid : (input.trimmed toUpper).validKey = true :=
    validKey_of_safe bounds (trimmed.trans keyed) ⟨normal_of_safe safe, backslash⟩ filled short
  refine ⟨_, newArtifact_eq_ok.mpr ⟨owned, valid, metadata, rfl⟩, ?_⟩
  change trimSpace input.objectKey = _
  rw [trimmed, keyed, number]

/-- The runner, the registry and the store agree on keys: what the runner writes is accepted for its attempt, an accepted key
is written again from its parts, and no two accepted artifacts with different parts have one key. -/
theorem artifactKeys_agree (toUpper : String → String) :
    (∀ (config : RuntimeConfig) (tenantID projectID runID : UUID) (snapshot : Bytes) (trajectory : String)
      (results : List CommandResult), Identified config tenantID projectID runID →
      tenantID ≠ .nil ∧ projectID ≠ .nil ∧ runID ≠ .nil → 1 ≤ config.attempt ∧ config.attempt ≤ 10 →
      ∀ key ∈ publishedKeys config snapshot trajectory results, ∀ (input : NewArtifactInput) (id : UUID) (now : Operator.Time),
      input.tenantID = tenantID ∧ input.projectID = projectID ∧ input.runID = runID ∧
        input.attemptNumber = config.attempt ∧ input.objectKey = key → input.attemptID ≠ .nil →
      (input.trimmed toUpper).validContent = true ∧ (input.trimmed toUpper).validRetention = true ∧
        (input.trimmed toUpper).validActor = true →
      ∃ artifact, newArtifact toUpper input id now = .ok artifact ∧ artifact.objectKey = key) ∧
    (∀ (input : NewArtifactInput) (id : UUID) (now : Operator.Time) (artifact : Artifact),
      newArtifact toUpper input id now = .ok artifact →
      ∃ key, keyForArtifact artifact = .ok key ∧ key.objectName = .ok artifact.objectKey) ∧
    ∀ (input input' : NewArtifactInput) (id id' : UUID) (now now' : Operator.Time) (artifact artifact' : Artifact)
      (key key' : ArtifactKey), newArtifact toUpper input id now = .ok artifact →
      newArtifact toUpper input' id' now' = .ok artifact' → keyForArtifact artifact = .ok key →
      keyForArtifact artifact' = .ok key' → key ≠ key' → artifact.objectKey ≠ artifact'.objectKey := by
  refine ⟨?_, ?_, ?_⟩
  · intro config tenantID projectID runID snapshot trajectory results identified identities attempt key member input id now
      scope attemptID metadata
    refine published_accepted identified member scope ?_ metadata
    obtain ⟨rfl, rfl, rfl, number, -⟩ := scope
    simp only [NewArtifactInput.owned, Bool.and_eq_true, bne_iff_ne, decide_eq_true_eq, number]
    exact ⟨⟨⟨⟨⟨identities.1, identities.2.1⟩, identities.2.2⟩, attemptID⟩, attempt.1⟩, attempt.2⟩
  · intro input id now artifact accepted
    obtain ⟨name, keyed⟩ := exists_keyedBy accepted
    exact ⟨_, keyForArtifact_of_keyedBy keyed⟩
  · intro input input' id id' now now' artifact artifact' key key' accepted accepted' found found' different same
    obtain ⟨name, keyed⟩ := exists_keyedBy accepted
    obtain ⟨name', keyed'⟩ := exists_keyedBy accepted'
    rw [(keyForArtifact_of_keyedBy keyed).1] at found
    rw [(keyForArtifact_of_keyedBy keyed').1] at found'
    cases found
    cases found'
    obtain ⟨tenant, project, run, attempt, names⟩ := keyedBy_injective keyed keyed' same
    exact different (by rw [tenant, project, run, attempt, names])

end Published

/-! ## A manifest -/

/-- Identifiers that differ in the last byte. -/
def sampleID (n : BitVec 8) : UUID := ⟨#v[0x02, 0, 0, 0, 0, 0, 0x70, 0, 0, 0, 0, 0, 0, 0, 0, n]⟩

/-- The configuration of the first attempt of a run of the tenant. -/
def executionOf (tenantID : UUID) : RuntimeConfig :=
  ⟨1, tenantID.text, (sampleID 2).text, (sampleID 3).text, (sampleID 4).text, 1, "", 600, [], [], ""⟩

theorem executionOf_identified (tenantID : UUID) : Identified (executionOf tenantID) tenantID (sampleID 2) (sampleID 3) :=
  ⟨rfl, rfl, rfl⟩

/-- The manifest of that attempt. -/
def manifestInput (tenantID : UUID) : NewArtifactInput where
  tenantID := tenantID
  projectID := sampleID 2
  runID := sampleID 3
  attemptID := sampleID 4
  attemptNumber := 1
  objectKey := manifestKey (executionOf tenantID)
  contentType := "application/json"
  sizeBytes := 1
  sha256 := String.ofList (List.replicate 64 'a')
  retentionClass := "HOT"
  createdBy := "runner"

theorem manifest_published (tenantID : UUID) :
    manifestKey (executionOf tenantID) ∈ publishedKeys (executionOf tenantID) [] "" [] :=
  List.mem_append_right _ (List.mem_singleton.mpr rfl)

theorem manifestInput_metadata : ((manifestInput (sampleID 1)).trimmed id).validContent = true ∧
    ((manifestInput (sampleID 1)).trimmed id).validRetention = true ∧
    ((manifestInput (sampleID 1)).trimmed id).validActor = true := by decide +kernel

theorem manifest_registered : ∃ artifact, newArtifact id (manifestInput (sampleID 1)) (sampleID 5) 1 = .ok artifact ∧
    artifact.objectKey = manifestKey (executionOf (sampleID 1)) ∧
    ∃ key, keyForArtifact artifact = .ok key ∧ key.objectName = .ok artifact.objectKey := by
  obtain ⟨artifact, accepted, key⟩ := (artifactKeys_agree id).1 _ _ _ _ [] "" [] (executionOf_identified (sampleID 1))
    (by decide) (by decide) _ (manifest_published (sampleID 1)) (manifestInput (sampleID 1)) (sampleID 5) 1
    ⟨rfl, rfl, rfl, rfl, rfl⟩ (by decide) manifestInput_metadata
  exact ⟨artifact, accepted, key, (artifactKeys_agree id).2.1 _ _ _ _ accepted⟩

/-- The nil identifier is a UUID, and the registry refuses what the runner writes under it. -/
theorem nil_tenant_refused : Identified (executionOf .nil) .nil (sampleID 2) (sampleID 3) ∧
    (manifestInput .nil).objectKey ∈ publishedKeys (executionOf .nil) [] "" [] ∧
    newArtifact id (manifestInput .nil) (sampleID 5) 1 = .error (.validation "artifact ownership is invalid") := by
  refine ⟨executionOf_identified .nil, manifest_published .nil, ?_⟩
  have unowned : ((manifestInput .nil).trimmed id).owned = false := rfl
  rw [newArtifact, unowned]
  rfl

end AgentForge.Artifacts
