import AgentForge.Lib.Json

/-!
# Decoding into Go structs

`encoding/json` reads an object member by member, in the order of the text. A member belongs to the field of its
name or, failing that, to one whose name differs in case only; a later member overwrites an earlier one, and `null`
leaves a field as it is unless the field is a pointer. A decoder that disallows unknown fields rejects the other
members.
-/

set_option autoImplicit false

namespace AgentForge.Lib

/-- A field of a struct, with what a member does to it; `none` if the member has the wrong type. -/
structure Field (S : Type) where
  name : String
  set : Json → S → Option S

namespace Field

/-- The character that stands for all that differ from it in case only. Besides the ASCII letters, the long s and the
Kelvin sign fold into letters of field names. -/
def foldChar (c : Char) : Char :=
  if 'a' ≤ c ∧ c ≤ 'z' then Char.ofNat (c.toNat - 32)
  else if c.toNat = 0x17f then 'S'
  else if c.toNat = 0x212a then 'K'
  else c

def foldName (name : String) : List Char := name.toList.map foldChar

variable {S α : Type}

/-- The field that a member belongs to. -/
def find? (fields : List (Field S)) (key : String) : Option (Field S) :=
  match List.find? (fun field => field.name == key) fields with
  | some field => some field
  | none => List.find? (fun field => foldName field.name == foldName key) fields

/-- A field that is not a pointer. -/
def value (name : String) (read : Json → Option α) (put : α → S → S) : Field S where
  name := name
  set
    | .null, s => some s
    | json, s => (read json).map fun a => put a s

/-- A pointer. -/
def pointer (name : String) (read : Json → Option α) (put : Option α → S → S) : Field S where
  name := name
  set
    | .null, s => some (put none s)
    | json, s => (read json).map fun a => put (some a) s

/-- A `json.RawMessage`. -/
def raw (name : String) (put : Option Json → S → S) : Field S where
  name := name
  set json s := some (put (some json) s)

end Field

section Decode

variable {S : Type} (strict : Bool) (fields : List (Field S))

def decodeMembers : Json.Members → S → Option S
  | [], s => some s
  | (key, json) :: rest, s =>
    match Field.find? fields key with
    | some field => (field.set json s).bind (decodeMembers rest)
    | none => if strict then none else decodeMembers rest s

/-- Decode into a struct; `strict` disallows unknown fields. -/
def decodeStruct (s : S) : Json → Option S
  | .null => some s
  | .obj members => decodeMembers strict fields members s
  | _ => none

end Decode

/-! ## Reading back what was written -/

namespace Field

variable {S α : Type} {name : String} {read : Json → Option α} {s : S} {a : α}

/-- The first field that has a name. -/
theorem find?_at {fields : List (Field S)} {names : List String} {key : String} {field : Field S}
    (named : fields.map Field.name = names) (i : Nat) (first : names.idxOf key = i) (here : fields[i]? = some field) :
    find? fields key = some field := by
  subst named first
  obtain ⟨bound, here⟩ := List.getElem?_eq_some_iff.mp here
  have same : field.name = key := by
    have within : (fields.map Field.name).idxOf key < (fields.map Field.name).length := by simpa using bound
    have inside := List.getElem_idxOf within
    rwa [List.getElem_map, here] at inside
  have exact : List.find? (fun field => field.name == key) fields = some field := by
    refine List.find?_eq_some_iff_getElem.mpr ⟨by simpa using same, _, bound, here, fun j earlier => ?_⟩
    unfold List.idxOf at earlier
    have other := List.not_of_lt_findIdx earlier
    simpa using other
  rw [find?, exact]

theorem value_str {put : α → S → S} {text : String} (reads : read (.str text) = some a) :
    (value name read put).set (.str text) s = some (put a s) := by
  change Option.map _ (read (.str text)) = _
  rw [reads]
  rfl

theorem value_num {put : α → S → S} {n : Int} (reads : read (.num n) = some a) :
    (value name read put).set (.num n) s = some (put a s) := by
  change Option.map _ (read (.num n)) = _
  rw [reads]
  rfl

theorem pointer_str {put : Option α → S → S} {text : String} (reads : read (.str text) = some a) :
    (pointer name read put).set (.str text) s = some (put (some a) s) := by
  change Option.map _ (read (.str text)) = _
  rw [reads]
  rfl

theorem pointer_arr {put : Option α → S → S} {items : List Json} (reads : read (.arr items) = some a) :
    (pointer name read put).set (.arr items) s = some (put (some a) s) := by
  change Option.map _ (read (.arr items)) = _
  rw [reads]
  rfl

end Field

section Read

open Json

variable {S α β : Type} {strict : Bool} {fields : List (Field S)} {field : Field S} {key : String} {json : Json}
  {rest : Members} {s t : S} {names : List String} {result : Option S}

/-- A member is read into the field of its name, and the rest of the document is read from there. -/
theorem decode_member (named : fields.map Field.name = names) (i : Nat) (first : names.idxOf key = i)
    (here : fields[i]? = some field) (sets : field.set json s = some t)
    (after : decodeMembers strict fields rest t = result) :
    decodeMembers strict fields (member key json rest) s = result := by
  simp [member, decodeMembers, Field.find?_at named i first here, sets, after]

/-- A member that is left out has the value of a field that has not been set. -/
theorem decode_omitEmpty {empty : Bool} (named : fields.map Field.name = names) (i : Nat) (first : names.idxOf key = i)
    (here : fields[i]? = some field) (sets : field.set json s = some t) (same : empty = true → t = s)
    (after : decodeMembers strict fields rest t = result) :
    decodeMembers strict fields (omitEmpty key empty json rest) s = result := by
  cases empty with
  | true => exact same rfl ▸ after
  | false => exact decode_member named i first here sets after

theorem decode_omitNil {write : α → Json} {pointer : Option α} (named : fields.map Field.name = names) (i : Nat)
    (first : names.idxOf key = i) (here : fields[i]? = some field)
    (sets : ∀ a, pointer = some a → field.set (write a) s = some t) (same : pointer = none → t = s)
    (after : decodeMembers strict fields rest t = result) :
    decodeMembers strict fields (omitNil key write pointer rest) s = result := by
  cases pointer with
  | none => exact same rfl ▸ after
  | some a => exact decode_member named i first here (sets a rfl) after

end Read

/-! ## What is kept of a document -/

theorem Json.depth_lt_of_mem {members : Json.Members} {key : String} {json : Json} (inside : (key, json) ∈ members) :
    json.depth < (Json.obj members).depth := by
  have bound : json.depth ≤ Json.membersDepth members := by
    induction members with
    | nil => cases inside
    | cons first rest ih =>
      rw [Json.membersDepth]
      rcases List.mem_cons.mp inside with rfl | later
      · exact Nat.le_max_left _ _
      · exact Nat.le_trans (ih later) (Nat.le_max_right _ _)
  rw [Json.depth]
  omega

namespace Field

variable {S T α : Type} {name : String} {read : Json → Option α} {json : Json} {s s' : S}

/-- A member leaves the struct as it is or sets its field. -/
theorem value_cases {put : α → S → S} (sets : (value name read put).set json s = some s') :
    s' = s ∨ ∃ a, read json = some a ∧ s' = put a s := by
  unfold value at sets
  dsimp only at sets
  split at sets
  · cases sets
    exact .inl rfl
  · obtain ⟨a, reads, rfl⟩ := Option.map_eq_some_iff.mp sets
    exact .inr ⟨a, reads, rfl⟩

/-- A part of the struct that the field does not write. -/
theorem value_same {put : α → S → S} (p : S → T) (sets : (value name read put).set json s = some s')
    (keep : ∀ a s, p (put a s) = p s) : p s' = p s := by
  rcases value_cases sets with rfl | ⟨a, -, rfl⟩
  · rfl
  · exact keep a s

theorem pointer_same {put : Option α → S → S} (p : S → T) (sets : (pointer name read put).set json s = some s')
    (keep : ∀ a s, p (put a s) = p s) : p s' = p s := by
  unfold pointer at sets
  dsimp only at sets
  split at sets
  · cases sets
    exact keep none s
  · obtain ⟨a, -, rfl⟩ := Option.map_eq_some_iff.mp sets
    exact keep (some a) s

end Field

/-- What every member keeps. -/
theorem decodeMembers_invariant {S : Type} {strict : Bool} {fields : List (Field S)} {members : Json.Members} {s s' : S}
    {I : S → Prop} (decoded : decodeMembers strict fields members s = some s') (start : I s)
    (keep : ∀ field ∈ fields, ∀ key json, (key, json) ∈ members → ∀ {t t'}, I t → field.set json t = some t' → I t') :
    I s' := by
  induction members generalizing s with
  | nil =>
    cases decoded
    exact start
  | cons first rest ih =>
    obtain ⟨key, json⟩ := first
    have others : ∀ field ∈ fields, ∀ key json, (key, json) ∈ rest → ∀ {t t'}, I t → field.set json t = some t' → I t' :=
      fun field known key json inside => keep field known key json (List.mem_cons_of_mem _ inside)
    rw [decodeMembers] at decoded
    split at decoded
    next field found =>
      obtain ⟨t, sets, more⟩ := Option.bind_eq_some_iff.mp decoded
      have known : field ∈ fields := by
        unfold Field.find? at found
        split at found
        · cases found
          exact List.mem_of_find?_eq_some (by assumption)
        · exact List.mem_of_find?_eq_some found
      exact ih more (keep field known key json List.mem_cons_self start sets) others
    next =>
      split at decoded
      · cases decoded
      · exact ih decoded start others

theorem decodeStruct_invariant {S : Type} {strict : Bool} {fields : List (Field S)} {document : Json} {s s' : S}
    {I : S → Prop} (decoded : decodeStruct strict fields s document = some s') (start : I s)
    (keep : ∀ field ∈ fields, ∀ json, json.depth < document.depth → ∀ {t t'}, I t → field.set json t = some t' → I t') :
    I s' := by
  cases document with
  | null =>
    cases decoded
    exact start
  | obj members =>
    exact decodeMembers_invariant decoded start fun field known key json inside =>
      keep field known json (Json.depth_lt_of_mem inside)
  | _ => cases decoded

end AgentForge.Lib
