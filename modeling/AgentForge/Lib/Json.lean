import Mathlib.Data.List.Basic

/-!
# JSON values of Go structs

`encoding/json` writes a struct as an object with one member per field, leaves out a field tagged
`omitempty` while its value is empty, and gives a missing member the zero value of its type.
-/

set_option autoImplicit false

namespace AgentForge.Lib

inductive Json
  | null
  | bool (b : Bool)
  | str (s : String)
  | num (n : Int)
  /-- A number that is not written as an integer: `mantissa * 10 ^ exponent`. -/
  | real (mantissa exponent : Int)
  | arr (items : List Json)
  | obj (fields : List (String × Json))

namespace Json

mutual

/-- How many arrays and objects are inside each other. -/
def depth : Json → Nat
  | arr items => listDepth items + 1
  | obj fields => membersDepth fields + 1
  | _ => 0

def listDepth : List Json → Nat
  | [] => 0
  | item :: rest => max item.depth (listDepth rest)

def membersDepth : List (String × Json) → Nat
  | [] => 0
  | (_, value) :: rest => max value.depth (membersDepth rest)

end

/-- The members of an object. -/
abbrev Members := List (String × Json)

/-- A member that is always written. -/
def member (key : String) (value : Json) (rest : Members) : Members := (key, value) :: rest

/-- A member that is left out when its value is empty. -/
def omitEmpty (key : String) (empty : Bool) (value : Json) (rest : Members) : Members :=
  bif empty then rest else (key, value) :: rest

/-- A member that is left out when its value is a nil pointer. -/
def omitNil {α : Type} (key : String) (write : α → Json) (value : Option α) (rest : Members) : Members :=
  match value with
  | none => rest
  | some a => (key, write a) :: rest

section Depth

variable {key : String} {value : Json} {rest : Members}

@[simp] theorem depth_str (s : String) : (str s).depth = 0 := rfl

@[simp] theorem depth_num (n : Int) : (num n).depth = 0 := rfl

@[simp] theorem depth_null : null.depth = 0 := rfl

@[simp] theorem depth_arr (items : List Json) : (arr items).depth = listDepth items + 1 := rfl

@[simp] theorem depth_obj (fields : Members) : (obj fields).depth = membersDepth fields + 1 := rfl

@[simp] theorem membersDepth_nil : membersDepth [] = 0 := rfl

@[simp] theorem membersDepth_member : membersDepth (member key value rest) = max value.depth (membersDepth rest) := rfl

@[simp] theorem membersDepth_omitEmpty {empty : Bool} :
    membersDepth (omitEmpty key empty value rest) = max (bif empty then 0 else value.depth) (membersDepth rest) := by
  cases empty with
  | true => exact (Nat.zero_max _).symm
  | false => rfl

@[simp] theorem membersDepth_omitNil {α : Type} {write : α → Json} {pointer : Option α} :
    membersDepth (omitNil key write pointer rest) =
      max ((pointer.map fun a => (write a).depth).getD 0) (membersDepth rest) := by
  cases pointer with
  | none => exact (Nat.zero_max _).symm
  | some a => rfl

end Depth

/-! ## Reading -/

def asBool : Json → Option Bool
  | bool b => some b
  | _ => none

def asString : Json → Option String
  | str s => some s
  | _ => none

def asInt : Json → Option Int
  | num n => some n
  | _ => none

def asObject : Json → Option Members
  | obj fields => some fields
  | _ => none

/-- An array, element by element. -/
def asList {α : Type} (element : Json → Option α) : Json → Option (List α)
  | arr items => items.mapM element
  | _ => none

/-- The value of a member, or the zero value when the member is missing. -/
def Members.read {α : Type} (members : Members) (key : String) (zero : Option α) (decode : Json → Option α) : Option α :=
  match members.lookup key with
  | some value => decode value
  | none => zero

/-! ## Reading back what was written -/

section Read

variable {α β : Type} {key other : String} {value : Json} {zero : Option α} {decode : Json → Option α}
  {rest : Members} {empty : Bool} {write : β → Json} {pointer : Option β}

theorem read_nil : Members.read [] key zero decode = zero := rfl

theorem read_member_ne (different : (key == other) = false) :
    (member other value rest).read key zero decode = rest.read key zero decode := by
  simp [Members.read, member, List.lookup_cons, different]

theorem read_omitEmpty_ne (different : (key == other) = false) :
    (omitEmpty other empty value rest).read key zero decode = rest.read key zero decode := by
  cases empty <;> simp [Members.read, omitEmpty, List.lookup_cons, different]

/-- A member is read from where it is written. The keys are compared by `decide`: unifying two different
literals is expensive. -/
theorem read_member (same : (key == other) = true) :
    (member other value rest).read key zero decode = decode value := by
  simp [Members.read, member, List.lookup_cons, same]

/-- A member that was left out is looked for among the rest. -/
theorem read_omitEmpty (same : (key == other) = true) :
    (omitEmpty other empty value rest).read key zero decode =
      bif empty then rest.read key zero decode else decode value := by
  cases empty <;> simp [Members.read, omitEmpty, List.lookup_cons, same]

theorem read_omitNil (same : (key == other) = true) :
    (omitNil other write pointer rest).read key zero decode =
      pointer.elim (rest.read key zero decode) fun a => decode (write a) := by
  cases pointer <;> simp [Members.read, omitNil, List.lookup_cons, same]

end Read

/-- An array whose elements read back reads back. -/
theorem asList_map {α : Type} {element : Json → Option α} {write : α → Json} (inverse : ∀ a, element (write a) = some a)
    (items : List α) : asList element (arr (items.map write)) = some items := by
  unfold asList
  induction items with
  | nil => rfl
  | cons a rest ih =>
    simp only [List.map_cons, List.mapM_cons, inverse, ih]
    rfl

end Json

end AgentForge.Lib
