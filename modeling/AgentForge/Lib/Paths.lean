import Mathlib.Data.List.Basic
import Mathlib.Data.String.Basic

/-!
# Slash-separated paths

The lexical functions of `path/filepath` on Unix, over the components of a path. A path that `Clean` leaves as it is and that
is absolute is a slash and its components (`exists_components`); a relative path without dots is appended to it by `Join`
(`join_absolute`).
-/

set_option autoImplicit false

namespace AgentForge.Lib.Paths

abbrev Component := List Char

def isRooted (path : List Char) : Bool := path.head? == some '/'

/-- `filepath.IsAbs`. -/
def isAbs (path : String) : Bool := isRooted path.toList

def current : Component := ['.']

def parent : Component := ['.', '.']

/-- One component, on the components before it in reverse. -/
def push (rooted : Bool) (before : List Component) (component : Component) : List Component :=
  if component = [] ∨ component = current then before
  else if component = parent then
    match before with
    | [] => if rooted then [] else [parent]
    | last :: rest => if last = parent then parent :: before else rest
  else component :: before

def components (path : List Char) : List Component := ((path.splitOn '/').foldl (push (isRooted path)) []).reverse

/-- The components with slashes between them. -/
def relative (components : List Component) : List Char := ['/'].intercalate components

def render (rooted : Bool) (components : List Component) : List Char :=
  if rooted then '/' :: relative components else if components = [] then current else relative components

/-- `filepath.Clean`. -/
def clean (path : String) : String := String.ofList (render (isAbs path) (components path.toList))

/-- `filepath.Join`. -/
def join (elements : List String) : String :=
  match elements.dropWhile (· == "") with
  | [] => ""
  | found => clean (String.ofList (relative (found.map String.toList)))

/-- `filepath.Base`. -/
def base (path : String) : String :=
  if path = "" then "."
  else
    match (path.toList.reverse.dropWhile (· == '/')).takeWhile (· != '/') with
    | [] => "/"
    | last => String.ofList last.reverse

/-- `filepath.Dir`. -/
def dir (path : String) : String := clean (String.ofList (path.toList.reverse.dropWhile (· != '/')).reverse)

/-- Both lists without what they begin with together. -/
def withoutCommon : List Component → List Component → List Component × List Component
  | a :: as, b :: bs => if a = b then withoutCommon as bs else (a :: as, b :: bs)
  | as, bs => (as, bs)

/-- `filepath.Rel`, which fails when it would have to know the working directory. -/
def rel (root path : String) : Option String :=
  let (up, down) := withoutCommon (components root.toList) (components path.toList)
  if isAbs root ≠ isAbs path ∨ up.head? = some parent then none
  else some (String.ofList (render false (up.map (fun _ => parent) ++ down)))

/-- The relative path leads out of where it starts. -/
def escapes (path : String) : Bool := path == ".." || "../".toList.isPrefixOf path.toList

/-! ## Clean paths -/

/-- A component that stands for itself. -/
structure Normal (component : Component) : Prop where
  filled : component ≠ []
  current : component ≠ current
  parent : component ≠ parent
  slash : '/' ∉ component

theorem push_normal {rooted : Bool} {before : List Component} {component : Component} (normal : Normal component) :
    push rooted before component = component :: before := by
  simp [push, normal.filled, normal.current, normal.parent]

theorem push_empty (rooted : Bool) (before : List Component) : push rooted before [] = before := if_pos (.inl rfl)

variable {root key : List Component}

theorem foldl_push_normal {rooted : Bool} {components : List Component} (normal : ∀ c ∈ components, Normal c) (before : List Component) :
    components.foldl (push rooted) before = components.reverse ++ before := by
  induction components generalizing before with
  | nil => rfl
  | cons c rest ih =>
    obtain ⟨first, others⟩ := List.forall_mem_cons.mp normal
    rw [List.foldl_cons, push_normal first, ih others]
    simp

theorem slash_not_mem {path : List Char} {component : Component} (inside : component ∈ path.splitOn '/') :
    '/' ∉ component := by
  induction path generalizing component with
  | nil =>
    obtain rfl : component = [] := by simpa using inside
    simp
  | cons c rest ih =>
    rw [List.splitOn_cons_eq_if_modifyHead] at inside
    split at inside
    · rcases List.mem_cons.mp inside with rfl | later
      · simp
      · exact ih later
    · next other =>
      have different : c ≠ '/' := by simpa using other
      cases parts : rest.splitOn '/' with
      | nil => exact absurd parts (List.splitOn_ne_nil _ _)
      | cons first more =>
        rw [parts] at inside
        rcases List.mem_cons.mp inside with rfl | later
        · have := @ih first (by simp [parts])
          simp [different.symm, this]
        · exact ih (by simp [parts, later])

/-- The components of a rooted path stand for themselves. -/
theorem normal_components {path : List Char} (rooted : isRooted path = true) : ∀ c ∈ components path, Normal c := by
  have step : ∀ (rest : List Component) (before : List Component), (∀ c ∈ rest, '/' ∉ c) → (∀ c ∈ before, Normal c) →
      ∀ c ∈ rest.foldl (push true) before, Normal c := by
    intro rest
    induction rest with
    | nil => exact fun before _ normal => normal
    | cons component rest ih =>
      intro before slashes normal
      obtain ⟨first, others⟩ := List.forall_mem_cons.mp slashes
      refine ih _ others ?_
      unfold push
      split
      · exact normal
      · next filled =>
        split
        · split
          · simp
          · next last rest =>
            split
            · next same => exact absurd same (normal last List.mem_cons_self).parent
            · exact fun c member => normal c (List.mem_cons_of_mem _ member)
        · next other =>
          refine List.forall_mem_cons.mpr ⟨⟨fun h => filled (.inl h), fun h => filled (.inr h), other, first⟩, normal⟩
  intro c member
  rw [components, List.mem_reverse, rooted] at member
  exact step _ [] (fun _ => slash_not_mem) (by simp) c member

/-- A slash and the components. -/
def absolute (components : List Component) : String := String.ofList ('/' :: relative components)

theorem exists_components {path : String} (rooted : isAbs path = true) (cleaned : clean path = path) :
    ∃ components, (∀ c ∈ components, Normal c) ∧ path = absolute components := by
  refine ⟨components path.toList, normal_components rooted, ?_⟩
  conv => lhs; rw [← cleaned]
  rw [clean, rooted, render, if_pos rfl, absolute]

theorem splitOn_relative {rooted : Bool} {components : List Component} (normal : ∀ c ∈ components, Normal c) (before : List Component) :
    ((relative components).splitOn '/').foldl (push rooted) before = components.reverse ++ before := by
  by_cases filled : components = []
  · subst filled
    simp [relative, push_empty]
  · rw [relative, List.splitOn_intercalate _ (fun c member => (normal c member).slash) filled, foldl_push_normal normal]

theorem components_absolute {components : List Component} (normal : ∀ c ∈ components, Normal c) :
    Paths.components (absolute components).toList = components := by
  rw [absolute, String.toList_ofList, Paths.components, List.splitOn_cons_eq_if_modifyHead, if_pos (by simp), List.foldl_cons,
    push_empty, splitOn_relative normal]
  simp

/-- A relative path is appended to an absolute one. -/
theorem join_absolute (rootNormal : ∀ c ∈ root, Normal c) (keyNormal : ∀ c ∈ key, Normal c) :
    join [absolute root, String.ofList (relative key)] = absolute (root ++ key) := by
  have filled : (absolute root == "") = false := by
    rw [beq_eq_false_iff_ne]
    intro empty
    have characters := congrArg String.toList empty
    simp [absolute] at characters
  have parts : components ('/' :: (relative root ++ '/' :: relative key)) = root ++ key := by
    have split : ('/' :: (relative root ++ '/' :: relative key)).splitOn '/' =
        [] :: ((relative root).splitOn '/' ++ (relative key).splitOn '/') := by
      rw [List.splitOn_cons_eq_if_modifyHead, if_pos (by simp), List.splitOn_append_cons_self]
    rw [components, split, List.foldl_cons, push_empty, List.foldl_append, splitOn_relative rootNormal,
      splitOn_relative keyNormal]
    simp
  have joined : relative ([absolute root, String.ofList (relative key)].map String.toList) =
      '/' :: (relative root ++ '/' :: relative key) := by
    simp [relative, absolute]
  rw [join, List.dropWhile_cons_of_neg (by simp [filled])]
  dsimp only
  rw [joined, clean]
  simp only [isAbs, isRooted, String.toList_ofList, parts, List.head?_cons, beq_self_eq_true, render, if_true, absolute]

/-- A path whose segments all stand for themselves is relative and clean. -/
theorem clean_of_normal {path : String} (normal : ∀ c ∈ path.toList.splitOn '/', Normal c) :
    isAbs path = false ∧ clean path = path := by
  have relative : isAbs path = false := by
    unfold isAbs isRooted
    cases characters : path.toList with
    | nil => rfl
    | cons c rest =>
      rw [characters, List.splitOn_cons_eq_if_modifyHead] at normal
      split at normal
      · exact absurd rfl (normal [] (by simp)).filled
      · next other => simpa using other
  have parts : components path.toList = path.toList.splitOn '/' := by
    rw [components, foldl_push_normal normal, List.append_nil, List.reverse_reverse]
  refine ⟨relative, ?_⟩
  rw [clean, relative, parts, render, if_neg (by decide), if_neg (List.splitOn_ne_nil _ _), Paths.relative,
    List.intercalate_splitOn, String.ofList_toList]

theorem relative_cons {c : Component} {components : List Component} (filled : components ≠ []) :
    relative (c :: components) = c ++ '/' :: relative components := by
  obtain ⟨d, rest, rfl⟩ := List.exists_cons_of_ne_nil filled
  simp [relative, List.intercalate]

theorem relative_append (rootFilled : root ≠ []) (keyFilled : key ≠ []) :
    relative (root ++ key) = relative root ++ '/' :: relative key := by
  induction root with
  | nil => exact absurd rfl rootFilled
  | cons c rest ih =>
    by_cases last : rest = []
    · subst last
      simpa [relative, List.intercalate] using relative_cons keyFilled
    · rw [List.cons_append, relative_cons (by simp [last]), ih last, relative_cons last, List.append_assoc, List.cons_append]

/-- The text of a path below another one. -/
theorem absolute_append (normal : ∀ c ∈ root, Normal c) (filled : key ≠ []) :
    absolute (root ++ key) =
      (if absolute root = "/" then absolute root else absolute root ++ "/") ++ String.ofList (relative key) := by
  refine String.toList_injective ?_
  by_cases empty : root = []
  · subst empty
    rw [if_pos (by decide)]
    simp [absolute, relative, List.intercalate]
  · have below : absolute root ≠ "/" := fun same => by
      obtain ⟨c, rest, rfl⟩ := List.exists_cons_of_ne_nil empty
      have characters := congrArg String.toList same
      have first := (normal c (by simp)).filled
      by_cases last : rest = []
      · simp [absolute, last, relative, List.intercalate, first] at characters
      · simp [absolute, relative_cons last] at characters
    rw [if_neg below]
    simp [absolute, relative_append empty filled]

theorem withoutCommon_append (root key : List Component) : withoutCommon root (root ++ key) = ([], key) := by
  induction root with
  | nil => cases key <;> rfl
  | cons c rest ih => rw [List.cons_append, withoutCommon, if_pos rfl, ih]

/-- The way from a path to one below it. -/
theorem rel_absolute (rootNormal : ∀ c ∈ root, Normal c) (keyNormal : ∀ c ∈ key, Normal c) :
    rel (absolute root) (absolute (root ++ key)) = some (String.ofList (render false key)) := by
  have both : ∀ c ∈ root ++ key, Normal c := fun c member => (List.mem_append.mp member).elim (rootNormal c) (keyNormal c)
  have abs : ∀ components, isAbs (absolute components) = true := fun _ => by simp [isAbs, absolute, isRooted]
  simp [rel, components_absolute rootNormal, components_absolute both, withoutCommon_append, abs]

/-- A way that begins with a component does not lead out. -/
theorem escapes_relative {first : Component} {rest : List Component} (normal : ∀ c ∈ first :: rest, Normal c) :
    escapes (String.ofList (relative (first :: rest))) = false := by
  have parts : (relative (first :: rest)).splitOn '/' = first :: rest :=
    List.splitOn_intercalate _ (fun c member => (normal c member).slash) (by simp)
  have inside : first ≠ parent := (normal first (by simp)).parent
  by_contra escaped
  simp only [escapes, Bool.not_eq_false, Bool.or_eq_true, beq_iff_eq, List.isPrefixOf_iff_prefix, String.toList_ofList]
    at escaped
  rcases escaped with same | ⟨more, text⟩
  · have characters := congrArg String.toList same
    rw [String.toList_ofList] at characters
    rw [characters] at parts
    exact inside (List.cons.inj parts).1.symm
  · rw [← text] at parts
    exact inside (List.cons.inj parts).1.symm

end AgentForge.Lib.Paths
