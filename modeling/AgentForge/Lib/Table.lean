import Mathlib.Algebra.Ring.Int.Defs
import Mathlib.Data.List.Nodup
import Mathlib.Algebra.BigOperators.Group.List.Basic
import Mathlib.Algebra.Order.BigOperators.Group.List
import Mathlib.Data.Int.Order.Basic
import Mathlib.Algebra.BigOperators.Group.Finset.Basic
import Mathlib.Algebra.Order.BigOperators.Group.Finset

/-!
# Keyed tables

A table is a collection of rows no two of which have the same key. The structure carries that fact, so
`put`, which replaces the row of a key or adds one, is the only way to change it. What a query says about
a table is a lookup by key, a membership, or a total of an integer over the rows; `get_put`, `mem_put` and
`total_put` say how each of them moves.
-/

set_option autoImplicit false

namespace AgentForge.Lib

/-- Rows with distinct keys. -/
structure Table {κ ρ : Type} (key : ρ → κ) where
  rows : List ρ
  distinct : (rows.map key).Nodup

namespace Table

variable {κ ρ : Type} {key : ρ → κ}

def empty : Table key := ⟨[], List.nodup_nil⟩

instance : Membership ρ (Table key) := ⟨fun t r => r ∈ t.rows⟩

variable {t t' : Table key} {r s : ρ} {f : ρ → Int}

theorem mem_def : r ∈ t ↔ r ∈ t.rows := Iff.rfl

instance [DecidableEq ρ] (t : Table key) (r : ρ) : Decidable (r ∈ t) := inferInstanceAs (Decidable (r ∈ t.rows))

/-- Rows with the same key are the same row. -/
theorem eq_of_mem (hr : r ∈ t) (hs : s ∈ t) (same : key r = key s) : r = s :=
  List.inj_on_of_nodup_map t.distinct hr hs same

/-- The total of an integer over the rows. -/
def total (t : Table key) (f : ρ → Int) : Int := (t.rows.map f).sum

/-- The number of rows that meet a condition. -/
def count (t : Table key) (p : ρ → Bool) : Int := t.total fun r => if p r then 1 else 0

theorem total_mono {g : ρ → Int} (le : ∀ r ∈ t, f r ≤ g r) : t.total f ≤ t.total g :=
  List.sum_le_sum le

theorem total_nonneg (nonneg : ∀ r ∈ t, 0 ≤ f r) : 0 ≤ t.total f := by
  apply List.sum_nonneg
  intro x member
  obtain ⟨r, inside, rfl⟩ := List.mem_map.mp member
  exact nonneg r inside

variable [DecidableEq κ] {k : κ}

/-- The row with a key. -/
def get? (t : Table key) (k : κ) : Option ρ := t.rows.find? fun r => key r = k

theorem get?_eq_some : t.get? k = some r ↔ r ∈ t ∧ key r = k := by
  constructor
  · intro found
    exact ⟨List.mem_of_find?_eq_some found, by simpa using List.find?_some found⟩
  · rintro ⟨member, rfl⟩
    cases found : t.get? (key r) with
    | none =>
      have missed := List.find?_eq_none.mp found r member
      simp at missed
    | some s =>
      have inside : s ∈ t := List.mem_of_find?_eq_some found
      have same : key s = key r := by simpa using List.find?_some found
      rw [eq_of_mem inside member same]

theorem get?_eq_none : t.get? k = none ↔ ∀ r ∈ t, key r ≠ k := by
  simp [get?, List.find?_eq_none, mem_def]

theorem key_of_get? (found : t.get? k = some r) : key r = k :=
  (get?_eq_some.mp found).2

theorem mem_of_get? (found : t.get? k = some r) : r ∈ t :=
  (get?_eq_some.mp found).1

theorem get?_key (member : r ∈ t) : t.get? (key r) = some r :=
  get?_eq_some.mpr ⟨member, rfl⟩

/-- Replace the row with the same key, or add the row. -/
def put (t : Table key) (r : ρ) : Table key where
  rows := r :: t.rows.filter fun s => key s ≠ key r
  distinct := by
    rw [List.map_cons, List.nodup_cons]
    constructor
    · intro member
      obtain ⟨s, inside, same⟩ := List.mem_map.mp member
      simp [same] at inside
    · exact t.distinct.sublist (List.filter_sublist.map key)

theorem mem_put : s ∈ t.put r ↔ s = r ∨ s ∈ t ∧ key s ≠ key r := by
  simp [put, mem_def]

theorem get?_put : (t.put r).get? k = if key r = k then some r else t.get? k := by
  by_cases same : key r = k
  · rw [if_pos same]
    exact get?_eq_some.mpr ⟨mem_put.mpr (.inl rfl), same⟩
  · rw [if_neg same]
    cases found : t.get? k with
    | none =>
      rw [get?_eq_none] at found ⊢
      intro s member
      rcases mem_put.mp member with rfl | ⟨inside, _⟩
      · exact same
      · exact found s inside
    | some s =>
      obtain ⟨inside, rfl⟩ := get?_eq_some.mp found
      exact get?_key (mem_put.mpr (.inr ⟨inside, Ne.symm same⟩))

@[simp] theorem get?_put_self : (t.put r).get? (key r) = some r := by
  rw [get?_put, if_pos rfl]

theorem get?_put_ne (ne : key r ≠ k) : (t.put r).get? k = t.get? k := by
  rw [get?_put, if_neg ne]

/-- A total is the share of one key and the rest. -/
theorem total_eq_share (t : Table key) (f : ρ → Int) (k : κ) :
    t.total f = ((t.get? k).map f).getD 0 + ((t.rows.filter fun s => key s ≠ k).map f).sum := by
  obtain ⟨rows, distinct⟩ := t
  unfold total get?
  induction rows with
  | nil => rfl
  | cons r rows ih =>
    rw [List.map_cons, List.nodup_cons] at distinct
    by_cases same : key r = k
    · have absent : ∀ s ∈ rows, key s ≠ k := fun s inside eq =>
        distinct.1 (List.mem_map.mpr ⟨s, inside, eq.trans same.symm⟩)
      have kept : rows.filter (fun s => decide (key s ≠ k)) = rows :=
        List.filter_eq_self.mpr fun s inside => by simpa using absent s inside
      rw [List.find?_cons_of_pos (by simpa using same), List.filter_cons_of_neg (by simpa using same), kept]
      rfl
    · rw [List.find?_cons_of_neg (by simpa using same), List.filter_cons_of_pos (by simpa using same),
        List.map_cons, List.map_cons, List.sum_cons, List.sum_cons, ih distinct.2]
      exact add_left_comm _ _ _

/-- Putting a row exchanges the share of its key. -/
theorem total_put (t : Table key) (f : ρ → Int) (r : ρ) :
    (t.put r).total f = t.total f - ((t.get? (key r)).map f).getD 0 + f r := by
  have after : (t.put r).total f = f r + ((t.rows.filter fun s => key s ≠ key r).map f).sum := List.sum_cons
  have before := total_eq_share t f (key r)
  omega

theorem total_put_new (new : t.get? (key r) = none) : (t.put r).total f = t.total f + f r := by
  rw [total_put, new]
  simp

theorem total_put_old (old : t.get? (key r) = some s) : (t.put r).total f = t.total f - f s + f r := by
  rw [total_put, old]
  rfl

theorem put_put (same : key r = key s) : (t.put r).put s = t.put s := by
  simp only [put, mk.injEq, List.cons.injEq, true_and]
  rw [List.filter_cons_of_neg (by simpa using same), List.filter_filter]
  exact List.filter_congr fun x _ => by simp [same]

/-! Rows put one after the other, under distinct keys. -/

theorem get?_foldl_put_ne {news : List ρ} (apart : ∀ r ∈ news, key r ≠ k) : (news.foldl put t).get? k = t.get? k := by
  induction news generalizing t with
  | nil => rfl
  | cons r news ih =>
    rw [List.foldl_cons, ih fun s member => apart s (List.mem_cons_of_mem r member),
      get?_put_ne (apart r List.mem_cons_self)]

theorem mem_foldl_put {news : List ρ} (member : s ∈ news.foldl put t) : s ∈ news ∨ s ∈ t := by
  induction news generalizing t with
  | nil => exact .inr member
  | cons r rest ih =>
    rcases ih member with later | now
    · exact .inl (List.mem_cons_of_mem r later)
    · rcases mem_put.mp now with rfl | ⟨old, -⟩
      · exact .inl List.mem_cons_self
      · exact .inr old

theorem get?_foldl_put {news : List ρ} (distinct : (news.map key).Nodup) (t : Table key) (member : r ∈ news) :
    (news.foldl put t).get? (key r) = some r := by
  induction news generalizing t with
  | nil => cases member
  | cons s news ih =>
    rw [List.map_cons, List.nodup_cons] at distinct
    rcases List.mem_cons.mp member with rfl | inside
    · have apart : ∀ s ∈ news, key s ≠ key r := fun s inside same => distinct.1 (same ▸ List.mem_map_of_mem inside)
      rw [List.foldl_cons, get?_foldl_put_ne apart, get?_put_self]
    · exact ih distinct.2 _ inside

/-- The share of a key in a total. -/
def share (t : Table key) (f : ρ → Int) (k : κ) : Int := ((t.get? k).map f).getD 0

theorem share_of_get? (found : t.get? k = some r) : t.share f k = f r := by
  rw [share, found]
  rfl

theorem share_of_none (absent : t.get? k = none) : t.share f k = 0 := by
  rw [share, absent]
  rfl

/-- A total is the sum of the shares of any keys that include those of the rows. -/
theorem total_eq_sum (t : Table key) (f : ρ → Int) {keys : Finset κ} (all : ∀ r ∈ t, key r ∈ keys) :
    t.total f = ∑ k ∈ keys, t.share f k := by
  have own : t.total f = ∑ k ∈ (t.rows.map key).toFinset, t.share f k := by
    rw [List.sum_toFinset _ t.distinct, List.map_map]
    exact congrArg List.sum (List.map_congr_left fun r member => (share_of_get? (get?_key member)).symm)
  rw [own]
  refine Finset.sum_subset (fun k member => ?_) fun k _ outside => share_of_none ?_
  · obtain ⟨r, inside, rfl⟩ := List.mem_map.mp (List.mem_toFinset.mp member)
    exact all r inside
  · rw [get?_eq_none]
    rintro r inside rfl
    exact outside (List.mem_toFinset.mpr (List.mem_map_of_mem inside))

/-- Totals compare as the shares do. -/
theorem total_le_total (le : ∀ k, t'.share f k ≤ t.share f k) : t'.total f ≤ t.total f := by
  have mem : ∀ r, r ∈ t ∨ r ∈ t' → key r ∈ ((t.rows ++ t'.rows).map key).toFinset := by
    intro r inside
    exact List.mem_toFinset.mpr (List.mem_map_of_mem (List.mem_append.mpr inside))
  rw [total_eq_sum t f fun r inside => mem r (.inl inside), total_eq_sum t' f fun r inside => mem r (.inr inside)]
  exact Finset.sum_le_sum fun k _ => le k

/-- The rows that meet a condition. -/
def filter (t : Table key) (p : ρ → Bool) : Table key where
  rows := t.rows.filter p
  distinct := t.distinct.sublist (List.filter_sublist.map key)

omit [DecidableEq κ] in
theorem mem_filter {p : ρ → Bool} : r ∈ t.filter p ↔ r ∈ t ∧ p r = true := by
  simp [filter, mem_def]

theorem get?_filter {p : ρ → Bool} : (t.filter p).get? k = (t.get? k).filter p := by
  cases found : t.get? k with
  | none =>
    rw [get?_eq_none] at found
    exact get?_eq_none.mpr fun r member => found r (mem_filter.mp member).1
  | some r =>
    obtain ⟨inside, rfl⟩ := get?_eq_some.mp found
    cases keeps : p r with
    | true =>
      rw [Option.filter, if_pos keeps]
      exact get?_key (mem_filter.mpr ⟨inside, keeps⟩)
    | false =>
      rw [Option.filter, if_neg (by simp [keeps])]
      refine get?_eq_none.mpr fun s member same => ?_
      obtain ⟨old, kept⟩ := mem_filter.mp member
      rw [eq_of_mem old inside same, keeps] at kept
      cases kept

/-! ## Changes -/

/-- One row is new, and the others are as they were. -/
structure Inserts (t t' : Table key) (r : ρ) : Prop where
  absent : t.get? (key r) = none
  rows : ∀ s, s ∈ t' ↔ s = r ∨ s ∈ t

theorem Inserts.put (absent : t.get? (key r) = none) : Inserts t (t.put r) r := by
  refine ⟨absent, fun s => ?_⟩
  rw [mem_put]
  constructor
  · rintro (rfl | ⟨old, -⟩)
    · exact .inl rfl
    · exact .inr old
  · rintro (rfl | old)
    · exact .inl rfl
    · exact .inr ⟨old, get?_eq_none.mp absent s old⟩

/-- Every row is kept up to a relation. -/
def Grows (evolves : ρ → ρ → Prop) (t t' : Table key) : Prop :=
  ∀ k r, t.get? k = some r → ∃ r', t'.get? k = some r' ∧ evolves r r'

theorem Grows.refl {evolves : ρ → ρ → Prop} (same : ∀ r, evolves r r) (t : Table key) : Grows evolves t t :=
  fun _ r found => ⟨r, found, same r⟩

theorem Grows.trans {evolves : ρ → ρ → Prop} (compose : ∀ {a b c}, evolves a b → evolves b c → evolves a c)
    {t'' : Table key} (first : Grows evolves t t') (second : Grows evolves t' t'') : Grows evolves t t'' := by
  intro k r found
  obtain ⟨r', found', step⟩ := first k r found
  obtain ⟨r'', found'', more⟩ := second k r' found'
  exact ⟨r'', found'', compose step more⟩

/-- The rows of locked keys may take a step, and rows may be added under locked keys. -/
structure Changes (locked : κ → Prop) (step : ρ → ρ → Prop) (new : ρ → Prop) (t t' : Table key) : Prop where
  old : ∀ k r, t.get? k = some r → ∃ r', t'.get? k = some r' ∧ (r' = r ∨ locked k ∧ step r r')
  added : ∀ k r', t.get? k = none → t'.get? k = some r' → locked k ∧ new r'

namespace Changes

variable {locked : κ → Prop} {step : ρ → ρ → Prop} {new : ρ → Prop}

theorem same (t : Table key) : Changes locked step new t t :=
  ⟨fun _ r found => ⟨r, found, .inl rfl⟩, fun k r' absent found => by rw [absent] at found; cases found⟩

theorem mono {locked' : κ → Prop} {step' : ρ → ρ → Prop} {new' : ρ → Prop} (changes : Changes locked step new t t')
    (locks : ∀ k, locked k → locked' k) (steps : ∀ r r', step r r' → step' r r') (news : ∀ r, new r → new' r) :
    Changes locked' step' new' t t' := by
  constructor
  · intro k r found
    obtain ⟨r', found', same | ⟨lock, step⟩⟩ := changes.old k r found
    · exact ⟨r', found', .inl same⟩
    · exact ⟨r', found', .inr ⟨locks k lock, steps r r' step⟩⟩
  · intro k r' absent found
    obtain ⟨lock, isNew⟩ := changes.added k r' absent found
    exact ⟨locks k lock, news r' isNew⟩

/-- Putting a row in the place of the one with its key. -/
theorem replace {r r' : ρ} (found : t.get? (key r') = some r) (lock : locked (key r')) (steps : step r r') :
    Changes locked step new t (t.put r') := by
  constructor
  · intro k s got
    by_cases here : key r' = k
    · subst here
      rw [found] at got
      cases got
      exact ⟨r', get?_put_self, .inr ⟨lock, steps⟩⟩
    · exact ⟨s, by rw [get?_put_ne here, got], .inl rfl⟩
  · intro k s absent got
    by_cases here : key r' = k
    · subst here
      rw [found] at absent
      cases absent
    · rw [get?_put_ne here, absent] at got
      cases got

/-- Adding a row. -/
theorem add {r : ρ} (absent : t.get? (key r) = none) (lock : locked (key r)) (isNew : new r) :
    Changes locked step new t (t.put r) := by
  constructor
  · intro k s got
    have ne : key r ≠ k := by
      rintro rfl
      rw [absent] at got
      cases got
    exact ⟨s, by rw [get?_put_ne ne, got], .inl rfl⟩
  · intro k s _ got
    by_cases here : key r = k
    · subst here
      rw [get?_put_self] at got
      cases got
      exact ⟨lock, isNew⟩
    · rw [get?_put_ne here] at got
      simp_all

/-- Putting rows in the places of those with their keys. -/
theorem replaceAll {news : List ρ} (distinct : (news.map key).Nodup)
    (steps : ∀ r' ∈ news, ∃ r, t.get? (key r') = some r ∧ locked (key r') ∧ step r r') :
    Changes locked step new t (news.foldl put t) := by
  have outside : ∀ k, (∀ r' ∈ news, key r' ≠ k) ∨ ∃ r' ∈ news, key r' = k := fun k => by
    by_cases here : ∃ r' ∈ news, key r' = k
    · exact .inr here
    · exact .inl fun r' member same => here ⟨r', member, same⟩
  constructor
  · intro k r got
    rcases outside k with apart | ⟨r', member, rfl⟩
    · exact ⟨r, by rw [get?_foldl_put_ne apart, got], .inl rfl⟩
    · obtain ⟨s, found, lock, step⟩ := steps r' member
      rw [found] at got
      cases got
      exact ⟨r', get?_foldl_put distinct t member, .inr ⟨lock, step⟩⟩
  · intro k r' absent got
    rcases outside k with apart | ⟨s, member, rfl⟩
    · rw [get?_foldl_put_ne apart, absent] at got
      cases got
    · obtain ⟨r, found, -⟩ := steps s member
      rw [found] at absent
      cases absent

/-- Keys that are not locked keep their rows. -/
theorem get?_eq (changes : Changes locked step new t t') {k : κ} (free : ¬locked k) : t'.get? k = t.get? k := by
  cases found : t.get? k with
  | some r =>
    obtain ⟨r', found', rfl | ⟨lock, -⟩⟩ := changes.old k r found
    · exact found'
    · exact absurd lock free
  | none =>
    cases found' : t'.get? k with
    | none => rfl
    | some r' => exact absurd (changes.added k r' found found').1 free

theorem grows {evolves : ρ → ρ → Prop} (changes : Changes locked step new t t') (same : ∀ r, evolves r r)
    (steps : ∀ {r r'}, step r r' → evolves r r') : Grows evolves t t' := by
  intro k r found
  obtain ⟨r', found', rfl | ⟨-, step⟩⟩ := changes.old k r found
  · exact ⟨r', found', same r'⟩
  · exact ⟨r', found', steps step⟩

/-- A row of the changed table is an old row, the step of one, or new. -/
theorem cases_mem (changes : Changes locked step new t t') {r' : ρ} (member : r' ∈ t') :
    r' ∈ t ∨ (∃ r ∈ t, key r = key r' ∧ locked (key r') ∧ step r r') ∨ t.get? (key r') = none ∧ locked (key r') ∧ new r' := by
  have found' := get?_key member
  cases found : t.get? (key r') with
  | none => exact .inr (.inr ⟨rfl, changes.added _ r' found found'⟩)
  | some r =>
    obtain ⟨s, got, rfl | ⟨lock, step⟩⟩ := changes.old _ r found
    · rw [got] at found'
      cases found'
      exact .inl (mem_of_get? found)
    · rw [got] at found'
      cases found'
      exact .inr (.inl ⟨r, mem_of_get? found, key_of_get? found, lock, step⟩)

end Changes

end Table

end AgentForge.Lib
