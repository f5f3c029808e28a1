import AgentForge.Operator.AgentRun

/-!
# Identifiers of the platform

The platform identifies tenants, projects, runs, attempts and events by UUIDs. Their text is the
canonical lowercase form, and names of Kubernetes objects use the text without its dashes.
-/

set_option autoImplicit false

namespace AgentForge.Platform

open Operator

/-- `uuid.UUID`. -/
structure UUID where
  bytes : Vector (BitVec 8) 16
  deriving DecidableEq

namespace UUID

/-- `uuid.Nil`. -/
def nil : UUID := ⟨Vector.replicate 16 0⟩

/-- `Version()`: the high half of byte 6. -/
def version (id : UUID) : Nat := id.bytes[6].toNat / 16

/-- The two hexadecimal digits of a byte. -/
def byteHex (byte : BitVec 8) : List Char :=
  [Nat.digitChar (byte.toNat / 16), Nat.digitChar (byte.toNat % 16)]

/-- The 32 hexadecimal digits. -/
def hex (id : UUID) : List Char := id.bytes.toList.flatMap byteHex

/-- `String()`: the digits in groups of 8, 4, 4, 4 and 12. -/
def text (id : UUID) : String :=
  let digits := id.hex
  String.ofList (digits.take 8 ++ '-' :: ((digits.drop 8).take 4 ++ '-' :: ((digits.drop 12).take 4 ++
    '-' :: ((digits.drop 16).take 4 ++ '-' :: digits.drop 20))))

theorem byteHex_injective : Function.Injective byteHex := by
  have digits : ∀ a b : Fin 16, Nat.digitChar a = Nat.digitChar b → a = b := by decide
  have digit : ∀ {m n : Nat}, m < 16 → n < 16 → Nat.digitChar m = Nat.digitChar n → m = n := by
    intro m n low low' same
    exact Fin.mk.inj_iff.mp (digits ⟨m, low⟩ ⟨n, low'⟩ same)
  intro a b same
  obtain ⟨high, rest⟩ := List.cons_eq_cons.mp same
  have upper := digit (by omega) (by omega) high
  have lower := digit (Nat.mod_lt _ (by omega)) (Nat.mod_lt _ (by omega)) (List.singleton_inj.mp rest)
  exact BitVec.eq_of_toNat_eq (by omega)

theorem flatMap_byteHex_injective {xs ys : List (BitVec 8)} (length : xs.length = ys.length)
    (same : xs.flatMap byteHex = ys.flatMap byteHex) : xs = ys := by
  induction xs generalizing ys with
  | nil => exact (List.length_eq_zero_iff.mp length.symm).symm
  | cons x xs ih =>
    cases ys with
    | nil => cases length
    | cons y ys =>
      simp only [List.flatMap_cons] at same
      obtain ⟨head, tail⟩ := List.append_inj same rfl
      rw [byteHex_injective head, ih (by simpa using length) tail]

theorem hex_injective {a b : UUID} (same : a.hex = b.hex) : a = b := by
  have bytes : a.bytes.toList = b.bytes.toList := flatMap_byteHex_injective (by simp) same
  obtain ⟨a⟩ := a
  obtain ⟨b⟩ := b
  exact congrArg mk (Vector.toList_inj.mp bytes)

theorem dash_notMem_hex (id : UUID) : '-' ∉ id.hex := by
  have digits : ∀ byte : Fin 256, '-' ∉ byteHex (BitVec.ofFin byte) := by decide +kernel
  intro dash
  obtain ⟨byte, -, member⟩ := List.mem_flatMap.mp dash
  exact digits byte.toFin member

/-- Without its dashes the text is the digits. -/
theorem withoutDashes_text (id : UUID) : withoutDashes id.text = id.hex := by
  have kept : ∀ digits : List Char, digits ⊆ id.hex → digits.filter (· != '-') = digits := by
    intro digits part
    refine List.filter_eq_self.mpr fun c member => ?_
    have other : c ≠ '-' := by rintro rfl; exact dash_notMem_hex id (part member)
    simpa using other
  have group : ∀ m n, ((id.hex.drop m).take n).filter (· != '-') = (id.hex.drop m).take n := fun m n =>
    kept _ fun c member => List.mem_of_mem_drop (List.mem_of_mem_take member)
  have last : ∀ m, (id.hex.drop m).filter (· != '-') = id.hex.drop m := fun m =>
    kept _ fun c member => List.mem_of_mem_drop member
  have first : (id.hex.take 8).filter (· != '-') = id.hex.take 8 := kept _ fun c => List.mem_of_mem_take
  calc withoutDashes id.text
      = id.hex.take 8 ++ ((id.hex.drop 8).take 4 ++ ((id.hex.drop 12).take 4 ++
          ((id.hex.drop 16).take 4 ++ id.hex.drop 20))) := by
        simp [withoutDashes, text, List.filter_append, first, group, last]
    _ = id.hex.take 8 ++ id.hex.drop 8 := by
        have join : ∀ m, (id.hex.drop m).take 4 ++ id.hex.drop (m + 4) = id.hex.drop m := fun m => by
          rw [← List.drop_drop, List.take_append_drop]
        rw [join 16, join 12, join 8]
    _ = id.hex := List.take_append_drop 8 id.hex

/-- The text determines the identifier even without its dashes. -/
theorem withoutDashes_text_injective {a b : UUID} (same : withoutDashes a.text = withoutDashes b.text) : a = b := by
  rw [withoutDashes_text, withoutDashes_text] at same
  exact hex_injective same

end UUID

end AgentForge.Platform
