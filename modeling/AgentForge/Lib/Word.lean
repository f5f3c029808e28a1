import Mathlib.Algebra.Order.Ring.Int

/-!
# Machine numbers

Go's signed integers as integers of Lean. A step that is `checked` has no result when it leaves the range of its
type, so a computation of checked steps has a result exactly when none of them overflows. `wrap` is the result
that Go computes instead. `Double` has the nonnegative numbers of 53 bits with the operations of IEEE 754, rounded
to nearest and ties to even; its exponent has no range, so nothing overflows or becomes subnormal.
-/

set_option autoImplicit false

namespace AgentForge.Lib.Word

/-- The range of the signed integers of `width` bits. -/
def Fits (width : Nat) (n : Int) : Prop := -2 ^ (width - 1) ≤ n ∧ n < 2 ^ (width - 1)

instance (width : Nat) (n : Int) : Decidable (Fits width n) := inferInstanceAs (Decidable (_ ∧ _))

theorem fits64 {n : Int} : Fits 64 n ↔ -9223372036854775808 ≤ n ∧ n < 9223372036854775808 := Iff.rfl

theorem fits32 {n : Int} : Fits 32 n ↔ -2147483648 ≤ n ∧ n < 2147483648 := Iff.rfl

/-- The result of a step, if it is in range. -/
def checked (width : Nat) (n : Int) : Option Int := if Fits width n then some n else none

theorem checked_of_fits {width : Nat} {n : Int} (fits : Fits width n) : checked width n = some n := if_pos fits

theorem checked_eq_some {width : Nat} {n m : Int} : checked width n = some m ↔ Fits width n ∧ n = m := by
  unfold checked
  split
  · next fits => simp [fits]
  · next out => simp [out]

/-- The quotient, rounded toward zero, if the divisor is not zero and the result is in range. -/
def checkedDiv (width : Nat) (n m : Int) : Option Int := if m = 0 then none else checked width (n.tdiv m)

theorem checkedDiv_of_pos {width : Nat} {n m : Int} (dividend : 0 ≤ n) (divisor : 0 < m) (fits : Fits width (n / m)) :
    checkedDiv width n m = some (n / m) := by
  rw [checkedDiv, if_neg divisor.ne', Int.tdiv_eq_ediv_of_nonneg dividend, checked_of_fits fits]

/-- What a 64-bit register holds. -/
def wrap (n : Int) : Int := n.bmod 18446744073709551616

theorem wrap_of_fits {n : Int} (fits : Fits 64 n) : wrap n = n := by
  rw [fits64] at fits
  unfold wrap
  rw [Int.bmod_def]
  split <;> omega

/-- A sum that leaves the range at the top comes back at the bottom. -/
theorem wrap_of_le {n : Int} (above : 9223372036854775808 ≤ n) (below : n < 18446744073709551616) :
    wrap n = n - 18446744073709551616 := by
  unfold wrap
  rw [Int.bmod_def]
  split <;> omega

/-! ## Double precision -/

/-- The number `mantissa * 2 ^ exponent`. -/
structure Double where
  mantissa : Nat
  exponent : Int
  deriving DecidableEq

/-- The integer nearest to `n / d`, and of two nearest ones the even one. -/
def nearest (n d : Nat) : Nat :=
  if 2 * (n % d) < d ∨ (2 * (n % d) = d ∧ n / d % 2 = 0) then n / d else n / d + 1

namespace Double

/-- The double nearest to `n / d * 2 ^ exponent`. -/
def ofQuotient (n d : Nat) (exponent : Int) : Double :=
  -- 2 ^ (bits - 1) ≤ n / d < 2 ^ bits
  let bits : Int := if n * 2 ^ d.log2 < d * 2 ^ n.log2 then n.log2 - d.log2 else n.log2 - d.log2 + 1
  let scale := bits - 53
  ⟨nearest (n * 2 ^ (-scale).toNat) (d * 2 ^ scale.toNat), exponent + scale⟩

def div (a b : Double) : Double := ofQuotient a.mantissa b.mantissa (a.exponent - b.exponent)

def add (a b : Double) : Double :=
  let least := min a.exponent b.exponent
  ofQuotient (a.mantissa * 2 ^ (a.exponent - least).toNat + b.mantissa * 2 ^ (b.exponent - least).toNat) 1 least

def floor (a : Double) : Nat := a.mantissa * 2 ^ a.exponent.toNat / 2 ^ (-a.exponent).toNat

end Double

end AgentForge.Lib.Word
