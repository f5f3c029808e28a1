import Mathlib.Logic.Function.Iterate
import AgentForge.Runner.Artifacts

/-!
# The output of a command

The buffers that take the output of a command (`agent-runner/internal/runner/executor.go`). A buffer keeps what fits below its
limit and calls its signal when something does not, which stops the command (`writeAll_empty`).
-/

set_option autoImplicit false

namespace AgentForge.Runner

open Lib

/-! ## Bounded buffers -/

/-- `ErrOutputLimit`. -/
def errOutputLimit : String := "command output limit exceeded"

/-- A buffer whose signal acts on the state `σ` of its surroundings. -/
structure BoundedBuffer (σ : Type) where
  bytes : Bytes
  limit : Int
  exceeded : Bool
  signal : Option (σ → σ)

namespace BoundedBuffer

variable {σ : Type}

/-- Call the signal, if there is one. -/
def notify (signal : Option (σ → σ)) (world : σ) : σ :=
  match signal with
  | some signal => signal world
  | none => world

/-- The number of bytes and the error that a write returns, the buffer, and its surroundings. -/
def write (buffer : BoundedBuffer σ) (world : σ) (value : Bytes) : (Int × Option String) × BoundedBuffer σ × σ :=
  let remaining := buffer.limit - buffer.bytes.length
  let refused (buffer : BoundedBuffer σ) :=
    (((value.length : Int), some errOutputLimit), { buffer with exceeded := true }, notify buffer.signal world)
  let rest (buffer : BoundedBuffer σ) :=
    if value.length > remaining then refused buffer else ((value.length, none), buffer, world)
  if remaining > 0 then
    if value.length > remaining then refused { buffer with bytes := buffer.bytes ++ value.take remaining.toNat }
    else rest { buffer with bytes := buffer.bytes ++ value }
  else rest buffer

def writeAll (buffer : BoundedBuffer σ) (world : σ) : List Bytes → List (Int × Option String) × BoundedBuffer σ × σ
  | [] => ([], buffer, world)
  | value :: rest =>
    let (result, buffer, world) := buffer.write world value
    let (results, buffer, world) := buffer.writeAll world rest
    (result :: results, buffer, world)

def empty (limit : Int) (signal : Option (σ → σ)) : BoundedBuffer σ := ⟨[], limit, false, signal⟩

/-- The buffer that has been given these bytes. -/
def given (limit : Int) (signal : Option (σ → σ)) (written : Bytes) : BoundedBuffer σ :=
  ⟨written.take limit.toNat, limit, decide (limit < written.length), signal⟩

/-- A part of the value does not fit. -/
def Overruns (limit : Int) (written value : Bytes) : Prop := limit - min limit written.length < value.length

instance (limit : Int) (written value : Bytes) : Decidable (Overruns limit written value) :=
  inferInstanceAs (Decidable (_ < _))

section Given

variable {limit : Int} {signal : Option (σ → σ)} {world : σ} {written value : Bytes}

theorem given_nil (nonneg : 0 ≤ limit) : given limit signal [] = empty limit signal := by
  have within : ¬ limit < (([] : Bytes).length : Int) := Int.not_lt.mpr nonneg
  rw [given, decide_eq_false within, List.take_nil]
  rfl

theorem take_append_limit (room : (written.length : Int) ≤ limit) :
    (written ++ value).take limit.toNat = written.take limit.toNat ++ value.take (limit - written.length).toNat := by
  rw [List.take_append, show (limit - written.length).toNat = limit.toNat - written.length by omega]

theorem take_append_full (full : limit ≤ written.length) :
    (written ++ value).take limit.toNat = written.take limit.toNat := by
  rw [List.take_append, show limit.toNat - written.length = 0 by omega, List.take_zero, List.append_nil]

/-- One write. -/
theorem write_given (nonneg : 0 ≤ limit) : (given limit signal written).write world value =
    (((value.length : Int), if Overruns limit written value then some errOutputLimit else none),
      given limit signal (written ++ value), if Overruns limit written value then notify signal world else world) := by
  have length : ((written.take limit.toNat).length : Int) = min limit written.length := by
    rw [List.length_take]
    omega
  have total : ((written ++ value).length : Int) = written.length + value.length := by
    rw [List.length_append]
    omega
  simp only [write, given, length]
  by_cases full : limit ≤ written.length
  · -- The buffer is full, and a write changes nothing but the mark.
    have none : min limit written.length = limit := min_eq_left full
    rw [take_append_full full, if_neg (by omega : ¬ limit - min limit (written.length : Int) > 0)]
    by_cases overruns : Overruns limit written value
    · have beyond : limit < ((written ++ value).length : Int) := by
        unfold Overruns at overruns
        omega
      rw [if_pos (show (value.length : Int) > _ from overruns), if_pos overruns, if_pos overruns, decide_eq_true beyond]
    · have nil : value = [] := by
        unfold Overruns at overruns
        exact List.eq_nil_of_length_eq_zero (by omega)
      rw [if_neg (show ¬ (value.length : Int) > _ from overruns), if_neg overruns, if_neg overruns, nil, List.append_nil]
  · have all : written.take limit.toNat = written := List.take_of_length_le (by omega)
    have room : min limit written.length = (written.length : Int) := min_eq_right (by omega)
    rw [take_append_limit (by omega), all, if_pos (by omega : limit - min limit (written.length : Int) > 0), room]
    by_cases overruns : Overruns limit written value
    · have refused : (value.length : Int) > limit - written.length := by
        unfold Overruns at overruns
        omega
      rw [if_pos refused, if_pos overruns, if_pos overruns, decide_eq_true (by omega : limit < ((written ++ value).length : Int))]
    · have taken : ¬ (value.length : Int) > limit - written.length := by
        unfold Overruns at overruns
        omega
      rw [if_neg taken, if_neg taken, if_neg overruns, if_neg overruns, List.take_of_length_le (by omega : value.length ≤ _),
        decide_eq_false (by omega : ¬ limit < (written.length : Int)),
        decide_eq_false (by omega : ¬ limit < ((written ++ value).length : Int))]

/-- How often the writes call the signal. -/
def signals (limit : Int) : Bytes → List Bytes → Nat
  | _, [] => 0
  | written, value :: rest => signals limit (written ++ value) rest + if Overruns limit written value then 1 else 0

/-- All writes. -/
theorem writeAll_given (nonneg : 0 ≤ limit) (world : σ) (written : Bytes) (values : List Bytes) :
    ((given limit signal written).writeAll world values).2 =
        (given limit signal (written ++ values.flatten), (notify signal)^[signals limit written values] world) ∧
      ((given limit signal written).writeAll world values).1.map Prod.fst = values.map fun value => (value.length : Int) := by
  induction values generalizing written world with
  | nil => exact ⟨by rw [List.flatten_nil, List.append_nil]; rfl, rfl⟩
  | cons value rest ih =>
    have first := @write_given σ limit signal world written value nonneg
    obtain ⟨state, counts⟩ := ih (if Overruns limit written value then notify signal world else world) (written ++ value)
    rw [writeAll, first]
    dsimp only
    refine ⟨?_, ?_⟩
    · refine Prod.mk.eta.trans (state.trans ?_)
      rw [List.flatten_cons, List.append_assoc, signals]
      split <;> rfl
    · rw [List.map_cons, counts, List.map_cons]

/-- The signal is called once the limit is passed. -/
theorem signals_pos_iff {written : Bytes} (within : (written.length : Int) ≤ limit) (values : List Bytes) :
    0 < signals limit written values ↔ limit < ((written ++ values.flatten).length : Int) := by
  induction values generalizing written with
  | nil =>
    rw [signals, List.flatten_nil, List.append_nil]
    omega
  | cons value rest ih =>
    have total : ((written ++ value).length : Int) = written.length + value.length := by
      rw [List.length_append]
      omega
    rw [signals, List.flatten_cons, ← List.append_assoc]
    by_cases overruns : Overruns limit written value
    · have beyond : limit < (((written ++ value) ++ rest.flatten).length : Int) := by
        unfold Overruns at overruns
        rw [List.length_append]
        omega
      rw [if_pos overruns]
      exact ⟨fun _ => beyond, fun _ => Nat.succ_pos _⟩
    · rw [if_neg overruns, Nat.add_zero]
      unfold Overruns at overruns
      exact ih (by omega)

end Given

/-- A buffer keeps the first bytes of all that is written, marks and signals exactly that there was more, and never makes its
writer believe that a part was not written. -/
theorem writeAll_empty {limit : Int} (nonneg : 0 ≤ limit) (values : List Bytes) :
    ∃ calls : Nat, (0 < calls ↔ limit < (values.flatten.length : Int)) ∧
      ∀ {σ : Type} (signal : Option (σ → σ)) (world : σ),
        let (results, buffer, after) := (empty limit signal).writeAll world values
        buffer.bytes = values.flatten.take (min limit values.flatten.length).toNat ∧
          (buffer.exceeded = true ↔ limit < (values.flatten.length : Int)) ∧
          after = (notify signal)^[calls] world ∧
          results.map Prod.fst = values.map fun value => (value.length : Int) := by
  refine ⟨signals limit [] values, signals_pos_iff (by simpa using nonneg) values, fun {σ} signal world => ?_⟩
  obtain ⟨state, counts⟩ := @writeAll_given σ limit signal nonneg world [] values
  rw [given_nil nonneg, List.nil_append] at state
  rw [given_nil nonneg] at counts
  obtain ⟨buffer, after⟩ := Prod.ext_iff.mp state
  refine ⟨?_, ?_, after, counts⟩
  · rw [buffer, given, show (min limit values.flatten.length).toNat = min limit.toNat values.flatten.length by omega,
      ← List.take_take, List.take_length]
  · rw [buffer, given, decide_eq_true_iff]

theorem writeAll_overflow : ∃ calls : Nat, 0 < calls ∧
    ((empty 3 (some (· + 1))).writeAll 0 [[1, 2], [3, 4], [5]]).2.1.bytes = [1, 2, 3] ∧
    ((empty 3 (some (· + 1))).writeAll 0 [[1, 2], [3, 4], [5]]).2.2 = calls := by
  obtain ⟨calls, called, written⟩ := writeAll_empty (by decide : (0 : Int) ≤ 3) [[1, 2], [3, 4], [5]]
  obtain ⟨bytes, -, after, -⟩ := written (some (· + 1)) 0
  refine ⟨calls, called.mpr (by decide), bytes, after.trans ?_⟩
  exact (Nat.succ_iterate 0 calls).trans (Nat.zero_add calls)

end BoundedBuffer

end AgentForge.Runner
