import AgentForge.Lib.Word
import AgentForge.Operator.Status

/-!
# The delay before a retry

`retryDelay` computes with `time.Duration`, a 64-bit number of nanoseconds. `checkedRetryDelay` is the same
computation with the range of every step checked. Under the bounds that the CRD puts on a retry policy every
step is in range, and the doubling loop has a closed form.
-/

set_option autoImplicit false

namespace AgentForge.Operator

open Lib.Word

/-- The stable jitter: between 50% and 100%, from the run and the attempt it delays. -/
def permille (ext : Externals) (runID : String) (attempt : Int) : Int :=
  500 + (((ext.sha256 (runID ++ ":" ++ toString attempt)).extractLsb' 192 64).toNat % 501 : Nat)

/-- The doubling loop. -/
def checkedDoubled (maximum : Int) : Nat → Int → Option Int
  | 0, base => some base
  | exponent + 1, base =>
    if base < maximum then
      if base > maximum.tdiv 2 then some maximum else (checked 64 (base * 2)).bind (checkedDoubled maximum exponent)
    else some base

def checkedRetryDelay (ext : Externals) (run : AgentRun) (currentAttempt nextAttempt : Int) : Option Duration := do
  let base ← checked 64 (run.spec.retryPolicy.initialBackoffSeconds * second)
  let maximum ← checked 64 (run.spec.retryPolicy.maxBackoffSeconds * second)
  let exponent ← checked 32 (currentAttempt - run.spec.attempt)
  let base ← checkedDoubled maximum exponent.toNat base
  let base := if base > maximum then maximum else base
  let product ← checked 64 (base * permille ext run.spec.runID nextAttempt)
  return product.tdiv 1000

/-- What the CRD demands of a retry policy. -/
structure RetryPolicy.Admitted (policy : RetryPolicy) : Prop where
  attempts : policy.maxAttempts ≤ 10
  initial : 1 ≤ policy.initialBackoffSeconds
  ordered : policy.initialBackoffSeconds ≤ policy.maxBackoffSeconds
  maximum : policy.maxBackoffSeconds ≤ 21600

theorem permille_bounds (ext : Externals) (runID : String) (attempt : Int) :
    500 ≤ permille ext runID attempt ∧ permille ext runID attempt ≤ 1000 := by
  unfold permille
  omega

/-! ## The doubling loop -/

section Doubling

variable {maximum base : Int}

/-- The loop doubles the base until it reaches the maximum. -/
theorem checkedDoubled_eq (fits : Fits 64 maximum) (positive : 0 < base) (below : base ≤ maximum) (exponent : Nat) :
    checkedDoubled maximum exponent base = some (min (base * 2 ^ exponent) maximum) := by
  induction exponent generalizing base with
  | zero => rw [checkedDoubled, pow_zero, mul_one, min_eq_left below]
  | succ exponent ih =>
    have half : maximum.tdiv 2 = maximum / 2 := Int.tdiv_eq_ediv_of_nonneg (by omega)
    have split : base * 2 ^ (exponent + 1) = base * 2 * 2 ^ exponent := by rw [pow_succ', mul_assoc]
    have grows : base * 2 ≤ base * 2 ^ (exponent + 1) := by
      rw [split]
      exact le_mul_of_one_le_right (by omega) (one_le_pow₀ (by omega))
    rw [checkedDoubled, half]
    split
    · split
      · rw [min_eq_right (by omega)]
      · have inside : Fits 64 (base * 2) := by
          rw [fits64] at fits ⊢
          omega
        rw [checked_of_fits inside, Option.bind_some, ih (by omega) (by omega), split]
    · rw [min_eq_right (by omega)]
      congr 1
      omega

/-- The loop without checks does the same. -/
theorem doubled_of_checked (positive : 0 ≤ maximum) {exponent : Nat} {result : Int}
    (checks : checkedDoubled maximum exponent base = some result) : doubled maximum exponent base = result := by
  induction exponent generalizing base with
  | zero => exact Option.some.inj checks
  | succ exponent ih =>
    rw [checkedDoubled, Int.tdiv_eq_ediv_of_nonneg positive] at checks
    rw [doubled]
    split at checks
    · next less =>
      rw [if_pos less]
      split at checks
      · next beyond => rw [if_pos beyond]; exact Option.some.inj checks
      · next under =>
        obtain ⟨product, doubles, rest⟩ := Option.bind_eq_some_iff.mp checks
        obtain ⟨-, rfl⟩ := checked_eq_some.mp doubles
        rw [if_neg under, ih rest]
    · next full => rw [if_neg full]; exact Option.some.inj checks

end Doubling

/-! ## The delay -/

/-- Durations are numbers of nanoseconds. -/
theorem second_eq : second = (1000000000 : Int) := rfl

/-- The backoff before the jitter. -/
def backoff (run : AgentRun) (currentAttempt : Int) : Int :=
  min (run.spec.retryPolicy.initialBackoffSeconds * second * 2 ^ (currentAttempt - run.spec.attempt).toNat)
    (run.spec.retryPolicy.maxBackoffSeconds * second)

section Delay

variable {ext : Externals} {run : AgentRun} {current : Int}

theorem backoff_bounds (admitted : run.spec.retryPolicy.Admitted) :
    1000000000 ≤ backoff run current ∧ backoff run current ≤ run.spec.retryPolicy.maxBackoffSeconds * second := by
  have initial := admitted.initial
  have ordered := admitted.ordered
  refine ⟨le_min ?_ ?_, min_le_right _ _⟩
  · have grows : run.spec.retryPolicy.initialBackoffSeconds * 1000000000 ≤
        run.spec.retryPolicy.initialBackoffSeconds * 1000000000 * 2 ^ (current - run.spec.attempt).toNat :=
      le_mul_of_one_le_right (by omega) (one_le_pow₀ (by omega))
    rw [second_eq]
    omega
  · rw [second_eq]
    omega

/-- The product with the jitter. -/
theorem jittered_bounds (admitted : run.spec.retryPolicy.Admitted) (runID : String) (attempt : Int) :
    500000000000 ≤ backoff run current * permille ext runID attempt ∧
      backoff run current * permille ext runID attempt ≤ run.spec.retryPolicy.maxBackoffSeconds * second * 1000 := by
  obtain ⟨lower, upper⟩ := @backoff_bounds run current admitted
  obtain ⟨least, most⟩ := permille_bounds ext runID attempt
  constructor
  · calc (500000000000 : Int) = 1000000000 * 500 := by decide
      _ ≤ backoff run current * permille ext runID attempt := mul_le_mul lower least (by decide) (by omega)
  · exact mul_le_mul upper most (by omega) (le_trans (by omega) upper)

/-- No step of the delay overflows, and the delay is the jittered backoff: positive, and at most the maximum. -/
theorem retryDelay_eq_jittered (admitted : run.spec.retryPolicy.Admitted) (first : 1 ≤ run.spec.attempt)
    (started : run.spec.attempt ≤ current) (remaining : current < run.spec.retryPolicy.maxAttempts) :
    let delay := min (run.spec.retryPolicy.initialBackoffSeconds * second * 2 ^ (current - run.spec.attempt).toNat)
      (run.spec.retryPolicy.maxBackoffSeconds * second) * permille ext run.spec.runID (current + 1) / 1000
    checkedRetryDelay ext run current (current + 1) = some delay ∧ retryDelay ext run current (current + 1) = delay ∧
      (500 ≤ permille ext run.spec.runID (current + 1) ∧ permille ext run.spec.runID (current + 1) ≤ 1000) ∧
      0 < delay ∧ delay ≤ run.spec.retryPolicy.maxBackoffSeconds * second := by
  have attempts := admitted.attempts
  have initial := admitted.initial
  have ordered := admitted.ordered
  have maximum := admitted.maximum
  have base : Fits 64 (run.spec.retryPolicy.initialBackoffSeconds * second) := by
    rw [fits64, second_eq]
    omega
  have cap : Fits 64 (run.spec.retryPolicy.maxBackoffSeconds * second) := by
    rw [fits64, second_eq]
    omega
  have exponent : Fits 32 (current - run.spec.attempt) := by
    rw [fits32]
    omega
  have loop : checkedDoubled (run.spec.retryPolicy.maxBackoffSeconds * second) (current - run.spec.attempt).toNat
      (run.spec.retryPolicy.initialBackoffSeconds * second) = some (backoff run current) :=
    checkedDoubled_eq cap (by rw [second_eq]; omega) (by rw [second_eq]; omega) _
  have bounds := @jittered_bounds ext run current admitted run.spec.runID (current + 1)
  have capped := (@backoff_bounds run current admitted).2
  have product : Fits 64 (backoff run current * permille ext run.spec.runID (current + 1)) := by
    rw [second_eq] at bounds
    rw [fits64]
    omega
  change checkedRetryDelay ext run current (current + 1) =
      some (backoff run current * permille ext run.spec.runID (current + 1) / 1000) ∧
    retryDelay ext run current (current + 1) = backoff run current * permille ext run.spec.runID (current + 1) / 1000 ∧
    _ ∧ 0 < backoff run current * permille ext run.spec.runID (current + 1) / 1000 ∧
    backoff run current * permille ext run.spec.runID (current + 1) / 1000 ≤ _
  refine ⟨?_, ?_, permille_bounds ext run.spec.runID (current + 1), by omega, ?_⟩
  · simp only [checkedRetryDelay, checked_of_fits base, checked_of_fits cap, checked_of_fits exponent, loop,
      if_neg (not_lt.mpr capped), checked_of_fits product, Option.bind_eq_bind, Option.bind_some, Option.pure_def,
      Int.tdiv_eq_ediv_of_nonneg (le_trans (by decide : (0 : Int) ≤ 500000000000) bounds.1)]
  · have exact : doubled (run.spec.retryPolicy.maxBackoffSeconds * second) (current - run.spec.attempt).toNat
        (run.spec.retryPolicy.initialBackoffSeconds * second) = backoff run current :=
      doubled_of_checked (by rw [second_eq]; omega) loop
    change min (doubled _ _ _) _ * permille ext run.spec.runID (current + 1) / 1000 = _
    rw [exact, min_eq_left capped]
  · rw [second_eq] at bounds ⊢
    omega

end Delay

/-- A library whose hash is always zero. -/
def zeroExternals : Externals where
  parseURL := fun _ => none
  sha256 := fun _ => 0
  marshalJSON := fun _ => ""
  parseIPPrefix := fun _ => none
  formatIPPrefix := fun _ => ""
  acceptsSelector := fun _ => true
  decodeEvidence := fun _ => .error ""

def retriedRun : AgentRun where
  metadata := { name := "run" }
  spec := {
    tenantID := "", projectID := "", runID := "run", attemptID := "", attempt := 1, runnerImage := "", runtime := ""
    executionProfile := "", taskRef := "", timeoutSeconds := 600, retryPolicy := ⟨3, 5, 300, none⟩
    resources := ⟨⟨100, 128⟩, ⟨200, 256⟩⟩, workspace := ⟨1, "local", .delete⟩, network := ⟨.isolated, none⟩
    artifactDestinationRef := ⟨""⟩, configurationRefs := none, secretRefs := none, deployOnSuccess := false
    desiredState := .running }

theorem retriedRun_delay : checkedRetryDelay zeroExternals retriedRun 2 (2 + 1) =
    some (min (5 * second * 2 ^ (2 - 1 : Int).toNat) (300 * second) * permille zeroExternals "run" (2 + 1) / 1000) :=
  (@retryDelay_eq_jittered zeroExternals retriedRun 2 ⟨by decide, by decide, by decide, by decide⟩ (by decide) (by decide)
    (by decide)).1

end AgentForge.Operator
