import Mathlib.Data.List.Induction
import AgentForge.Lib.Except
import AgentForge.Platform.AgentRun

/-!
# Sequences of transitions of one run

`Transition` changes the run it is called on. Here it is written with its assignments in the order of the source,
compared with the function `AgentRun.transition` that the transactions use, and followed over every sequence of
calls on a run that `NewAgentRun` returned.
-/

set_option autoImplicit false

namespace AgentForge.Platform

open Operator

/-- The arguments of a call of `Transition`. -/
structure TransitionCall where
  target : AgentRunStatus
  failure : Failure
  now : Time
  deriving DecidableEq

/-- The statuses that no transition leaves. -/
def AgentRunStatus.isFinal : AgentRunStatus → Bool
  | succeeded | cancelled | policyRejected => true
  | _ => false

namespace AgentRun

/-- `Transition`: what a call returns, and the run it leaves. -/
def perform (run : AgentRun) (call : TransitionCall) : Except Error Unit × AgentRun := Id.run do
  let mut run := run
  if !run.canTransition call.target then return (.error .invalidTransition, run)
  if call.target = run.status then return (.ok (), run)
  if call.target.isFailure then
    if call.failure = .none then return (.error (.invalid "failure category is required"), run)
    if !call.failure.isValid then return (.error (.invalid "failure category is not valid"), run)
  if call.target = .queued && run.status.isTerminal then
    run := { run with attemptCount := run.attemptCount + 1 }
    run := { run with failureCategory := .none }
    run := { run with completedAt := none }
  else if call.target.isTerminal then
    run := { run with completedAt := some call.now }
    run := { run with failureCategory := call.failure }
  run := { run with status := call.target }
  run := { run with updatedAt := call.now }
  return (.ok (), run)

/-- All checks come before the first assignment. -/
theorem perform_eq (run : AgentRun) (call : TransitionCall) :
    run.perform call =
      match run.transition call.target call.failure call.now with
      | .ok run' => (.ok (), run')
      | .error e => (.error e, run) := by
  unfold perform transition enter
  simp only [Id.run, pure]
  by_cases allowed : run.canTransition call.target = true
  · by_cases same : call.target = run.status
    · rw [same] at allowed
      simp [allowed, same]
    · -- what is left are the checks of the category, and then the same assignments on both sides
      by_cases requeued : (decide (call.target = .queued) && run.status.isTerminal) = true <;>
        by_cases ended : call.target.isTerminal = true <;> by_cases failed : call.target.isFailure = true <;>
        cases call.failure <;> simp [allowed, same, requeued, ended, failed, Failure.isValid]
  · simp [allowed]

/-- A call fails, repeats the status, or moves the run along an edge of the graph. -/
inductive Performed (run : AgentRun) (call : TransitionCall) : Except Error Unit × AgentRun → Prop where
  | failed (e : Error) : Performed run call (.error e, run)
  | repeated (same : call.target = run.status) : Performed run call (.ok (), run)
  | moved (allowed : run.canTransition call.target = true) (differs : call.target ≠ run.status)
      (valid : call.target.isFailure = true → call.failure.isValid = true) :
      Performed run call (.ok (), { run.enter call.target call.failure call.now with
        status := call.target, updatedAt := call.now })

theorem performed (run : AgentRun) (call : TransitionCall) : Performed run call (run.perform call) := by
  rw [perform_eq]
  cases result : run.transition call.target call.failure call.now with
  | error e => exact .failed e
  | ok run' =>
    obtain ⟨allowed, ⟨same, rfl⟩ | ⟨differs, valid, rfl⟩⟩ := transition_ok result
    · exact .repeated same
    · exact .moved allowed differs valid

/-- The run after a sequence of calls, whatever they return. -/
def after (run : AgentRun) (calls : List TransitionCall) : AgentRun :=
  calls.foldl (fun run call => (run.perform call).2) run

/-- The moves of a sequence of calls from a terminal status to QUEUED. -/
def requeues (run : AgentRun) : List TransitionCall → Nat
  | [] => 0
  | call :: calls =>
    (if run.status.isTerminal && (run.perform call).2.status = .queued then 1 else 0) +
      (run.perform call).2.requeues calls

@[simp] theorem after_nil (run : AgentRun) : run.after [] = run := rfl

@[simp] theorem after_cons (run : AgentRun) (call : TransitionCall) (calls : List TransitionCall) :
    run.after (call :: calls) = (run.perform call).2.after calls := rfl

theorem after_append (run : AgentRun) (calls more : List TransitionCall) :
    run.after (calls ++ more) = (run.after calls).after more := List.foldl_append

/-! ## Counters and completion -/

variable {run : AgentRun}

theorem enter_requeue (terminal : run.status.isTerminal = true) (failure : Failure) (now : Time) :
    run.enter .queued failure now =
      { run with attemptCount := run.attemptCount + 1, failureCategory := .none, completedAt := none } := by
  simp [enter, terminal]

/-- A run `n` retries after its creation. -/
structure Counted (run : AgentRun) (n : Nat) : Prop where
  count : run.attemptCount = n + 1
  within : run.attemptCount ≤ run.maxAttempts
  completed : run.completedAt.isSome = run.status.isTerminal

theorem Counted.perform {n : Nat} (counted : run.Counted n) (call : TransitionCall) :
    (run.perform call).2.Counted
      (n + if run.status.isTerminal && (run.perform call).2.status = .queued then 1 else 0) := by
  have stays : (run.status.isTerminal && decide (run.status = .queued)) = false := by
    cases run.status <;> rfl
  have step := run.performed call
  generalize run.perform call = result at step
  cases step with
  | failed e => simpa [stays] using counted
  | repeated same => simpa [stays] using counted
  | moved allowed differs valid =>
    obtain ⟨count, within, completed⟩ := counted
    by_cases requeued : call.target = .queued
    · have terminal := (transition_of_terminal allowed differs).mpr requeued
      rw [requeued] at allowed differs
      have retryable := canRetry_iff.mp (canRetry_of_requeue allowed differs)
      rw [requeued, enter_requeue terminal]
      refine ⟨?_, ?_, rfl⟩
      · simp [terminal, count]
      · exact Int.add_one_le_of_lt retryable.2.1
    · have going : run.status.isTerminal = false := by
        simpa [requeued] using transition_of_terminal allowed differs
      cases ended : call.target.isTerminal with
      | true => exact ⟨by simp [enter, requeued, ended, count], by simpa [enter, requeued, ended] using within,
          by simp [enter, requeued, ended]⟩
      | false => exact ⟨by simp [enter, requeued, ended, count], by simpa [enter, requeued, ended] using within,
          by simpa [enter, requeued, ended, going] using completed⟩

theorem Counted.after {n : Nat} (counted : run.Counted n) (calls : List TransitionCall) :
    (run.after calls).Counted (n + run.requeues calls) := by
  induction calls generalizing run n with
  | nil => exact counted
  | cons call calls ih =>
    have rest := ih (counted.perform call)
    rw [Nat.add_assoc] at rest
    exact rest

theorem newAgentRun_ok {input : NewAgentRunInput} {id : UUID} {now : Time}
    (made : newAgentRun input id now = .ok run) :
    ∃ u, input.trimmed.validate = .ok u ∧ input.trimmed.run id now = run := by
  simpa [newAgentRun, Lib.bind_eq_ok, pure, Except.pure] using made

/-- A run that the constructor returned is queued for its first attempt. -/
theorem counted_of_new {input : NewAgentRunInput} {id : UUID} {now : Time}
    (made : newAgentRun input id now = .ok run) : run.Counted 0 := by
  obtain ⟨⟨⟩, valid, rfl⟩ := newAgentRun_ok made
  have attempts : 1 ≤ input.trimmed.maxAttempts := by
    simp only [NewAgentRunInput.validate, Lib.guard_eq_ok] at valid
    omega
  exact ⟨rfl, attempts, rfl⟩

/-! ## Final statuses -/

theorem canTransition_of_isFinal {target : AgentRunStatus} (final : run.status.isFinal = true)
    (allowed : run.canTransition target = true) : target = run.status := by
  unfold canTransition at allowed
  cases target <;> cases status : run.status <;> simp_all [AgentRunStatus.isFinal, AgentRunStatus.isTerminal]

theorem perform_of_isFinal (final : run.status.isFinal = true) (call : TransitionCall) :
    (run.perform call).2 = run := by
  have step := run.performed call
  generalize run.perform call = result at step
  cases step with
  | failed e => rfl
  | repeated same => rfl
  | moved allowed differs valid => exact absurd (canTransition_of_isFinal final allowed) differs

theorem after_of_isFinal (final : run.status.isFinal = true) (calls : List TransitionCall) :
    run.after calls = run := by
  induction calls with
  | nil => rfl
  | cons call calls ih => rw [after_cons, perform_of_isFinal final, ih]

/-- Over every sequence of calls the attempts are counted and bounded, a run is completed exactly while it is terminal,
a call that fails leaves the run as it is, and nothing changes a run that has succeeded, was cancelled or was
rejected. -/
theorem transitions_keep_run {input : NewAgentRunInput} {id : UUID} {now : Time} {run : AgentRun}
    (made : newAgentRun input id now = .ok run) (calls : List TransitionCall) :
    (1 ≤ (run.after calls).attemptCount ∧ (run.after calls).attemptCount ≤ (run.after calls).maxAttempts) ∧
      (run.after calls).attemptCount - 1 = run.requeues calls ∧
      ((run.after calls).completedAt.isSome = true ↔ (run.after calls).status.isTerminal = true) ∧
      (∀ call e, ((run.after calls).perform call).1 = .error e → ((run.after calls).perform call).2 = run.after calls) ∧
      ((run.after calls).status ∈ [AgentRunStatus.succeeded, .cancelled, .policyRejected] →
        ∀ more, (run.after calls).after more = run.after calls) := by
  have counted := (counted_of_new made).after calls
  have count := counted.count
  refine ⟨⟨by omega, counted.within⟩, by omega, by rw [counted.completed], ?_, ?_⟩
  · intro call e failed
    have step := (run.after calls).performed call
    generalize (run.after calls).perform call = result at step failed
    cases step with
    | failed => rfl
    | repeated => rfl
    | moved => cases failed
  · intro final more
    refine after_of_isFinal ?_ more
    revert final
    cases (run.after calls).status <;> simp [AgentRunStatus.isFinal]

/-- A request for a run of at most two attempts. -/
def twoAttempts : NewAgentRunInput where
  tenantID := ⟨#v[0, 0, 0, 0, 0, 0, 0x70, 0, 0, 0, 0, 0, 0, 0, 0, 1]⟩
  projectID := ⟨#v[0, 0, 0, 0, 0, 0, 0x70, 0, 0, 0, 0, 0, 0, 0, 0, 2]⟩
  promptReference := "s3://prompts/1"
  runtime := "python"
  cpuMillis := 1000
  memoryMiB := 1024
  timeoutSeconds := 600
  maxAttempts := 2
  idempotencyKey := "k"
  requestHash := "h"
  createdBy := "ada"

/-- Its run. -/
def queuedRun : AgentRun := twoAttempts.run ⟨#v[0, 0, 0, 0, 0, 0, 0x70, 0, 0, 0, 0, 0, 0, 0, 0, 3]⟩ 0

theorem newAgentRun_twoAttempts : newAgentRun twoAttempts queuedRun.id 0 = .ok queuedRun := by decide +kernel

/-- A second attempt of that run is rejected, and nothing changes the run any more. -/
theorem queuedRun_kept :
    let run := queuedRun.after [⟨.scheduling, .none, 1⟩, ⟨.timedOut, .known .transientDependency, 2⟩,
      ⟨.queued, .none, 3⟩, ⟨.scheduling, .none, 4⟩, ⟨.policyRejected, .known .policy, 5⟩]
    run.attemptCount = 2 ∧ run.completedAt = some 5 ∧ ∀ more, run.after more = run := by
  intro run
  have kept := transitions_keep_run newAgentRun_twoAttempts [⟨.scheduling, .none, 1⟩,
    ⟨.timedOut, .known .transientDependency, 2⟩, ⟨.queued, .none, 3⟩, ⟨.scheduling, .none, 4⟩,
    ⟨.policyRejected, .known .policy, 5⟩]
  exact ⟨by decide +kernel, by decide +kernel, kept.2.2.2.2 (by decide +kernel)⟩

/-! ## The guard of a retry -/

/-- `CanRetry` agrees with the graph: it holds exactly when QUEUED can be reached, the transition of a retry that passes
it succeeds, and it never holds of a run that succeeded, was cancelled or was rejected. -/
structure RetryAgrees (run : AgentRun) : Prop where
  guard : run.canRetry = true ↔ run.canTransition .queued = true
  moves : run.canRetry = true → ∀ now, ∃ run', run.transition .queued .none now = .ok run'
  final : run.status ∈ [AgentRunStatus.succeeded, .cancelled, .policyRejected] → run.canRetry = false

/-- A call that takes a run with attempts left to a final status, and records a transient failure. -/
structure EndsTransiently (run : AgentRun) (call : TransitionCall) : Prop where
  allowed : run.canTransition call.target = true
  differs : call.target ≠ run.status
  final : call.target.isFinal = true
  failure : call.failure = .known .transientDependency
  left : run.attemptCount < run.maxAttempts

/-- A final run with a transient failure has no attempt left. -/
def Settled (run : AgentRun) : Prop :=
  run.status.isFinal = true → run.failureCategory = .known .transientDependency → run.maxAttempts ≤ run.attemptCount

theorem isTerminal_of_isFinal {status : AgentRunStatus} (final : status.isFinal = true) : status.isTerminal = true := by
  cases status <;> simp_all [AgentRunStatus.isFinal, AgentRunStatus.isTerminal]

theorem enter_terminal {target : AgentRunStatus} (terminal : target.isTerminal = true) (failure : Failure)
    (now : Time) :
    run.enter target failure now = { run with completedAt := some now, failureCategory := failure } := by
  have other : target ≠ .queued := by
    rintro rfl
    cases terminal
  simp [enter, terminal, other]

/-- A call that the graph allows and whose category is valid moves the run. -/
theorem perform_moves {call : TransitionCall} (allowed : run.canTransition call.target = true)
    (differs : call.target ≠ run.status) (valid : call.failure.isValid = true) :
    (run.perform call).2 = { run.enter call.target call.failure call.now with
      status := call.target, updatedAt := call.now } := by
  have given : call.failure ≠ .none := by
    intro missing
    rw [missing] at valid
    cases valid
  simp [perform_eq, transition, allowed, differs, valid, given]

theorem RetryAgrees.of_settled (settled : run.Settled) (terminal : run.status.isTerminal = true) :
    run.RetryAgrees := by
  have unfinal : run.status.isFinal = true → run.canRetry = false := by
    intro final
    rw [Bool.eq_false_iff]
    intro retryable
    obtain ⟨-, left, transient⟩ := canRetry_iff.mp retryable
    exact absurd left (Int.not_lt.mpr (settled final transient))
  have guard : run.canRetry = true ↔ run.canTransition .queued = true := by
    unfold canTransition
    cases status : run.status <;> simp_all [AgentRunStatus.isFinal, AgentRunStatus.isTerminal]
  refine ⟨guard, fun retryable now => ?_, fun final => unfinal ?_⟩
  · have other : AgentRunStatus.queued ≠ run.status := by
      intro same
      rw [← same] at terminal
      cases terminal
    simp [transition, guard.mp retryable, other, AgentRunStatus.isFailure, AgentRunStatus.isTerminal]
  · revert final
    cases run.status <;> simp [AgentRunStatus.isFinal]

theorem Settled.perform {call : TransitionCall} (settled : run.Settled) (safe : ¬run.EndsTransiently call) :
    (run.perform call).2.Settled := by
  have step := run.performed call
  generalize run.perform call = result at step
  cases step with
  | failed e => exact settled
  | repeated same => exact settled
  | moved allowed differs valid =>
    intro final transient
    rw [enter_terminal (isTerminal_of_isFinal final)] at transient ⊢
    exact Int.not_lt.mp fun left => safe ⟨allowed, differs, final, transient, left⟩

/-- The guard of a retry agrees with the graph throughout a sequence of calls exactly if no call takes the run to
SUCCEEDED, CANCELLED or POLICY_REJECTED with a transient failure while attempts are left. -/
theorem retry_agrees_iff {input : NewAgentRunInput} {id : UUID} {now : Time} {run : AgentRun}
    (made : newAgentRun input id now = .ok run) (calls : List TransitionCall) :
    (∀ done, done <+: calls → (run.after done).status.isTerminal = true → (run.after done).RetryAgrees) ↔
      ∀ done call, done ++ [call] <+: calls → ¬(run.after done).EndsTransiently call := by
  constructor
  · intro agrees done call within ends
    have terminal := isTerminal_of_isFinal ends.final
    have moved : run.after (done ++ [call]) = { (run.after done) with
        completedAt := some call.now, failureCategory := call.failure, status := call.target, updatedAt := call.now } := by
      rw [after_append, after_cons, after_nil, perform_moves ends.allowed ends.differs (by rw [ends.failure]; rfl),
        enter_terminal terminal]
    have retryable : (run.after (done ++ [call])).canRetry = true := by
      rw [moved, canRetry_iff]
      exact ⟨terminal, ends.left, ends.failure⟩
    have unretryable : (run.after (done ++ [call])).canRetry = false := by
      refine (agrees _ within (by rw [moved]; exact terminal)).final ?_
      rw [moved]
      have final := ends.final
      cases target : call.target <;> simp_all [AgentRunStatus.isFinal]
    rw [retryable] at unretryable
    cases unretryable
  · intro safe done within terminal
    refine .of_settled ?_ terminal
    clear terminal
    induction done using List.reverseRecOn with
    | nil =>
      obtain ⟨⟨⟩, -, rfl⟩ := newAgentRun_ok made
      exact nofun
    | append_singleton done call ih =>
      rw [after_append]
      exact (ih ((List.prefix_append _ _).trans within)).perform (safe done call within)

/-- A run that the Scheduler rejects because of a transient failure passes the guard of a retry. -/
theorem rejected_retryable :
    let run := queuedRun.after [⟨.scheduling, .none, 1⟩, ⟨.policyRejected, .known .transientDependency, 2⟩]
    newAgentRun twoAttempts queuedRun.id 0 = .ok queuedRun ∧ run.status = .policyRejected ∧ run.canRetry = true ∧
      run.canTransition .queued = false ∧ ¬run.RetryAgrees := by
  intro run
  have retryable : run.canRetry = true := by decide +kernel
  refine ⟨newAgentRun_twoAttempts, by decide +kernel, retryable, by decide +kernel, fun agrees => ?_⟩
  have unretryable := agrees.final (by decide +kernel)
  rw [retryable] at unretryable
  cases unretryable

/-- A run that times out and is retried. -/
theorem timed_out_retryable :
    let calls : List TransitionCall := [⟨.scheduling, .none, 1⟩, ⟨.timedOut, .known .transientDependency, 2⟩,
      ⟨.queued, .none, 3⟩]
    (∀ done, done <+: calls → (queuedRun.after done).status.isTerminal = true → (queuedRun.after done).RetryAgrees) ∧
      (queuedRun.after calls).attemptCount = 2 := by
  intro calls
  refine ⟨(retry_agrees_iff newAgentRun_twoAttempts calls).mpr fun done call within ends => ?_, by decide +kernel⟩
  have member : call ∈ calls := within.subset (by simp)
  have unfinal : ∀ c ∈ calls, c.target.isFinal = false := by decide
  have final := ends.final
  rw [unfinal call member] at final
  cases final

end AgentRun

end AgentForge.Platform
