import Mathlib
import AgentForge.Operator.Matching
import AgentForge.Operator.StatusRules

/-!
# The invariant behind Job safety

At most the Job of the current attempt is live, and it is not live once the persisted phase is
terminal. The invariant is stated for a run and a world separately, since a reconcile works on a copy
of the run that it persists at its end (`Ready`, `Working`).
-/

set_option autoImplicit false

namespace AgentForge.Operator

open Lib

/-! ## Names of attempts -/

/-- Different attempts of a run have different stems. -/
theorem childBase_injective {runID : String} {a b : Int} (same : childBase runID a = childBase runID b) : a = b := by
  simp only [childBase, String.append_right_inj] at same
  exact Int.repr_injective same

/-- Different attempts of a run have Jobs of different names. -/
theorem jobNameOf_injective (run : AgentRun) {a b : Int} (same : jobNameOf run a = jobNameOf run b) : a = b := by
  simp only [jobNameOf, namesOf, String.append_left_inj] at same
  exact childBase_injective same

theorem jobNameOf_ne_empty (run : AgentRun) (attempt : Int) : jobNameOf run attempt ≠ "" := by
  simp [jobNameOf, namesOf, childBase]

/-! ## Facts about the run alone -/

/-- The controller's validation accepts the immutable part of the run. -/
def Accepted (ext : Externals) (run : AgentRun) : Prop :=
  1 ≤ run.metadata.generation ∧ validateSpec ext run.spec = .ok ()

/-- A builder is configured and builds the objects of the current attempt. -/
def Buildable (r : Reconciler) (run : AgentRun) : Prop :=
  ∃ builder built, r.resourceBuilder = some builder ∧ builder.buildAll r.ext run = .ok built

/-- The Job name of the current attempt. -/
def currentJobName (run : AgentRun) : String := jobNameOf run (currentAttempt run)

theorem currentAttempt_ge (run : AgentRun) : run.spec.attempt ≤ currentAttempt run := by
  unfold currentAttempt
  split <;> omega

variable {run run' : AgentRun}

theorem currentAttempt_of_ge (observed : run.spec.attempt ≤ run.status.attempt) :
    currentAttempt run = run.status.attempt := if_pos observed

theorem initializeIdentity_terminal (run : AgentRun) :
    (initializeIdentity run).status.terminal = run.status.terminal := by
  simp only [AgentRunStatus.terminal, initializeIdentity, AgentRun.withStatus]
  cases run.status.phase <;> rfl

theorem validateSpec_attempt {ext : Externals} {spec : AgentRunSpec} (valid : validateSpec ext spec = .ok ()) :
    isUUIDv7 spec.runID = true ∧ 1 ≤ spec.attempt ∧ spec.attempt ≤ 10 ∧
      spec.attempt ≤ spec.retryPolicy.maxAttempts := by
  simp only [validateSpec, bind_eq_ok, guard_eq_ok] at valid
  obtain ⟨_, identified, bounds, _⟩ := valid
  simp only [Bool.or_eq_true, decide_eq_true_eq, not_or, not_lt, gt_iff_lt] at bounds
  simp only [validateIdentifiers] at identified
  refine ⟨?_, bounds.1.1, bounds.1.2, bounds.2⟩
  split at identified
  · cases identified
  · split at identified
    · cases identified
    · split at identified
      · cases identified
      · next uuid => simpa using uuid

theorem Accepted.mono {ext : Externals} (accepted : Accepted ext run) (same : SameIntent run run') :
    Accepted ext run' := by
  refine ⟨accepted.1.trans same.generation, ?_⟩
  rw [same.spec]
  exact accepted.2

theorem SameIntent.sameBuild (same : SameIntent run run') (status : run'.status = run.status) : SameBuild run run' :=
  ⟨same.name, same.ns, same.uid, same.spec, same.currentAttempt status⟩

theorem Buildable.congr {r : Reconciler} (buildable : Buildable r run) (same : SameBuild run run') :
    Buildable r run' := by
  obtain ⟨builder, built, configured, ok⟩ := buildable
  exact ⟨builder, built, configured, same.buildAll.trans ok⟩

theorem SameIntent.jobNameOf (same : SameIntent run run') (attempt : Int) :
    jobNameOf run' attempt = jobNameOf run attempt := by
  simp only [Operator.jobNameOf, same.runID]

/-- An accepted run whose attempt is within the ceiling passes the whole validation. -/
theorem Accepted.validateAgentRun {ext : Externals} (accepted : Accepted ext run)
    (ceiling : run.spec.retryPolicy.maxAttempts ≤ 10)
    (bounded : currentAttempt run = run.spec.attempt ∨ currentAttempt run ≤ run.spec.retryPolicy.maxAttempts) :
    validateAgentRun ext run = .ok () := by
  obtain ⟨uuid, positive, small, within⟩ := validateSpec_attempt accepted.2
  have generation : ¬ run.metadata.generation < 1 := by have := accepted.1; omega
  have lower : run.spec.attempt ≤ currentAttempt run := by
    unfold currentAttempt
    split <;> omega
  have names : forAgentRun run = .ok (namesOf run.spec.runID (currentAttempt run)) :=
    forAgentRun_eq_ok.mpr ⟨uuid, by omega, by omega, by omega, rfl⟩
  simp [Operator.validateAgentRun, generation, accepted.2, names]

theorem accepted_of_validateAgentRun {ext : Externals} (valid : validateAgentRun ext run = .ok ()) :
    Accepted ext run ∧ forAgentRun run = .ok (namesOf run.spec.runID (currentAttempt run)) := by
  unfold validateAgentRun at valid
  split at valid
  · cases valid
  · next positive =>
    split at valid
    · cases valid
    · next spec =>
      refine ⟨⟨by omega, spec⟩, ?_⟩
      split at valid
      · cases valid
      · next names named =>
        obtain ⟨-, -, -, -, rfl⟩ := forAgentRun_eq_ok.mp named
        exact named

/-! ## The invariant -/

/-- Which assumptions the environment meets, and so which laws are followed: orderly answers, orderly
answers to cancelled runs as well, and no removal of a Job that was just read. -/
structure Mode where
  orderly : Prop
  strict : Prop
  guarded : Prop

/-- A terminal phase that may be relied on. -/
def Mode.counts (mode : Mode) (phase : AgentRunPhase) : Prop :=
  mode.orderly ∧ (phase = .cancelled → mode.strict)

/-- What holds of a run, persisted or about to be, and the Jobs in the world. -/
structure RunInv (mode : Mode) (r : Reconciler) (run : AgentRun) (w : World) : Prop where
  bounded : currentAttempt run = run.spec.attempt ∨ currentAttempt run ≤ run.spec.retryPolicy.maxAttempts
  initialised : (run.status.attempt = 0 ∧ run.status.phase = none) ∨ run.spec.attempt ≤ run.status.attempt
  named : run.status.jobName = "" ∨ (run.status.jobName = currentJobName run ∧ Accepted r.ext run)
  advanced : run.spec.attempt < run.status.attempt → Accepted r.ext run
  only : mode.orderly → ∀ attempt, w.live (jobNameOf run attempt) = true →
    attempt = currentAttempt run ∧ Accepted r.ext run ∧ Buildable r run
  settled : ∀ phase, run.status.phase = some phase → phase.terminal = true → mode.counts phase →
    w.live (currentJobName run) = false

/-- The Job of attempt `k` has been recorded: a later attempt is current, or its name is in the status. -/
def Recorded (k : Int) (run : AgentRun) : Prop :=
  k < currentAttempt run ∨ (currentAttempt run = k ∧ run.status.jobName = jobNameOf run k)

/-- The invariant of the world. The resource definition admits at most ten attempts. -/
structure Inv (mode : Mode) (r : Reconciler) (w : World) : Prop where
  version : w.run.metadata.resourceVersion ≤ w.counter
  ceiling : w.run.spec.retryPolicy.maxAttempts ≤ 10
  run : RunInv mode r w.run w

section Stability

variable {mode : Mode} {r : Reconciler} {w w' : World}

theorem RunInv.untouched (inv : RunInv mode r run w) (quiet : ∀ name, w'.live name = true → w.live name = true) :
    RunInv mode r run w' where
  bounded := inv.bounded
  initialised := inv.initialised
  named := inv.named
  advanced := inv.advanced
  only := fun orderly attempt live => inv.only orderly attempt (quiet _ live)
  settled := fun phase at_phase terminal counted => by
    have before := inv.settled phase at_phase terminal counted
    cases live : w'.live (currentJobName run) with
    | false => rfl
    | true => rw [quiet _ live] at before; cases before

/-- The invariant reads only the core of the run. -/
theorem RunInv.core (inv : RunInv mode r run w) (same : SameCore run run') : RunInv mode r run' w := by
  have attempt := same.currentAttempt
  have jobName : ∀ k, jobNameOf run' k = jobNameOf run k := fun k => by simp only [jobNameOf, same.spec]
  have accepted : Accepted r.ext run' ↔ Accepted r.ext run := by simp only [Accepted, same.metadata, same.spec]
  have build : SameBuild run run' :=
    ⟨by rw [same.metadata], by rw [same.metadata], by rw [same.metadata], by rw [same.spec], attempt⟩
  refine ⟨?_, ?_, ?_, ?_, fun orderly k live => ?_, fun phase at_phase terminal counted => ?_⟩
  · rw [attempt, same.spec]; exact inv.bounded
  · rw [same.attempt, same.phase, same.spec]; exact inv.initialised
  · rw [same.jobName, currentJobName, attempt, jobName, accepted]; exact inv.named
  · rw [same.attempt, same.spec, accepted]; exact inv.advanced
  · obtain ⟨current, ok, buildable⟩ := inv.only orderly k (jobName k ▸ live)
    exact ⟨current.trans attempt.symm, accepted.mpr ok, buildable.congr build⟩
  · rw [currentJobName, attempt, jobName]
    exact inv.settled phase (same.phase ▸ at_phase) terminal counted

/-- Another client's step keeps the invariant of the run it leaves behind. -/
theorem RunInv.intent (inv : RunInv mode r run w) (same : SameIntent run run')
    (status : run'.status = run.status) : RunInv mode r run' w := by
  have attempt := same.currentAttempt status
  have current : currentJobName run' = currentJobName run := by
    rw [currentJobName, attempt, same.jobNameOf]; rfl
  refine ⟨?_, ?_, ?_, ?_, fun orderly k live => ?_, fun phase at_phase terminal counted => ?_⟩
  · rw [attempt, same.attempt, same.retryPolicy]; exact inv.bounded
  · rw [status, same.attempt]; exact inv.initialised
  · rw [status, current]
    exact inv.named.imp id fun h => ⟨h.1, h.2.mono same⟩
  · rw [status, same.attempt]
    exact fun retried => (inv.advanced retried).mono same
  · obtain ⟨here, ok, buildable⟩ := inv.only orderly k (same.jobNameOf k ▸ live)
    exact ⟨here.trans attempt.symm, ok.mono same, buildable.congr (same.sameBuild status)⟩
  · rw [current]
    exact inv.settled phase (status ▸ at_phase) terminal counted

theorem Recorded.congr {k : Int} (recorded : Recorded k run) (spec : run'.spec = run.spec)
    (attempt : run'.status.attempt = run.status.attempt) (jobName : run'.status.jobName = run.status.jobName) :
    Recorded k run' := by
  simpa only [Recorded, currentAttempt, jobNameOf, spec, attempt, jobName] using recorded

theorem Recorded.intent {k : Int} (recorded : Recorded k run) (same : SameIntent run run')
    (status : run'.status = run.status) : Recorded k run' := by
  unfold Recorded
  rw [same.currentAttempt status, status, same.jobNameOf]
  exact recorded

theorem Inv.untouched (inv : Inv mode r w) (untouched : Untouched w w') : Inv mode r w' where
  version := untouched.stored inv.version
  ceiling := by rw [untouched.intent.retryPolicy]; exact inv.ceiling
  run := (inv.run.intent untouched.intent untouched.status).untouched untouched.quiet

end Stability

end AgentForge.Operator
