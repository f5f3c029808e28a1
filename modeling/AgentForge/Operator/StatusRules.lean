import AgentForge.Operator.Effects
import AgentForge.Operator.Reconcile

/-!
# Rules for the programs that edit the status

Most of a reconcile edits the run in memory and reads the clock. An assertion on that run and the
world is *carried* through these programs when it survives other clients and quiet calls, and reads
only the identity, the spec, the phase, the attempt and the Job name of the run. Each rule says which
edit of these fields a program makes.
-/

set_option autoImplicit false

namespace AgentForge.Operator

open Lib

/-- The two runs agree on the fields that decide about Jobs. -/
structure SameCore (run run' : AgentRun) : Prop where
  metadata : run'.metadata = run.metadata
  spec : run'.spec = run.spec
  phase : run'.status.phase = run.status.phase
  attempt : run'.status.attempt = run.status.attempt
  jobName : run'.status.jobName = run.status.jobName

theorem SameCore.refl (run : AgentRun) : SameCore run run := ⟨rfl, rfl, rfl, rfl, rfl⟩

theorem SameCore.currentAttempt {run run' : AgentRun} (same : SameCore run run') :
    currentAttempt run' = currentAttempt run := by
  simp only [Operator.currentAttempt, same.attempt, same.spec]

theorem SameCore.upsertAttemptStatus (run : AgentRun) : SameCore run (upsertAttemptStatus run) :=
  ⟨rfl, rfl, rfl, rfl, rfl⟩

theorem SameCore.advanceAttempt {run run' : AgentRun} (same : SameCore run run') :
    SameCore (advanceAttempt run) (advanceAttempt run') where
  metadata := same.metadata
  spec := same.spec
  phase := rfl
  attempt := congrArg (· + 1) same.currentAttempt
  jobName := rfl

/-- The run with another phase. -/
def AgentRun.withPhase (run : AgentRun) (phase : AgentRunPhase) : AgentRun :=
  run.withStatus { run.status with phase := some phase }

/-- The run with another Job name. -/
def AgentRun.withJobName (run : AgentRun) (jobName : String) : AgentRun :=
  run.withStatus { run.status with jobName }

/-- Assertions on the run in memory and the world. -/
abbrev RunAssertion := AgentRun → World → Prop

/-- An assertion that status programs carry along. -/
structure Carried (K : Contract apiServer) (P : RunAssertion) : Prop where
  untouched : ∀ {run w w'}, Untouched w w' → P run w → P run w'
  keeps : ∀ {run w op res w'}, op.quiet = true → Untouched w w' → P run w → K.keeps w op res w'
  core : ∀ {run w}, P run w → ∀ {run'}, SameCore run run' → P run' w

namespace Carried

variable {K : Contract apiServer} {P : RunAssertion} (carried : Carried K P)

include carried

theorem stable (run : AgentRun) : K.Stable fun _ w => P run w :=
  fun _ _ _ _ h _ moved => carried.untouched (applyMove_untouched moved) h

/-- A quiet call carries the assertion; its answer is one the server gives to some earlier world. -/
theorem call (run : AgentRun) {op : Op} (quiet : op.quiet = true) :
    K.Triple (fun _ w => P run w) (call op) fun res log w =>
      P run w ∧ ∃ log₀ w₀ fault, P run w₀ ∧ K.answers w₀ log₀ op fault ∧
        respond w₀ op fault = some (res, w) ∧ log = ⟨op, res⟩ :: log₀ := by
  refine Contract.Triple.perform (carried.stable run) fun log w fault res w' h assumed answered => ?_
  have untouched := respond_untouched quiet answered
  exact ⟨carried.keeps quiet untouched h, carried.untouched untouched h,
    log, w, fault, h, assumed, answered, rfl⟩

theorem call' (run : AgentRun) {op : Op} (quiet : op.quiet = true) :
    K.Triple (fun _ w => P run w) (Operator.call op) fun _ _ w => P run w :=
  (carried.call run quiet).consequence (fun _ _ => id) fun _ _ _ h => h.1

theorem now (run : AgentRun) : K.Triple (fun _ w => P run w) Operator.now fun _ _ w => P run w :=
  carried.call' run rfl

theorem orNow (run : AgentRun) (time : Time) :
    K.Triple (fun _ w => P run w) (Operator.orNow time) fun _ _ w => P run w := by
  unfold Operator.orNow
  split
  · exact carried.now run
  · exact Contract.Triple.pure fun _ _ => id

/-- Return a value built from a run with the same core. -/
theorem pure {α : Type} {run : AgentRun} {a : α} {run' : AgentRun} {Q : α → World → Prop}
    (post : ∀ w, P run' w → Q a w) (same : SameCore run run') :
    K.Triple (fun _ w => P run w) (Pure.pure a) fun a _ w => Q a w :=
  Contract.Triple.pure fun _ w h => post w (carried.core h same)

theorem setCondition (run : AgentRun) (type : ConditionType) (status : ConditionStatus) (reason message : String) :
    K.Triple (fun _ w => P run w) (Operator.setCondition run type status reason message) fun run' _ w => P run' w :=
  (carried.now run).bind fun _ => carried.pure (fun _ => id) ⟨rfl, rfl, rfl, rfl, rfl⟩

theorem setConditions (run : AgentRun) (changes : List (ConditionType × ConditionStatus × String × String)) :
    K.Triple (fun _ w => P run w) (Operator.setConditions run changes) fun run' _ w => P run' w := by
  induction changes generalizing run with
  | nil => exact carried.pure (fun _ => id) (.refl run)
  | cons change rest ih =>
    obtain ⟨type, status, reason, message⟩ := change
    exact (carried.setCondition run type status reason message).bind fun run' => ih run'

/-! ## Initialisation -/

theorem initializeMissing (run : AgentRun) (types : List ConditionType) :
    K.Triple (fun _ w => P run w) (Operator.initializeMissing run types) fun run' _ w => P run' w := by
  induction types generalizing run with
  | nil => exact carried.pure (fun _ => id) (.refl run)
  | cons type rest ih =>
    unfold Operator.initializeMissing
    split
    · exact (carried.setCondition run _ _ _ _).bind fun run' => ih run'
    · exact ih run

theorem initializeCancellationStatus (run : AgentRun) :
    K.Triple (fun _ w => P (initializeIdentity run) w) (Operator.initializeCancellationStatus run)
      fun run' _ w => P run' w :=
  carried.setCondition _ _ _ _ _

theorem initializeAcceptedStatus (run : AgentRun) :
    K.Triple (fun _ w => P (initializeIdentity run) w) (Operator.initializeAcceptedStatus run)
      fun run' _ w => P run' w := by
  refine Contract.Triple.bind (Q := fun run' _ w => P run' w) ?_ fun run' => carried.initializeMissing run' _
  exact (carried.setConditions _ _).consequence (fun _ _ h => carried.core h ⟨rfl, rfl, rfl, rfl, rfl⟩)
    fun _ _ _ => id

/-! ## Projection -/

theorem projectLifecycle (run : AgentRun) (observation : LifecycleObservation) :
    K.Triple (fun _ w => P (run.withPhase observation.phase) w) (Operator.projectLifecycle run observation)
      fun run' _ w => P run' w := by
  refine Contract.Triple.bind (Q := fun run' _ w => P run' w) ?_ fun run' =>
    carried.pure (fun _ => id) (.upsertAttemptStatus run')
  exact (carried.setCondition _ _ _ _ _).consequence (fun _ _ h => carried.core h ⟨rfl, rfl, rfl, rfl, rfl⟩)
    fun _ _ _ => id

theorem recordMissingJob (run : AgentRun) (jobName : String) :
    K.Triple (fun _ w => P ((run.withJobName jobName).withPhase .failed) w) (Operator.recordMissingJob run jobName)
      fun run' _ w => P run' w := by
  exact carried.projectLifecycle (run.withJobName jobName) (missingJobObservation (run.withJobName jobName))

theorem recordPrerequisiteFailure (run : AgentRun) (type : ConditionType) (e : ReconcileError)
    (category : FailureCategory) :
    K.Triple (fun _ w => P (run.withPhase (if e.errorClass = .permanent then .failed else .provisioning)) w)
      (Operator.recordPrerequisiteFailure run type e category) fun run' _ w => P run' w :=
  (carried.setConditions _ _).consequence (fun _ _ h => carried.core h ⟨rfl, rfl, rfl, rfl, rfl⟩) fun _ _ _ => id

theorem handlePrerequisiteError (run : AgentRun) (type : ConditionType) (reason : String) (e : PrerequisiteError) :
    K.Triple
      (fun _ w => P (run.withPhase
        (if (e.classify reason).1.errorClass = .permanent then .failed else .provisioning)) w)
      (Operator.handlePrerequisiteError run type reason e) fun outcome _ w => P outcome.run w :=
  (carried.recordPrerequisiteFailure run type _ _).bind fun run' =>
    carried.pure (fun _ => id) (.refl run')

/-! ## Retry -/

/-- The assertion on a run together with the same assertion on its next attempt. -/
theorem withNext : Carried K fun run w => P run w ∧ P (advanceAttempt run) w where
  untouched := fun untouched h => ⟨carried.untouched untouched h.1, carried.untouched untouched h.2⟩
  keeps := fun quiet untouched h => carried.keeps quiet untouched h.1
  core := fun h _ same => ⟨carried.core h.1 same, carried.core h.2 same.advanceAttempt⟩

/-- A retry keeps the run while it backs off, and advances it otherwise. -/
theorem reconcileRetry (ext : Externals) (run : AgentRun) :
    K.Triple (fun _ w => P run w ∧ P (advanceAttempt run) w) (Operator.reconcileRetry ext run)
      fun answer _ w => P answer.1 w := by
  refine (carried.withNext.orNow run _).bind fun anchor => (carried.withNext.now run).bind fun time => ?_
  split
  · refine Contract.Triple.bind (Q := fun run' _ w => P run' w) ?_ fun run' => Contract.Triple.pure fun _ _ => id
    exact (carried.setConditions run _).consequence (fun _ _ h => h.1) fun _ _ _ => id
  · refine Contract.Triple.bind (Q := fun run' _ w => P run' w) ?_ fun run' =>
      Contract.Triple.pure fun _ _ h => carried.core h (.upsertAttemptStatus run')
    exact (carried.setConditions (advanceAttempt run) _).consequence (fun _ _ h => h.2) fun _ _ _ => id

/-! ## Cancellation -/

theorem projectCancelling (run : AgentRun) (forced : Bool) :
    K.Triple (fun _ w => P (run.withPhase .cancelling) w) (Operator.projectCancelling run forced)
      fun run' _ w => P run' w :=
  (carried.setConditions (run.withPhase .cancelling) _).bind fun run' =>
    carried.pure (fun _ => id) (.upsertAttemptStatus run')

theorem completeCancellation (run : AgentRun) (forced : Bool) :
    K.Triple (fun _ w => P (run.withPhase .cancelled) w) (Operator.completeCancellation run forced)
      fun run' _ w => P run' w := by
  have completed : K.Triple (fun _ w => P (run.withPhase .cancelled) w) (completionTimeOrNow run)
      fun _ _ w => P (run.withPhase .cancelled) w := by
    unfold completionTimeOrNow
    split
    · exact Contract.Triple.pure fun _ _ => id
    · exact carried.now _
  refine completed.bind fun completion => ?_
  refine Contract.Triple.bind (Q := fun run' _ w => P run' w) ?_ fun run' =>
    carried.pure (fun _ => id) (.upsertAttemptStatus run')
  exact (carried.setConditions _ _).consequence (fun _ _ h => carried.core h ⟨rfl, rfl, rfl, rfl, rfl⟩)
    fun _ _ _ => id

theorem recordCancellationError (run : AgentRun) (reason : String) (e : ReconcileError) :
    K.Triple (fun _ w => P (run.withPhase .cancelling) w) (Operator.recordCancellationError run reason e)
      fun outcome _ w => P outcome.run w := by
  refine Contract.Triple.bind (Q := fun run' _ w => P run' w) ?_ fun run' =>
    Contract.Triple.pure fun _ _ h => carried.core h (.upsertAttemptStatus run')
  exact (carried.setConditions _ _).consequence (fun _ _ h => carried.core h ⟨rfl, rfl, rfl, rfl, rfl⟩)
    fun _ _ _ => id

theorem deletePods (run : AgentRun) (job : Job) (pods : List Pod) :
    K.Triple (fun _ w => P run w) (Operator.deletePods job pods) fun _ _ w => P run w := by
  induction pods with
  | nil => exact Contract.Triple.pure fun _ _ => id
  | cons pod rest ih =>
    unfold Operator.deletePods
    split
    · refine (carried.call' run rfl).bind fun answer => ?_
      split
      · exact ih
      · exact ih
      · exact Contract.Triple.pure fun _ _ => id
    · exact ih

theorem deleteJob (run : AgentRun) (job : Job) (zeroGrace : Bool) :
    K.Triple (fun _ w => P run w) (Operator.deleteJob job zeroGrace) fun _ _ w => P run w := by
  refine (carried.call' run rfl).bind fun answer => ?_
  split <;> exact Contract.Triple.pure fun _ _ => id

theorem forceDeleteExecution (run : AgentRun) (job : Job) :
    K.Triple (fun _ w => P run w) (Operator.forceDeleteExecution job) fun _ _ w => P run w := by
  refine (carried.call' run rfl).bind fun answer => ?_
  split
  · exact Contract.Triple.pure fun _ _ => id
  · refine (carried.deletePods run job _).bind fun answer => ?_
    split
    · exact Contract.Triple.pure fun _ _ => id
    · exact carried.deleteJob run job true

/-! ## Cleanup -/

theorem initializeDeletingStatus (run : AgentRun) :
    K.Triple (fun _ w => P run w) (Operator.initializeDeletingStatus run) fun run' _ w => P run' w := by
  refine Contract.Triple.bind (Q := fun run' _ w => P run' w) ?_ fun run' => ?_
  · exact (carried.setCondition _ _ _ _ _).consequence (fun _ _ h => carried.core h ⟨rfl, rfl, rfl, rfl, rfl⟩)
      fun _ _ _ => id
  · split
    · exact carried.setCondition _ _ _ _ _
    · exact Contract.Triple.pure fun _ _ => id

theorem cleanupDeadlineElapsed (run : AgentRun) :
    K.Triple (fun _ w => P run w) (Operator.cleanupDeadlineElapsed run) fun _ _ w => P run w := by
  unfold Operator.cleanupDeadlineElapsed
  split
  · exact Contract.Triple.pure fun _ _ => id
  · exact (carried.now run).bind fun _ => Contract.Triple.pure fun _ _ => id

theorem handleCleanupFailure (run : AgentRun) (reason : String) (e : ReconcileError) :
    K.Triple (fun _ w => P run w) (Operator.handleCleanupFailure run reason e) fun cleanup _ w => P cleanup.run w := by
  refine (carried.cleanupDeadlineElapsed run).bind fun elapsed => ?_
  split <;> exact (carried.setCondition _ _ _ _ _).bind fun run' => Contract.Triple.pure fun _ _ => id

theorem releaseWorkspaces (run : AgentRun) (attempts : List Int) :
    K.Triple (fun _ w => P run w) (Operator.releaseWorkspaces run attempts) fun cleanup _ w => P cleanup.run w := by
  induction attempts with
  | nil => exact (carried.setCondition _ _ _ _ _).bind fun run' => Contract.Triple.pure fun _ _ => id
  | cons attempt rest ih =>
    unfold Operator.releaseWorkspaces
    split
    · exact carried.handleCleanupFailure run _ _
    · refine (carried.call' run rfl).bind fun answer => ?_
      split
      · exact ih
      · exact carried.handleCleanupFailure run _ _
      · split
        · exact carried.handleCleanupFailure run _ _
        · dsimp only
          split
          · exact ih
          · refine (carried.call' run rfl).bind fun answer => ?_
            split
            · exact carried.handleCleanupFailure run _ _
            · exact ih

theorem reconcileCleanup (run : AgentRun) :
    K.Triple (fun _ w => P run w) (Operator.reconcileCleanup run) fun cleanup _ w => P cleanup.run w := by
  refine (carried.initializeDeletingStatus run).bind fun run' => ?_
  split
  · exact (carried.setCondition _ _ _ _ _).bind fun run'' => Contract.Triple.pure fun _ _ => id
  · exact carried.releaseWorkspaces run' _

end Carried

end AgentForge.Operator
