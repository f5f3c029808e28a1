import AgentForge.Platform.Commits

/-!
# How rows change

The writes that commits make to existing rows: `RunStep`, `AttemptStep`, and the closing of reservations. Each
write of a run or an attempt follows an edge of its transition graph and moves its version by one; over any
number of writes a row evolves, in the sense of `RunRow.Evolves` and `AgentRunAttempt.Evolves`.
-/

set_option autoImplicit false

namespace AgentForge.Platform

open Operator Lib

/-! ## Runs -/

/-- The columns of a run that no write changes. -/
def AgentRun.identity (run : AgentRun) : UUID × Time × NewAgentRunInput :=
  (run.id, run.createdAt,
    { tenantID := run.tenantID, projectID := run.projectID, promptReference := run.promptReference,
      runtime := run.runtime, cpuMillis := run.cpuMillis, memoryMiB := run.memoryMiB,
      timeoutSeconds := run.timeoutSeconds, maxAttempts := run.maxAttempts, idempotencyKey := run.idempotencyKey,
      requestHash := run.requestHash, createdBy := run.createdBy })

/-- The columns of a run row that no write changes. -/
def RunRow.identity (row : RunRow) : (UUID × Time × NewAgentRunInput) × Option IdempotencyResponse × String :=
  (row.run.identity, row.idempotencyResponse, row.executionProfile)

section Identity

variable {row row' : RunRow}

theorem RunRow.id_eq (same : row'.identity = row.identity) : row'.run.id = row.run.id :=
  congrArg (fun i => i.1.1) same

theorem RunRow.tenantID_eq (same : row'.identity = row.identity) : row'.run.tenantID = row.run.tenantID :=
  congrArg (fun i => i.1.2.2.tenantID) same

theorem RunRow.idempotencyKey_eq (same : row'.identity = row.identity) :
    row'.run.idempotencyKey = row.run.idempotencyKey :=
  congrArg (fun i => i.1.2.2.idempotencyKey) same

end Identity

/-- A write of an existing run row, by a transaction that holds some keys. -/
inductive RunStep (held : List Key) (row : RunRow) : RunRow → Prop where
  | saved (request : TransitionRequest) (moved : AgentRun)
      (moves : row.run.transition request.target request.failure request.now = .ok moved)
      (started : row.run.status.isWaiting = false) (forward : request.target ≠ .queued) :
      RunStep held row (savedRow moved row)
  | cancelled (request : CancelRunRequest) (moved : AgentRun)
      (going : row.run.status.isCancel = false ∧ row.run.status.isTerminal = false)
      (moves : (request.record row.run).transition .cancelling .none request.now = .ok moved) :
      RunStep held row (cancelledRow request moved.bumped row)
  | retried (request : RetryRunRequest) (moved : AgentRun) (retryable : row.run.canRetry = true)
      (moves : row.run.transition .queued .none request.now = .ok moved) :
      RunStep held row (retriedRow request moved.bumped row)
  | claimed (request : SchedulerClaimRequest) (claimable : row.claimable request.now = true) :
      RunStep held row (claimedRow request row)
  | renewed (request : RenewRequest) (leased : row.run.status = .scheduling) : RunStep held row (renewedRow request row)
  | assigned (request : SchedulingIntentRequest) (leased : row.run.status = .scheduling)
      (policy : .policy row.run.tenantID ∈ held) : RunStep held row (assignedRow request row)
  | deferred (request : CapacityWaitRequest) (leased : row.run.status = .scheduling) :
      RunStep held row (deferredRow request row)
  | rejected (request : SchedulingRejectRequest) (leased : row.run.status = .scheduling) :
      RunStep held row (rejectedRow request row)

/-- What runs may become over any number of writes. -/
structure RunRow.Evolves (row row' : RunRow) : Prop where
  identity : row'.identity = row.identity
  version : row' = row ∨ row.run.version < row'.run.version
  progress : row.run.attemptCount < row'.run.attemptCount ∨ row'.run.attemptCount = row.run.attemptCount ∧
    (row.run.status.isWaiting = false → row'.run.status.isWaiting = false)
  cancel : row.run.status.isCancel = true → row'.run.status.isCancel = true

theorem RunRow.Evolves.refl (row : RunRow) : row.Evolves row := ⟨rfl, .inl rfl, .inr ⟨rfl, id⟩, id⟩

theorem RunRow.Evolves.trans {a b c : RunRow} (ab : a.Evolves b) (bc : b.Evolves c) : a.Evolves c := by
  refine ⟨bc.identity.trans ab.identity, ?_, ?_, bc.cancel ∘ ab.cancel⟩
  · rcases ab.version with rfl | older
    · exact bc.version
    · rcases bc.version with rfl | more
      · exact .inr older
      · exact .inr (older.trans more)
  · rcases ab.progress with fewer | ⟨same, stays⟩
    · rcases bc.progress with more | ⟨same, -⟩
      · exact .inl (fewer.trans more)
      · exact .inl (same ▸ fewer)
    · rcases bc.progress with more | ⟨same', stays'⟩
      · exact .inl (same ▸ more)
      · exact .inr ⟨same'.trans same, stays' ∘ stays⟩

namespace AgentRunStatus

/-- The claimable statuses are waiting ones with an edge to SCHEDULING. -/
theorem claimable_cases {row : RunRow} {now : Time} (claimable : row.claimable now = true) :
    row.run.status = .queued ∨ row.run.status = .capacityWait ∨ row.run.status = .scheduling := by
  unfold RunRow.claimable at claimable
  split at claimable <;> simp_all

end AgentRunStatus

namespace AgentRun

variable {run run' : AgentRun} {target : AgentRunStatus}

/-- Only a retry leads from a started run back to a waiting one. -/
theorem transition_started (allowed : run.canTransition target = true) (started : run.status.isWaiting = false)
    (forward : target ≠ .queued) : target.isWaiting = false := by
  unfold canTransition at allowed
  cases target <;> cases status : run.status <;> simp_all [AgentRunStatus.isWaiting]

/-- A cancelled run stays cancelled. -/
theorem transition_cancel (allowed : run.canTransition target = true) (cancel : run.status.isCancel = true) :
    target.isCancel = true := by
  unfold canTransition at allowed
  cases target <;> cases status : run.status <;> simp_all [AgentRunStatus.isCancel, AgentRunStatus.isTerminal]

/-- A transition leaves the columns of the request alone. -/
theorem transition_identity {failure : Failure} {now : Time} (moved : run.transition target failure now = .ok run') :
    run'.identity = run.identity := by
  obtain ⟨-, ⟨-, rfl⟩ | ⟨-, -, rfl⟩⟩ := transition_ok moved
  · rfl
  · unfold enter
    split
    · rfl
    · split <;> rfl

/-- A transition counts an attempt only when it requeues. -/
theorem transition_attemptCount {failure : Failure} {now : Time}
    (moved : run.transition target failure now = .ok run') (forward : target ≠ .queued) :
    run'.attemptCount = run.attemptCount := by
  obtain ⟨-, ⟨-, rfl⟩ | ⟨-, -, rfl⟩⟩ := transition_ok moved
  · rfl
  · simp only [enter, forward, decide_false, Bool.false_and, Bool.false_eq_true, if_false]
    split <;> rfl

/-- A retry counts one more attempt. -/
theorem transition_retry {now : Time} (retryable : run.canRetry = true)
    (moved : run.transition .queued .none now = .ok run') : run'.attemptCount = run.attemptCount + 1 := by
  simp only [canRetry, Bool.and_eq_true] at retryable
  have terminal := retryable.1.1
  obtain ⟨-, ⟨same, -⟩ | ⟨-, -, rfl⟩⟩ := transition_ok moved
  · rw [← same] at terminal
    cases terminal
  · simp [enter, terminal]

end AgentRun

/-- The status that a save writes. -/
theorem savedRow_status {row : RunRow} {moved : AgentRun} {target : AgentRunStatus} {failure : Failure} {now : Time}
    (moves : row.run.transition target failure now = .ok moved) : (savedRow moved row).run.status = target := by
  have status : moved.status = target := AgentRun.transition_status moves
  exact status

theorem cancelledRow_status {row : RunRow} {request : CancelRunRequest} {moved : AgentRun}
    (moves : (request.record row.run).transition .cancelling .none request.now = .ok moved) :
    (cancelledRow request moved.bumped row).run.status = .cancelling := by
  have status : moved.status = .cancelling := AgentRun.transition_status moves
  exact status

namespace RunStep

variable {held : List Key} {row row' : RunRow}

theorem identity (step : RunStep held row row') : row'.identity = row.identity := by
  cases step <;> rfl

theorem version (step : RunStep held row row') : row'.run.version = row.run.version + 1 := by
  cases step <;> rfl

/-- Every write follows an edge of the transition graph. -/
theorem canTransition (step : RunStep held row row') : row.run.canTransition row'.run.status = true := by
  cases step with
  | saved request moved moves started forward =>
    rw [savedRow_status moves]
    exact (AgentRun.transition_ok moves).1
  | cancelled request moved going moves =>
    rw [cancelledRow_status moves]
    exact (AgentRun.transition_ok moves).1
  | retried request moved retryable moves => exact (AgentRun.transition_ok moves).1
  | claimed request claimable =>
    rcases AgentRunStatus.claimable_cases claimable with status | status | status <;>
      simp [AgentRun.canTransition, status, claimedRow]
  | renewed request leased => simp [AgentRun.canTransition, renewedRow]
  | assigned request leased policy => simp [AgentRun.canTransition, leased, assignedRow]
  | deferred request leased => simp [AgentRun.canTransition, leased, deferredRow]
  | rejected request leased => simp [AgentRun.canTransition, leased, rejectedRow]

/-- A write that is no retry keeps the number of attempts, and no write but a claim makes a run wait. -/
theorem attemptCount (step : RunStep held row row') :
    row'.run.attemptCount = row.run.attemptCount ∧ (row'.run.status.isWaiting = true → row.run.status.isWaiting = true) ∨
      row'.run.attemptCount = row.run.attemptCount + 1 ∧ row'.run.status = .queued ∧ row.run.canRetry = true := by
  cases step with
  | saved request moved moves started forward =>
    have later := AgentRun.transition_started (AgentRun.transition_ok moves).1 started forward
    have same : moved.attemptCount = row.run.attemptCount := AgentRun.transition_attemptCount moves forward
    refine .inl ⟨same, fun waits => ?_⟩
    rw [savedRow_status moves, later] at waits
    cases waits
  | cancelled request moved going moves =>
    refine .inl ⟨rfl, fun waits => ?_⟩
    rw [cancelledRow_status moves] at waits
    cases waits
  | retried request moved retryable moves =>
    have more : moved.attemptCount = row.run.attemptCount + 1 := AgentRun.transition_retry retryable moves
    exact .inr ⟨more, rfl, retryable⟩
  | claimed request claimable =>
    refine .inl ⟨rfl, fun _ => ?_⟩
    rcases AgentRunStatus.claimable_cases claimable with status | status | status <;> rw [status] <;> rfl
  | renewed request leased => exact .inl ⟨rfl, id⟩
  | assigned request leased policy => exact .inl ⟨rfl, nofun⟩
  | deferred request leased => exact .inl ⟨rfl, fun _ => by rw [leased]; rfl⟩
  | rejected request leased => exact .inl ⟨rfl, nofun⟩

theorem evolves (step : RunStep held row row') : row.Evolves row' := by
  refine ⟨step.identity, .inr (by rw [step.version]; omega), ?_, ?_⟩
  · rcases step.attemptCount with ⟨same, waits⟩ | ⟨more, -⟩
    · refine .inr ⟨same, fun started => ?_⟩
      cases later : row'.run.status.isWaiting with
      | false => rfl
      | true => rw [waits later] at started; cases started
    · exact .inl (by omega)
  · intro cancel
    exact AgentRun.transition_cancel step.canTransition cancel

end RunStep

/-! ## Attempts -/

/-- The columns of an attempt that no write changes. -/
def AgentRunAttempt.identity (attempt : AgentRunAttempt) : UUID × UUID × UUID × Int :=
  (attempt.id, attempt.tenantID, attempt.runID, attempt.attemptNumber)

section Identity

variable {attempt attempt' : AgentRunAttempt}

theorem AgentRunAttempt.id_eq (same : attempt'.identity = attempt.identity) : attempt'.id = attempt.id :=
  congrArg (·.1) same

theorem AgentRunAttempt.tenantID_eq (same : attempt'.identity = attempt.identity) : attempt'.tenantID = attempt.tenantID :=
  congrArg (·.2.1) same

theorem AgentRunAttempt.runID_eq (same : attempt'.identity = attempt.identity) : attempt'.runID = attempt.runID :=
  congrArg (·.2.2.1) same

theorem AgentRunAttempt.number_eq (same : attempt'.identity = attempt.identity) :
    attempt'.attemptNumber = attempt.attemptNumber :=
  congrArg (·.2.2.2) same

end Identity

/-- A write of an existing attempt. -/
inductive AttemptStep (attempt : AgentRunAttempt) : AgentRunAttempt → Prop where
  | saved (request : AttemptTransitionRequest) (moved : AgentRunAttempt)
      (moves : attempt.transition request.target request.failure request.now = .ok moved) :
      AttemptStep attempt (savedAttempt moved attempt)
  | assigned (request : SchedulingIntentRequest) (assignment : Assignment) (pending : attempt.status = .pending)
      (unassigned : attempt.assignment = none) : AttemptStep attempt (assignedAttempt request assignment attempt)
  | rejected (request : SchedulingRejectRequest) (pending : attempt.status = .pending) :
      AttemptStep attempt (rejectedAttempt request attempt)

/-- What attempts may become over any number of writes. -/
structure AgentRunAttempt.Evolves (attempt attempt' : AgentRunAttempt) : Prop where
  identity : attempt'.identity = attempt.identity
  version : attempt' = attempt ∨ attempt.version < attempt'.version
  started : attempt.status ≠ .pending → attempt'.status ≠ .pending
  assignment : ∀ assignment, attempt.assignment = some assignment → attempt'.assignment = some assignment

theorem AgentRunAttempt.Evolves.refl (attempt : AgentRunAttempt) : attempt.Evolves attempt :=
  ⟨rfl, .inl rfl, fun started => started, fun _ same => same⟩

theorem AgentRunAttempt.Evolves.trans {a b c : AgentRunAttempt} (ab : a.Evolves b) (bc : b.Evolves c) : a.Evolves c := by
  refine ⟨bc.identity.trans ab.identity, ?_, bc.started ∘ ab.started, fun x same => bc.assignment x (ab.assignment x same)⟩
  rcases ab.version with rfl | older
  · exact bc.version
  · rcases bc.version with rfl | more
    · exact .inr older
    · exact .inr (older.trans more)

namespace AttemptStep

variable {attempt attempt' : AgentRunAttempt}

theorem identity (step : AttemptStep attempt attempt') : attempt'.identity = attempt.identity := by
  cases step <;> rfl

theorem version (step : AttemptStep attempt attempt') : attempt'.version = attempt.version + 1 := by
  cases step <;> rfl

/-- Every write follows an edge of the transition graph. -/
theorem canTransition (step : AttemptStep attempt attempt') : attempt.canTransition attempt'.status = true := by
  cases step with
  | saved request moved moves =>
    have status : moved.status = request.target := AgentRunAttempt.transition_status moves
    change attempt.canTransition moved.status = true
    rw [status]
    exact (AgentRunAttempt.transition_ok moves).1
  | assigned request assignment pending unassigned =>
    simp [AgentRunAttempt.canTransition, pending, assignedAttempt]
  | rejected request pending => simp [AgentRunAttempt.canTransition, pending, rejectedAttempt]

/-- A transition leaves the assignment alone. -/
theorem assignment_of_transition {moved : AgentRunAttempt} {target : AgentRunAttemptStatus} {failure : Failure}
    {now : Time} (moves : attempt.transition target failure now = .ok moved) : moved.assignment = attempt.assignment := by
  obtain ⟨-, ⟨-, rfl⟩ | ⟨-, rfl⟩⟩ := AgentRunAttempt.transition_ok moves
  · rfl
  · cases target <;> rfl

theorem evolves (step : AttemptStep attempt attempt') : attempt.Evolves attempt' := by
  refine ⟨step.identity, .inr (by rw [step.version]; omega), ?_, ?_⟩
  · intro started back
    exact started (AgentRunAttempt.canTransition_pending (back ▸ step.canTransition))
  · intro assignment same
    cases step with
    | saved request moved moves => exact (assignment_of_transition moves).trans same
    | assigned request assignment' pending unassigned => rw [unassigned] at same; cases same
    | rejected request pending => exact same

/-- Only an assignment assigns. -/
theorem assigned_cases (step : AttemptStep attempt attempt') :
    attempt'.assignment = attempt.assignment ∨
      ∃ request assignment, attempt' = assignedAttempt request assignment attempt ∧ attempt.assignment = none := by
  cases step with
  | saved request moved moves =>
    have same : moved.assignment = attempt.assignment := assignment_of_transition moves
    exact .inl same
  | assigned request assignment pending unassigned => exact .inr ⟨request, assignment, rfl, unassigned⟩
  | rejected request pending => exact .inl rfl

end AttemptStep

/-! ## Reservations -/

/-- A reserved capacity row is closed. -/
def CapacityStep (row row' : CapacityReservation) : Prop :=
  row.state = .reserved ∧ ∃ target now, target ≠ .reserved ∧ row' = row.close target now

/-- A reserved budget row is closed. -/
def BudgetStep (row row' : BudgetReservation) : Prop :=
  row.state = .reserved ∧ ∃ target now, target ≠ .reserved ∧ row' = row.close target now

/-- A closed reservation stays as it is; an open one may be closed. -/
def CapacityReservation.Evolves (row row' : CapacityReservation) : Prop := row' = row ∨ CapacityStep row row'

def BudgetReservation.Evolves (row row' : BudgetReservation) : Prop := row' = row ∨ BudgetStep row row'

theorem CapacityReservation.Evolves.trans {a b c : CapacityReservation} (ab : a.Evolves b) (bc : b.Evolves c) :
    a.Evolves c := by
  rcases ab with rfl | ⟨reserved, target, now, leaves, rfl⟩
  · exact bc
  · rcases bc with rfl | ⟨again, -⟩
    · exact .inr ⟨reserved, target, now, leaves, rfl⟩
    · exact absurd again leaves

theorem BudgetReservation.Evolves.trans {a b c : BudgetReservation} (ab : a.Evolves b) (bc : b.Evolves c) :
    a.Evolves c := by
  rcases ab with rfl | ⟨reserved, target, now, leaves, rfl⟩
  · exact bc
  · rcases bc with rfl | ⟨again, -⟩
    · exact .inr ⟨reserved, target, now, leaves, rfl⟩
    · exact absurd again leaves

end AgentForge.Platform
