import AgentForge.Platform.Tenancy

/-!
# The transactions and the domain state machine

The scheduler transactions write statuses as SQL literals and never ask the domain model, and a row is saved by
an UPDATE that names only some of its columns. Here the commits are compared with the transition graphs of the
domain, and the rows that `Save` writes with the CHECK constraints of the table.
-/

set_option autoImplicit false

namespace AgentForge.Platform

open Operator Lib

/-! ## Commits follow the transition graphs -/

/-- Runs and attempts move along the edges of their graphs, and a write of a run counts its version. -/
structure Refines (before after : Db) : Prop where
  run : ∀ row ∈ before.runs, ∃ row' ∈ after.runs, row'.run.id = row.run.id ∧
    (row' = row ∨ row.run.canTransition row'.run.status = true ∧ row'.run.version = row.run.version + 1)
  newRun : ∀ row' ∈ after.runs, before.runs.get? row'.run.id = none → row'.run.status = .queued
  attempt : ∀ a ∈ before.attempts, ∃ a' ∈ after.attempts, a'.id = a.id ∧ a.canTransition a'.status = true
  newAttempt : ∀ a' ∈ after.attempts, before.attempts.get? a'.id = none → a'.status = .pending

theorem Refines.refl (db : Db) : Refines db db where
  run row member := ⟨row, member, rfl, .inl rfl⟩
  newRun row member absent := absurd rfl (Table.get?_eq_none.mp absent row member)
  attempt a member := ⟨a, member, rfl, by simp [AgentRunAttempt.canTransition]⟩
  newAttempt a member absent := absurd rfl (Table.get?_eq_none.mp absent a member)

theorem LifecycleChange.refines {held : List Key} {before after : Db} (change : LifecycleChange held before after) :
    Refines before after := by
  constructor
  · intro row member
    obtain ⟨row', found, same⟩ := change.runs.old row.run.id row (Table.get?_key member)
    have id := Table.key_of_get? found
    refine ⟨row', Table.mem_of_get? found, id, ?_⟩
    rcases same with rfl | ⟨-, step⟩
    · exact .inl rfl
    · exact .inr ⟨step.canTransition, step.version⟩
  · intro row' member absent
    exact (change.runs.added row'.run.id row' absent (Table.get?_key member)).2.queued
  · intro a member
    obtain ⟨a', found, same⟩ := change.attempts.old a.id a (Table.get?_key member)
    have id := Table.key_of_get? found
    refine ⟨a', Table.mem_of_get? found, id, ?_⟩
    rcases same with rfl | ⟨-, step⟩
    · simp [AgentRunAttempt.canTransition]
    · exact step.canTransition
  · intro a' member absent
    exact (change.attempts.added a'.id a' absent (Table.get?_key member)).2.1

/-- The runs of a database have their attempts, leases and counters in order. -/
structure Db.WellNumbered (db : Db) : Prop where
  numbered : ∀ row ∈ db.runs, ∀ n, (∃ a ∈ db.attempts, a.runID = row.run.id ∧ a.attemptNumber = n) ↔
    1 ≤ n ∧ n ≤ row.run.attemptCount
  unique : ∀ a ∈ db.attempts, ∀ b ∈ db.attempts, a.runID = b.runID → a.attemptNumber = b.attemptNumber → a = b
  bounded : ∀ row ∈ db.runs, row.run.attemptCount ≤ row.run.maxAttempts
  waiting : ∀ row ∈ db.runs, row.run.status.isWaiting = true →
    ∃ a ∈ db.attempts, a.runID = row.run.id ∧ a.attemptNumber = row.run.attemptCount ∧ a.status = .pending
  leased : ∀ row ∈ db.runs, row.lease.isSome = true ↔ row.run.status = .scheduling

theorem Consistent.wellNumbered {db : Db} (consistent : Consistent db) : db.WellNumbered where
  numbered row member n := by
    constructor
    · rintro ⟨a, inside, run, rfl⟩
      obtain ⟨owner, found, -, low, high⟩ := consistent.numbered.owned a inside
      have same : some owner = some row := found.symm.trans (run ▸ Table.get?_key member)
      cases same
      exact ⟨low, high⟩
    · rintro ⟨low, high⟩
      exact consistent.numbered.complete row member n low high
  unique := consistent.numbered.unique
  bounded row member := (RunRow.counters_of_checks (consistent.checked row member)).2.1
  waiting row member waits := by
    have low := (RunRow.counters_of_checks (consistent.checked row member)).1
    obtain ⟨a, inside, run, number⟩ := consistent.numbered.complete row member row.run.attemptCount low (le_refl _)
    exact ⟨a, inside, run, number, consistent.waits row member waits a inside run number⟩
  leased row member := RunRow.lease_isSome_of_checks (consistent.checked row member)

/-- Every call that ends, in every interleaving, moves runs and attempts along their graphs and leaves them in
order. -/
theorem interleavings_refine {start : Db} {s : platform.System} (fresh : start.Fresh)
    (reachable : Protocol.Reachable start s) :
    (∀ o ∈ s.history, Refines o.before o.after ∧ o.after.WellNumbered) ∧ s.db.WellNumbered := by
  have history := history_of_reachable fresh reachable
  refine ⟨fun o member => ?_, history.consistent.wellNumbered⟩
  have ended := history.ended o member
  rcases ended.cases with ⟨reply, held, -, commit⟩ | ⟨-, same⟩
  · exact ⟨(commit.lifecycleChange ended.consistent).refines, (commit.consistent ended.consistent).wellNumbered⟩
  · rw [same]
    exact ⟨.refl _, ended.consistent.wellNumbered⟩

/-- A run of Acme that is created, claimed and scheduled. -/
theorem acme_refines :
    let s := ranFrom Acme.db [Acme.create 10 "k", Acme.claim 1000,
      .schedule (Acme.intent (Acme.claimed 10 11 1 2 0) 1001 20)]
    ((∀ o ∈ s.history, Refines o.before o.after ∧ o.after.WellNumbered) ∧ s.db.WellNumbered) ∧
      s.history.map (fun o => o.result.toBool) = [true, true, true] :=
  ⟨interleavings_refine Acme.db_fresh (ranFrom_reachable _ _), by decide +kernel⟩

/-! ## What Save writes -/

namespace AgentRun

/-- The cancellation mark is set by Cancel alone, and only CANCELLING leads to CANCELLED. -/
theorem transition_isCancel {run : AgentRun} {target : AgentRunStatus} (allowed : run.canTransition target = true)
    (other : target ≠ .cancelling) : target.isCancel = run.status.isCancel := by
  unfold canTransition at allowed
  cases target <;> cases status : run.status <;> simp_all [AgentRunStatus.isCancel]

end AgentRun

section Save

variable {row : RunRow} {moved : AgentRun} {target : AgentRunStatus} {failure : Failure} {now : Time}

/-- The failure column is in order unless a success or a cancellation is given a category. -/
theorem savedRow_checksFailure (stored : row.checks = true) (moves : row.run.transition target failure now = .ok moved) :
    (savedRow moved row).checksFailure = true ↔
      target = row.run.status ∨ (target = .succeeded ∨ target = .cancelled → failure = .none) := by
  obtain ⟨-, old, -⟩ := RunRow.checks_iff.mp stored
  obtain ⟨allowed, ⟨same, rfl⟩ | ⟨differs, valid, rfl⟩⟩ := AgentRun.transition_ok moves
  · exact iff_of_true old (.inl same)
  · have leaves := AgentRun.transition_of_terminal allowed differs
    simp only [differs, false_or]
    by_cases requeued : target = .queued
    · have terminal := leaves.mpr requeued
      subst requeued
      have cleared : (row.run.enter .queued failure now).failureCategory = .none := by simp [AgentRun.enter, terminal]
      simp only [RunRow.checksFailure, savedRow, cleared]
      exact iff_of_true rfl (by rintro (impossible | impossible) <;> cases impossible)
    · -- a run that is not terminal has no category yet
      have going : row.run.status.isTerminal = false := by simpa [requeued] using leaves
      have none : row.run.failureCategory = .none := by
        unfold RunRow.checksFailure at old
        split at old
        · assumption
        · simp [AgentRunStatus.isFailure, going] at old
        · cases old
      cases terminal : target.isTerminal with
      | false =>
        have unended : target ≠ .succeeded ∧ target ≠ .cancelled := by
          constructor <;> rintro rfl <;> cases terminal
        simp [RunRow.checksFailure, savedRow, AgentRun.enter, requeued, terminal, none, AgentRunStatus.isFailure, unended]
      | true =>
        cases failure with
        | none =>
          have success : target.isFailure = false := by
            cases failed : target.isFailure with
            | false => rfl
            | true => cases valid failed
          simp [RunRow.checksFailure, savedRow, AgentRun.enter, requeued, terminal, success]
        | known category =>
          simp [RunRow.checksFailure, savedRow, AgentRun.enter, requeued, terminal, AgentRunStatus.isFailure]
        | unknown text =>
          have success : target.isFailure = false := by
            cases failed : target.isFailure with
            | false => rfl
            | true => cases valid failed
          simp only [RunRow.checksFailure, savedRow, AgentRun.enter, requeued, terminal]
          simpa [AgentRunStatus.isFailure, terminal, or_iff_not_imp_left] using success

/-- Save leaves the lease alone, so that a row leaves SCHEDULING with its lease on it. -/
theorem savedRow_checksLease (stored : row.checks = true) (moves : row.run.transition target failure now = .ok moved)
    (other : target ≠ .scheduling) : (savedRow moved row).checksLease = true ↔ row.run.status ≠ .scheduling := by
  have lease := RunRow.lease_isSome_of_checks stored
  have status : moved.status = target := AgentRun.transition_status moves
  have kept : (savedRow moved row).checksLease = ((target == .scheduling) == row.lease.isSome) := by
    rw [← status]
    rfl
  rw [kept, beq_eq_false_iff_ne.mpr other, beq_iff_eq, ne_eq, ← lease]
  cases row.lease.isSome <;> simp

theorem savedRow_checksCancellation (stored : row.checks = true)
    (moves : row.run.transition target failure now = .ok moved) (other : target ≠ .cancelling) :
    (savedRow moved row).checksCancellation = true := by
  obtain ⟨-, -, -, old, -⟩ := RunRow.checks_iff.mp stored
  obtain ⟨allowed, -⟩ := AgentRun.transition_ok moves
  have status : moved.status = target := AgentRun.transition_status moves
  have mark : moved.cancellationRequestedAt = row.run.cancellationRequestedAt := by
    obtain ⟨-, ⟨-, rfl⟩ | ⟨-, -, rfl⟩⟩ := AgentRun.transition_ok moves
    · rfl
    · unfold AgentRun.enter
      split
      · rfl
      · split <;> rfl
  have same : target.isCancel = row.run.status.isCancel := AgentRun.transition_isCancel allowed other
  simp only [RunRow.checksCancellation, beq_iff_eq] at old ⊢
  simp only [savedRow, status, mark, Option.isSome_map, same, old]

theorem savedRow_checksCounters (stored : row.checks = true)
    (moves : row.run.transition target failure now = .ok moved) : (savedRow moved row).checksCounters = true := by
  obtain ⟨low, high, positive⟩ := RunRow.counters_of_checks stored
  have counts : moved.attemptCount = row.run.attemptCount ∨
      moved.attemptCount = row.run.attemptCount + 1 ∧ row.run.attemptCount < row.run.maxAttempts := by
    by_cases requeued : target = .queued
    · subst requeued
      obtain ⟨allowed, ⟨-, rfl⟩ | ⟨differs, -, rfl⟩⟩ := AgentRun.transition_ok moves
      · exact .inl rfl
      · have terminal := (AgentRun.transition_of_terminal allowed differs).mpr rfl
        have retryable := AgentRun.canRetry_iff.mp (AgentRun.canRetry_of_requeue allowed differs)
        exact .inr ⟨by simp [AgentRun.enter, terminal], retryable.2.1⟩
    · exact .inl (AgentRun.transition_attemptCount moves requeued)
  unfold RunRow.checksCounters
  simp only [savedRow, Bool.and_eq_true]
  exact ⟨⟨decide_eq_true (by omega), decide_eq_true (by omega)⟩, decide_eq_true (by omega)⟩

/-- A transition that the domain allows can be saved exactly if the run is not SCHEDULING and no failure category
is given to a success or a cancellation. -/
theorem savedRow_checks_iff (stored : row.checks = true) (moves : row.run.transition target failure now = .ok moved)
    (notClaim : target ≠ .scheduling) (notCancel : target ≠ .cancelling) :
    (savedRow moved row).checks = true ↔ row.run.status ≠ .scheduling ∧
      (target = row.run.status ∨ (target = .succeeded ∨ target = .cancelled → failure = .none)) := by
  obtain ⟨request, -, -, -, -, texts⟩ := RunRow.checks_iff.mp stored
  have sameRequest : (savedRow moved row).checksRequest = true := request
  have sameTexts : (savedRow moved row).checksTexts = true := texts
  rw [RunRow.checks_iff, savedRow_checksFailure stored moves, savedRow_checksLease stored moves notClaim]
  simp only [sameRequest, sameTexts, savedRow_checksCounters stored moves,
    savedRow_checksCancellation stored moves notCancel, true_and, and_true]
  exact and_comm

/-- A claimed run that Acme times out: the domain allows it, and the row keeps its lease. -/
theorem acme_timeout_unsavable :
    let s := ranFrom Acme.db [Acme.create 10 "k", Acme.claim 1000]
    Protocol.Reachable Acme.db s ∧ ∃ row ∈ s.db.runs, ∃ moved,
      row.run.transition .timedOut (.known .internal) (Acme.seconds 1001) = .ok moved ∧
        (savedRow moved row).checks = false := by
  refine ⟨ranFrom_reachable _ _, claimedRow ⟨"scheduler-1", Acme.seconds 1000, 60 * second, 10, 60 * second, 10⟩
    (createdRow ((Acme.input "k").run (Acme.id 10) (Acme.seconds 900))), ?_, _, rfl, ?_⟩
  · decide +kernel
  · decide +kernel

/-- A deploying run of Acme that succeeds. -/
theorem acme_success_savable :
    let row := createdRow { (Acme.input "k").run (Acme.id 10) (Acme.seconds 900) with status := .deploying }
    ∃ moved, row.run.transition .succeeded .none (Acme.seconds 960) = .ok moved ∧ (savedRow moved row).checks = true := by
  intro row
  have moves : row.run.transition .succeeded .none (Acme.seconds 960) = .ok
      { row.run with status := .succeeded, updatedAt := Acme.seconds 960, completedAt := some (Acme.seconds 960) } := rfl
  exact ⟨_, moves, (savedRow_checks_iff (by decide +kernel) moves (by decide) (by decide)).mpr ⟨by decide, .inr fun _ => rfl⟩⟩

end Save

end AgentForge.Platform
