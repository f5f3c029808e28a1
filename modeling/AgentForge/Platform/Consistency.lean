import AgentForge.Platform.Numbering

/-!
# What every commit keeps

The invariant of the database: the CHECK constraints and the unique index on idempotency keys, the numbering of
attempts, the pairing of reservations and the ledger. Every commit leaves the reservations alone, holds a new
bundle or closes one; and it changes run and attempt rows in place or adds the next attempt of a run.
-/

set_option autoImplicit false

namespace AgentForge.Platform

open Operator Lib

structure Consistent (db : Db) : Prop where
  checked : ∀ row ∈ db.runs, row.checks = true
  keyed : ∀ row ∈ db.runs, ∀ other ∈ db.runs, row.run.tenantID = other.run.tenantID →
    row.run.idempotencyKey = other.run.idempotencyKey → row = other
  numbered : db.Numbered
  waits : db.Waits
  unassigned : db.Unassigned
  paired : db.Paired
  balanced : db.Balanced

theorem Db.Fresh.consistent {db : Db} (fresh : db.Fresh) : Consistent db := by
  have runs : ∀ row, row ∉ db.runs := fun row => by simp [Table.mem_def, fresh.runs]
  have attempts : ∀ a, a ∉ db.attempts := fun a => by simp [Table.mem_def, fresh.attempts]
  have capacities : ∀ c, c ∉ db.capacities := fun c => by simp [Table.mem_def, fresh.capacities]
  have budgets : ∀ b, b ∉ db.budgets := fun b => by simp [Table.mem_def, fresh.budgets]
  constructor
  · exact fun row member => absurd member (runs row)
  · exact fun row member => absurd member (runs row)
  · exact ⟨fun a member => absurd member (attempts a), fun row member => absurd member (runs row),
      fun a member => absurd member (attempts a)⟩
  · exact fun row member => absurd member (runs row)
  · exact fun a member => absurd member (attempts a)
  · exact ⟨fun c member => absurd member (capacities c), fun c member => absurd member (capacities c),
      fun b member => absurd member (budgets b), fun b member => absurd member (budgets b),
      fun c member => absurd member (capacities c)⟩
  · refine ⟨fun b member => absurd member (budgets b), ?_, ?_⟩ <;> intro tenantID date <;>
      simp [usageOf, Table.get?, budgetTotal, Table.total, fresh.usage, fresh.budgets]

section Commits

variable {held : List Key} {before after : Db} {call : Call} {reply : call.Reply} {row row' : RunRow}
  {tenantID id : UUID}

/-! ## The reservations of a commit -/

/-- What a commit does to the reservations. -/
inductive ReservationChange (held : List Key) (before after : Db) : Prop where
  | same (reservations : after.reservations = before.reservations)
  | held (request : ReservationRequest) (policy : SchedulingPolicy) (capacity : ClusterCapacity)
      (admission : Admission held before request policy capacity)
      (reservations : after.reservations = (before.hold request.bundle).reservations)
  | closed (bundle : ReservationBundle) (target : ReservationState) (now : Time)
      (closes : Closes held before bundle target)
      (reservations : after.reservations = (before.close bundle target now).reservations)

theorem Commit.reservationChange (commit : Commit held before call reply after) :
    ReservationChange held before after := by
  cases commit with
  | scheduled request row attempt policy capacity event leased updates locks checks admission =>
    exact .held _ policy capacity admission rfl
  | reserved request policy capacity valid admission => exact .held request policy capacity admission rfl
  | closed request bundle same closes => exact .closed bundle request.target request.now closes rfl
  | administered change => cases change <;> exact .same rfl
  | _ => exact .same rfl

/-! ## The runs and attempts of a commit -/

/-- What a commit does to runs and attempts. -/
inductive LifecycleChange (held : List Key) (before after : Db) : Prop where
  | kept (keeps : Keeps held before after)
  | created (run : AgentRun) (attempt : AgentRunAttempt) (adds : Adds before after (createdRow run) attempt)
      (checks : (createdRow run).checks = true) (queued : run.status = .queued)
      (newRun : before.runs.get? run.id = none) (newKey : before.runByKey? run.tenantID run.idempotencyKey = none)
      (keys : [.run run.id, .idempotencyKey run.tenantID run.idempotencyKey, .attempt attempt.id] ⊆ held)
  | retried (row row' : RunRow) (attempt : AgentRunAttempt) (adds : Adds before after row' attempt)
      (found : before.runs.get? row.run.id = some row) (step : RunStep held row row') (checks : row'.checks = true)
      (keys : [.run row.run.id, .attempt attempt.id] ⊆ held)

/-- A write that does not requeue the run is no retry. -/
theorem PlainStep.of_step (step : RunStep held row row') (checks : row'.checks = true)
    (moves : row'.run.status ≠ .queued) : PlainStep held row row' := by
  rcases step.attemptCount with ⟨count, waits⟩ | ⟨-, queued, -⟩
  · exact ⟨step, checks, count, waits⟩
  · exact absurd queued moves

/-- The attempt of a run that is put as one that does not wait. -/
theorem QuietStep.of_put {attempt attempt' : AgentRunAttempt} (step : AttemptStep attempt attempt')
    (runs : after.runs = before.runs.put row') (run : attempt.runID = row'.run.id)
    (started : row'.run.status.isWaiting = false) : QuietStep after attempt attempt' := by
  refine ⟨step, fun row found waiting => ?_⟩
  rw [runs, run] at found
  cases Table.get?_put_self.symm.trans found
  rw [started] at waiting
  cases waiting

theorem Updates.get? (updates : Updates held before tenantID id row row') :
    before.runs.get? id = some row ∧ row.run.id = id ∧ row.run.tenantID = tenantID := by
  obtain ⟨found, tenant⟩ := run?_eq_some.mp updates.found
  have key := Table.key_of_get? found
  exact ⟨found, key, tenant⟩

theorem Updates.runs_change (updates : Updates held before tenantID id row row') (step : RunStep held row row')
    (moves : row'.run.status ≠ .queued) :
    Table.Changes (fun id => .run id ∈ held) (PlainStep held) (fun _ => False) before.runs (before.runs.put row') := by
  obtain ⟨found, key, -⟩ := updates.get?
  have id_eq : row'.run.id = id := (RunRow.id_eq step.identity).trans key
  refine .replace (r := row) ?_ ?_ (.of_step step updates.checks moves)
  · rw [id_eq, found]
  · rw [id_eq]
    exact updates.key

/-- A commit that puts one run row and no attempt. -/
theorem Keeps.run (updates : Updates held before tenantID id row row') (step : RunStep held row row')
    (moves : row'.run.status ≠ .queued) (runs : after.runs = before.runs.put row')
    (attempts : after.attempts = before.attempts) : Keeps held before after := by
  refine ⟨?_, ?_⟩
  · rw [runs]
    exact updates.runs_change step moves
  · rw [attempts]
    exact .same _

/-- A commit that puts a run row that does not wait and its locked attempt. -/
theorem Keeps.runAndAttempt {attemptID : UUID} {version : Int} {attempt attempt' : AgentRunAttempt}
    (updates : Updates held before tenantID id row row')
    (locks : LocksPending held before row.run attemptID version attempt) (step : RunStep held row row')
    (started : row'.run.status.isWaiting = false) (attemptStep : AttemptStep attempt attempt')
    (runs : after.runs = before.runs.put row') (attempts : after.attempts = before.attempts.put attempt') :
    Keeps held before after := by
  refine ⟨?_, ?_⟩
  · rw [runs]
    exact updates.runs_change step fun queued => by rw [queued] at started; cases started
  · have key := Table.key_of_get? locks.found
    have id_eq : attempt'.id = attemptID := (AgentRunAttempt.id_eq attemptStep.identity).trans key
    rw [attempts]
    refine .replace (r := attempt) ?_ ?_ (.of_put attemptStep runs ?_ started)
    · rw [id_eq, locks.found]
    · rw [id_eq]
      exact locks.key
    · exact locks.runID.trans (RunRow.id_eq step.identity).symm

theorem Commit.lifecycleChange (consistent : Consistent before) (commit : Commit held before call reply after) :
    LifecycleChange held before after := by
  have same : ∀ {after : Db}, after.runs = before.runs → after.attempts = before.attempts →
      LifecycleChange held before after := fun runs attempts =>
    .kept ⟨by rw [runs]; exact .same _, by rw [attempts]; exact .same _⟩
  cases commit with
  | created request event initial publishes checks attemptChecks newRun newKey newAttempt keys =>
    simp only [validateInitialAttempt, Bool.and_eq_true, beq_iff_eq] at initial
    obtain ⟨⟨⟨⟨⟨queued, one⟩, tenant⟩, run⟩, number⟩, pending⟩ := initial
    exact .created request.run request.attempt.inserted ⟨rfl, rfl, newAttempt, run, tenant, number.trans one.symm,
      pending, rfl, .inl ⟨newRun, one⟩⟩ checks queued newRun newKey keys
  | saved request row moved moves updates started forward =>
    refine .kept (.run updates (.saved request moved moves started forward) ?_ rfl rfl)
    rw [savedRow_status moves]
    exact forward
  | savedAttempt request attempt moved found sameAttempt moves checks started key =>
    refine .kept ⟨.same _, .replace (r := attempt) found key ⟨.saved request moved moves, fun row got waiting => ?_⟩⟩
    exact ne_of_lt (started row got waiting)
  | cancelled request row moved event receipt going moves updates publishes =>
    refine .kept (.run updates (.cancelled request moved going moves) ?_ rfl rfl)
    rw [cancelledRow_status moves]
    nofun
  | retried request row moved attempt event receipt retryable moves made updates attemptChecks newAttempt attemptKey =>
    obtain ⟨found, key, tenant⟩ := updates.get?
    have step : RunStep held row (retriedRow request moved.bumped row) := .retried request moved retryable moves
    have count : moved.attemptCount = row.run.attemptCount + 1 := AgentRun.transition_retry retryable moves
    have checked := RunRow.counters_of_checks (consistent.checked row (Table.mem_of_get? found))
    obtain ⟨-, rfl⟩ := newAgentRunAttempt_ok made
    have identity := AgentRun.transition_identity moves
    have id : moved.id = row.run.id := congrArg (·.1) identity
    have tenantID : moved.tenantID = row.run.tenantID := congrArg (·.2.2.tenantID) identity
    rw [← key] at found
    have lock := updates.key
    rw [← key] at lock
    exact .retried row _ _ ⟨rfl, rfl, newAttempt, id, tenantID, rfl, rfl, rfl, .inr ⟨row, found, rfl, checked.1, count⟩⟩
      found step updates.checks (List.cons_subset.mpr ⟨lock, List.cons_subset.mpr ⟨attemptKey, List.nil_subset _⟩⟩)
  | claimed request taken reply described members distinct =>
    refine .kept ⟨.replaceAll ?_ fun row' member => ?_, .same _⟩
    · rw [List.map_map]
      exact distinct
    · obtain ⟨row, inside, rfl⟩ := List.mem_map.mp member
      obtain ⟨old, claimable, checks, key⟩ := members row inside
      simp only [Db.claimable, Bool.and_eq_true] at claimable
      exact ⟨row, Table.get?_key old, key, .of_step (.claimed request claimable.1) checks nofun⟩
  | renewed request row leased updates =>
    simp only [RenewRequest.matches, Bool.and_eq_true, beq_iff_eq] at leased
    have status := leased.1.1
    refine .kept (.run updates (.renewed request status) ?_ rfl rfl)
    change row.run.status ≠ .queued
    rw [status]
    nofun
  | scheduled request row attempt policy capacity event leased updates locks checks admission =>
    simp only [RunRow.leasedBy, Bool.and_eq_true, beq_iff_eq] at leased
    have policyKey : Key.policy row.run.tenantID ∈ held := admission.policyKey
    exact .kept (.runAndAttempt updates locks (.assigned request leased.1.1 policyKey) rfl
      (.assigned request _ locks.pending (consistent.unassigned attempt (Table.mem_of_get? locks.found) locks.pending))
      rfl rfl)
  | deferred request row event leased updates publishes =>
    simp only [RunRow.leasedBy, Bool.and_eq_true, beq_iff_eq] at leased
    exact .kept (.run updates (.deferred request leased.1.1) nofun rfl rfl)
  | rejected request row attempt event leased updates locks checks publishes =>
    simp only [RunRow.leasedBy, Bool.and_eq_true, beq_iff_eq] at leased
    exact .kept (.runAndAttempt updates locks (.rejected request leased.1.1) rfl (.rejected request locks.pending) rfl rfl)
  | administered change => cases change <;> exact same rfl rfl
  | _ => exact same rfl rfl

/-! ## The invariant is kept -/

theorem LifecycleChange.checked (change : LifecycleChange held before after) (consistent : Consistent before) :
    ∀ row ∈ after.runs, row.checks = true := by
  intro row member
  cases change with
  | kept keeps =>
    rcases keeps.runs.cases_mem member with old | ⟨_, _, _, _, plain⟩ | ⟨_, _, impossible⟩
    · exact consistent.checked row old
    · exact plain.checks
    · exact impossible.elim
  | created run attempt adds checks =>
    rcases adds.mem_runs.mp member with rfl | ⟨old, -⟩
    · exact checks
    · exact consistent.checked row old
  | retried row' row'' attempt adds found step checks =>
    rcases adds.mem_runs.mp member with rfl | ⟨old, -⟩
    · exact checks
    · exact consistent.checked row old

/-- No run of the tenant has the key. -/
theorem runByKey?_eq_none {db : Db} {key : String} :
    db.runByKey? tenantID key = none ↔ ∀ row ∈ db.runs, row.run.tenantID = tenantID → row.run.idempotencyKey ≠ key := by
  simp [Db.runByKey?, List.find?_eq_none, Table.mem_def]

/-- Where a row of a commit that creates no run comes from. -/
theorem LifecycleChange.origin (change : LifecycleChange held before after) (member : row' ∈ after.runs) :
    (∃ row ∈ before.runs, row'.identity = row.identity) ∨
      before.runs.get? row'.run.id = none ∧ before.runByKey? row'.run.tenantID row'.run.idempotencyKey = none ∧
        .idempotencyKey row'.run.tenantID row'.run.idempotencyKey ∈ held ∧ row'.run.status = .queued ∧
        ∀ other ∈ after.runs, before.runs.get? other.run.id = none → other = row' := by
  cases change with
  | kept keeps =>
    obtain ⟨row, old, same, -⟩ := keeps.run_origin member
    exact .inl ⟨row, old, same⟩
  | created run attempt adds checks queued newRun newKey keys =>
    rcases adds.mem_runs.mp member with rfl | ⟨old, -⟩
    · refine .inr ⟨newRun, newKey, keys (by simp [createdRow, AgentRun.stored]), queued, fun other inside absent => ?_⟩
      rcases adds.mem_runs.mp inside with rfl | ⟨there, -⟩
      · rfl
      · exact absurd rfl (Table.get?_eq_none.mp absent other there)
    · exact .inl ⟨row', old, rfl⟩
  | retried row row'' attempt adds found step checks =>
    rcases adds.mem_runs.mp member with rfl | ⟨old, -⟩
    · exact .inl ⟨row, Table.mem_of_get? found, step.identity⟩
    · exact .inl ⟨row', old, rfl⟩

theorem LifecycleChange.keyed (change : LifecycleChange held before after) (consistent : Consistent before) :
    ∀ row ∈ after.runs, ∀ other ∈ after.runs, row.run.tenantID = other.run.tenantID →
      row.run.idempotencyKey = other.run.idempotencyKey → row = other := by
  -- an old row does not share its key with the new one
  have apart : ∀ row ∈ before.runs, ∀ row' other : RunRow, row'.identity = row.identity →
      before.runByKey? other.run.tenantID other.run.idempotencyKey = none → row'.run.tenantID = other.run.tenantID →
      row'.run.idempotencyKey ≠ other.run.idempotencyKey := by
    intro row old row' other same absent tenant key
    refine runByKey?_eq_none.mp absent row old ?_ ?_
    · rw [← RunRow.tenantID_eq same, tenant]
    · rw [← RunRow.idempotencyKey_eq same, key]
  intro row' member other' member' tenant key
  rcases change.origin member with ⟨row, old, same⟩ | ⟨new, absent, -, -, only⟩ <;>
    rcases change.origin member' with ⟨other, oldOther, sameOther⟩ | ⟨newOther, absentOther, -, -, onlyOther⟩
  · rw [RunRow.tenantID_eq same, RunRow.tenantID_eq sameOther] at tenant
    rw [RunRow.idempotencyKey_eq same, RunRow.idempotencyKey_eq sameOther] at key
    have rows : row = other := consistent.keyed row old other oldOther tenant key
    have ids : row'.run.id = other'.run.id := by rw [RunRow.id_eq same, RunRow.id_eq sameOther, rows]
    exact Table.eq_of_mem member member' ids
  · exact absurd key (apart row old row' other' same absentOther tenant)
  · exact absurd key.symm (apart other oldOther other' row' sameOther absent tenant.symm)
  · exact onlyOther row' member new

theorem LifecycleChange.consistent (change : LifecycleChange held before after) (consistent : Consistent before) :
    after.Numbered ∧ after.Waits ∧ after.Unassigned := by
  cases change with
  | kept keeps =>
    exact ⟨keeps.numbered consistent.numbered, keeps.waits consistent.waits, keeps.unassigned consistent.unassigned⟩
  | created run attempt adds =>
    exact ⟨adds.numbered consistent.numbered, adds.waits consistent.numbered consistent.waits,
      adds.unassigned' consistent.unassigned⟩
  | retried row row' attempt adds =>
    exact ⟨adds.numbered consistent.numbered, adds.waits consistent.numbered consistent.waits,
      adds.unassigned' consistent.unassigned⟩

theorem ReservationChange.consistent (change : ReservationChange held before after) (consistent : Consistent before) :
    after.Paired ∧ after.Balanced := by
  cases change with
  | same reservations => exact ⟨consistent.paired.congr reservations, consistent.balanced.congr reservations⟩
  | held request policy capacity admission reservations =>
    exact ⟨(consistent.paired.hold admission).congr reservations, (consistent.balanced.hold admission).congr reservations⟩
  | closed bundle target now closes reservations =>
    exact ⟨(consistent.paired.close closes).congr reservations,
      (consistent.balanced.close consistent.paired closes).congr reservations⟩

/-- Every commit keeps the invariant. -/
theorem Commit.consistent (consistent : Consistent before) (commit : Commit held before call reply after) :
    Consistent after := by
  have lifecycle := commit.lifecycleChange consistent
  obtain ⟨numbered, waits, unassigned⟩ := lifecycle.consistent consistent
  obtain ⟨paired, balanced⟩ := commit.reservationChange.consistent consistent
  exact ⟨lifecycle.checked consistent, lifecycle.keyed consistent, numbered, waits, unassigned, paired,
    balanced⟩

end Commits

end AgentForge.Platform
