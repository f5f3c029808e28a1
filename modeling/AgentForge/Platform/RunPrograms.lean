import AgentForge.Platform.Discipline

/-!
# The run repository commits as specified

Each transaction of the run repository and the queue, followed statement by statement: whatever other transactions
commit in between, when it ends well it ends with the `Commit` of its call. What a statement found is carried to
the end by the key the statement locked.
-/

set_option autoImplicit false

namespace AgentForge.Platform

open Operator Lib

/-- A transaction that succeeds commits as its call does. -/
def Commits (call : Call) (reply : call.Reply) (pending : List Write) (held : List Key) (db : Db) : Prop :=
  Commit held db call reply (platform.applyAll db pending)

/-- The program of a call ends with one of its commits. -/
def Implements (call : Call) : Prop :=
  ∀ db, Consistent db → call.program.Ensures platform discipline
    (fun r pending held db => ∀ reply, r = .ok reply → Commits call reply pending held db) [] [] db

section Transport

variable {held : List Key} {db db' : Db} {id tenantID runID : UUID}

/-! ## What a held key keeps -/

theorem rely_run (rely : discipline.Rely held db db') (lock : .run id ∈ held) : db'.runs.get? id = db.runs.get? id :=
  rely.frame _ lock

theorem rely_run? (rely : discipline.Rely held db db') (lock : .run id ∈ held) :
    db'.run? tenantID id = db.run? tenantID id := by
  rw [Db.run?, rely_run rely lock, Db.run?]

theorem rely_attempt (rely : discipline.Rely held db db') (lock : .attempt id ∈ held) :
    db'.attempts.get? id = db.attempts.get? id :=
  rely.frame _ lock

theorem rely_event (rely : discipline.Rely held db db') (lock : .event id ∈ held) :
    db'.outbox.get? id = db.outbox.get? id :=
  rely.frame _ lock

theorem rely_intent (rely : discipline.Rely held db db') (lock : .intent id ∈ held) :
    db'.intents.get? id = db.intents.get? id :=
  rely.frame _ lock

theorem rely_capacity (rely : discipline.Rely held db db') (lock : .capacity id ∈ held) :
    db'.capacities.get? id = db.capacities.get? id :=
  rely.frame _ lock

theorem rely_budget (rely : discipline.Rely held db db') (lock : .budget id ∈ held) :
    db'.budgets.get? id = db.budgets.get? id :=
  rely.frame _ lock

theorem rely_usage {date : Time} (rely : discipline.Rely held db db') (lock : .usage tenantID date ∈ held) :
    db'.usage.get? (tenantID, date) = db.usage.get? (tenantID, date) :=
  rely.frame _ lock

theorem rely_policy (rely : discipline.Rely held db db') (lock : .policy tenantID ∈ held) :
    db'.policies.get? tenantID = db.policies.get? tenantID :=
  rely.frame _ lock

theorem rely_cluster {id : String} (rely : discipline.Rely held db db') (lock : .cluster id ∈ held) :
    db'.latestCapacity? id = db.latestCapacity? id ∧
      ∀ now, db'.reservedCPU id now ≤ db.reservedCPU id now ∧ db'.reservedMemory id now ≤ db.reservedMemory id now :=
  rely.frame _ lock

theorem rely_noActive {number : Int} (rely : discipline.Rely held db db')
    (lock : .activeCapacity runID number ∈ held) (absent : db.NoActive runID number) : db'.NoActive runID number :=
  rely.frame _ lock absent

theorem rely_noIntent {number : Int} (rely : discipline.Rely held db db')
    (lock : .intentOf tenantID runID number ∈ held) (absent : db.NoIntent tenantID runID number) :
    db'.NoIntent tenantID runID number :=
  rely.frame _ lock absent

theorem rely_key {key : String} (rely : discipline.Rely held db db') (lock : .idempotencyKey tenantID key ∈ held)
    (absent : db.runByKey? tenantID key = none) : db'.runByKey? tenantID key = none :=
  rely.frame _ lock absent

end Transport

/-! ## Create -/

theorem create_implements (request : CreateRequest) : Implements (.create request) := by
  intro db consistent
  refine ensures_check lenient_ok fun initial => ensures_lift lenient_ok fun event made => ?_
  refine ensures_exec lenient_ok fun db₁ _ _ _ inserted => ?_
  obtain ⟨effect, checks, newRun, newKey⟩ := insertRun_ok inserted
  rw [effect]
  refine ensures_exec lenient_ok fun db₂ _ _ rely₁ inserted => ?_
  obtain ⟨effect, attemptChecks, newAttempt, -⟩ := insertAttempt_ok inserted
  rw [effect]
  refine ensures_exec_last lenient_ok fun db₃ _ _ rely₂ inserted => ?_
  obtain ⟨effect, newEvent⟩ := insertEvent_ok inserted
  rw [effect]
  refine ensures_done fun db₄ rely₃ reply _ => ?_
  have fromRun := (rely₁.followed rely₂ (by simp)).followed rely₃ (by simp)
  have fromAttempt := rely₂.followed rely₃ (by simp)
  refine Commit.created request event initial ⟨made, ?_, by simp⟩ checks attemptChecks ?_ ?_ ?_ ?_
  · rw [rely_event rely₃ (by simp)]
    exact newEvent
  · rw [rely_run fromRun (by simp [createdRow, AgentRun.stored])]
    exact newRun
  · exact rely_key fromRun (by simp [createdRow, AgentRun.stored]) newKey
  · rw [rely_attempt fromAttempt (by simp [AgentRunAttempt.inserted, AgentRunAttempt.stored])]
    exact newAttempt
  · simp [createdRow, AgentRun.stored, AgentRunAttempt.inserted, AgentRunAttempt.stored]

/-! ## Transition and save -/

variable {tenantID runID id : UUID} {db db' : Db} {held : List Key} {row row' : RunRow} {attempt : AgentRunAttempt}
  {others : Key → Bool}

theorem saveError_ensures {α : Type} {Q : Except Error α → List Write → List Key → Db → Prop} (lenient : Lenient Q)
    {pending : List Write} : (saveError tenantID runID : Program α).Ensures platform discipline Q pending held db :=
  ensures_perform fun _ _ _ => ensures_fail lenient

/-- A row that still has the version it was read with is the row that was read. -/
theorem rely_version (rely : discipline.Rely held db db') (found : db.runs.get? id = some row)
    (found' : db'.runs.get? id = some row') (version : row'.run.version = row.run.version) : row' = row := by
  obtain ⟨row'', got, evolves⟩ := rely.guarantee.runs id row found
  rw [found'] at got
  cases got
  rcases evolves.version with same | newer
  · exact same
  · omega

theorem rely_attemptVersion {attempt' : AgentRunAttempt} (rely : discipline.Rely held db db')
    (found : db.attempts.get? id = some attempt) (found' : db'.attempts.get? id = some attempt')
    (version : attempt'.version = attempt.version) : attempt' = attempt := by
  obtain ⟨attempt'', got, evolves⟩ := rely.guarantee.attempts id attempt found
  rw [found'] at got
  cases got
  rcases evolves.version with same | newer
  · exact same
  · omega

theorem transitionAndSave_implements (request : TransitionRequest) : Implements (.transitionRun request) := by
  intro db consistent
  refine ensures_required lenient_ok fun db₁ _ row _ selected => ensures_check lenient_ok fun allowed => ?_
  obtain ⟨found, tenant⟩ := run?_eq_some.mp selected
  have key := Table.key_of_get? found
  refine ensures_lift lenient_ok fun moved moves => ensures_exec lenient_ok fun db₂ _ updated rely₁ answered => ?_
  have identity := AgentRun.transition_identity moves
  have id_eq : moved.id = request.runID := (congrArg (·.1) identity).trans key
  have tenant_eq : moved.tenantID = request.tenantID := (congrArg (·.2.2.tenantID) identity).trans tenant
  rw [id_eq, tenant_eq] at answered ⊢
  rcases updateRun_ok answered with ⟨effect, rfl⟩ | ⟨row₂, effect, rfl, found₂, -, version, checks⟩
  · exact saveError_ensures lenient_ok
  · simp only [beq_iff_eq] at version
    obtain rfl : row₂ = row := rely_version rely₁ found found₂ version
    rw [effect]
    refine ensures_done fun db₃ rely₂ reply done => ?_
    cases done
    simp only [Bool.and_eq_true, Bool.not_eq_true', bne_iff_ne] at allowed
    refine Commit.saved request row₂ moved moves ⟨⟨?_, by simp⟩, checks⟩ allowed.1 allowed.2
    rw [rely_run? rely₂ (by simp)]
    exact run?_eq_some.mpr ⟨found₂, tenant⟩

theorem attempt?_eq_some {number : Int} (found : db.attempt? tenantID runID number = some attempt) :
    attempt ∈ db.attempts ∧ attempt.tenantID = tenantID ∧ attempt.runID = runID ∧ attempt.attemptNumber = number := by
  have passes := List.find?_some found
  simp only [Bool.and_eq_true, beq_iff_eq] at passes
  exact ⟨List.mem_of_find?_eq_some found, passes.1.1, passes.1.2, passes.2⟩

/-- An attempt of a started run is never the current one of a waiting run again. -/
theorem rely_started (rely : discipline.Rely held db db') (consistent : Consistent db)
    (member : attempt ∈ db.attempts) (found : db.runs.get? attempt.runID = some row)
    (started : row.run.status.isWaiting = false) (found' : db'.runs.get? attempt.runID = some row')
    (waiting : row'.run.status.isWaiting = true) : attempt.attemptNumber < row'.run.attemptCount := by
  obtain ⟨owner, got, -, -, high⟩ := consistent.numbered.owned attempt member
  rw [found] at got
  cases got
  obtain ⟨row'', got, evolves⟩ := rely.guarantee.runs _ row found
  rw [found'] at got
  cases got
  rcases evolves.progress with more | ⟨-, stays⟩
  · omega
  · rw [stays started] at waiting
    cases waiting

theorem startedAttempt_eq_some {number : Int}
    (selected : ((selectStartedAttempt tenantID runID number).run db others).answer = some attempt) :
    ∃ row, db.runs.get? runID = some row ∧ row.run.status.isWaiting = false ∧ attempt ∈ db.attempts ∧
      attempt.tenantID = tenantID ∧ attempt.runID = runID ∧ attempt.attemptNumber = number := by
  dsimp only [selectStartedAttempt, Lib.Statement.query] at selected
  cases owner : db.run? tenantID runID with
  | none =>
    rw [owner] at selected
    cases selected
  | some row =>
    rw [owner] at selected
    dsimp only at selected
    split at selected
    · cases selected
    · next started => exact ⟨row, (run?_eq_some.mp owner).1, by simpa using started, attempt?_eq_some selected⟩

theorem transitionAndSaveAttempt_implements (request : AttemptTransitionRequest) :
    Implements (.transitionAttempt request) := by
  intro db consistent
  refine ensures_required lenient_ok fun db₁ _ attempt rely₀ selected => ?_
  obtain ⟨row, owner, started, member, tenant, run, number⟩ := startedAttempt_eq_some selected
  refine ensures_lift lenient_ok fun moved moves => ensures_exec lenient_ok fun db₂ _ updated rely₁ answered => ?_
  have identity : moved.id = attempt.id ∧ moved.tenantID = attempt.tenantID := by
    obtain ⟨-, ⟨-, rfl⟩ | ⟨-, rfl⟩⟩ := AgentRunAttempt.transition_ok moves
    · exact ⟨rfl, rfl⟩
    · cases request.target <;> exact ⟨rfl, rfl⟩
  rw [identity.1, identity.2] at answered ⊢
  rcases updateAttempt_ok answered with ⟨effect, rfl, -⟩ | ⟨attempt₂, effect, rfl, found₂, -, version, checks⟩
  · exact saveError_ensures lenient_ok
  · simp only [beq_iff_eq] at version
    obtain rfl : attempt₂ = attempt := rely_attemptVersion rely₁ (Table.get?_key member) found₂ version
    rw [effect]
    refine ensures_done fun db₃ rely₂ reply done => ?_
    cases done
    refine Commit.savedAttempt request attempt₂ moved ?_ ⟨tenant, run, number⟩ moves checks ?_ (by simp)
    · rw [rely_attempt rely₂ (by simp)]
      exact found₂
    · intro row' found' waiting
      exact rely_started (rely₁.followed rely₂ (by simp)) rely₀.inv member (run ▸ owner) started found' waiting

/-! ## Commands -/

/-- The run that a command found is still there, and was read whole. -/
theorem lockedCommandRun_ensures :
    (lockedCommandRun tenantID runID).Ensures platform discipline
      (fun r pending held db => ∀ found, r = .ok found → pending = [] ∧ held = [.run runID] ∧
        ∃ row, db.run? tenantID runID = some row ∧ found = (row, row.lastCommand)) [] [] db := by
  refine ensures_required lenient_ok fun db₁ _ row _ locked => ?_
  obtain ⟨effect, found, tenant⟩ := lockRun_some locked
  rw [effect]
  refine ensures_required lenient_ok fun db₂ _ again rely₁ selected => ?_
  have found₂ : db₂.run? tenantID runID = some row := by
    rw [rely_run? rely₁ (by simp)]
    exact run?_eq_some.mpr ⟨found, tenant⟩
  have same : some row = some again := found₂.symm.trans selected
  cases same
  refine ensures_done fun db₃ rely₂ reply done => ?_
  cases done
  refine ⟨rfl, rfl, row, ?_, rfl⟩
  rw [rely_run? rely₂ (by simp)]
  exact found₂

theorem cancelLocked_ensures {request : CancelRunRequest}
    (found : db.run? request.tenantID request.runID = some row)
    (receipt : receiptOf .cancel request.commandID row.lastCommand = none)
    (going : row.run.status.isCancel = false ∧ row.run.status.isTerminal = false) :
    (cancelLocked request row).Ensures platform discipline
      (fun r pending held db => ∀ reply, r = .ok reply → Commits (.cancel request) reply pending held db) []
      [.run request.runID] db := by
  refine ensures_lift lenient_ok fun moved moves => ensures_exec lenient_ok fun db₁ _ updated rely₁ answered => ?_
  have found₁ : db₁.run? request.tenantID request.runID = some row := (rely_run? rely₁ (by simp)).trans found
  refine ensures_check lenient_ok fun some_ => ?_
  rcases updateRun_ok answered with ⟨-, rfl⟩ | ⟨row₁, effect, rfl, got, -, -, checks⟩
  · cases some_
  · have same : some row₁ = some row := got.symm.trans (run?_eq_some.mp found₁).1
    cases same
    rw [effect]
    refine ensures_lift lenient_ok fun event made => ensures_exec lenient_ok fun db₂ _ _ rely₂ inserted => ?_
    obtain ⟨effect, newEvent⟩ := insertEvent_ok inserted
    rw [effect]
    refine ensures_done fun db₃ rely₃ reply done => ?_
    cases done
    refine Commit.cancelled request row moved event receipt going moves ⟨⟨?_, by simp⟩, checks⟩ ⟨made, ?_, by simp⟩
    · exact (rely_run? (rely₂.followed rely₃ (by simp)) (by simp)).trans found₁
    · rw [rely_event rely₃ (by simp)]
      exact newEvent

theorem cancel_implements (request : CancelRunRequest) : Implements (.cancel request) := by
  intro db consistent
  refine ensures_check lenient_ok fun _ => ?_
  refine ensures_bind lenient_ok consistent lockedCommandRun_ensures ?_
  rintro _ _ _ db₁ - - ⟨rfl, rfl, row, found, rfl⟩
  have locks : ∀ db₂, discipline.Rely [.run request.runID] db₁ db₂ →
      Locks [.run request.runID] db₂ request.tenantID request.runID row :=
    fun db₂ rely => ⟨(rely_run? rely (by simp)).trans found, by simp⟩
  dsimp only
  split
  · next response receipt =>
    refine ensures_lift lenient_ok fun run applies => ensures_done fun db₂ rely reply done => ?_
    cases done
    exact Commit.cancelReplayed request row response run (locks db₂ rely) receipt applies
  · next receipt =>
    split
    · next ended =>
      refine ensures_done fun db₂ rely reply done => ?_
      cases done
      exact Commit.cancelRepeated request row (locks db₂ rely) receipt ended
    · next notCancelled =>
      split
      · exact ensures_fail lenient_ok
      · next notTerminal =>
        exact cancelLocked_ensures found receipt ⟨by simpa using notCancelled, by simpa using notTerminal⟩

theorem retryLocked_ensures {request : RetryRunRequest} (found : db.run? request.tenantID request.runID = some row)
    (receipt : receiptOf .retry request.commandID row.lastCommand = none) (retryable : row.run.canRetry = true) :
    (retryLocked request row).Ensures platform discipline
      (fun r pending held db => ∀ reply, r = .ok reply → Commits (.retry request) reply pending held db) []
      [.run request.runID] db := by
  refine ensures_lift lenient_ok fun moved moves => ensures_lift lenient_ok fun attempt made => ?_
  refine ensures_exec lenient_ok fun db₁ _ updated rely₁ answered => ensures_check lenient_ok fun some_ => ?_
  have found₁ : db₁.run? request.tenantID request.runID = some row := (rely_run? rely₁ (by simp)).trans found
  rcases updateRun_ok answered with ⟨-, rfl⟩ | ⟨row₁, effect, rfl, got, -, -, checks⟩
  · cases some_
  · have same : some row₁ = some row := got.symm.trans (run?_eq_some.mp found₁).1
    cases same
    have attemptID : attempt.id = request.attemptID := by
      obtain ⟨-, rfl⟩ := newAgentRunAttempt_ok made
      rfl
    rw [effect]
    refine ensures_exec lenient_ok fun db₂ _ _ rely₂ inserted => ?_
    obtain ⟨effect, attemptChecks, newAttempt, -⟩ := insertAttempt_ok inserted
    rw [effect]
    refine ensures_lift lenient_ok fun event published => ensures_exec lenient_ok fun db₃ _ _ rely₃ inserted => ?_
    obtain ⟨effect, newEvent⟩ := insertEvent_ok inserted
    rw [effect]
    refine ensures_done fun db₄ rely₄ reply done => ?_
    cases done
    have fromRun := (rely₂.followed rely₃ (by simp)).followed rely₄ (by simp)
    have fromAttempt := rely₃.followed rely₄ (by simp)
    have key : Key.attempt request.attemptID = .attempt attempt.inserted.id := by rw [← attemptID]; rfl
    refine Commit.retried request row moved attempt event receipt retryable moves made ⟨⟨?_, by simp⟩, checks⟩
      attemptChecks ?_ (by simp [key]) ⟨published, ?_, by simp⟩
    · exact (rely_run? fromRun (by simp)).trans found₁
    · rw [rely_attempt fromAttempt (by simp [key]), ← attemptID]
      exact newAttempt
    · rw [rely_event rely₄ (by simp)]
      exact newEvent

theorem retry_implements (request : RetryRunRequest) : Implements (.retry request) := by
  intro db consistent
  refine ensures_check lenient_ok fun _ => ?_
  refine ensures_bind lenient_ok consistent lockedCommandRun_ensures ?_
  rintro _ _ _ db₁ - - ⟨rfl, rfl, row, found, rfl⟩
  dsimp only
  split
  · next response receipt =>
    refine ensures_lift lenient_ok fun run applies => ensures_done fun db₂ rely reply done => ?_
    cases done
    exact Commit.retryReplayed request row response run ⟨(rely_run? rely (by simp)).trans found, by simp⟩ receipt applies
  · next receipt =>
    split
    · exact ensures_fail lenient_ok
    · next retryable => exact retryLocked_ensures found receipt (by simpa using retryable)

/-! ## The queue -/

theorem claims_members {request : SchedulerClaimRequest} (member : row ∈ db.claims request others) :
    row ∈ db.runs ∧ row.claimable request.now = true := by
  have inside := (List.mem_filter.mp (List.mem_of_mem_take member)).1
  rw [List.mem_insertionSort] at inside
  obtain ⟨old, claimable⟩ := List.mem_filter.mp inside
  simp only [Db.claimable, Bool.and_eq_true] at claimable
  exact ⟨old, claimable.1⟩

theorem claims_distinct (db : Db) (request : SchedulerClaimRequest) (others : Key → Bool) :
    ((db.claims request others).map fun row => row.run.id).Nodup := by
  have sorted := (List.perm_insertionSort (fun a b => claimOrder request (db.runs.rows.filter (db.claimable request.now)) a b)
    (db.runs.rows.filter (db.claimable request.now))).map fun row => row.run.id
  have base : ((db.runs.rows.filter (db.claimable request.now)).map fun row => row.run.id).Nodup :=
    db.runs.distinct.sublist (List.filter_sublist.map _)
  exact (sorted.nodup_iff.mpr base).sublist (((List.take_sublist _ _).trans List.filter_sublist).map _)

theorem claimRuns_ok {request : SchedulerClaimRequest} {reply : List ClaimedRun}
    (answered : ((claimRuns request).run db others).answer = .ok reply) :
    (claimRuns request).run db others =
        ⟨.ok reply, (db.claims request others).map fun row => .run (claimedRow request row),
          (db.claims request others).map fun row => .run row.run.id⟩ ∧
      (∀ row ∈ db.claims request others, (claimedRow request row).checks = true) ∧
      ∀ claim ∈ reply, ∃ row ∈ db.claims request others, ∃ attempt, claim = claimedRun request row attempt := by
  unfold claimRuns at answered ⊢
  dsimp only at answered ⊢
  split at answered
  · cases answered
  · split at answered
    · cases answered
    · next small checked =>
      rw [if_neg small, if_neg checked]
      cases answered
      refine ⟨rfl, fun row member => ?_, fun claim member => ?_⟩
      · simp only [List.any_eq_true, not_exists, not_and, Bool.or_eq_true, Bool.not_eq_true', not_or,
          Bool.not_eq_false] at checked
        exact (checked row member).2
      · obtain ⟨row, inside, described⟩ := List.mem_filterMap.mp member
        obtain ⟨attempt, -, same⟩ := Option.map_eq_some_iff.mp described
        exact ⟨row, inside, attempt, same.symm⟩

/-- The current attempt of a run that waits is there and pending. -/
theorem Consistent.claimable (consistent : Consistent db) (member : row ∈ db.runs) {now : Time}
    (claimable : row.claimable now = true) : db.claimable now row = true := by
  have waiting : row.run.status.isWaiting = true := by
    rcases AgentRunStatus.claimable_cases claimable with status | status | status <;> rw [status] <;> rfl
  have counters := RunRow.counters_of_checks (consistent.checked row member)
  obtain ⟨a, inside, run, number⟩ := consistent.numbered.complete row member row.run.attemptCount counters.1 (le_refl _)
  obtain ⟨owner, found, tenant, -⟩ := consistent.numbered.owned a inside
  have same : some owner = some row := found.symm.trans (run ▸ Table.get?_key member)
  cases same
  cases current : db.currentAttempt? row with
  | none =>
    have missed := List.find?_eq_none.mp current a inside
    simp [tenant, run, number] at missed
  | some a' =>
    obtain ⟨inside', -, run', number'⟩ := attempt?_eq_some current
    have pending := consistent.waits row member waiting a' inside' run' number'
    simp [Db.claimable, claimable, current, pending]

theorem applyAll_claims (db : Db) (request : SchedulerClaimRequest) (taken : List RunRow) :
    platform.applyAll db (taken.map fun row => .run (claimedRow request row)) = db.claimAll request taken := by
  induction taken generalizing db with
  | nil => rfl
  | cons row taken ih => exact ih _

theorem claim_implements (request : SchedulerClaimRequest) : Implements (.claim request) := by
  intro db consistent
  change (Tx.check request.valid _ >>= fun _ => exec (claimRuns request)).Ensures platform discipline _ [] [] db
  -- the elaborator would otherwise evaluate the check
  generalize request.valid = accepted
  refine ensures_check lenient_ok fun _ => ensures_exec_last lenient_ok fun db₁ others claims _ answered => ?_
  obtain ⟨effect, checks, described⟩ := claimRuns_ok answered
  rw [effect]
  refine ensures_done fun db₂ rely reply done => ?_
  cases done
  change Commit _ db₂ _ _ (platform.applyAll db₂ ((db₁.claims request others).map fun row => .run (claimedRow request row)))
  rw [applyAll_claims]
  refine Commit.claimed request _ claims described (fun row member => ?_) (claims_distinct _ request others)
  obtain ⟨old, claimable⟩ := claims_members member
  have lock : Key.run row.run.id ∈ [] ++ (db₁.claims request others).map fun row => Key.run row.run.id :=
    List.mem_map_of_mem member
  have found : db₂.runs.get? row.run.id = some row := (rely_run rely lock).trans (Table.get?_key old)
  have member₂ := Table.mem_of_get? found
  exact ⟨member₂, rely.inv.claimable member₂ claimable, checks row member, lock⟩

theorem renew_implements (request : RenewRequest) : Implements (.renew request) := by
  intro db consistent
  refine ensures_check lenient_ok fun _ => ensures_exec lenient_ok fun db₁ _ updated _ answered => ?_
  rcases updateRun_ok answered with ⟨effect, rfl⟩ | ⟨row, effect, rfl, found, tenant, matched, checks⟩
  · exact saveError_ensures lenient_ok
  · rw [effect]
    refine ensures_done fun db₂ rely reply done => ?_
    cases done
    refine Commit.renewed request row matched ⟨⟨?_, by simp⟩, checks⟩
    rw [rely_run? rely (by simp)]
    exact run?_eq_some.mpr ⟨found, tenant⟩

end AgentForge.Platform
