import AgentForge.Platform.ReservationPrograms

/-!
# The scheduling transactions commit as specified

Schedule locks the run, its current attempt, the tenant's policy and the cluster, in this order, and checks the
quotas and the room on the cluster under these locks; then it writes everything at once. DeferCapacity and
Reject lock the run, and Reject the attempt.
-/

set_option autoImplicit false

namespace AgentForge.Platform

open Operator Lib

section Phases

variable {held : List Key} {db : Db} {tenantID attemptID : UUID}

theorem readSchedulingUsage_ensures {createdBy : String} {now : Time} :
    (readSchedulingUsage tenantID createdBy now).Ensures platform discipline
      (fun r pending' held' _ => ∀ usage, r = .ok usage → pending' = [] ∧ held' = held) [] held db :=
  ensures_query fun _ _ => ensures_query fun _ _ => ensures_done fun _ _ _ _ => ⟨rfl, rfl⟩

theorem LocksPending.stable {db' : Db} {run : AgentRun} {version : Int} {attempt : AgentRunAttempt}
    (locks : LocksPending held db run attemptID version attempt) (rely : discipline.Rely held db db') :
    LocksPending held db' run attemptID version attempt :=
  { locks with found := (rely_attempt rely locks.key).trans locks.found }

theorem LocksPending.mono {held' : List Key} {run : AgentRun} {version : Int} {attempt : AgentRunAttempt}
    (locks : LocksPending held db run attemptID version attempt) (subset : held ⊆ held') :
    LocksPending held' db run attemptID version attempt :=
  { locks with key := subset locks.key }

theorem lockPendingAttempt_ensures {run : AgentRun} {version : Int} :
    (lockPendingAttempt run attemptID version).Ensures platform discipline
      (fun r pending' held' db' => ∀ attempt, r = .ok attempt → pending' = [] ∧ held ⊆ held' ∧
        LocksPending held' db' run attemptID version attempt) [] held db := by
  refine ensures_required lenient_ok fun db₁ _ attempt _ locked => ?_
  obtain ⟨effect, found, tenant, runID, number⟩ := lockAttempt_some locked
  rw [effect]
  refine ensures_check lenient_ok fun pending => ensures_done fun db₂ rely _ done => ?_
  cases done
  simp only [Bool.and_eq_true, beq_iff_eq] at pending
  refine ⟨rfl, by simp, ⟨?_, tenant, runID, number, pending.1, pending.2, by simp⟩⟩
  rw [rely_attempt rely (by simp)]
  exact found

/-- The policy that admits a run, locked. -/
theorem admitEligible_ensures {row : RunRow} {now : Time} :
    (admitEligible row now).Ensures platform discipline
      (fun r pending' held' db' => ∀ admitted, r = .ok admitted → pending' = [] ∧ held ⊆ held' ∧
        ∃ policy, admitted = some policy ∧ .policy row.run.tenantID ∈ held' ∧
          db'.policies.get? row.run.tenantID = some ⟨row.run.tenantID, policy⟩) [] held db := by
  refine ensures_perform fun db₁ others rely₁ => ?_
  rcases lockPolicy_cases db₁ others row.run.tenantID with effect | ⟨policy, effect, policyRow⟩
  · -- without a policy no run is eligible
    rw [Protocol.applyAll_nil, effect]
    refine ensures_find lenient_ok fun db₂ ownership rely₂ _ => ?_
    refine ensures_bind lenient_ok rely₂.inv readSchedulingUsage_ensures ?_
    rintro usage _ _ db₃ - - -
    refine ensures_lift lenient_ok fun decision evaluated => ensures_check lenient_ok fun eligible => ?_
    obtain ⟨policy, impossible⟩ := policy_of_eligible evaluated (by simpa using eligible)
    cases impossible
  · rw [Protocol.applyAll_nil, effect]
    refine ensures_find lenient_ok fun db₂ ownership rely₂ _ => ?_
    refine ensures_bind lenient_ok rely₂.inv readSchedulingUsage_ensures ?_
    rintro usage _ _ db₃ rely₃ - ⟨rfl, rfl⟩
    refine ensures_lift lenient_ok fun _ _ => ensures_check lenient_ok fun _ => ?_
    refine ensures_done fun db₄ rely₄ _ done => ?_
    cases done
    have fromPolicy := (rely₂.followed rely₃ (List.Subset.refl _)).followed rely₄ (List.Subset.refl _)
    have same : db₄.policies.get? row.run.tenantID = db₁.policies.get? row.run.tenantID :=
      rely_policy fromPolicy (by simp)
    exact ⟨rfl, List.subset_append_left _ _, policy, rfl, by simp, same.trans policyRow⟩

theorem lockEligibleCluster_ensures {id : String} {runtime profile : String} {now : Time} {freshness : Duration} :
    (lockEligibleCluster id tenantID runtime profile now freshness).Ensures platform discipline
      (fun r pending' held' db' => ∀ candidate, r = .ok candidate → pending' = [] ∧ held ⊆ held' ∧ .cluster id ∈ held' ∧
        db'.latestCapacity? id = some candidate.capacity) [] held db := by
  refine ensures_required lenient_ok fun db₁ _ candidate _ locked => ?_
  obtain ⟨effect, latest⟩ := lockEligible_some locked
  rw [effect]
  refine ensures_check lenient_ok fun _ => ensures_done fun db₂ rely _ done => ?_
  cases done
  have same : db₂.latestCapacity? id = db₁.latestCapacity? id := (rely_cluster rely (by simp)).1
  exact ⟨rfl, by simp, by simp, same.trans latest⟩

end Phases

/-! ## Evaluate -/

theorem evaluate_implements (run : ClaimedRun) (now : Time) : Implements (.evaluate run now) := by
  intro db consistent
  refine ensures_check lenient_ok fun _ => ensures_find lenient_ok fun db₁ ownership rely₁ _ => ?_
  refine ensures_perform fun db₂ others rely₂ => ?_
  have writes : ((lockPolicy run.tenantID).run (platform.applyAll db₂ []) others).writes = [] := rfl
  rw [writes]
  refine ensures_bind lenient_ok rely₂.inv readSchedulingUsage_ensures ?_
  rintro usage _ _ db₃ rely₃ - ⟨rfl, -, -⟩
  refine ensures_lift_last lenient_ok fun decision _ => ensures_done fun db₄ _ reply done => ?_
  cases done
  exact Commit.evaluated run now decision

/-! ## Schedule -/

variable {tenantID runID : UUID}

theorem Locks.stable {held : List Key} {db db' : Db} {row : RunRow} (locks : Locks held db tenantID runID row)
    (rely : discipline.Rely held db db') : Locks held db' tenantID runID row :=
  ⟨(rely_run? rely locks.key).trans locks.found, locks.key⟩

theorem Locks.mono {held held' : List Key} {db : Db} {row : RunRow} (locks : Locks held db tenantID runID row)
    (subset : held ⊆ held') : Locks held' db tenantID runID row :=
  ⟨locks.found, subset locks.key⟩

/-- A run that `lockRun` found. -/
theorem lockRun_ensures {α : Type} {Q : Except Error α → List Write → List Key → Db → Prop} (lenient : Lenient Q)
    {missing : Error} {f : RunRow → Program α} {db : Db}
    (next : ∀ db' row, Consistent db' → Locks [.run runID] db' tenantID runID row →
      (f row).Ensures platform discipline Q [] [.run runID] db') :
    (required (lockRun tenantID runID) missing >>= f).Ensures platform discipline Q [] [] db := by
  refine ensures_required lenient fun db₁ _ row rely locked => ?_
  obtain ⟨effect, found, tenant⟩ := lockRun_some locked
  rw [effect]
  exact next db₁ row rely.inv ⟨run?_eq_some.mpr ⟨found, tenant⟩, by simp⟩

theorem replaySchedulingIntent_ensures {request : SchedulingIntentRequest} {row : RunRow} {held : List Key} {db : Db}
    (locks : Locks held db request.claim.tenantID request.claim.id row) (assigned : row.run.status = .provisioning) :
    (replaySchedulingIntent request row).Ensures platform discipline
      (fun r pending held db => ∀ reply, r = .ok reply → Commits (.schedule request) reply pending held db) [] held db := by
  refine ensures_find lenient_ok fun db₁ found rely₁ _ => ensures_find lenient_ok fun db₂ again rely₂ _ => ?_
  refine ensures_check lenient_ok fun _ => ensures_find lenient_ok fun db₃ eventID rely₃ _ => ?_
  refine ensures_find lenient_ok fun db₄ stored rely₄ _ => ensures_check lenient_ok fun _ => ?_
  refine ensures_done fun db₅ rely₅ reply done => ?_
  cases done
  have rely := (((rely₁.trans rely₂).trans rely₃).trans rely₄).trans rely₅
  exact Commit.scheduleReplayed request row _ (locks.stable rely) assigned rfl

/-- Everything that Schedule has established before it writes the assignment. -/
structure Assigning (request : SchedulingIntentRequest) (row : RunRow) (attempt : AgentRunAttempt)
    (policy : SchedulingPolicy) (capacity : ClusterCapacity) (held : List Key) (db : Db) : Prop where
  locks : Locks held db request.claim.tenantID request.claim.id row
  locksAttempt : LocksPending held db row.run request.attemptID request.attemptVersion attempt
  admission : Admission held db (request.reservation row attempt) policy capacity

section Assigning

variable {request : SchedulingIntentRequest} {row : RunRow} {attempt : AgentRunAttempt} {policy : SchedulingPolicy}
  {capacity : ClusterCapacity} {held : List Key} {db : Db}

theorem Assigning.stable {db' : Db} (assigning : Assigning request row attempt policy capacity held db)
    (rely : discipline.Rely held db db') : Assigning request row attempt policy capacity held db' :=
  ⟨assigning.locks.stable rely, assigning.locksAttempt.stable rely, assigning.admission.stable rely⟩

theorem Assigning.mono {held' : List Key} (assigning : Assigning request row attempt policy capacity held db)
    (subset : held ⊆ held') : Assigning request row attempt policy capacity held' db :=
  ⟨assigning.locks.mono subset, assigning.locksAttempt.mono subset, assigning.admission.mono subset⟩

/-- The assignment, written. The keys of what was established so far stay held, the new rows lock their own. -/
theorem recordAssignment_ensures {pending : List Write}
    (leased : row.leasedBy request.leaseOwner request.now request.claim.version = true)
    (assigning : Assigning request row attempt policy capacity held db)
    (holding : Holding (request.reservation row attempt).bundle pending db) :
    (recordAssignment request row attempt).Ensures platform discipline
      (fun r pending held db => ∀ reply, r = .ok reply → Commits (.schedule request) reply pending held db) pending held
      db := by
  have usageKey : Key.usage (request.reservation row attempt).bundle.budget.tenantID
      (request.reservation row attempt).bundle.budget.usageDate ∈ held := assigning.admission.keys (by
    simp [ReservationRequest.bundle])
  have views : ∀ db' more, discipline.Rely held db db' → platform.applyAll db' (pending ++ more) =
      platform.applyAll (db'.hold (request.reservation row attempt).bundle) more := by
    intro db' more rely
    rw [Protocol.applyAll_append, (holding.stable rely usageKey).applyAll]
  refine ensures_exec lenient_ok fun db₁ _ updated rely₁ answered => ?_
  have assigning₁ := assigning.stable rely₁
  rw [(holding.stable rely₁ usageKey).applyAll] at answered ⊢
  have attemptKey := Table.key_of_get? assigning₁.locksAttempt.found
  rw [attemptKey] at answered ⊢
  rcases updateAttempt_ok answered with ⟨-, -, misses⟩ | ⟨attempt₁, effect, -, got, -, -, attemptChecks⟩
  · have missed := misses attempt assigning₁.locksAttempt.found rfl
    simp [assigning₁.locksAttempt.version] at missed
  have same : some attempt₁ = some attempt := got.symm.trans assigning₁.locksAttempt.found
  cases same
  rw [effect]
  refine ensures_exec lenient_ok fun db₂ _ updated rely₂ answered => ensures_check lenient_ok fun hit => ?_
  have rely₂ := rely₁.followed rely₂ (List.subset_append_left _ _)
  have assigning₂ := assigning.stable rely₂
  rw [views db₂ _ rely₂] at answered ⊢
  rcases updateRun_ok answered with ⟨-, rfl⟩ | ⟨row₂, effect, rfl, got, -, -, checks⟩
  · cases hit
  obtain ⟨runFound, tenant⟩ := run?_eq_some.mp assigning₂.locks.found
  have runKey := Table.key_of_get? runFound
  have same : some row₂ = some row := got.symm.trans (runKey ▸ runFound)
  cases same
  rw [effect]
  refine ensures_lift lenient_ok fun event made => ensures_exec lenient_ok fun db₃ _ _ rely₃ inserted => ?_
  obtain ⟨effect, newEvent⟩ := insertEvent_ok inserted
  rw [effect]
  have relied₃ := rely₂.followed rely₃ (by simp)
  rw [List.append_assoc, views db₃ _ relied₃] at newEvent
  refine ensures_exec lenient_ok fun db₄ _ _ rely₄ inserted => ?_
  obtain ⟨effect, newIntent, noIntent⟩ := insertIntent_ok inserted
  rw [effect]
  have relied₄ := relied₃.followed rely₄ (by simp)
  have assumed : pending ++ [.attempt (assignedAttempt request (request.assignment row) attempt)] ++
      [.run (assignedRow request row)] ++ [.event event] =
      pending ++ [.attempt (assignedAttempt request (request.assignment row) attempt), .run (assignedRow request row),
        .event event] := by simp
  unfold Db.NoIntent at noIntent
  rw [assumed, views db₄ _ relied₄] at newIntent noIntent
  refine ensures_done fun db₅ rely₅ reply done => ?_
  cases done
  have relied₅ := relied₄.followed rely₅ (by simp)
  have assigning₅ : Assigning request row attempt policy capacity (held ++ [.attempt request.attemptID] ++
      [.run row.run.id] ++ [.event event.eventID] ++ [.intent request.eventID,
        .intentOf row.run.tenantID row.run.id attempt.attemptNumber]) db₅ :=
    (assigning.stable relied₅).mono (by simp)
  have fromEvent := rely₄.followed rely₅ (by simp)
  unfold Commits
  rw [assumed, List.append_assoc pending, views db₅ _ relied₅]
  refine Commit.scheduled request row attempt policy capacity event leased ⟨assigning₅.locks, checks⟩
    assigning₅.locksAttempt attemptChecks assigning₅.admission ⟨made, ?_, ?_⟩ ?_ ?_ ?_
  · rw [rely_event fromEvent (by simp)]
    exact newEvent
  · simp
  · rw [rely_intent rely₅ (by simp [SchedulingIntentRequest.intent])]
    exact newIntent
  · exact rely_noIntent rely₅ (by simp [SchedulingIntentRequest.intent]) noIntent
  · exact List.subset_append_right _ _

end Assigning

theorem schedule_implements (request : SchedulingIntentRequest) : Implements (.schedule request) := by
  intro db consistent
  refine ensures_lift lenient_ok fun _ _ => lockRun_ensures lenient_ok fun db₁ row consistent₁ locks => ?_
  split
  · next assigned => exact replaySchedulingIntent_ensures locks assigned
  · refine ensures_check lenient_ok fun leased => ensures_check lenient_ok fun _ => ?_
    simp only [Bool.and_eq_true] at leased
    refine ensures_bind lenient_ok consistent₁ lockPendingAttempt_ensures ?_
    rintro attempt _ held₂ db₂ rely₂ - ⟨rfl, subset₂, locksAttempt⟩
    refine ensures_bind lenient_ok rely₂.inv admitEligible_ensures ?_
    rintro _ _ held₃ db₃ rely₃ - ⟨rfl, subset₃, policy, rfl, policyKey, policyRow⟩
    refine ensures_bind lenient_ok rely₃.inv lockEligibleCluster_ensures ?_
    rintro candidate _ held₄ db₄ rely₄ - ⟨rfl, subset₄, clusterKey, snapshot⟩
    have policyRow₄ := (rely_policy rely₄ policyKey).trans policyRow
    have locks₄ := (((((locks.stable rely₂).mono subset₂).stable rely₃).mono subset₃).stable rely₄).mono subset₄
    have locksAttempt₄ := (((locksAttempt.stable rely₃).mono subset₃).stable rely₄).mono subset₄
    refine admission_ensures lenient_ok rely₄.inv (request.reservation row attempt) (subset₄ policyKey) policyRow₄
      clusterKey snapshot fun pending₅ held₅ db₅ rely₅ subset₅ admission holding => ?_
    exact recordAssignment_ensures leased.1 ⟨(locks₄.stable rely₅).mono subset₅,
      (locksAttempt₄.stable rely₅).mono subset₅, admission⟩ holding

/-! ## DeferCapacity and Reject -/

theorem deferCapacity_implements (request : CapacityWaitRequest) : Implements (.deferCapacity request) := by
  intro db consistent
  refine ensures_check lenient_ok fun _ => lockRun_ensures lenient_ok fun db₁ row consistent₁ locks => ?_
  split
  · refine ensures_find lenient_ok fun db₂ again rely₂ _ => ensures_check lenient_ok fun _ => ?_
    refine ensures_find lenient_ok fun db₃ eventID rely₃ _ => ensures_done fun db₄ rely₄ reply done => ?_
    cases done
    exact Commit.deferReplayed request row _ (locks.stable ((rely₂.trans rely₃).trans rely₄)) rfl
  · refine ensures_check lenient_ok fun leased => ensures_exec lenient_ok fun db₂ _ updated rely₂ answered => ?_
    refine ensures_check lenient_ok fun hit => ?_
    rcases updateRun_ok answered with ⟨-, rfl⟩ | ⟨row₂, effect, rfl, got, -, -, checks⟩
    · cases hit
    have locks₂ := locks.stable rely₂
    obtain ⟨found, tenant⟩ := run?_eq_some.mp locks₂.found
    have key := Table.key_of_get? found
    have same : some row₂ = some row := got.symm.trans (key ▸ found)
    cases same
    rw [effect]
    refine ensures_lift lenient_ok fun event made => ensures_exec lenient_ok fun db₃ _ _ rely₃ inserted => ?_
    obtain ⟨effect, newEvent⟩ := insertEvent_ok inserted
    rw [effect]
    refine ensures_done fun db₄ rely₄ reply done => ?_
    cases done
    have fromRun := rely₃.followed rely₄ (by simp)
    refine Commit.deferred request row event leased ⟨?_, checks⟩ ⟨made, ?_, by simp⟩
    · exact ((locks₂.mono (List.subset_append_left _ _)).stable fromRun).mono (by simp)
    · rw [rely_event rely₄ (by simp)]
      exact newEvent

theorem reject_implements (request : SchedulingRejectRequest) : Implements (.reject request) := by
  intro db consistent
  refine ensures_check lenient_ok fun _ => lockRun_ensures lenient_ok fun db₁ row consistent₁ locks => ?_
  split
  · refine ensures_find lenient_ok fun db₂ again rely₂ _ => ensures_check lenient_ok fun _ => ?_
    refine ensures_find lenient_ok fun db₃ eventID rely₃ _ => ensures_find lenient_ok fun db₄ attempt rely₄ _ => ?_
    refine ensures_check lenient_ok fun _ => ensures_done fun db₅ rely₅ reply done => ?_
    cases done
    exact Commit.rejectReplayed request row _ (locks.stable (((rely₂.trans rely₃).trans rely₄).trans rely₅)) rfl
  · refine ensures_check lenient_ok fun leased => ?_
    refine ensures_bind lenient_ok consistent₁ lockPendingAttempt_ensures ?_
    rintro attempt _ held₂ db₂ rely₂ - ⟨rfl, subset₂, locksAttempt⟩
    have locks₂ := (locks.stable rely₂).mono subset₂
    refine ensures_exec lenient_ok fun db₃ _ updated rely₃ answered => ensures_check lenient_ok fun hit => ?_
    rcases updateAttempt_ok answered with ⟨-, rfl, -⟩ | ⟨attempt₃, effect, rfl, got, -, -, attemptChecks⟩
    · cases hit
    have locksAttempt₃ := locksAttempt.stable rely₃
    have attemptKey := Table.key_of_get? locksAttempt₃.found
    have same : some attempt₃ = some attempt := got.symm.trans (attemptKey ▸ locksAttempt₃.found)
    cases same
    rw [effect]
    refine ensures_exec lenient_ok fun db₄ _ updated rely₄ answered => ensures_check lenient_ok fun hit => ?_
    rcases updateRun_ok answered with ⟨-, rfl⟩ | ⟨row₄, effect, rfl, got, -, -, checks⟩
    · cases hit
    have relied₄ := rely₃.followed rely₄ (by simp)
    have locks₄ := locks₂.stable relied₄
    obtain ⟨found, tenant⟩ := run?_eq_some.mp locks₄.found
    have key := Table.key_of_get? found
    have same : some row₄ = some row := got.symm.trans (key ▸ found)
    cases same
    rw [effect]
    refine ensures_lift lenient_ok fun event made => ensures_exec lenient_ok fun db₅ _ _ rely₅ inserted => ?_
    obtain ⟨effect, newEvent⟩ := insertEvent_ok inserted
    rw [effect]
    refine ensures_done fun db₆ rely₆ reply done => ?_
    cases done
    have relied₆ := (relied₄.followed rely₅ (by simp)).followed rely₆ (by simp)
    refine Commit.rejected request row attempt event leased ⟨?_, checks⟩ ?_ attemptChecks ⟨made, ?_, by simp⟩
    · exact (locks₂.stable relied₆).mono (by simp)
    · exact (locksAttempt.stable relied₆).mono (by simp)
    · rw [rely_event rely₆ (by simp)]
      exact newEvent

end AgentForge.Platform
