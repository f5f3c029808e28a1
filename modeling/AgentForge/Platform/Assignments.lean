import AgentForge.Platform.Alone

/-!
# Assignments

What a Schedule that assigns a run commits, that it happens at most once for an attempt and never after a
cancellation, and which assignment a replayed Schedule returns.
-/

set_option autoImplicit false

namespace AgentForge.Platform

open Operator Lib

/-- The request of a Schedule call that committed a new assignment. -/
def assignment? (o : platform.Outcome) : Option SchedulingIntentRequest :=
  match o with
  | ⟨.schedule request, .ok result, _, _⟩ => if SchedulingIntentResult.replayed result then none else some request
  | _ => none

/-- The request of a Cancel call that committed a cancellation. -/
def cancellation? (o : platform.Outcome) : Option CancelRunRequest :=
  match o with
  | ⟨.cancel request, .ok result, _, _⟩ => if RunCommandResult.replayed result then none else some request
  | _ => none

variable {o p : platform.Outcome} {request r' : SchedulingIntentRequest} {before after start last db : Db}

theorem assignment?_eq_some (assigned : assignment? o = some request) :
    ∃ result before after, o = ⟨.schedule request, .ok result, before, after⟩ ∧
      SchedulingIntentResult.replayed result = false := by
  unfold assignment? at assigned
  split at assigned
  · next request' result before after =>
    split at assigned
    · cases assigned
    · next new =>
      cases assigned
      exact ⟨result, before, after, rfl, by simpa using new⟩
  · cases assigned

theorem cancellation?_eq_some {request : CancelRunRequest} (cancelled : cancellation? o = some request) :
    ∃ result before after, o = ⟨.cancel request, .ok result, before, after⟩ ∧ RunCommandResult.replayed result = false := by
  unfold cancellation? at cancelled
  split at cancelled
  · next request' result before after =>
    split at cancelled
    · cases cancelled
    · next new =>
      cases cancelled
      exact ⟨result, before, after, rfl, by simpa using new⟩
  · cases cancelled

/-- What the commit of an assignment has found and written. -/
structure Assigns (request : SchedulingIntentRequest) (row : RunRow) (attempt : AgentRunAttempt) (event : OutboxEvent)
    (before after : Db) : Prop where
  found : before.run? request.claim.tenantID request.claim.id = some row
  leased : row.leasedBy request.leaseOwner request.now request.claim.version = true
  current : before.attempts.get? request.attemptID = some attempt
  runID : attempt.runID = row.run.id
  number : attempt.attemptNumber = row.run.attemptCount
  pending : attempt.status = .pending
  published : newAgentRunScheduled (request.assignedRun row.run) attempt (request.assignment row) request.eventID
    request.correlationID request.causationID = .ok event
  newCapacity : before.capacities.get? request.capacityID = none
  newBudget : before.budgets.get? request.budgetID = none
  newEvent : before.outbox.get? event.eventID = none
  newIntent : before.intents.get? request.eventID = none
  writes : after = before.assign request row attempt event

/-- A successful Schedule either replays an assignment or commits one. -/
theorem Commit.schedule_cases {held : List Key} {result : SchedulingIntentResult}
    (commit : Commit held before (.schedule request) result after) :
    (result.replayed = true ∧ after = before ∧
      ∃ row, before.run? request.claim.tenantID request.claim.id = some row ∧ row.run.status = .provisioning) ∨
    result.replayed = false ∧ ∃ row attempt event, Assigns request row attempt event before after := by
  cases commit with
  | scheduleReplayed _ row _ locks assigned replayed => exact .inl ⟨replayed, rfl, row, locks.found, assigned⟩
  | scheduled _ row attempt policy capacity event leased updates locks checks admission publishes newIntent =>
    exact .inr ⟨rfl, row, attempt, event, updates.found, leased, locks.found, locks.runID, locks.number, locks.pending,
      publishes.made, admission.newCapacity, admission.newBudget, publishes.new, newIntent, rfl⟩

theorem Ended.assigns (ended : Ended o) (assigned : assignment? o = some request) :
    ∃ row attempt event, Assigns request row attempt event o.before o.after := by
  obtain ⟨result, before, after, rfl, new⟩ := assignment?_eq_some assigned
  obtain ⟨held, commit⟩ := ended.commit
  rcases commit.schedule_cases with ⟨replayed, -⟩ | ⟨-, assigns⟩
  · rw [new] at replayed
    cases replayed
  · exact assigns

namespace Assigns

variable {row : RunRow} {attempt : AgentRunAttempt} {event : OutboxEvent}

theorem status (assigns : Assigns request row attempt event before after) :
    row.run.status = .scheduling ∧ row.run.version = request.claim.version := by
  have leased := assigns.leased
  simp only [RunRow.leasedBy, Bool.and_eq_true, beq_iff_eq] at leased
  exact leased.1

theorem event_eq (assigns : Assigns request row attempt event before after) :
    event.eventID = request.eventID ∧ event.tenantID = row.run.tenantID ∧ event.runID = row.run.id ∧
      event.aggregateVersion = row.run.version + 1 ∧ event.payload = .scheduled attempt.id attempt.attemptNumber
        request.clusterID row.executionProfile request.capacityID request.budgetID row.run.cpuMillis row.run.memoryMiB := by
  obtain rfl := newEvent_ok assigns.published
  exact ⟨rfl, rfl, rfl, rfl, rfl⟩

theorem run_after (assigns : Assigns request row attempt event before after) :
    after.runs.get? request.claim.id = some (assignedRow request row) := by
  obtain ⟨found, -⟩ := run?_eq_some.mp assigns.found
  have key := Table.key_of_get? found
  have put := Table.get?_put_self (t := before.runs) (r := assignedRow request row)
  rw [assigns.writes, ← key]
  exact put

theorem attempt_after (assigns : Assigns request row attempt event before after) :
    after.attempts.get? request.attemptID = some (assignedAttempt request (request.assignment row) attempt) := by
  have key := Table.key_of_get? assigns.current
  have put := Table.get?_put_self (t := before.attempts) (r := assignedAttempt request (request.assignment row) attempt)
  rw [assigns.writes, ← key]
  exact put

theorem event_after (assigns : Assigns request row attempt event before after) :
    after.outbox.get? request.eventID = some event := by
  have put := Table.get?_put_self (t := before.outbox) (r := event)
  rw [assigns.writes, ← assigns.event_eq.1]
  exact put

end Assigns

/-! ## One assignment for an attempt -/

/-- The rows that an assignment adds, one of each kind and all for one attempt. -/
structure AssignmentRows (request : SchedulingIntentRequest) (attempt : AgentRunAttempt) (before after : Db) : Prop where
  capacity : ∃ c, Table.Inserts before.capacities after.capacities c ∧ c.id = request.capacityID ∧
    c.attemptID = attempt.id ∧ c.runID = attempt.runID ∧ c.attemptNumber = attempt.attemptNumber
  budget : ∃ b, Table.Inserts before.budgets after.budgets b ∧ b.id = request.budgetID ∧
    b.capacityReservationID = request.capacityID ∧ b.runID = attempt.runID ∧ b.attemptNumber = attempt.attemptNumber
  event : ∃ e, Table.Inserts before.outbox after.outbox e ∧ e.eventID = request.eventID ∧ e.runID = attempt.runID ∧
    ∃ clusterID profile cpu memory, e.payload = .scheduled attempt.id attempt.attemptNumber clusterID profile
      request.capacityID request.budgetID cpu memory
  intent : ∃ i, Table.Inserts before.intents after.intents i ∧ i.eventID = request.eventID ∧ i.attemptID = attempt.id ∧
    i.runID = attempt.runID ∧ i.attemptNumber = attempt.attemptNumber

theorem Assigns.rows {row : RunRow} {attempt : AgentRunAttempt} {event : OutboxEvent}
    (assigns : Assigns request row attempt event before after) : AssignmentRows request attempt before after := by
  obtain ⟨eventID, -, runID, -, payload⟩ := assigns.event_eq
  have newEvent := assigns.newEvent
  rw [assigns.writes]
  constructor
  · exact ⟨(request.reservation row attempt).bundle.stored.capacity, .put assigns.newCapacity, rfl, rfl,
      assigns.runID.symm, rfl⟩
  · exact ⟨(request.reservation row attempt).bundle.stored.budget, .put assigns.newBudget, rfl, rfl,
      assigns.runID.symm, rfl⟩
  · exact ⟨event, .put newEvent, eventID, runID.trans assigns.runID.symm, _, _, _, _, payload⟩
  · exact ⟨request.intent row attempt, .put assigns.newIntent, rfl, rfl, assigns.runID.symm, rfl⟩

/-- An attempt that was assigned is not assigned again. -/
theorem History.assigned_once {front middle back : List platform.Outcome}
    (history : History start (front ++ o :: (middle ++ p :: back)) last) {r : SchedulingIntentRequest}
    (first : assignment? o = some r) (second : assignment? p = some r') : r.attemptID ≠ r'.attemptID := by
  intro same
  obtain ⟨row, attempt, event, assigns⟩ := history.ended_at.assigns first
  obtain ⟨row', attempt', event', assigns'⟩ := (history.ended p (by simp)).assigns second
  -- the first assignment takes the attempt out of PENDING, where it never comes back to
  obtain ⟨later, found, evolves⟩ := history.growth_between.attempts _ _ assigns.attempt_after
  rw [same, assigns'.current] at found
  cases found
  exact evolves.started (by simp [assignedAttempt]) assigns'.pending

/-- A run that was cancelled is not assigned. -/
theorem History.cancelled_unassigned {front middle back : List platform.Outcome}
    (history : History start (front ++ o :: (middle ++ p :: back)) last) {r : CancelRunRequest}
    (first : cancellation? o = some r) (second : assignment? p = some r') : r'.claim.id ≠ r.runID := by
  intro same
  obtain ⟨row', attempt', event', assigns'⟩ := (history.ended p (by simp)).assigns second
  have growth := history.growth_between
  obtain ⟨result, before, after, rfl, new⟩ := cancellation?_eq_some first
  obtain ⟨held, commit⟩ := history.ended_at.commit
  cases commit with
  | cancelReplayed => cases new
  | cancelRepeated => cases new
  | cancelled _ row moved event receipt going moves updates publishes =>
    obtain ⟨-, key, -⟩ := updates.get?
    have put := Table.get?_put_self (t := before.runs) (r := cancelledRow r moved.bumped row)
    have cancelled : (before.publish (cancelledRow r moved.bumped row) event).runs.get? r.runID =
        some (cancelledRow r moved.bumped row) := key ▸ put
    obtain ⟨later, found, evolves⟩ := growth.runs _ _ cancelled
    rw [← same, (run?_eq_some.mp assigns'.found).1] at found
    cases found
    have stays := evolves.cancel (by rw [cancelledRow_status moves]; rfl)
    rw [assigns'.status.1] at stays
    cases stays

/-- In every interleaving: an assignment is committed only for a run that is SCHEDULING under the caller's unexpired
lease at the claimed version, together with one row of each kind; no attempt is assigned twice, and no run after its
cancellation. -/
theorem assignments_exclusive {start : Db} {s : platform.System} (fresh : start.Fresh)
    (reachable : Protocol.Reachable start s) :
    (∀ o ∈ s.history, ∀ request, assignment? o = some request → ∃ row attempt,
      o.before.run? request.claim.tenantID request.claim.id = some row ∧
      row.leasedBy request.leaseOwner request.now request.claim.version = true ∧
      o.before.attempts.get? request.attemptID = some attempt ∧ attempt.runID = row.run.id ∧
      AssignmentRows request attempt o.before o.after) ∧
    ∀ front middle back o p, s.history = front ++ o :: (middle ++ p :: back) → ∀ r', assignment? p = some r' →
      (∀ r, assignment? o = some r → r.attemptID ≠ r'.attemptID) ∧
        ∀ r, cancellation? o = some r → r'.claim.id ≠ r.runID := by
  have history := history_of_reachable fresh reachable
  constructor
  · intro o member request assigned
    obtain ⟨row, attempt, event, assigns⟩ := (history.ended o member).assigns assigned
    exact ⟨row, attempt, assigns.found, assigns.leased, assigns.current, assigns.runID, assigns.rows⟩
  · intro front middle back o p split r' second
    rw [split] at history
    exact ⟨fun r first => history.assigned_once first second, fun r first => history.cancelled_unassigned first second⟩

/-- Acme schedules a run, and its own second Schedule is a replay. -/
theorem acme_assigned_once :
    let request := Acme.intent (Acme.claimed 10 11 1 2 0) 1001 20
    let s := ranFrom Acme.db [Acme.create 10 "k", Acme.claim 1000, .schedule request, .schedule request]
    (∃ o ∈ s.history, assignment? o = some request ∧ ∃ attempt, AssignmentRows request attempt o.before o.after) ∧
      s.history.map (fun o => o.result.toBool) = [true, true, true, true] := by
  intro request s
  -- one evaluation of the run for both facts
  have facts : (∃ o ∈ s.history, assignment? o = some request) ∧
      s.history.map (fun o => o.result.toBool) = [true, true, true, true] := by decide +kernel
  refine ⟨?_, facts.2⟩
  obtain ⟨o, member, assigned⟩ := facts.1
  obtain ⟨-, attempt, -, -, -, -, rows⟩ :=
    (assignments_exclusive Acme.db_fresh (ranFrom_reachable _ _)).1 o member request assigned
  exact ⟨o, member, assigned, attempt, rows⟩

/-! ## Replays -/

/-- An event of type scheduled is the event of an assignment. -/
theorem Commit.scheduled_event {held : List Key} {call : Call} {reply : call.Reply}
    (commit : Commit held before call reply after) {e : OutboxEvent} (member : e ∈ after.outbox)
    (type : e.eventType = .scheduled) :
    e ∈ before.outbox ∨ ∃ request row attempt, assignment? ⟨call, .ok reply, before, after⟩ = some request ∧
      Assigns request row attempt e before after := by
  cases commit with
  | created request event initial publishes =>
    rcases Table.mem_put.mp member with rfl | ⟨old, -⟩
    · obtain rfl := newEvent_ok publishes.made
      cases type
    · exact .inl old
  | cancelled request row moved event receipt going moves updates publishes =>
    rcases Table.mem_put.mp member with rfl | ⟨old, -⟩
    · obtain rfl := newEvent_ok publishes.made
      cases type
    · exact .inl old
  | retried request row moved attempt event receipt retryable moves made updates checks newAttempt key publishes =>
    rcases Table.mem_put.mp member with rfl | ⟨old, -⟩
    · obtain rfl := newEvent_ok publishes.made
      cases type
    · exact .inl old
  | deferred request row event leased updates publishes =>
    rcases Table.mem_put.mp member with rfl | ⟨old, -⟩
    · obtain rfl := newEvent_ok publishes.made
      cases type
    · exact .inl old
  | rejected request row attempt event leased updates locks checks publishes =>
    rcases Table.mem_put.mp member with rfl | ⟨old, -⟩
    · obtain rfl := newEvent_ok publishes.made
      cases type
    · exact .inl old
  | scheduled request row attempt policy capacity event leased updates locks checks admission publishes newIntent =>
    rcases Table.mem_put.mp member with rfl | ⟨old, -⟩
    · exact .inr ⟨request, row, attempt, rfl, updates.found, leased, locks.found, locks.runID, locks.number,
        locks.pending, publishes.made, admission.newCapacity, admission.newBudget, publishes.new, newIntent, rfl⟩
    · exact .inl old
  | administered change => cases change <;> exact .inl member
  | _ => exact .inl member

namespace History

variable {outcomes : List platform.Outcome}

/-- Every scheduled event comes from an assignment of the history. -/
theorem scheduled_event (history : History start outcomes last) :
    ∀ e ∈ last.outbox, e.eventType = .scheduled → ∃ o ∈ outcomes, ∃ request row attempt,
      assignment? o = some request ∧ Assigns request row attempt e o.before o.after := by
  refine history.chain.record (I := fun past db => ∀ e ∈ db.outbox, e.eventType = .scheduled → ∃ o ∈ past,
    ∃ request row attempt, assignment? o = some request ∧ Assigns request row attempt e o.before o.after) ?_ ?_
  · intro e member
    rw [Table.mem_def, history.fresh.outbox] at member
    cases member
  · intro past o member known e inside type
    have older : e ∈ o.before.outbox → ∃ p ∈ past ++ [o], ∃ request row attempt,
        assignment? p = some request ∧ Assigns request row attempt e p.before p.after := by
      intro old
      obtain ⟨p, earlier, origin⟩ := known e old type
      exact ⟨p, List.mem_append_left _ earlier, origin⟩
    rcases (history.ended o member).cases with ⟨reply, held, result, commit⟩ | ⟨-, same⟩
    · rcases commit.scheduled_event inside type with old | ⟨request, row, attempt, assigned, assigns⟩
      · exact older old
      · refine ⟨o, by simp, request, row, attempt, ?_, assigns⟩
        rw [← assigned, ← result]
    · exact older (same ▸ inside)

/-- While the run has the version that an assignment gave it, the assigned attempt is its current one. -/
theorem still_assigned (history : History start outcomes last) {o : platform.Outcome} (member : o ∈ outcomes)
    {request : SchedulingIntentRequest} {row : RunRow} {attempt : AgentRunAttempt} {event : OutboxEvent}
    (assigns : Assigns request row attempt event o.before o.after) :
    (∃ e, last.outbox.get? request.eventID = some e ∧ e = event) ∧
    (∃ a, last.attempts.get? request.attemptID = some a ∧ a.identity = attempt.identity ∧
      a.assignment = some (request.assignment row)) ∧
    ∀ row', last.runs.get? request.claim.id = some row' → row'.run.version = request.claim.version + 1 →
      row' = assignedRow request row := by
  obtain ⟨front, back, rfl⟩ := List.append_of_mem member
  have growth := history.growth_since
  refine ⟨?_, ?_, fun row' found version => ?_⟩
  · obtain ⟨e, found, same⟩ := growth.outbox _ _ assigns.event_after
    exact ⟨e, found, same.symm⟩
  · obtain ⟨a, found, evolves⟩ := growth.attempts _ _ assigns.attempt_after
    exact ⟨a, found, evolves.identity, evolves.assignment _ rfl⟩
  · obtain ⟨later, got, evolves⟩ := growth.runs _ _ assigns.run_after
    rw [found] at got
    cases got
    rcases evolves.version with same | newer
    · exact same
    · have old : (assignedRow request row).run.version = request.claim.version + 1 := by
        rw [← assigns.status.2]
        rfl
      omega

end History

theorem assigned?_eq_some {row : RunRow} {attempt : AgentRunAttempt} {assignment : Assignment}
    {capacity : CapacityReservation} {budget : BudgetReservation}
    (found : db.assigned? row.run = some (attempt, assignment, capacity, budget)) :
    db.currentAttempt? row = some attempt ∧ attempt.assignment = some assignment := by
  unfold Db.assigned? at found
  simp only [bind, Option.bind_eq_some_iff, pure, Option.some.injEq, Prod.mk.injEq] at found
  obtain ⟨a, current, x, assigned, c, -, b, -, rfl, rfl, -, -⟩ := found
  exact ⟨current, assigned⟩

/-- What a replay, run alone, has found. -/
theorem replayed_of_alone {result : SchedulingIntentResult} (consistent : Consistent db)
    (ran : runAlone (schedule request) db = (.ok result, after)) (replayed : result.replayed = true) :
    ∃ row attempt assignment event, db.run? request.claim.tenantID request.claim.id = some row ∧
      db.currentAttempt? row = some attempt ∧ attempt.assignment = some assignment ∧
      db.event? row.run.tenantID row.run.id .scheduled row.run.version = some event ∧
      result = ⟨row.run.version, attempt.version, assignment.capacityReservationID, assignment.budgetReservationID,
        event.eventID, true⟩ := by
  obtain ⟨held, commit⟩ := commit_of_alone (.schedule request) consistent ran
  rcases commit.schedule_cases with ⟨-, rfl, row, found, status⟩ | ⟨new, -⟩
  · rw [runAlone, Tx.alone_eq_ok, schedule, view_lift] at ran
    split at ran
    · rw [lockRun, view_findLocked, found] at ran
      simp only [status, if_true, replaySchedulingIntent, view_find, selectRun, selectEvent, selectIntent] at ran
      split at ran
      · next whole located =>
        obtain ⟨attempt, assignment, capacity, budget⟩ := whole
        obtain ⟨current, assigned⟩ := assigned?_eq_some located
        simp only [view_find, view_check] at ran
        split at ran
        · split at ran
          · cases published : after.event? row.run.tenantID row.run.id .scheduled row.run.version with
            | none => rw [published] at ran; cases ran
            | some event =>
              rw [published] at ran
              dsimp only [Option.map_some] at ran
              split at ran
              · split at ran
                · cases ran
                  exact ⟨row, attempt, assignment, event, found, current, assigned, published, rfl⟩
                · cases ran
              · cases ran
          · cases ran
        · cases ran
      · cases ran
    · cases ran
  · rw [replayed] at new
    cases new

/-- The result is that of the assignment which was committed for the request's attempt from its claimed version, and
the attempt has the version it says. -/
def SchedulingIntentResult.BelongsTo (result : SchedulingIntentResult) (request : SchedulingIntentRequest)
    (s : platform.System) : Prop :=
  (∃ o ∈ s.history, ∃ r, assignment? o = some r ∧ r.claim.id = request.claim.id ∧ r.attemptID = request.attemptID ∧
    r.claim.version = request.claim.version ∧ result.capacityReservationID = r.capacityID ∧
    result.budgetReservationID = r.budgetID ∧ result.eventID = r.eventID) ∧
  ∃ attempt, s.db.attempts.get? request.attemptID = some attempt ∧ attempt.version = result.attemptVersion

/-- A replayed Schedule returns the assignment of its attempt and claim exactly if the attempt is the current one of
the run and the run still has the version after the claimed one; the code does not compare either. -/
theorem replay_belongs_iff {start : Db} {s : platform.System} (fresh : start.Fresh)
    (reachable : Protocol.Reachable start s) {request : SchedulingIntentRequest} {result : SchedulingIntentResult}
    {after : Db} (ran : runAlone (schedule request) s.db = (.ok result, after)) (replayed : result.replayed = true) :
    result.BelongsTo request s ↔ ∃ row attempt, s.db.run? request.claim.tenantID request.claim.id = some row ∧
      s.db.currentAttempt? row = some attempt ∧ attempt.id = request.attemptID ∧
      row.run.version = request.claim.version + 1 := by
  have history := history_of_reachable fresh reachable
  have consistent := history.consistent
  obtain ⟨row, attempt, assignment, event, found, current, assigned, published, rfl⟩ :=
    replayed_of_alone consistent ran replayed
  obtain ⟨got, tenant⟩ := run?_eq_some.mp found
  have key := Table.key_of_get? got
  obtain ⟨inside, -, runID, number⟩ := attempt?_eq_some current
  have passes := List.find?_some published
  simp only [Bool.and_eq_true, beq_iff_eq] at passes
  obtain ⟨⟨⟨-, eventRun⟩, type⟩, eventVersion⟩ := passes
  have member : event ∈ s.db.outbox := List.mem_of_find?_eq_some published
  -- the assignment that the event comes from is the last one of the run
  obtain ⟨o, ofHistory, r, row₀, attempt₀, ofRequest, assigns⟩ := history.scheduled_event event member type
  obtain ⟨eventID, -, eventRun₀, eventVersion₀, payload⟩ := assigns.event_eq
  obtain ⟨found₀, -⟩ := run?_eq_some.mp assigns.found
  have key₀ := Table.key_of_get? found₀
  have sameRun : r.claim.id = request.claim.id := by rw [← key₀, ← eventRun₀, eventRun, key]
  have version₀ : row.run.version = r.claim.version + 1 := by rw [← eventVersion, eventVersion₀, assigns.status.2]
  obtain ⟨-, ⟨a, foundA, identity, assignedA⟩, still⟩ := history.still_assigned ofHistory assigns
  have row_eq : row = assignedRow r row₀ := still row (sameRun ▸ got) version₀
  have attempt_eq : attempt = a := by
    refine consistent.numbered.unique attempt inside a (Table.mem_of_get? foundA) ?_ ?_
    · rw [runID, key, AgentRunAttempt.runID_eq identity, assigns.runID, key₀, sameRun]
    · rw [number, AgentRunAttempt.number_eq identity, assigns.number, row_eq]
      rfl
  have attemptID := Table.key_of_get? foundA
  rw [← attempt_eq] at attemptID foundA assignedA
  rw [assigned] at assignedA
  cases assignedA
  constructor
  · rintro ⟨⟨p, ofHistory', r', ofRequest', -, sameAttempt, sameVersion, -, -, sameEvent⟩, -⟩
    obtain ⟨row', attempt', event', assigns'⟩ := (history.ended p ofHistory').assigns ofRequest'
    -- the same event, hence the same version and attempt
    obtain ⟨⟨e, foundE, rfl⟩, -⟩ := history.still_assigned ofHistory' assigns'
    have same : some event = some e := by
      rw [← foundE, ← sameEvent]
      exact (Table.get?_key member).symm
    cases same
    obtain ⟨-, -, -, version', payload'⟩ := assigns'.event_eq
    have ids : attempt₀.id = attempt'.id := by
      rw [payload] at payload'
      injection payload'
    have key' := Table.key_of_get? assigns'.current
    have key'' := Table.key_of_get? assigns.current
    refine ⟨row, attempt, found, current, ?_, ?_⟩
    · rw [attemptID, ← key'', ids, key', sameAttempt]
    · rw [← eventVersion, version', assigns'.status.2, sameVersion]
  · rintro ⟨row', attempt', found', current', isCurrent, isVersion⟩
    rw [found] at found'
    cases found'
    rw [current] at current'
    cases current'
    refine ⟨⟨o, ofHistory, r, ofRequest, sameRun, ?_, ?_, rfl, rfl, eventID⟩, attempt, ?_, rfl⟩
    · rw [← isCurrent, attemptID]
    · omega
    · rw [← isCurrent, attemptID]
      exact foundA

/-- Acme schedules a run, retries it and schedules its second attempt with equal parameters. -/
def acmeRescheduled : platform.System :=
  ranFrom Acme.db [Acme.create 10 "k", Acme.claim 1000, .schedule (Acme.intent (Acme.claimed 10 11 1 2 0) 1001 20),
    Acme.fail 10 .provisioningFailed 1010, .retry (Acme.retry 10 "again" 1020 30), Acme.claim 1030,
    .schedule (Acme.intent (Acme.claimed 10 30 2 6 0) 1031 40)]

theorem acmeRescheduled_reachable : Protocol.Reachable Acme.db acmeRescheduled := ranFrom_reachable _ _

/-- What both Schedule requests are answered afterwards, the assignments of the first attempt, and the attempt that the
run is at. -/
theorem acmeRescheduled_answers :
    (runAlone (schedule (Acme.intent (Acme.claimed 10 11 1 2 0) 1001 20)) acmeRescheduled.db).1 =
        .ok ⟨7, 2, Acme.id 40, Acme.id 41, Acme.id 42, true⟩ ∧
      (runAlone (schedule (Acme.intent (Acme.claimed 10 30 2 6 0) 1031 40)) acmeRescheduled.db).1 =
        .ok ⟨7, 2, Acme.id 40, Acme.id 41, Acme.id 42, true⟩ ∧
      (∀ o ∈ acmeRescheduled.history, (assignment? o).all
        (fun r => r.attemptID != Acme.id 11 || r.capacityID != Acme.id 40) = true) ∧
      (acmeRescheduled.db.run? Acme.tenantID (Acme.id 10)).bind (fun row =>
        (acmeRescheduled.db.currentAttempt? row).map fun attempt => (row.run.version, attempt.id)) =
          some (7, Acme.id 30) := by decide +kernel

/-- The Schedule request of the first attempt is answered with the reservations of the second. -/
theorem acme_stale_replay :
    Protocol.Reachable Acme.db acmeRescheduled ∧ ∃ result after,
      runAlone (schedule (Acme.intent (Acme.claimed 10 11 1 2 0) 1001 20)) acmeRescheduled.db = (.ok result, after) ∧
      result.replayed = true ∧ ¬result.BelongsTo (Acme.intent (Acme.claimed 10 11 1 2 0) 1001 20) acmeRescheduled := by
  obtain ⟨ran, -, other, -⟩ := acmeRescheduled_answers
  refine ⟨acmeRescheduled_reachable, _, _, runAlone_eq ran, rfl, ?_⟩
  rintro ⟨⟨o, member, r, assigned, -, sameAttempt, -, sameCapacity, -⟩, -⟩
  have mismatch := other o member
  simp only [assigned, Option.all_some, Bool.or_eq_true, bne_iff_ne] at mismatch
  rcases mismatch with differs | differs
  · exact differs sameAttempt
  · exact differs sameCapacity.symm

/-- The Schedule request of the second attempt is answered with its own assignment. -/
theorem acme_current_replay :
    ∃ result after, runAlone (schedule (Acme.intent (Acme.claimed 10 30 2 6 0) 1031 40)) acmeRescheduled.db =
      (.ok result, after) ∧ result.replayed = true ∧
      result.BelongsTo (Acme.intent (Acme.claimed 10 30 2 6 0) 1031 40) acmeRescheduled := by
  obtain ⟨-, ran, -, current⟩ := acmeRescheduled_answers
  obtain ⟨row, found, rest⟩ := Option.bind_eq_some_iff.mp current
  obtain ⟨attempt, isCurrent, same⟩ := Option.map_eq_some_iff.mp rest
  obtain ⟨version, attemptID⟩ := Prod.mk.inj same
  exact ⟨_, _, runAlone_eq ran, rfl, (replay_belongs_iff Acme.db_fresh acmeRescheduled_reachable (runAlone_eq ran)
    rfl).mpr ⟨row, attempt, found, isCurrent, attemptID, version⟩⟩

end AgentForge.Platform
