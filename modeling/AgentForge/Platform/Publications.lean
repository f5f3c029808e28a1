import AgentForge.Platform.Tenancy

/-!
# The events of a run

Which commits write an event to the outbox, and the version it carries. A command computes the version of its event
from the row it read, and the UPDATE counts the version of the row it finds; the optimistic checks make the two agree,
so that the events of a run are numbered by the versions of its row.
-/

set_option autoImplicit false

namespace AgentForge.Platform

open Operator Lib

/-- The calls of clients and of the Scheduler on runs. -/
def Call.isCommand : Call → Bool
  | create _ | claim _ | renew _ | schedule _ | deferCapacity _ | reject _ | cancel _ | retry _ => true
  | _ => false

def Call.isRetry : Call → Bool
  | retry _ => true
  | _ => false

/-- The changes of status that have an event. -/
def Call.announces (call : Call) : AgentRunStatus → Bool
  | .provisioning | .capacityWait | .policyRejected | .cancelling => true
  | .queued => call.isRetry
  | _ => false

/-- The events that a call has committed. -/
def Published (o : platform.Outcome) (event : OutboxEvent) : Prop :=
  event ∈ o.after.outbox ∧ o.before.outbox.get? event.eventID = none

/-- A call creates a run, or changes its status to one that is announced. -/
def Announces (call : Call) (before after : Db) (id : UUID) : Prop :=
  ∃ row', after.runs.get? id = some row' ∧ (before.runs.get? id = none ∨
    ∃ row, before.runs.get? id = some row ∧ row.run.status ≠ row'.run.status ∧ call.announces row'.run.status = true)

/-- A commit that writes an event. -/
structure Announcement (call : Call) (before after : Db) (event : OutboxEvent) (row' : RunRow) : Prop where
  command : call.isCommand = true
  new : before.outbox.get? event.eventID = none
  outbox : after.outbox = before.outbox.put event
  runs : after.runs = before.runs.put row'
  runID : event.runID = row'.run.id
  version : event.aggregateVersion = row'.run.version
  changes : before.runs.get? row'.run.id = none ∨ ∃ row, before.runs.get? row'.run.id = some row ∧
    row'.run.version = row.run.version + 1 ∧ row.run.status ≠ row'.run.status ∧ call.announces row'.run.status = true

/-- A transition leaves the version alone. -/
theorem AgentRun.transition_version {run run' : AgentRun} {target : AgentRunStatus} {failure : Failure} {now : Time}
    (moved : run.transition target failure now = .ok run') : run'.version = run.version := by
  obtain ⟨-, ⟨-, rfl⟩ | ⟨-, -, rfl⟩⟩ := transition_ok moved
  · rfl
  · unfold enter
    split
    · rfl
    · split <;> rfl

section Commits

variable {held : List Key} {before after : Db} {call : Call} {reply : call.Reply}

/-- A commit that leaves the runs alone announces nothing. -/
theorem not_announces_of_runs (same : after.runs = before.runs) (id : UUID) : ¬Announces call before after id := by
  rintro ⟨row', found, absent | ⟨row, old, differs, -⟩⟩
  · rw [same, absent] at found
    cases found
  · rw [same, old] at found
    cases found
    exact differs rfl

/-- A commit that puts runs as SCHEDULING announces nothing. -/
theorem not_announces_of_scheduling (rows : List RunRow) (runs : after.runs = rows.foldl Table.put before.runs)
    (old : ∀ row' ∈ rows, (before.runs.get? row'.run.id).isSome = true ∧ row'.run.status = .scheduling) (id : UUID) :
    ¬Announces call before after id := by
  rintro ⟨row', found, changed⟩
  have key := Table.key_of_get? found
  rw [runs] at found
  rcases Table.mem_foldl_put (Table.mem_of_get? found) with put | kept
  · obtain ⟨some, scheduling⟩ := old row' put
    rw [key] at some
    rcases changed with absent | ⟨row, -, -, announced⟩
    · rw [absent] at some
      cases some
    · rw [scheduling] at announced
      cases announced
  · have stored := Table.get?_key kept
    rcases changed with absent | ⟨row, same, differs, -⟩
    · rw [← key, stored] at absent
      cases absent
    · rw [← key, stored] at same
      cases same
      exact differs rfl

/-- The announcement of a command that updates a run. -/
theorem Updates.announcement {tenantID id : UUID} {row row' : RunRow} {event : OutboxEvent}
    {made : Except Error OutboxEvent} (updates : Updates held before tenantID id row row')
    (publishes : Publishes held before made event) (command : call.isCommand = true)
    (outbox : after.outbox = before.outbox.put event) (runs : after.runs = before.runs.put row')
    (same : row'.run.id = row.run.id) (runID : event.runID = row.run.id)
    (version : event.aggregateVersion = row.run.version + 1) (counted : row'.run.version = row.run.version + 1)
    (differs : row.run.status ≠ row'.run.status) (announced : call.announces row'.run.status = true) :
    Announcement call before after event row' := by
  obtain ⟨found, key, -⟩ := updates.get?
  refine ⟨command, publishes.new, outbox, runs, runID.trans same.symm, version.trans counted.symm, .inr ?_⟩
  refine ⟨row, ?_, counted, differs, announced⟩
  rw [same, key]
  exact found

theorem RunRow.differs_of_leased {row : RunRow} {owner : String} {now : Time} {version : Int} {status : AgentRunStatus}
    (leased : row.leasedBy owner now version = true) (other : .scheduling ≠ status) : row.run.status ≠ status := by
  simp only [RunRow.leasedBy, Bool.and_eq_true, beq_iff_eq] at leased
  rw [leased.1.1]
  exact other

/-- A commit writes the event of a change it announces, or no event. -/
theorem Commit.announcement (commit : Commit held before call reply after) :
    (∃ event row', Announcement call before after event row') ∨
      after.outbox = before.outbox ∧ (call.isCommand = true → ∀ id, ¬Announces call before after id) := by
  cases commit with
  | created request event initial publishes checks attemptChecks newRun =>
    obtain rfl := newEvent_ok publishes.made
    exact .inl ⟨_, createdRow request.run, rfl, publishes.new, rfl, rfl, rfl, rfl, .inl newRun⟩
  | saved => exact .inr ⟨rfl, fun command => by cases command⟩
  | savedAttempt => exact .inr ⟨rfl, fun command => by cases command⟩
  | cancelled request row moved event receipt going moves updates publishes =>
    have version : moved.version = (request.record row.run).version := AgentRun.transition_version moves
    have id : moved.id = (request.record row.run).id := congrArg (·.1) (AgentRun.transition_identity moves)
    obtain rfl := newEvent_ok publishes.made
    have status := cancelledRow_status moves
    refine .inl ⟨_, _, updates.announcement publishes rfl rfl rfl rfl id ?_ rfl ?_ ?_⟩
    · exact congrArg (· + 1) version
    · rw [status]
      intro same
      have going := going.1
      rw [same] at going
      cases going
    · rw [status]
      rfl
  | retried request row moved attempt event receipt retryable moves made updates checks new key publishes =>
    have version : moved.version = row.run.version := AgentRun.transition_version moves
    have id : moved.id = row.run.id := congrArg (·.1) (AgentRun.transition_identity moves)
    obtain rfl := newEvent_ok publishes.made
    refine .inl ⟨_, _, updates.announcement publishes rfl rfl rfl rfl id ?_ rfl ?_ rfl⟩
    · exact congrArg (· + 1) version
    · intro queued
      have terminal := (AgentRun.canRetry_iff.mp retryable).1
      rw [queued] at terminal
      cases terminal
  | claimed request taken reply described members distinct =>
    refine .inr ⟨rfl, fun _ => not_announces_of_scheduling _ rfl fun row' member => ?_⟩
    obtain ⟨row, inside, rfl⟩ := List.mem_map.mp member
    have stored := Table.get?_key (members row inside).1
    refine ⟨?_, rfl⟩
    change (before.runs.get? row.run.id).isSome = true
    rw [stored]
    rfl
  | renewed request row leased updates =>
    obtain ⟨found, key, -⟩ := updates.get?
    simp only [RenewRequest.matches, Bool.and_eq_true, beq_iff_eq] at leased
    refine .inr ⟨rfl, fun _ => not_announces_of_scheduling [renewedRow request row] rfl fun row' member => ?_⟩
    obtain rfl := List.mem_singleton.mp member
    refine ⟨?_, leased.1.1⟩
    change (before.runs.get? row.run.id).isSome = true
    rw [key, found]
    rfl
  | scheduled request row attempt policy capacity event leased updates locks checks admission publishes =>
    obtain rfl := newEvent_ok publishes.made
    refine .inl ⟨_, _, updates.announcement publishes rfl rfl rfl rfl rfl rfl rfl (RunRow.differs_of_leased leased ?_) rfl⟩
    intro same
    cases same
  | deferred request row event leased updates publishes =>
    obtain rfl := newEvent_ok publishes.made
    refine .inl ⟨_, _, updates.announcement publishes rfl rfl rfl rfl rfl rfl rfl (RunRow.differs_of_leased leased ?_) rfl⟩
    intro same
    cases same
  | rejected request row attempt event leased updates locks checks publishes =>
    obtain rfl := newEvent_ok publishes.made
    refine .inl ⟨_, _, updates.announcement publishes rfl rfl rfl rfl rfl rfl rfl (RunRow.differs_of_leased leased ?_) rfl⟩
    intro same
    cases same
  | administered change => exact .inr ⟨by cases change <;> rfl, fun command => by cases command⟩
  | _ => exact .inr ⟨rfl, fun _ => not_announces_of_runs rfl⟩

end Commits

/-! ## Histories -/

namespace Announcement

variable {call : Call} {before after : Db} {event : OutboxEvent} {row' : RunRow}

theorem found (announcement : Announcement call before after event row') :
    after.runs.get? event.runID = some row' := by
  have put := Table.get?_put_self (t := before.runs) (r := row')
  rw [announcement.runs, announcement.runID]
  exact put

theorem announces_iff (announcement : Announcement call before after event row') (id : UUID) :
    Announces call before after id ↔ event.runID = id := by
  constructor
  · rintro ⟨row, found, changed⟩
    rw [announcement.runID]
    by_contra other
    rw [announcement.runs, Table.get?_put_ne (r := row') other] at found
    rcases changed with absent | ⟨old, stored, differs, -⟩
    · rw [absent] at found
      cases found
    · rw [stored] at found
      cases found
      exact differs rfl
  · rintro rfl
    refine ⟨row', announcement.found, ?_⟩
    rw [announcement.runID]
    rcases announcement.changes with absent | ⟨row, stored, -, differs, announced⟩
    · exact .inl absent
    · exact .inr ⟨row, stored, differs, announced⟩

end Announcement

/-- How a call that ended published. -/
theorem Ended.published {o : platform.Outcome} (ended : Ended o) :
    (∃ event row', Announcement o.txn o.before o.after event row' ∧ ∀ e, Published o e ↔ e = event) ∨
      (∀ e, ¬Published o e) ∧ (o.txn.isCommand = true → ∀ id, ¬Announces o.txn o.before o.after id) := by
  have silent : o.after.outbox = o.before.outbox → ∀ e, ¬Published o e := by
    rintro same e ⟨member, new⟩
    rw [same] at member
    rw [Table.get?_key member] at new
    cases new
  rcases ended.cases with ⟨reply, held, -, commit⟩ | ⟨-, same⟩
  · rcases commit.announcement with ⟨event, row', announcement⟩ | ⟨same, quiet⟩
    · refine .inl ⟨event, row', announcement, fun e => ⟨?_, ?_⟩⟩
      · rintro ⟨member, new⟩
        rw [announcement.outbox] at member
        rcases Table.mem_put.mp member with rfl | ⟨old, -⟩
        · rfl
        · rw [Table.get?_key old] at new
          cases new
      · rintro rfl
        refine ⟨?_, announcement.new⟩
        rw [announcement.outbox]
        exact Table.mem_put.mpr (.inl rfl)
    · exact .inr ⟨silent same, quiet⟩
  · exact .inr ⟨silent (by rw [same]), fun _ => not_announces_of_runs (by rw [same])⟩

/-- An event carries the version that its commit gave the run. -/
theorem Ended.version {o : platform.Outcome} (ended : Ended o) {event : OutboxEvent} (published : Published o event) :
    ∃ row', o.after.runs.get? event.runID = some row' ∧ event.aggregateVersion = row'.run.version ∧
      ∀ row, o.before.runs.get? event.runID = some row → row'.run.version = row.run.version + 1 := by
  rcases ended.published with ⟨event', row', announcement, only⟩ | ⟨silent, -⟩
  · obtain rfl := (only event).mp published
    refine ⟨row', announcement.found, announcement.version, fun row found => ?_⟩
    rw [announcement.runID] at found
    rcases announcement.changes with absent | ⟨old, stored, counted, -⟩
    · rw [absent] at found
      cases found
    · rw [stored] at found
      cases found
      exact counted
  · exact absurd published (silent event)

/-- Every event of the outbox was published by a call. -/
theorem History.published {start last : Db} {outcomes : List platform.Outcome} (history : History start outcomes last) :
    ∀ event ∈ last.outbox, ∃ o ∈ outcomes, Published o event := by
  refine history.chain.record (I := fun past db => ∀ event ∈ db.outbox, ∃ o ∈ past, Published o event) ?_ ?_
  · intro event member
    rw [Table.mem_def, history.fresh.outbox] at member
    cases member
  · intro past o member published event inside
    cases new : o.before.outbox.get? event.eventID with
    | none => exact ⟨o, by simp, inside, new⟩
    | some old =>
      -- rows of the outbox are never changed
      obtain ⟨event', found, rfl⟩ := (history.ended o member).growth.outbox _ _ new
      rw [Table.get?_key inside] at found
      cases found
      obtain ⟨p, earlier, by_p⟩ := published event (Table.mem_of_get? new)
      exact ⟨p, by simp [earlier], by_p⟩

/-- The events of a run follow its version. -/
theorem History.version_lt {start last : Db} {front middle back : List platform.Outcome} {o p : platform.Outcome}
    (history : History start (front ++ o :: (middle ++ p :: back)) last) {e f : OutboxEvent} (first : Published o e)
    (second : Published p f) (run : e.runID = f.runID) : e.aggregateVersion < f.aggregateVersion := by
  obtain ⟨row, after, version, -⟩ := history.ended_at.version first
  obtain ⟨row'', -, version'', counted⟩ := (history.ended p (by simp)).version second
  obtain ⟨row', before, evolves⟩ := history.growth_between.runs _ _ after
  have next := counted row' (run ▸ before)
  rcases evolves.version with same | newer
  · rw [same] at next
    omega
  · omega

/-- In every interleaving the outbox holds what the calls published: an event with the version that its commit gave
the run, exactly for the changes that are announced, and at most one by a call. The versions of the events of a run
increase in the order of the commits. -/
theorem events_numbered {start : Db} {s : platform.System} (fresh : start.Fresh)
    (reachable : Protocol.Reachable start s) :
    (∀ event ∈ s.db.outbox, ∃ o ∈ s.history, Published o event) ∧
    (∀ o ∈ s.history, ∀ event, Published o event → ∃ row, o.after.runs.get? event.runID = some row ∧
      event.aggregateVersion = row.run.version) ∧
    (∀ o ∈ s.history, o.txn.isCommand = true → ∀ id,
      (∃ event, Published o event ∧ event.runID = id) ↔ Announces o.txn o.before o.after id) ∧
    (∀ o ∈ s.history, o.txn.isCommand = false → ∀ event, ¬Published o event) ∧
    (∀ o ∈ s.history, ∀ e f, Published o e → Published o f → e = f) ∧
    ∀ front middle back o p, s.history = front ++ o :: (middle ++ p :: back) → ∀ e f, Published o e → Published p f →
      e.runID = f.runID → e.aggregateVersion < f.aggregateVersion := by
  have history := history_of_reachable fresh reachable
  refine ⟨history.published, ?_, ?_, ?_, ?_, ?_⟩
  · intro o member event published
    obtain ⟨row, found, version, -⟩ := (history.ended o member).version published
    exact ⟨row, found, version⟩
  · intro o member command id
    rcases (history.ended o member).published with ⟨event, row', announcement, only⟩ | ⟨silent, quiet⟩
    · rw [announcement.announces_iff]
      constructor
      · rintro ⟨e, published, run⟩
        rw [← (only e).mp published]
        exact run
      · intro run
        exact ⟨event, (only event).mpr rfl, run⟩
    · exact iff_of_false (fun ⟨e, published, _⟩ => silent e published) (quiet command id)
  · intro o member other event published
    rcases (history.ended o member).published with ⟨event', row', announcement, -⟩ | ⟨silent, -⟩
    · rw [announcement.command] at other
      cases other
    · exact silent event published
  · intro o member e f first second
    rcases (history.ended o member).published with ⟨event, row', -, only⟩ | ⟨silent, -⟩
    · exact ((only e).mp first).trans ((only f).mp second).symm
    · exact absurd first (silent e)
  · intro front middle back o p split e f first second run
    rw [split] at history
    exact history.version_lt first second run

/-- Acme creates a run and schedules it. -/
def acmeScheduled : platform.System :=
  ranFrom Acme.db [Acme.create 10 "k", Acme.claim 1000, .schedule (Acme.intent (Acme.claimed 10 11 1 2 0) 1001 20)]

theorem acmeScheduled_reachable : Protocol.Reachable Acme.db acmeScheduled := ranFrom_reachable _ _

/-- The two events have the versions 1 and 3; the claim in between counts too. -/
theorem acme_events_numbered :
    (∀ event ∈ acmeScheduled.db.outbox, ∃ o ∈ acmeScheduled.history, Published o event ∧
      ∃ row, o.after.runs.get? event.runID = some row ∧ event.aggregateVersion = row.run.version) ∧
      acmeScheduled.db.outbox.rows.map (·.aggregateVersion) = [3, 1] := by
  obtain ⟨published, version, -⟩ := events_numbered Acme.db_fresh acmeScheduled_reachable
  refine ⟨fun event member => ?_, by decide +kernel⟩
  obtain ⟨o, inside, by_o⟩ := published event member
  exact ⟨o, inside, by_o, version o inside event by_o⟩

end AgentForge.Platform
