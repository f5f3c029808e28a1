import AgentForge.Relay.Outbox

/-!
# What the relays do to an event

`Moved` lists the steps of the system, `RowMoved` what a step can do to a row. The invariant `Sound` ties the
dispositions to what the broker answered.
-/

set_option autoImplicit false

namespace AgentForge.Relay

open Operator Platform Lib

/-! ## Statements -/

variable {row : OutboxRow} {now before : Time} {owner : String} {outbox : Outbox} {limit : Nat} {locked : List UUID}

theorem OutboxRow.claimable_iff :
    row.claimable now = true ↔ row.disposition = .pending ∧ row.nextAttemptAt ≤ pgTime now ∧
      ∀ claim, row.claim = some claim → claim.expiresAt ≤ pgTime now := by
  cases held : row.claim <;> simp [OutboxRow.claimable, held, and_assoc]

theorem OutboxRow.heldBy_iff :
    row.heldBy owner = true ↔ row.disposition = .pending ∧ ∃ expiresAt, row.claim = some ⟨owner, expiresAt⟩ := by
  cases held : row.claim with
  | none => simp [OutboxRow.heldBy, held]
  | some claim =>
    obtain ⟨holder, expiresAt⟩ := claim
    simp [OutboxRow.heldBy, held]

theorem Outbox.mem_candidates : row ∈ outbox.candidates now ↔ row ∈ outbox ∧ row.claimable now = true := by
  rw [Outbox.candidates, (List.perm_insertionSort _ _).mem_iff, List.mem_filter]
  rfl

theorem Outbox.mem_taken (taken : row ∈ outbox.taken now limit locked) : row ∈ outbox ∧ row.claimable now = true :=
  mem_candidates.mp (List.mem_filter.mp (List.mem_of_mem_take taken)).1

theorem Outbox.taken_distinct : ((outbox.taken now limit locked).map fun row => row.event.eventID).Nodup := by
  have sorted : ((outbox.candidates now).map fun row => row.event.eventID).Nodup := by
    refine ((List.perm_insertionSort _ _).map _).nodup_iff.mpr ?_
    exact outbox.distinct.sublist (List.filter_sublist.map _)
  exact sorted.sublist (((List.take_sublist _ _).trans List.filter_sublist).map _)

/-- A claim changes the claims of the rows that it takes. -/
theorem Outbox.get?_claim {lease : Duration} {id : UUID} (found : outbox.get? id = some row) :
    (outbox.claim owner now lease limit locked).get? id =
      some (if row ∈ outbox.taken now limit locked then row.claimedBy owner now lease else row) := by
  obtain ⟨inside, rfl⟩ := Table.get?_eq_some.mp found
  unfold Outbox.claim
  split
  next taken =>
    refine Table.get?_foldl_put (r := row.claimedBy owner now lease) ?_ _ (List.mem_map_of_mem taken)
    rw [List.map_map]
    exact taken_distinct
  next other =>
    rw [Table.get?_foldl_put_ne, found]
    intro claimed member same
    obtain ⟨old, taken, rfl⟩ := List.mem_map.mp member
    exact other (Table.eq_of_mem (mem_taken taken).1 inside same ▸ taken)

theorem Outbox.get?_claim_none {lease : Duration} {id : UUID} (absent : outbox.get? id = none) :
    (outbox.claim owner now lease limit locked).get? id = none := by
  unfold Outbox.claim
  rw [Table.get?_foldl_put_ne, absent]
  intro claimed member same
  obtain ⟨old, taken, rfl⟩ := List.mem_map.mp member
  exact Table.get?_eq_none.mp absent old (mem_taken taken).1 same

theorem Outbox.update_eq_some {outbox' : Outbox} {eventID : UUID} {change : OutboxRow → OutboxRow}
    (updated : outbox.update eventID owner change = some outbox') :
    ∃ row, outbox.get? eventID = some row ∧ row.heldBy owner = true ∧ outbox' = outbox.put (change row) := by
  unfold Outbox.update at updated
  split at updated
  next row found =>
    split at updated
    next held =>
      cases updated
      exact ⟨row, found, held, rfl⟩
    next => cases updated
  next => cases updated

theorem OutboxRow.expired_iff :
    row.expired before = true ↔
      ∃ at_ partition offset, row.disposition = .published at_ partition offset ∧ at_ < pgTime before := by
  cases state : row.disposition <;> simp [OutboxRow.expired, state]

theorem Outbox.mem_obsolete (old : row ∈ outbox.obsolete before limit) :
    row ∈ outbox ∧ row.expired before = true := by
  have sorted := (List.perm_insertionSort _ _).mem_iff.mp (List.mem_of_mem_take old)
  exact List.mem_filter.mp sorted

theorem get?_cleanupPublished {id : UUID} (found : outbox.get? id = some row) :
    (cleanupPublished outbox before limit).get? id =
      if row ∈ outbox.obsolete before limit then none else some row := by
  obtain ⟨inside, rfl⟩ := Table.get?_eq_some.mp found
  have same : ((outbox.obsolete before limit).map fun old => old.event.eventID).contains row.event.eventID = true ↔
      row ∈ outbox.obsolete before limit := by
    rw [List.contains_iff_mem, List.mem_map]
    constructor
    · rintro ⟨old, member, eq⟩
      exact Table.eq_of_mem (Outbox.mem_obsolete member).1 inside eq ▸ member
    · exact fun member => ⟨row, member, rfl⟩
  rw [cleanupPublished, Table.get?_filter, found, Option.filter]
  simp only [Bool.not_eq_true', ← Bool.not_eq_true, same]
  split <;> simp_all

/-! ## Steps -/

section

variable (hash : UUID → Nat → Int)

/-- The steps of the system. -/
inductive Moved (s : System) : Action → System → Prop
  | commit {event : OutboxEvent} (fresh : ∀ e ∈ s.committed, e.eventID ≠ event.eventID)
      (newest : ∀ e ∈ s.committed, e.runID = event.runID → e.aggregateVersion < event.aggregateVersion) :
      Moved s (.commit event)
        { s with outbox := s.outbox.put (insertOutboxEvent event), committed := s.committed ++ [event] }
  | start {owner : String} : Moved s (.start owner) { s with workers := s.workers.put ⟨owner, .idle⟩ }
  | claim {owner : String} {now : Time} {lease : Duration} {limit : Nat} {locked returned : List UUID}
      (idle : s.workers.get? owner = some ⟨owner, .idle⟩)
      (all : returned.Perm ((s.outbox.taken now limit locked).map fun row => row.event.eventID)) :
      Moved s (.claim owner now lease limit locked returned)
        { s with
          outbox := s.outbox.claim owner now lease limit locked
          workers := s.workers.put ⟨owner, .loop (s.claimed returned)⟩ }
  | publish {owner : String} {publication : Publication} {event : OutboxEvent} {rest : List OutboxEvent}
      (working : s.workers.get? owner = some ⟨owner, .publishing (event :: rest)⟩) :
      Moved s (.publish owner publication)
        { s with
          broker := if publication.appended then s.broker ++ [event] else s.broker
          refused := if publication.permanent then s.refused ++ [event.eventID] else s.refused
          workers := s.workers.put ⟨owner, .marking event publication rest⟩ }
  | mark {owner : String} {now : Time} {event : OutboxEvent} {publication : Publication} {rest : List OutboxEvent}
      (working : s.workers.get? owner = some ⟨owner, .marking event publication rest⟩) :
      Moved s (.mark owner now)
        { s with
          outbox := (publication.mark hash s.outbox event.eventID owner now).getD s.outbox
          workers := s.workers.put ⟨owner, .loop rest⟩ }
  | unmarked {owner : String} {event : OutboxEvent} {publication : Publication} {rest : List OutboxEvent}
      (working : s.workers.get? owner = some ⟨owner, .marking event publication rest⟩) :
      Moved s (.unmarked owner) { s with workers := s.workers.put ⟨owner, .loop rest⟩ }
  | crash {owner : String} :
      Moved s (.crash owner) { s with workers := s.workers.filter fun worker => worker.owner != owner }
  | cleanup {before : Time} {limit : Nat} :
      Moved s (.cleanup before limit) { s with outbox := cleanupPublished s.outbox before limit }

variable {hash} {s t : System} {a : Action} {row' : OutboxRow} {publication : Publication} {at_ : Time}
  {returned : List UUID}

theorem moved (moves : step hash s a = some t) : Moved hash s a t := by
  cases a with
  | commit event =>
    rw [step] at moves
    split at moves
    next conditions =>
      cases moves
      exact .commit conditions.1 conditions.2
    next => cases moves
  | start owner =>
    rw [step] at moves
    split at moves
    next =>
      cases moves
      exact .start
    next => cases moves
  | claim owner now lease limit locked returned =>
    rw [step] at moves
    split at moves
    next found =>
      obtain rfl := Table.key_of_get? found
      split at moves
      next conditions =>
        cases moves
        exact .claim found (List.isPerm_iff.mp conditions.2.2.2)
      next => cases moves
    next => cases moves
  | publish owner publication =>
    rw [step] at moves
    split at moves
    next found =>
      obtain rfl := Table.key_of_get? found
      cases moves
      exact .publish found
    next => cases moves
  | mark owner now =>
    rw [step] at moves
    split at moves
    next found =>
      obtain rfl := Table.key_of_get? found
      cases moves
      exact .mark found
    next => cases moves
  | unmarked owner =>
    rw [step] at moves
    split at moves
    next found =>
      obtain rfl := Table.key_of_get? found
      cases moves
      exact .unmarked found
    next => cases moves
  | crash owner =>
    cases moves
    exact .crash
  | cleanup before limit =>
    rw [step] at moves
    split at moves
    next =>
      cases moves
      exact .cleanup
    next => cases moves

/-- The row that a mark leaves. -/
def Publication.applied (hash : UUID → Nat → Int) (now : Time) (row : OutboxRow) : Publication → OutboxRow
  | accepted partition offset => row.publish now partition offset
  | failed error _ => row.fail hash now (failureCategory error.permanent) (safeFailureReason error) error.permanent

theorem Publication.mark_eq (publication : Publication) (outbox : Outbox) (eventID : UUID) (owner : String) (now : Time) :
    publication.mark hash outbox eventID owner now =
      outbox.update eventID owner fun row => publication.applied hash now row := by
  cases publication <;> rfl

@[simp] theorem Publication.applied_event (publication : Publication) (now : Time) (row : OutboxRow) :
    (publication.applied hash now row).event = row.event := by
  cases publication <;> rfl

theorem Publication.appended_of_published {partition offset : Int}
    (published : (publication.applied hash now row).disposition = .published at_ partition offset) :
    publication.appended = true := by
  cases publication with
  | accepted => rfl
  | failed error appended =>
    rw [Publication.applied, OutboxRow.fail] at published
    dsimp only at published
    split at published <;> cases published

theorem Publication.permanent_of_terminal (terminal : (publication.applied hash now row).disposition = .terminal) :
    publication.permanent = true := by
  cases publication with
  | accepted => cases terminal
  | failed error appended =>
    rw [Publication.applied, OutboxRow.fail] at terminal
    dsimp only at terminal
    split at terminal
    next permanent => exact permanent
    next => cases terminal

/-- What a step can do to a row. -/
inductive RowMoved (hash : UUID → Nat → Int) (s : System) (row : OutboxRow) : Action → Option OutboxRow → Prop
  | kept {a : Action} : RowMoved hash s row a (some row)
  | claimed {owner : String} {now : Time} {lease : Duration} {limit : Nat} {locked returned : List UUID}
      (free : row.claimable now = true) :
      RowMoved hash s row (.claim owner now lease limit locked returned) (some (row.claimedBy owner now lease))
  | marked {owner : String} {now : Time} {event : OutboxEvent} {publication : Publication} {rest : List OutboxEvent}
      (working : s.workers.get? owner = some ⟨owner, .marking event publication rest⟩)
      (same : row.event.eventID = event.eventID) (held : row.heldBy owner = true) :
      RowMoved hash s row (.mark owner now) (some (publication.applied hash now row))
  | deleted {before : Time} {limit : Nat} (old : row.expired before = true) :
      RowMoved hash s row (.cleanup before limit) none

theorem row_moved {id : UUID} (moves : Moved hash s a t) (found : s.outbox.get? id = some row)
    (known : row.event ∈ s.committed) : RowMoved hash s row a (t.outbox.get? id) := by
  cases moves with
  | commit fresh _ =>
    obtain rfl := Table.key_of_get? found
    rw [Table.get?_put_ne (r := insertOutboxEvent _) (fresh row.event known).symm, found]
    exact .kept
  | start | publish | unmarked | crash =>
    rw [found]
    exact .kept
  | claim =>
    rw [Outbox.get?_claim found]
    split
    next taken => exact .claimed (Outbox.mem_taken taken).2
    next => exact .kept
  | @mark owner now event publication rest working =>
    cases marked : publication.mark hash s.outbox event.eventID owner now with
    | none =>
      rw [Option.getD_none, found]
      exact .kept
    | some outbox' =>
      rw [publication.mark_eq] at marked
      obtain ⟨old, here, held, rfl⟩ := Outbox.update_eq_some marked
      have key := Table.key_of_get? here
      rw [Option.getD_some, Table.get?_put, publication.applied_event]
      split
      next same =>
        rw [← same, Table.get?_key (Table.mem_of_get? here)] at found
        cases found
        exact .marked working key held
      next =>
        rw [found]
        exact .kept
  | cleanup =>
    rw [get?_cleanupPublished found]
    split
    next old => exact .deleted (Outbox.mem_obsolete old).2
    next => exact .kept

/-- Rows are added by business transactions. -/
theorem row_added {id : UUID} (moves : Moved hash s a t) (absent : s.outbox.get? id = none)
    (found : t.outbox.get? id = some row) : ∃ event, a = .commit event ∧ row = insertOutboxEvent event := by
  cases moves with
  | @commit event _ _ =>
    rw [Table.get?_put] at found
    split at found
    next =>
      cases found
      exact ⟨event, rfl, rfl⟩
    next =>
      rw [absent] at found
      cases found
  | start | publish | unmarked | crash =>
    rw [absent] at found
    cases found
  | claim =>
    rw [Outbox.get?_claim_none absent] at found
    cases found
  | @mark owner now event publication rest working =>
    cases marked : publication.mark hash s.outbox event.eventID owner now with
    | none =>
      rw [marked, Option.getD_none, absent] at found
      cases found
    | some outbox' =>
      rw [marked, Option.getD_some] at found
      rw [publication.mark_eq] at marked
      obtain ⟨old, here, -, rfl⟩ := Outbox.update_eq_some marked
      rw [Table.get?_put, publication.applied_event] at found
      split at found
      next same =>
        rw [← same, Table.get?_key (Table.mem_of_get? here)] at absent
        cases absent
      next =>
        rw [absent] at found
        cases found
  | cleanup =>
    rw [cleanupPublished, Table.get?_filter, absent] at found
    cases found

theorem RowMoved.event (moves : RowMoved hash s row a (some row')) : row'.event = row.event := by
  cases moves with
  | kept | claimed => rfl
  | marked => exact Publication.applied_event ..

/-! ## Dispositions and the broker -/

/-- What a relay holds has been committed, and it has the answer of the broker to what it marks. -/
structure Worker.Sound (s : System) (worker : Worker) : Prop where
  batch : ∀ event ∈ worker.stage.batch, event ∈ s.committed
  answer : ∀ {event publication rest}, worker.stage = .marking event publication rest →
    event ∈ s.committed ∧ (publication.appended = true → event ∈ s.broker) ∧
      (publication.permanent = true → event.eventID ∈ s.refused)

structure Sound (s : System) : Prop where
  ids : ∀ e ∈ s.committed, ∀ e' ∈ s.committed, e.eventID = e'.eventID → e = e'
  committed : ∀ row ∈ s.outbox, row.event ∈ s.committed
  published : ∀ row ∈ s.outbox, ∀ at_ partition offset, row.disposition = .published at_ partition offset →
    row.event ∈ s.broker
  terminal : ∀ row ∈ s.outbox, row.disposition = .terminal → row.event.eventID ∈ s.refused
  kept : ∀ event ∈ s.committed, (∃ row ∈ s.outbox, row.event = event) ∨ event ∈ s.broker
  workers : ∀ worker ∈ s.workers, worker.Sound s
  broker : ∀ event ∈ s.broker, event ∈ s.committed

theorem Sound.initial : Sound System.initial where
  ids := by simp [System.initial]
  committed := by simp [System.initial, Table.empty, Table.mem_def]
  published := by simp [System.initial, Table.empty, Table.mem_def]
  terminal := by simp [System.initial, Table.empty, Table.mem_def]
  kept := by simp [System.initial]
  workers := by simp [System.initial, Table.empty, Table.mem_def]
  broker := by simp [System.initial]

/-- What has happened stays so. -/
structure Extends (s t : System) : Prop where
  committed : ∀ event ∈ s.committed, event ∈ t.committed
  broker : ∀ event ∈ s.broker, event ∈ t.broker
  refused : ∀ id ∈ s.refused, id ∈ t.refused

theorem Moved.extends (moves : Moved hash s a t) : Extends s t := by
  cases moves with
  | commit => exact ⟨fun _ member => List.mem_append_left _ member, fun _ member => member, fun _ member => member⟩
  | publish =>
    refine ⟨fun _ member => member, fun event member => ?_, fun id member => ?_⟩
    · dsimp only
      split
      · exact List.mem_append_left _ member
      · exact member
    · dsimp only
      split
      · exact List.mem_append_left _ member
      · exact member
  | _ => exact ⟨fun _ member => member, fun _ member => member, fun _ member => member⟩

theorem Worker.Sound.mono {worker : Worker} (sound : worker.Sound s) (more : Extends s t) : worker.Sound t where
  batch event member := more.committed event (sound.batch event member)
  answer marking := by
    obtain ⟨known, accepted, refused⟩ := sound.answer marking
    exact ⟨more.committed _ known, fun yes => more.broker _ (accepted yes), fun yes => more.refused _ (refused yes)⟩

@[simp] theorem Stage.batch_loop (batch : List OutboxEvent) : (Stage.loop batch).batch = batch := by
  cases batch <;> rfl

theorem Worker.Sound.loop {owner : String} {batch : List OutboxEvent} (known : ∀ event ∈ batch, event ∈ s.committed) :
    Worker.Sound s ⟨owner, .loop batch⟩ where
  batch := by simpa using known
  answer marking := by cases batch <;> cases marking

variable {event : OutboxEvent}

theorem mem_claimed (member : event ∈ s.claimed returned) :
    ∃ id ∈ returned, ∃ row, s.outbox.get? id = some row ∧ row.event = event := by
  obtain ⟨id, inside, found⟩ := List.mem_filterMap.mp member
  obtain ⟨row, got, rfl⟩ := Option.map_eq_some_iff.mp found
  exact ⟨id, inside, row, got, rfl⟩

/-- The worker that a step leaves was there before, or is the one that took the step. -/
theorem Sound.moved_workers (sound : Sound s) (moves : Moved hash s a t) : ∀ worker ∈ t.workers, worker.Sound t := by
  have more := moves.extends
  have old : ∀ worker ∈ s.workers, worker.Sound t := fun worker member => (sound.workers worker member).mono more
  -- The other workers have not moved.
  have put : ∀ {w : Worker}, w.Sound t → ∀ worker ∈ s.workers.put w, worker.Sound t := by
    intro w here worker member
    rcases Table.mem_put.mp member with rfl | ⟨inside, -⟩
    · exact here
    · exact old worker inside
  cases moves with
  | commit | cleanup => exact old
  | start => exact put ⟨by simp [Stage.batch], fun marking => by cases marking⟩
  | claim =>
    refine put (.loop fun event member => ?_)
    obtain ⟨id, -, row, found, rfl⟩ := mem_claimed member
    exact sound.committed row (Table.mem_of_get? found)
  | publish working =>
    have mine := sound.workers _ (Table.mem_of_get? working)
    refine put ⟨fun event member => mine.batch event (List.mem_cons_of_mem _ member), fun marking => ?_⟩
    cases marking
    refine ⟨mine.batch _ List.mem_cons_self, fun appended => ?_, fun permanent => ?_⟩
    · simp [appended]
    · simp [permanent]
  | mark working | unmarked working => exact put (.loop (sound.workers _ (Table.mem_of_get? working)).batch)
  | crash => exact fun worker member => old worker (Table.mem_filter.mp member).1

/-- The events of the rows that a worker marks are those that it published. -/
theorem Sound.marked (sound : Sound s) {owner : String} {rest : List OutboxEvent} (member : row ∈ s.outbox)
    (working : s.workers.get? owner = some ⟨owner, .marking event publication rest⟩)
    (same : row.event.eventID = event.eventID) :
    row.event = event ∧ (publication.appended = true → row.event ∈ s.broker) ∧
      (publication.permanent = true → row.event.eventID ∈ s.refused) := by
  obtain ⟨known, accepted, refused⟩ := (sound.workers _ (Table.mem_of_get? working)).answer rfl
  obtain rfl := sound.ids _ (sound.committed row member) _ known same
  exact ⟨rfl, accepted, refused⟩

theorem RowMoved.published (sound : Sound s) (member : row ∈ s.outbox) (moves : RowMoved hash s row a (some row'))
    {partition offset : Int} (after : row'.disposition = .published at_ partition offset) : row.event ∈ s.broker := by
  cases moves with
  | kept | claimed => exact sound.published row member _ _ _ after
  | marked working same =>
    exact (sound.marked member working same).2.1 (Publication.appended_of_published after)

theorem RowMoved.terminal (sound : Sound s) (member : row ∈ s.outbox) (moves : RowMoved hash s row a (some row'))
    (after : row'.disposition = .terminal) : row.event.eventID ∈ s.refused := by
  cases moves with
  | kept | claimed => exact sound.terminal row member after
  | marked working same =>
    exact (sound.marked member working same).2.2 (Publication.permanent_of_terminal after)

/-- A row after a step was there before, or has just been inserted. -/
theorem Sound.row_origin (sound : Sound s) (moves : Moved hash s a t) (member : row' ∈ t.outbox) :
    (∃ row ∈ s.outbox, RowMoved hash s row a (some row')) ∨ ∃ event, a = .commit event ∧ row' = insertOutboxEvent event := by
  have found := Table.get?_key member
  cases before : s.outbox.get? row'.event.eventID with
  | none => exact .inr (row_added moves before found)
  | some row =>
    have inside := Table.mem_of_get? before
    have step := row_moved moves before (sound.committed row inside)
    rw [found] at step
    exact .inl ⟨row, inside, step⟩

theorem Moved.committed_eq (moves : Moved hash s a t) :
    t.committed = s.committed ∨ ∃ event, a = .commit event ∧ t.committed = s.committed ++ [event] ∧
      (∀ e ∈ s.committed, e.eventID ≠ event.eventID) ∧
      (∀ e ∈ s.committed, e.runID = event.runID → e.aggregateVersion < event.aggregateVersion) ∧
      t.outbox = s.outbox.put (insertOutboxEvent event) := by
  cases moves with
  | commit fresh newest => exact .inr ⟨_, rfl, rfl, fresh, newest, rfl⟩
  | _ => exact .inl rfl

theorem Sound.kept_of_moved (sound : Sound s) (moves : Moved hash s a t) (known : event ∈ s.committed) :
    (∃ row ∈ t.outbox, row.event = event) ∨ event ∈ t.broker := by
  rcases sound.kept event known with ⟨row, member, rfl⟩ | accepted
  · have after := row_moved moves (Table.get?_key member) known
    cases found : t.outbox.get? row.event.eventID with
    | some row' =>
      rw [found] at after
      exact .inl ⟨row', Table.mem_of_get? found, after.event⟩
    | none =>
      rw [found] at after
      cases after with
      | deleted old =>
        obtain ⟨at_, partition, offset, published, -⟩ := OutboxRow.expired_iff.mp old
        exact .inr (moves.extends.broker _ (sound.published row member _ _ _ published))
  · exact .inr (moves.extends.broker event accepted)

theorem Sound.step (sound : Sound s) (moves : Moved hash s a t) : Sound t where
  ids := by
    rcases moves.committed_eq with same | ⟨event, -, added, fresh, -⟩
    · rw [same]
      exact sound.ids
    · rw [added]
      intro e member e' member' eq
      rcases List.mem_append.mp member with old | new <;> rcases List.mem_append.mp member' with old' | new'
      · exact sound.ids e old e' old' eq
      · rw [List.mem_singleton.mp new'] at eq
        exact absurd eq (fresh e old)
      · rw [List.mem_singleton.mp new] at eq
        exact absurd eq.symm (fresh e' old')
      · rw [List.mem_singleton.mp new, List.mem_singleton.mp new']
  committed row' member := by
    rcases sound.row_origin moves member with ⟨row, inside, step⟩ | ⟨event, rfl, rfl⟩
    · rw [step.event]
      exact moves.extends.committed _ (sound.committed row inside)
    · cases moves
      exact List.mem_append_right _ List.mem_cons_self
  published row' member at_ partition offset published := by
    rcases sound.row_origin moves member with ⟨row, inside, step⟩ | ⟨event, rfl, rfl⟩
    · rw [step.event]
      exact moves.extends.broker _ (step.published sound inside published)
    · cases published
  terminal row' member terminal := by
    rcases sound.row_origin moves member with ⟨row, inside, step⟩ | ⟨event, rfl, rfl⟩
    · rw [step.event]
      exact moves.extends.refused _ (step.terminal sound inside terminal)
    · cases terminal
  kept event member := by
    rcases moves.committed_eq with same | ⟨new, -, added, -, -, outbox⟩
    · exact sound.kept_of_moved moves (same ▸ member)
    · rw [added] at member
      rcases List.mem_append.mp member with old | here
      · exact sound.kept_of_moved moves old
      · refine .inl ⟨insertOutboxEvent new, ?_, (List.mem_singleton.mp here).symm⟩
        rw [outbox]
        exact Table.mem_put.mpr (.inl rfl)
  workers := sound.moved_workers moves
  broker event member := by
    cases moves with
    | publish working =>
      dsimp only at member
      split at member
      · rcases List.mem_append.mp member with old | new
        · exact sound.broker event old
        · rw [List.mem_singleton.mp new]
          exact (sound.workers _ (Table.mem_of_get? working)).batch _ List.mem_cons_self
      · exact sound.broker event member
    | commit => exact List.mem_append_left _ (sound.broker event member)
    | _ => exact sound.broker event member

theorem sound_of_reachable (reached : Machine.Reachable (step hash) .initial s) : Sound s :=
  reached.invariant .initial fun sound _ moves => sound.step (moved moves)

/-- Only a mark of the claim's owner, or a claim after the expiry, changes a row with a claim. -/
theorem RowMoved.of_claim {claim : Claim} (moves : RowMoved hash s row a (some row'))
    (held : row.claim = some claim) (changed : row' ≠ row) :
    (∃ now, a = .mark claim.owner now) ∨
      ∃ owner now lease limit locked returned, a = .claim owner now lease limit locked returned ∧
        claim.expiresAt ≤ pgTime now ∧ row' = row.claimedBy owner now lease := by
  cases moves with
  | kept => exact absurd rfl changed
  | claimed free =>
    exact .inr ⟨_, _, _, _, _, _, rfl, (OutboxRow.claimable_iff.mp free).2.2 claim held, rfl⟩
  | marked _ _ holder =>
    obtain ⟨-, expiresAt, mine⟩ := OutboxRow.heldBy_iff.mp holder
    rw [held] at mine
    cases mine
    exact .inl ⟨_, rfl⟩

theorem RowMoved.final (moves : RowMoved hash s row a (some row')) (final : row.disposition ≠ .pending) :
    row' = row := by
  cases moves with
  | kept => rfl
  | claimed free => exact absurd (OutboxRow.claimable_iff.mp free).1 final
  | marked _ _ holder => exact absurd (OutboxRow.heldBy_iff.mp holder).1 final

/-- The rows that are ahead of a row in the order of a claim and not locked. -/
def Outbox.rank (outbox : Outbox) (now : Time) (locked : List UUID) (row : OutboxRow) : Nat :=
  ((outbox.candidates now).filter fun other => !locked.contains other.event.eventID).idxOf row

theorem Outbox.mem_taken_of_rank {outbox : Outbox} {limit : Nat} (member : row ∈ outbox)
    (free : row.claimable now = true) (unlocked : row.event.eventID ∉ locked)
    (turn : outbox.rank now locked row < limit) : row ∈ outbox.taken now limit locked := by
  have inside : row ∈ (outbox.candidates now).filter fun other => !locked.contains other.event.eventID := by
    rw [List.mem_filter]
    exact ⟨mem_candidates.mpr ⟨member, free⟩, by simpa using unlocked⟩
  have bound := List.idxOf_lt_length_of_mem inside
  rw [Outbox.taken, List.mem_take_iff_getElem]
  exact ⟨_, lt_min turn bound, List.getElem_idxOf bound⟩

theorem mem_claimed_of_taken {limit : Nat}
    (all : returned.Perm ((s.outbox.taken now limit locked).map fun row => row.event.eventID))
    (taken : row ∈ s.outbox.taken now limit locked) : row.event ∈ s.claimed returned := by
  have found := Table.get?_key (Outbox.mem_taken taken).1
  refine List.mem_filterMap.mpr ⟨row.event.eventID, all.mem_iff.mpr (List.mem_map_of_mem taken), ?_⟩
  rw [found]
  rfl

/-- In every state that relays reach, whatever they and the broker do and wherever they crash: PUBLISHED events
have been accepted and TERMINAL ones refused for good, and none is lost; a step deletes only events published
before its cutoff, leaves the final dispositions as they are and changes a claimed row only for the claim's owner
or once the claim has expired; and a claim takes every pending event that is due when its turn has come. -/
theorem event_delivery (reached : Machine.Reachable (step hash) .initial s) :
    (∀ row ∈ s.outbox,
      (∀ at_ partition offset, row.disposition = .published at_ partition offset → row.event ∈ s.broker) ∧
      (row.disposition = .terminal → row.event.eventID ∈ s.refused)) ∧
    (∀ event ∈ s.committed, (∃ row ∈ s.outbox, row.event = event) ∨ event ∈ s.broker) ∧
    (∀ a t, step hash s a = some t → ∀ id row, s.outbox.get? id = some row →
      (t.outbox.get? id = none →
        ∃ before limit at_ partition offset, a = .cleanup before limit ∧
          row.disposition = .published at_ partition offset ∧ at_ < pgTime before) ∧
      ∀ row', t.outbox.get? id = some row' →
        (row.disposition ≠ .pending → row' = row) ∧
        ∀ claim, row.claim = some claim → row' ≠ row →
          (∃ now, a = .mark claim.owner now) ∨
            ∃ owner now lease limit locked returned, a = .claim owner now lease limit locked returned ∧
              claim.expiresAt ≤ pgTime now ∧ row' = row.claimedBy owner now lease) ∧
    ∀ row ∈ s.outbox, ∀ now, row.disposition = .pending → row.nextAttemptAt ≤ pgTime now →
      (∀ claim, row.claim = some claim → claim.expiresAt ≤ pgTime now) →
      ∀ owner lease limit locked returned, s.workers.get? owner = some ⟨owner, .idle⟩ → 0 < lease → limit ≤ 1000 →
        row.event.eventID ∉ locked → s.outbox.rank now locked row < limit →
        returned.Perm ((s.outbox.taken now limit locked).map fun taken => taken.event.eventID) →
        ∃ t worker, step hash s (.claim owner now lease limit locked returned) = some t ∧
          t.outbox.get? row.event.eventID = some (row.claimedBy owner now lease) ∧
          t.workers.get? owner = some worker ∧ row.event ∈ worker.stage.batch := by
  have sound := sound_of_reachable reached
  refine ⟨fun row member => ⟨sound.published row member, sound.terminal row member⟩, sound.kept, ?_, ?_⟩
  · intro a t moves id row found
    have after := row_moved (moved moves) found (sound.committed row (Table.mem_of_get? found))
    constructor
    · intro gone
      rw [gone] at after
      cases after with
      | deleted old =>
        obtain ⟨at_, partition, offset, published, early⟩ := OutboxRow.expired_iff.mp old
        exact ⟨_, _, at_, partition, offset, rfl, published, early⟩
    · intro row' found'
      rw [found'] at after
      exact ⟨after.final, fun claim => after.of_claim⟩
  · intro row member now pending due expired owner lease limit locked returned idle positive bounded unlocked turn all
    have taken := Outbox.mem_taken_of_rank member (OutboxRow.claimable_iff.mpr ⟨pending, due, expired⟩) unlocked turn
    have claim : (s.outbox.claim owner now lease limit locked).get? row.event.eventID = some _ :=
      Outbox.get?_claim (Table.get?_key member)
    rw [if_pos taken] at claim
    have worker := Table.get?_put_self (t := s.workers) (r := ⟨owner, .loop (s.claimed returned)⟩)
    let t : System := { s with
      outbox := s.outbox.claim owner now lease limit locked
      workers := s.workers.put ⟨owner, .loop (s.claimed returned)⟩ }
    refine ⟨t, _, ?_, claim, worker, ?_⟩
    · rw [step, idle]
      exact if_pos ⟨positive, Nat.zero_lt_of_lt turn, bounded, List.isPerm_iff.mpr all⟩
    · rw [Stage.batch_loop]
      exact mem_claimed_of_taken all taken

end

/-! ## Sample runs -/

/-- The state after some actions, or the initial one if they cannot be taken. -/
def relayed (hash : UUID → Nat → Int) (actions : List Action) : System :=
  (Machine.run (step hash) actions .initial).getD .initial

theorem relayed_reachable (hash : UUID → Nat → Int) (actions : List Action) :
    Machine.Reachable (step hash) .initial (relayed hash actions) := by
  unfold relayed
  cases ran : Machine.run (step hash) actions .initial with
  | none => exact .refl
  | some s => exact Machine.reachable_of_run ran

namespace Sample

/-- Identifiers of version 7 that differ in the last byte. -/
def id (n : BitVec 8) : UUID := ⟨#v[0x01, 0, 0, 0, 0, 0, 0x70, 0, 0, 0, 0, 0, 0, 0, 0, n]⟩

/-- An event of a run, recorded with a version of it. -/
def event (n : BitVec 8) (version : Int) (status : Platform.AgentRunStatus) (payload : EventPayload) : OutboxEvent where
  eventID := id n
  occurredAt := version * second
  producer := "platform-api"
  tenantID := id 1
  projectID := id 2
  runID := id 3
  status := status
  aggregateVersion := version
  correlationID := "request"
  causationID := "request"
  payload := payload

/-- The request for the run, its first version. -/
def first : OutboxEvent := event 4 1 .queued (.requested 1 "python" 1000 1024 600 5 "s3://prompts/1")

/-- The cancellation of the run. The version between, a claim, has no event. -/
def third : OutboxEvent := event 5 3 .cancelling (.cancelRequested 1 "ada" "cancel")

/-- No jitter. -/
def hash : UUID → Nat → Int := fun _ _ => 20

/-- A relay dies between the publication of an event and its mark; when the claims have expired, a second relay
publishes both events. -/
def delivery : List Action :=
  [.commit first, .commit third, .start "relay-a", .start "relay-b",
    .claim "relay-a" (10 * second) (30 * second) 100 [] [first.eventID, third.eventID],
    .publish "relay-a" (.accepted 0 7), .crash "relay-a",
    .claim "relay-b" (20 * second) (30 * second) 100 [] [],
    .claim "relay-b" (41 * second) (30 * second) 100 [] [first.eventID, third.eventID],
    .publish "relay-b" (.accepted 0 8), .mark "relay-b" (42 * second),
    .publish "relay-b" (.accepted 0 9), .mark "relay-b" (42 * second)]

end Sample

theorem sample_delivery :
    (relayed Sample.hash Sample.delivery).broker = [Sample.first, Sample.first, Sample.third] ∧
    (∃ row ∈ (relayed Sample.hash Sample.delivery).outbox.rows, row.disposition = .published (42 * second) 0 8) ∧
    ∀ row ∈ (relayed Sample.hash Sample.delivery).outbox,
      (∀ at_ partition offset, row.disposition = .published at_ partition offset →
        row.event ∈ (relayed Sample.hash Sample.delivery).broker) ∧
      (row.disposition = .terminal → row.event.eventID ∈ (relayed Sample.hash Sample.delivery).refused) := by
  exact ⟨by decide +kernel, by decide +kernel, (event_delivery (relayed_reachable Sample.hash Sample.delivery)).1⟩

end AgentForge.Relay
