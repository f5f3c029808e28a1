import AgentForge.Relay.Delivery

/-!
# The order in which the events of a run are published

The events of a run have increasing versions and one partition key, so that consumers see them in the order in
which the relays publish them. `KeepsOrder` says when a claim and a publication keep the order of the versions.
-/

set_option autoImplicit false

namespace AgentForge.Relay

open Operator Platform Lib

/-- The first records of the events of one run are appended in the order of their versions. -/
def FirstInOrder (log : List OutboxEvent) : Prop :=
  ∀ earlier event later, log = earlier ++ event :: later → event ∉ earlier →
    ∀ before ∈ earlier, before.runID = event.runID → before.aggregateVersion < event.aggregateVersion

/-- An event that may still be published: its row is PENDING, or a relay has it in its batch. -/
def System.InFlight (s : System) (event : OutboxEvent) : Prop :=
  (∃ row ∈ s.outbox.rows, row.event = event ∧ row.disposition = .pending) ∨
    ∃ worker ∈ s.workers.rows, event ∈ worker.stage.batch

instance (s : System) (event : OutboxEvent) : Decidable (s.InFlight event) := by
  unfold System.InFlight
  infer_instance

/-- The events of a batch that come before an event. -/
def ahead (batch : List OutboxEvent) (event : OutboxEvent) : List OutboxEvent := batch.takeWhile fun e => e != event

/-- The smaller versions of the event's run have reached the broker, come first in the batch or are given up. -/
def System.Prepared (s : System) (batch : List OutboxEvent) (event : OutboxEvent) : Prop :=
  ∀ e ∈ s.committed, e.runID = event.runID → e.aggregateVersion < event.aggregateVersion →
    e ∈ s.broker ∨ e ∈ ahead batch event ∨ ¬s.InFlight e

instance (s : System) (batch : List OutboxEvent) (event : OutboxEvent) : Decidable (s.Prepared batch event) := by
  unfold System.Prepared
  infer_instance

/-- A claim lists each event after the smaller versions of its run that may still be published, and no publication
fails while the relay has a further event of the same run. -/
def KeepsOrder (s : System) : Action → Prop
  | .claim _ _ _ _ _ returned => ∀ event ∈ s.claimed returned, s.Prepared (s.claimed returned) event
  | .publish owner publication =>
    match s.workers.get? owner with
    | some ⟨_, .publishing (event :: rest)⟩ =>
      publication.appended = true ∨ event ∈ s.broker ∨ ∀ e ∈ rest, e.runID ≠ event.runID
    | _ => True
  | _ => True

instance (s : System) : (a : Action) → Decidable (KeepsOrder s a)
  | .claim _ _ _ _ _ returned =>
    inferInstanceAs (Decidable (∀ event ∈ s.claimed returned, s.Prepared (s.claimed returned) event))
  | .publish owner publication => by
    dsimp only [KeepsOrder]
    split <;> infer_instance
  | .commit _ | .start _ | .mark _ _ | .unmarked _ | .crash _ | .cleanup _ _ => isTrue trivial

section

variable {hash : UUID → Nat → Int} {s t : System} {a : Action}

theorem inFlight_of_row (sound : Sound s) (moves : Moved hash s a t) {row : OutboxRow} (member : row ∈ t.outbox)
    (known : row.event ∈ s.committed) (pending : row.disposition = .pending) :
    ∃ old ∈ s.outbox, old.event = row.event ∧ old.disposition = .pending := by
  rcases sound.row_origin moves member with ⟨old, inside, step⟩ | ⟨event, rfl, rfl⟩
  · refine ⟨old, inside, step.event.symm, ?_⟩
    by_contra final
    rw [step.final final] at pending
    exact final pending
  · cases moves with
    | commit fresh _ => exact absurd rfl (fresh event known)

/-- A batch holds what it held, or the claimed rows. -/
theorem inFlight_of_batch (moves : Moved hash s a t) {worker : Worker} (member : worker ∈ t.workers)
    {event : OutboxEvent} (held : event ∈ worker.stage.batch) :
    (∃ old ∈ s.workers, event ∈ old.stage.batch) ∨ ∃ row ∈ s.outbox, row.event = event ∧ row.disposition = .pending := by
  -- Either the worker has not moved, or its batch is a part of the one before the step.
  have put : ∀ {w old : Worker}, old ∈ s.workers → w.stage.batch ⊆ old.stage.batch → worker ∈ s.workers.put w →
      ∃ old ∈ s.workers, event ∈ old.stage.batch := by
    intro w old before part inside
    rcases Table.mem_put.mp inside with rfl | ⟨same, -⟩
    · exact ⟨old, before, part held⟩
    · exact ⟨worker, same, held⟩
  cases moves with
  | commit | cleanup => exact .inl ⟨worker, member, held⟩
  | crash => exact .inl ⟨worker, (Table.mem_filter.mp member).1, held⟩
  | start =>
    rcases Table.mem_put.mp member with rfl | ⟨same, -⟩
    · cases held
    · exact .inl ⟨worker, same, held⟩
  | publish working => exact .inl (put (Table.mem_of_get? working) (List.subset_cons_self _ _) member)
  | mark working | unmarked working =>
    refine .inl (put (Table.mem_of_get? working) (fun e inside => ?_) member)
    rwa [Stage.batch_loop] at inside
  | claim _ all =>
    rcases Table.mem_put.mp member with rfl | ⟨same, -⟩
    · rw [Stage.batch_loop] at held
      obtain ⟨id, returned, row, found, rfl⟩ := mem_claimed held
      obtain ⟨taken, inside, rfl⟩ := List.mem_map.mp (all.mem_iff.mp returned)
      obtain ⟨here, free⟩ := Outbox.mem_taken inside
      rw [Table.get?_key here] at found
      cases found
      exact .inr ⟨_, here, rfl, (OutboxRow.claimable_iff.mp free).1⟩
    · exact .inl ⟨worker, same, held⟩

/-- What no row and no relay holds any more is not published again. -/
theorem inFlight_of_moved (sound : Sound s) (moves : Moved hash s a t) {event : OutboxEvent}
    (known : event ∈ s.committed) (after : t.InFlight event) : s.InFlight event := by
  rcases after with ⟨row, member, rfl, pending⟩ | ⟨worker, member, held⟩
  · exact .inl (inFlight_of_row sound moves member known pending)
  · rcases inFlight_of_batch moves member held with before | row
    · exact .inr before
    · exact .inl row

/-- Batches and the broker's log hold no event before a smaller version of its run. -/
structure InOrder (s : System) : Prop where
  versions : ∀ e ∈ s.committed, ∀ e' ∈ s.committed, e.runID = e'.runID → e.aggregateVersion = e'.aggregateVersion →
    e = e'
  log : FirstInOrder s.broker
  batches : ∀ worker ∈ s.workers, ∀ event ∈ worker.stage.batch, s.Prepared worker.stage.batch event
  broker : ∀ event ∈ s.broker, s.Prepared [] event

/-- A step keeps the order of what is published, as far as the batch keeps it or hands it to the broker. -/
theorem Prepared.moved (sound : Sound s) (moves : Moved hash s a t) {batch batch' : List OutboxEvent}
    {event : OutboxEvent} (known : event ∈ s.committed) (prepared : s.Prepared batch event)
    (part : ∀ e ∈ ahead batch event, e.runID = event.runID → e ∈ t.broker ∨ e ∈ ahead batch' event) :
    t.Prepared batch' event := by
  intro e member sameRun smaller
  have before : e ∈ s.committed := by
    rcases moves.committed_eq with same | ⟨new, -, added, -, newest, -⟩
    · exact same ▸ member
    · rw [added] at member
      rcases List.mem_append.mp member with old | here
      · exact old
      · rw [List.mem_singleton.mp here] at sameRun smaller
        exact absurd (newest event known sameRun.symm) (by omega)
  rcases prepared e before sameRun smaller with accepted | first | gone
  · exact .inl (moves.extends.broker e accepted)
  · exact (part e first sameRun).imp_right .inl
  · exact .inr (.inr fun after => gone (inFlight_of_moved sound moves before after))

theorem FirstInOrder.append {log : List OutboxEvent} {event : OutboxEvent} (ordered : FirstInOrder log)
    (new : event ∉ log → ∀ e ∈ log, e.runID = event.runID → e.aggregateVersion < event.aggregateVersion) :
    FirstInOrder (log ++ [event]) := by
  intro earlier e later split fresh before member sameRun
  -- The split is within the old log, or at its end.
  rcases List.append_eq_append_iff.mp split with ⟨middle, rfl, tail⟩ | ⟨middle, rfl, tail⟩
  · rcases List.singleton_eq_append_iff.mp tail with ⟨rfl, rest⟩ | ⟨rfl, rest⟩
    · cases rest
      rw [List.append_nil] at fresh member
      exact new fresh before member sameRun
    · cases rest
  · cases middle with
    | nil =>
      cases tail
      rw [List.append_nil] at new
      exact new fresh before member sameRun
    | cons first middle =>
      cases tail
      exact ordered earlier e middle rfl fresh before member sameRun

theorem InOrder.initial : InOrder System.initial where
  versions := by simp [System.initial]
  log := by simp [FirstInOrder, System.initial]
  batches := by simp [System.initial, Table.empty, Table.mem_def]
  broker := by simp [System.initial]

theorem InOrder.moved_versions (ordered : InOrder s) (moves : Moved hash s a t) :
    ∀ e ∈ t.committed, ∀ e' ∈ t.committed, e.runID = e'.runID → e.aggregateVersion = e'.aggregateVersion → e = e' := by
  rcases moves.committed_eq with same | ⟨new, -, added, -, newest, -⟩
  · rw [same]
    exact ordered.versions
  · rw [added]
    intro e member e' member' sameRun eq
    rcases List.mem_append.mp member with old | here <;> rcases List.mem_append.mp member' with old' | here'
    · exact ordered.versions e old e' old' sameRun eq
    · rw [List.mem_singleton.mp here'] at sameRun eq
      exact absurd (newest e old sameRun) (by omega)
    · rw [List.mem_singleton.mp here] at sameRun eq
      exact absurd (newest e' old' sameRun.symm) (by omega)
    · rw [List.mem_singleton.mp here, List.mem_singleton.mp here']

theorem InOrder.moved_batches (sound : Sound s) (ordered : InOrder s) (orderly : KeepsOrder s a)
    (moves : Moved hash s a t) :
    ∀ worker ∈ t.workers, ∀ event ∈ worker.stage.batch, t.Prepared worker.stage.batch event := by
  have step := moves
  have old : ∀ worker ∈ s.workers, ∀ event ∈ worker.stage.batch, t.Prepared worker.stage.batch event := by
    intro worker member event held
    exact Prepared.moved sound moves ((sound.workers worker member).batch event held)
      (ordered.batches worker member event held) fun e first _ => .inr first
  have put : ∀ {w : Worker}, (∀ event ∈ w.stage.batch, t.Prepared w.stage.batch event) →
      ∀ worker ∈ s.workers.put w, ∀ event ∈ worker.stage.batch, t.Prepared worker.stage.batch event := by
    intro w here worker member
    rcases Table.mem_put.mp member with rfl | ⟨inside, -⟩
    · exact here
    · exact old worker inside
  cases moves with
  | commit | cleanup => exact old
  | start => exact put fun event held => by cases held
  | crash => exact fun worker member => old worker (Table.mem_filter.mp member).1
  | mark working | unmarked working =>
    refine put ?_
    rw [Stage.batch_loop]
    exact old _ (Table.mem_of_get? working)
  | claim =>
    refine put ?_
    rw [Stage.batch_loop]
    intro event held
    obtain ⟨id, -, row, found, rfl⟩ := mem_claimed held
    exact Prepared.moved sound step (sound.committed row (Table.mem_of_get? found)) (orderly _ held)
      fun e first _ => .inr first
  | @publish owner publication event rest working =>
    have member := Table.mem_of_get? working
    refine put fun e held => ?_
    have known := (sound.workers _ member).batch e (List.mem_cons_of_mem _ held)
    refine Prepared.moved sound step known
      (ordered.batches _ member e (List.mem_cons_of_mem _ held)) fun x first sameRun => ?_
    simp only [KeepsOrder, working] at orderly
    -- The published event is no longer ahead of the others: it has reached the broker, or none of them waits for it.
    by_cases head : event = e
    · simp [ahead, Stage.batch, head] at first
    · simp only [ahead, Stage.batch, List.takeWhile_cons, bne_iff_ne, ne_eq, head, not_false_eq_true, if_true,
        List.mem_cons] at first
      rcases first with rfl | later
      · rcases orderly with appended | accepted | alone
        · exact .inl (by simp [appended])
        · exact .inl (step.extends.broker x accepted)
        · exact absurd sameRun.symm (alone e held)
      · exact .inr later

theorem InOrder.moved_broker (sound : Sound s) (ordered : InOrder s) (moves : Moved hash s a t) :
    ∀ event ∈ t.broker, t.Prepared [] event := by
  have step := moves
  intro event member
  have old : event ∈ s.broker → t.Prepared [] event := fun before =>
    Prepared.moved sound moves (sound.broker event before) (ordered.broker event before) fun e first _ => by cases first
  cases moves with
  | @publish owner publication event' rest working =>
    dsimp only at member
    split at member
    · rcases List.mem_append.mp member with before | new
      · exact old before
      · obtain rfl := List.mem_singleton.mp new
        have here := Table.mem_of_get? working
        refine Prepared.moved sound step ((sound.workers _ here).batch event List.mem_cons_self)
          (ordered.batches _ here event List.mem_cons_self) fun e first _ => ?_
        simp [ahead, Stage.batch] at first
    · exact old member
  | _ => exact old member

theorem InOrder.moved_log (sound : Sound s) (ordered : InOrder s) (moves : Moved hash s a t) : FirstInOrder t.broker := by
  cases moves with
  | @publish owner publication event rest working =>
    dsimp only
    split
    · refine ordered.log.append fun fresh e accepted sameRun => ?_
      have member := Table.mem_of_get? working
      have known := (sound.workers _ member).batch event List.mem_cons_self
      by_contra late
      rcases (not_lt.mp late).lt_or_eq with smaller | eq
      · rcases ordered.broker e accepted event known sameRun.symm smaller with inside | first | gone
        · exact fresh inside
        · cases first
        · exact gone (.inr ⟨_, member, List.mem_cons_self⟩)
      · exact fresh (ordered.versions event known e (sound.broker e accepted) sameRun.symm eq ▸ accepted)
    · exact ordered.log
  | _ => exact ordered.log

theorem InOrder.step (sound : Sound s) (ordered : InOrder s) (orderly : KeepsOrder s a) (moves : Moved hash s a t) :
    InOrder t :=
  ⟨ordered.moved_versions moves, ordered.moved_log sound moves, ordered.moved_batches sound orderly moves,
    ordered.moved_broker sound moves⟩

/-- In every run whose claims and publications are orderly, the first records of a run's events are in the order of
the versions. -/
theorem first_publications_in_order (reached : Machine.Reaches (Relay.step hash) KeepsOrder .initial s) :
    FirstInOrder s.broker := by
  have both : Sound s ∧ InOrder s := by
    refine reached.invariant (I := fun s => Sound s ∧ InOrder s) ⟨.initial, .initial⟩ fun before orderly moves => ?_
    exact ⟨before.1.step (moved moves), before.2.step before.1 orderly (moved moves)⟩
  exact both.2.log

end

namespace Sample

/-- Both events in one batch, where the first publication fails for the moment. -/
def overtaking : List Action :=
  [.commit first, .commit third, .start "relay-a",
    .claim "relay-a" (10 * second) (30 * second) 100 [] [first.eventID, third.eventID],
    .publish "relay-a" (.failed ⟨none, none⟩ false), .mark "relay-a" (11 * second),
    .publish "relay-a" (.accepted 0 7), .mark "relay-a" (11 * second),
    .claim "relay-a" (13 * second) (30 * second) 100 [] [first.eventID],
    .publish "relay-a" (.accepted 0 8)]

/-- Both events in one batch, where both publications succeed. -/
def undisturbed : List Action :=
  [.commit first, .commit third, .start "relay-a",
    .claim "relay-a" (10 * second) (30 * second) 100 [] [first.eventID, third.eventID],
    .publish "relay-a" (.accepted 0 7), .mark "relay-a" (11 * second), .publish "relay-a" (.accepted 0 8)]

end Sample

/-- After a transient failure the relay goes on with the batch, and the later event overtakes the earlier one. -/
theorem overtaken :
    Machine.Reachable (step Sample.hash) .initial (relayed Sample.hash Sample.overtaking) ∧
      ¬FirstInOrder (relayed Sample.hash Sample.overtaking).broker := by
  refine ⟨relayed_reachable _ _, fun ordered => ?_⟩
  have log : (relayed Sample.hash Sample.overtaking).broker = [Sample.third] ++ Sample.first :: [] := by decide +kernel
  have less := ordered _ _ _ log (by decide) Sample.third List.mem_cons_self rfl
  exact absurd less (by decide)

theorem undisturbed_in_order :
    ∃ s, Machine.Reaches (step Sample.hash) KeepsOrder .initial s ∧ s.broker = [Sample.first, Sample.third] ∧
      FirstInOrder s.broker := by
  have ran : (Machine.run (Machine.guarded (step Sample.hash) KeepsOrder) Sample.undisturbed .initial).map System.broker =
      some [Sample.first, Sample.third] := by decide +kernel
  obtain ⟨s, run, log⟩ := Option.map_eq_some_iff.mp ran
  have reached := Machine.reaches_of_run run
  exact ⟨s, reached, log, first_publications_in_order reached⟩

end AgentForge.Relay
