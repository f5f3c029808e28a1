import AgentForge.Consumer.Progress
import AgentForge.Lib.Transaction
import AgentForge.Platform.Database

/-!
# Processed events

`ProcessedEventRepository.Process` inserts a marker for a consumer and an event and applies a business effect in one
transaction. Any number of replicas may process the same event at the same time, fail and die; the primary key of
`processed_events` makes the second inserter of a marker wait for the first.

The business effect is any program that reads the database and changes tables other than the markers. Each of its
statements sees what is committed at that moment, with the marker and the effect's own changes on top.
-/

set_option autoImplicit false

namespace AgentForge.Consumer

open Lib Platform Events
open Operator hiding isBlank

section Event

variable {F : Format}

/-- What `processed_events.go` checks of an event once more. -/
def validateReceivedEvent (event : ReceivedEvent F) : Except Error Unit := do
  if event.envelope.eventID.version ≠ 7 ∨ event.envelope.tenantID.version ≠ 7 ∨ event.topic = "" ∨ event.partition < 0 ∨
      event.offset < 0 then
    throw (.invalid "validated event source metadata is required")
  let decoded ← match decodeEnvelope F event.value with
    | .ok decoded =>
      if decoded.eventID = event.envelope.eventID then pure decoded
      else throw (.invalid "validated event envelope bytes are required")
    | .error _ => throw (.invalid "validated event envelope bytes are required")
  validateHeaders decoded event.headers
  if !keyMatches decoded event.topic event.key then
    throw (.invalid "validated event topic and partition key are required")

/-- A row of `processed_events`. -/
structure ProcessedEvent where
  consumerIdentity : String
  eventID : UUID
  tenantID : UUID
  eventType : String
  schemaVersion : Int
  aggregateType : String
  aggregateID : UUID
  aggregateVersion : Int
  sourceTopic : String
  sourcePartition : Int
  sourceOffset : Int
  processedAt : Time

namespace ProcessedEvent

/-- The primary key. -/
def key (row : ProcessedEvent) : String × UUID := (row.consumerIdentity, row.eventID)

/-- The constraints of the table; `replay_id` is null. -/
def checks (row : ProcessedEvent) : Bool :=
  row.eventID.version == 7 && sqlPresent 160 row.consumerIdentity && sqlPresent 160 row.eventType &&
    (0 < row.schemaVersion && row.schemaVersion < 2 ^ 31) && 0 < row.aggregateVersion && sqlPresent 249 row.sourceTopic &&
    0 ≤ row.sourcePartition && 0 ≤ row.sourceOffset &&
    [row.consumerIdentity, row.eventType, row.aggregateType, row.sourceTopic].all storable

end ProcessedEvent

/-- The marker of an event. -/
def marker (identity : String) (event : ReceivedEvent F) (processedAt : Time) : ProcessedEvent where
  consumerIdentity := identity
  eventID := event.envelope.eventID
  tenantID := event.envelope.tenantID
  eventType := event.envelope.eventType
  schemaVersion := event.envelope.schemaVersion
  aggregateType := event.envelope.aggregateType
  aggregateID := event.envelope.aggregateID
  aggregateVersion := event.envelope.aggregateVersion
  sourceTopic := event.topic
  sourcePartition := event.partition
  sourceOffset := event.offset
  processedAt := pgTime processedAt

end Event

/-! ## The transaction -/

/-- The markers, and the tables that business effects change. -/
structure Markers (Business : Type) where
  processed : Table ProcessedEvent.key
  tenants : List UUID
  business : Business

/-- A lock on a marker, or one of the business effect. -/
abbrev MarkerKey (Lock : Type) : Type := (String × UUID) ⊕ Lock

inductive MarkerWrite (Change : Type) where
  | marker (row : ProcessedEvent)
  | business (change : Change)

/-- The business effects that consumers run, each a program of a transaction. -/
structure BusinessEffects where
  Business : Type
  Lock : Type
  Change : Type
  Effect : Type
  lockDecidable : DecidableEq Lock
  change : Business → Change → Business
  program : Effect → Tx (Markers Business) Lock Change Error Unit

instance (C : BusinessEffects) : DecidableEq C.Lock := C.lockDecidable

section Process

variable (C : BusinessEffects) {F : Format}

/-- The insertion with `on conflict do nothing`: whether a row was inserted. The new key is locked, so that another
inserter of it waits. The constraints of a row are checked before a conflict is looked for, its tenant afterwards. -/
def insertMarker (row : ProcessedEvent) :
    Statement (Markers C.Business) (MarkerKey C.Lock) (MarkerWrite C.Change) (Except Unit Bool) :=
  ⟨fun db _ =>
    if !row.checks then ⟨.error (), [], []⟩
    else if (db.processed.get? row.key).isSome then ⟨.ok false, [], []⟩
    else if !db.tenants.contains row.tenantID then ⟨.error (), [], []⟩
    else ⟨.ok true, [.marker row], [.inl row.key]⟩⟩

/-- `Process` from the answer of the insertion on. -/
def applyEffect (effect : C.Effect) :
    Except Unit Bool → Tx (Markers C.Business) (MarkerKey C.Lock) (MarkerWrite C.Change) Error Bool
  | .error () => .fail .database
  | .ok false => .done true
  | .ok true => do
    (C.program effect).embed .inr .business
    return false

/-- `Process`: whether the event is a duplicate. -/
def processEvent (identity : String) (event : ReceivedEvent F) (processedAt : Time) (effect : C.Effect) :
    Tx (Markers C.Business) (MarkerKey C.Lock) (MarkerWrite C.Change) Error Bool := do
  Tx.check (trimSpace identity ≠ "" && (trimSpace identity).utf8ByteSize ≤ 160)
    (.invalid "consumer identity and business effect are required")
  Tx.lift (validateReceivedEvent event)
  let inserted ← Tx.perform (insertMarker C (marker (trimSpace identity) event processedAt))
  applyEffect C effect inserted

/-- A call of `Process`. -/
structure Delivery (F : Format) where
  identity : String
  event : ReceivedEvent F
  processedAt : Time
  effect : C.Effect

/-- The marker of a call. -/
def Delivery.row (delivery : Delivery C F) : ProcessedEvent :=
  marker (trimSpace delivery.identity) delivery.event delivery.processedAt

/-- The consumer and the event of a call. -/
def Delivery.key (delivery : Delivery C F) : String × UUID :=
  (trimSpace delivery.identity, delivery.event.envelope.eventID)

/-- The calls that replicas make. -/
def processing (F : Format) : Protocol (Markers C.Business) (MarkerKey C.Lock) (MarkerWrite C.Change) Error where
  Txn := Delivery C F
  Reply := fun _ => Bool
  program := fun delivery => processEvent C delivery.identity delivery.event delivery.processedAt delivery.effect
  apply
    | db, .marker row => { db with processed := db.processed.put row }
    | db, .business change => { db with business := C.change db.business change }

end Process

/-! ## What it keeps -/

section Exactly

variable {C : BusinessEffects} {F : Format}

/-- Whether a consumer has a marker for an event. -/
def HasMarker {Business : Type} (db : Markers Business) (key : String × UUID) : Prop := (db.processed.get? key).isSome = true

instance {Business : Type} (db : Markers Business) (key : String × UUID) : Decidable (HasMarker db key) :=
  inferInstanceAs (Decidable (_ = true))

/-- Markers stay, and who holds a marker's key alone inserts it. -/
def markerDiscipline (C : BusinessEffects) : Discipline (Markers C.Business) (MarkerKey C.Lock) where
  inv := fun _ => True
  guarantee := fun before after => ∀ key, HasMarker before key → HasMarker after key
  frame := fun
    | .inl key, before, after => HasMarker after key → HasMarker before key
    | .inr _, _, _ => True
  guarantee_refl := fun _ _ has => has
  guarantee_trans := fun ab bc key has => bc key (ab key has)
  frame_refl := fun k _ => by cases k with
    | inl key => exact id
    | inr lock => trivial
  frame_trans := fun {k _ _ _} ab bc => by cases k with
    | inl key => exact fun has => ab (bc has)
    | inr lock => trivial

/-- What a statement of an effect sees: a committed database, with the marker and the effect's changes so far on top. -/
def Sees (delivery : Delivery C F) (sofar : List C.Change) (view : Markers C.Business) : Prop :=
  ∃ committed, view = (processing C F).applyAll committed ([.marker (delivery.row C)] ++ sofar.map .business)

/-- What a call that was not a duplicate commits: the marker, and the changes of a run of its effect to the end. -/
structure Commits (delivery : Delivery C F) (before after : Markers C.Business) (changes : List C.Change) : Prop where
  absent : ¬HasMarker before (delivery.key C)
  ran : (C.program delivery.effect).Runs (Sees delivery) [] () changes
  stored : after = { before with
    processed := before.processed.put (delivery.row C)
    business := changes.foldl C.change before.business }

/-- What is known of a call when it ends. -/
def processSpec (C : BusinessEffects) (F : Format) : (processing C F).Spec
  | _, .error _, _, before, after => after = before
  | delivery, .ok true, _, before, after => after = before ∧ HasMarker before (delivery.key C)
  | delivery, .ok false, held, before, after =>
    .inl (delivery.key C) ∈ held ∧ ∃ changes, Commits delivery before after changes

theorem apply_business (db : Markers C.Business) (changes : List C.Change) :
    (processing C F).applyAll db (changes.map .business) =
      { db with business := changes.foldl C.change db.business } := by
  induction changes generalizing db with
  | nil => rfl
  | cons change changes ih =>
    rw [List.map_cons, Protocol.applyAll_cons, ih]
    rfl

variable {delivery : Delivery C F}

/-- From the insertion of the marker on, its key is held, so the marker is absent until the commit. -/
theorem applyEffect_ensures {db : Markers C.Business} (absent : ¬HasMarker db (delivery.key C)) :
    (applyEffect C delivery.effect (.ok true)).Ensures (processing C F) (markerDiscipline C)
      (fun r pending held db' =>
        processSpec C F delivery r held db' ((processing C F).conclude db' pending r))
      [.marker (delivery.row C)] [.inl (delivery.key C)] db := by
  have effect := Tx.Ensures.embed (P := processing C F) (D := markerDiscipline C) Sum.inr
    MarkerWrite.business (C.program delivery.effect) [.marker (delivery.row C)] [] [.inl (delivery.key C)] db
  refine Tx.Ensures.bind trivial effect (fun _ _ _ _ _ => rfl) ?_
  rintro ⟨⟩ pending held db' rely subset ran last final
  obtain ⟨changes, runs, rfl⟩ := ran () rfl
  have whole : (markerDiscipline C).Rely [.inl (delivery.key C)] db last := rely.followed final subset
  refine ⟨subset (by simp), changes, fun has => absent (whole.frame (.inl (delivery.key C)) (by simp) has), runs, ?_⟩
  change (processing C F).applyAll last ([.marker (delivery.row C)] ++ changes.map .business) = _
  rw [Protocol.applyAll_append, apply_business]
  rfl

theorem process_ensures (delivery : Delivery C F) (db : Markers C.Business) :
    ((processing C F).program delivery).Ensures (processing C F) (markerDiscipline C)
      (fun r pending held db' =>
        processSpec C F delivery r held db' ((processing C F).conclude db' pending r)) [] [] db := by
  refine Tx.Ensures.check (fun _ _ _ => rfl) fun _ => ?_
  refine Tx.Ensures.lift (fun _ _ _ _ => rfl) fun _ _ => ?_
  intro db' others rely _
  rw [Protocol.applyAll_nil]
  change Tx.Ensures _ _ _ (applyEffect C delivery.effect ((insertMarker C (delivery.row C)).run db' others).answer)
    ([] ++ ((insertMarker C (delivery.row C)).run db' others).writes)
    ([] ++ ((insertMarker C (delivery.row C)).run db' others).keys) db'
  unfold insertMarker
  by_cases valid : (delivery.row C).checks = true
  · by_cases present : HasMarker db' (delivery.key C)
    · -- a duplicate: the marker that was found stays
      have found : (db'.processed.get? (delivery.row C).key).isSome = true := present
      simp only [valid, found, Bool.not_true, Bool.false_eq_true, if_false, if_true]
      exact fun last final => ⟨rfl, final.guarantee _ present⟩
    · have missing : (db'.processed.get? (delivery.row C).key).isSome = false := Bool.not_eq_true _ ▸ present
      by_cases known : db'.tenants.contains (delivery.row C).tenantID = true
      · simp only [valid, missing, known, Bool.not_true, Bool.false_eq_true, if_false, List.nil_append]
        exact applyEffect_ensures present
      · rw [Bool.not_eq_true] at known
        simp only [valid, missing, known, Bool.not_true, Bool.not_false, Bool.false_eq_true, if_false, if_true]
        exact fun _ _ => rfl
  · rw [Bool.not_eq_true] at valid
    simp only [valid, Bool.not_false, if_true]
    exact fun _ _ => rfl

variable {before after first last : Markers C.Business}

/-- What a commit does to the markers. -/
theorem Commits.hasMarker {changes : List C.Change} (commits : Commits delivery before after changes)
    {other : String × UUID} : HasMarker after other ↔ other = delivery.key C ∨ HasMarker before other := by
  rw [commits.stored]
  by_cases same : (delivery.row C).key = other
  · subst same
    exact iff_of_true (by simp [HasMarker]) (.inl rfl)
  · have isOther : other ≠ delivery.key C := Ne.symm same
    simp [HasMarker, Table.get?_put_ne same, isOther]

variable {held : List (MarkerKey C.Lock)}

/-- How a commit of `Process` changes the database. -/
theorem process_cases {duplicate : Bool} (met : processSpec C F delivery (.ok duplicate) held before after) :
    (after = before ∧ duplicate = true) ∨
      (.inl (delivery.key C) ∈ held ∧ duplicate = false ∧ ∃ changes, Commits delivery before after changes) := by
  cases duplicate with
  | true => exact .inl ⟨met.1, rfl⟩
  | false => exact .inr ⟨met.1, rfl, met.2⟩

theorem process_respects : Respects (processing C F) (markerDiscipline C) (processSpec C F) where
  runs := fun delivery db _ => process_ensures delivery db
  inv := fun _ _ => trivial
  guarantee := by
    intro delivery duplicate held before after _ met key has
    rcases process_cases met with ⟨rfl, -⟩ | ⟨-, -, changes, commits⟩
    · exact has
    · exact commits.hasMarker.mpr (.inr has)
  frame := by
    intro delivery duplicate held before after k _ met free
    cases k with
    | inr lock => trivial
    | inl key =>
      intro has
      rcases process_cases met with ⟨rfl, -⟩ | ⟨holds, -, changes, commits⟩
      · exact has
      · rcases commits.hasMarker.mp has with rfl | old
        · exact absurd holds free
        · exact old

/-! ## Over whole histories -/

/-- The call has committed its effect. -/
def applies (o : (processing C F).Outcome) : Bool :=
  match (o.result : Except Error Bool) with
  | .ok false => true
  | _ => false

/-- The consumer and the event of each call that has committed its effect. -/
def effects (history : List (processing C F).Outcome) : List (String × UUID) :=
  (history.filter applies).map fun o => Delivery.key C o.txn

/-- A call commits its effect and its marker together, or it changes nothing. -/
theorem outcome_cases {o : (processing C F).Outcome} (met : processSpec C F o.txn o.result held o.before o.after) :
    (applies o = true ∧ ∃ changes, Commits o.txn o.before o.after changes) ∨ (applies o = false ∧ o.after = o.before) := by
  obtain ⟨delivery, result, before, after⟩ := o
  cases result with
  | error e => exact .inr ⟨rfl, met⟩
  | ok duplicate =>
    rcases process_cases met with ⟨same, rfl⟩ | ⟨-, rfl, commits⟩
    · exact .inr ⟨rfl, same⟩
    · exact .inl ⟨rfl, commits⟩

variable {history : List (processing C F).Outcome}

/-- After each outcome of a history there is one effect for each marker. -/
theorem count_effects (unmarked : first.processed = .empty)
    (chain : Protocol.Chain (processing C F) first history last)
    (met : ∀ o ∈ history, ∃ held, processSpec C F o.txn o.result held o.before o.after) (key : String × UUID) :
    (effects history).count key = if HasMarker last key then 1 else 0 := by
  refine chain.record (I := fun past db => (effects past).count key = if HasMarker db key then 1 else 0) ?_
    fun past o member counted => ?_
  · simp [effects, HasMarker, unmarked, Table.get?, Table.empty]
  · obtain ⟨held, meets⟩ := met o member
    rcases outcome_cases meets with ⟨applied, changes, commits⟩ | ⟨skipped, same⟩
    · have absent := commits.absent
      simp only [effects, List.filter_append, List.map_append, List.count_append] at counted ⊢
      rw [counted]
      by_cases mine : key = Delivery.key C o.txn
      · simp [commits.hasMarker, applied, mine, absent]
      · simp [commits.hasMarker, applied, mine, Ne.symm mine]
    · rw [same]
      simpa [effects, skipped] using counted

/-- A call that returned without an error left its marker. -/
theorem hasMarker_of_ok {duplicate : Bool} (met : processSpec C F delivery (.ok duplicate) held before after) :
    HasMarker after (delivery.key C) := by
  cases duplicate with
  | true =>
    obtain ⟨rfl, has⟩ := met
    exact has
  | false =>
    obtain ⟨-, changes, commits⟩ := met
    exact commits.hasMarker.mpr (.inl rfl)

/-- Markers that were committed are still there. -/
theorem hasMarker_chain (chain : Protocol.Chain (processing C F) first history last)
    (met : ∀ o ∈ history, ∃ held, processSpec C F o.txn o.result held o.before o.after) {key : String × UUID}
    (has : HasMarker first key) : HasMarker last key := by
  refine chain.invariant (I := fun db => HasMarker db key) has fun o member before => ?_
  obtain ⟨held, meets⟩ := met o member
  rcases outcome_cases meets with ⟨-, changes, commits⟩ | ⟨-, same⟩
  · exact commits.hasMarker.mpr (.inr before)
  · rwa [same]

/-- However deliveries of events are interleaved, fail and die, they end one after the other, and each one either commits
its marker with exactly the changes of a complete run of its business effect, or it changes nothing. The effect of a
consumer and an event is committed at most once, and exactly when the marker is; and a call that returned without an
error has its marker. -/
theorem process_exactly_once {start : Markers C.Business} (unmarked : start.processed = .empty)
    {s : (processing C F).System} (reachable : Protocol.Reachable start s) :
    Protocol.Chain (processing C F) start s.history s.db ∧
    (∀ o ∈ s.history, (applies o = true ∧ ∃ changes, Commits o.txn o.before o.after changes) ∨
      (applies o = false ∧ o.after = o.before)) ∧
    (∀ identity eventID, (effects s.history).count (trimSpace identity, eventID) ≤ 1 ∧
      ((trimSpace identity, eventID) ∈ effects s.history ↔ HasMarker s.db (trimSpace identity, eventID))) ∧
    ∀ o ∈ s.history, ∀ duplicate, o.result = .ok duplicate → HasMarker s.db (Delivery.key C o.txn) := by
  have sound := process_respects.sound trivial reachable
  have met := fun o member => (sound.met o member).2
  refine ⟨sound.chain, fun o member => ?_, fun identity eventID => ?_, fun o member duplicate ok => ?_⟩
  · obtain ⟨held, meets⟩ := met o member
    exact outcome_cases meets
  · have one := count_effects unmarked sound.chain met (trimSpace identity, eventID)
    rw [← List.count_pos_iff, one]
    split <;> simp_all
  · obtain ⟨front, back, split⟩ := List.append_of_mem member
    have chain := sound.chain
    rw [split] at chain
    obtain ⟨held, meets⟩ := met o member
    rw [ok] at meets
    refine hasMarker_chain chain.split.2 (fun later inside => met later ?_) (hasMarker_of_ok meets)
    rw [split]
    simp [inside]

end Exactly

namespace Sample

/-- An effect that adds a number to a total, or fails after it has done so. -/
def adding : BusinessEffects where
  Business := Nat
  Lock := Empty
  Change := Nat
  Effect := Nat × Bool
  lockDecidable := inferInstance
  change := fun total n => total + n
  program := fun (n, fails) => do
    Tx.perform ⟨fun _ _ => ⟨(), [n], []⟩⟩
    if fails then .fail .database

/-- A delivery of the event. -/
def delivery (fails : Bool) : Delivery adding Plain.format where
  identity := " agentrun-handoff.v1"
  event := { (record agentRunLifecycleTopic []).received with envelope := envelope }
  processedAt := 2 * minute
  effect := (7, fails)

def total (db : Markers adding.Business) : Nat := db.business

def unprocessed : Markers adding.Business := ⟨.empty, [id 1], (0 : Nat)⟩

/-- The effect fails at the first delivery of the event; then the event is delivered twice more. -/
def redeliveries : Markers adding.Business × List (processing adding Plain.format).Outcome :=
  (processing adding Plain.format).play [delivery true, delivery false, delivery false] unprocessed

def redelivered : (processing adding Plain.format).System := ⟨redeliveries.1, [], redeliveries.2⟩

theorem redelivered_reachable : Protocol.Reachable unprocessed redelivered := Protocol.reachable_play _ _

end Sample

/-- The delivery after the failed one applies the effect, and the last one finds its marker. -/
theorem redelivered_once :
    Sample.redelivered.history.map (fun o => (Except.toOption o.result : Option Bool)) = [none, some false, some true] ∧
      Sample.total Sample.redelivered.db = 7 ∧
      (effects Sample.redelivered.history).count ("agentrun-handoff.v1", Sample.id 5) ≤ 1 ∧
      ("agentrun-handoff.v1", Sample.id 5) ∈ effects Sample.redelivered.history := by
  have once := (process_exactly_once rfl Sample.redelivered_reachable).2.2.1 "agentrun-handoff.v1" (Sample.id 5)
  have trimmed : trimSpace "agentrun-handoff.v1" = "agentrun-handoff.v1" := by decide +kernel
  rw [trimmed] at once
  exact ⟨by decide +kernel, by decide +kernel, once.1, once.2.mpr (by decide +kernel)⟩

end AgentForge.Consumer
