import AgentForge.Consumer.Router
import AgentForge.Events.Letters

/-!
# What a route publishes

An accepted record that fails is published again with the same bytes, and this always succeeds; or it becomes a dead
letter, which `Publish` refuses when it is too long or too deep. The two derivations of the attempt agree on accepted
records, because their headers are distinct.
-/

set_option autoImplicit false

namespace AgentForge.Consumer

open Lib Lib.Json Platform Events
open Operator hiding isBlank

variable {F : Format} {source : ReceivedEvent F} {limit : Nat} {key topic : String}

/-! ## Accepted records -/

/-- What `decodeRecord` checks of a record, and what the broker guarantees of its coordinates. -/
structure Accepted (limit : Nat) (source : ReceivedEvent F) : Prop where
  short : F.length source.value ≤ limit
  decoded : decodeEnvelope F source.value = .ok source.envelope
  headers : validateHeaders source.envelope source.headers = .ok ()
  key : keyMatches source.envelope source.topic source.key = true
  partition : 0 ≤ source.partition ∧ source.partition < 2 ^ 31
  offset : 0 ≤ source.offset ∧ source.offset < 2 ^ 63

theorem decodeRecord_ok {record : Record F} :
    decodeRecord limit record = .ok source ↔
      source = { record.received with envelope := source.envelope } ∧ Accepted limit source := by
  constructor
  · intro received
    unfold decodeRecord at received
    split at received
    next => cases received
    next size =>
      split at received
      next => cases received
      next envelope decoded =>
        split at received
        next checks =>
          cases received
          obtain ⟨headers, key⟩ := Bool.and_eq_true_iff.mp checks
          refine ⟨rfl, Nat.le_of_not_lt (by dsimp only [Record.received]; omega), decoded, ?_, key, record.partition_valid,
            record.offset_valid⟩
          cases result : validateHeaders envelope record.headers with
          | ok _ => exact result
          | error _ =>
            rw [result] at headers
            cases headers
        next => cases received
  · rintro ⟨same, accepted⟩
    obtain ⟨short, decoded, headers, key, -, -⟩ := accepted
    rw [same] at short decoded headers key
    obtain ⟨document, parsed, -⟩ := decodeEnvelope_ok.mp decoded
    have positive := F.length_pos parsed
    dsimp only [Record.received] at short decoded headers key positive
    unfold decodeRecord
    rw [if_neg (by omega), decoded]
    dsimp only
    rw [headers, key]
    exact congrArg Except.ok same.symm

theorem decodeRecord_error {record : Record F} (rejected : decodeRecord limit record = .error source) :
    source = record.received := by
  unfold decodeRecord at rejected
  split at rejected
  next =>
    cases rejected
    rfl
  next =>
    split at rejected
    next =>
      cases rejected
      rfl
    next =>
      split at rejected
      next => cases rejected
      next =>
        cases rejected
        rfl

namespace Accepted

theorem valid (accepted : Accepted limit source) : validateEnvelope F source.envelope = .ok () := by
  obtain ⟨_, _, _, valid⟩ := decodeEnvelope_ok.mp accepted.decoded
  exact valid

theorem checked (accepted : Accepted limit source) :
    Checked F (decodeDocument F ((source.envelope.payload.map Json.depth).getD 0)) source.envelope :=
  checkEnvelope_ok.mp accepted.valid

theorem topicAccepts (accepted : Accepted limit source) : topicAccepts source.envelope.eventType source.topic = true := by
  have key := accepted.key
  unfold keyMatches at key
  split at key
  next => exact (Bool.and_eq_true_iff.mp key).1
  next => cases key

/-- Headers have distinct names. -/
theorem distinct (accepted : Accepted limit source) : (source.headers.map Header.key).Nodup :=
  distinct_of_validateHeaders accepted.headers

end Accepted

/-! ## Headers with a name -/

theorem headerValues_of_mem {headers : List (Header F)} (distinct : (headers.map Header.key).Nodup) {h : Header F}
    (inside : h ∈ headers) (named : h.key = F.utf8 key) : headerValues headers key = [h.value] := by
  have sole : headers.filter (fun h => h.key = F.utf8 key) = [h] := by
    induction headers with
    | nil => cases inside
    | cons first rest ih =>
      obtain ⟨fresh, later⟩ := List.nodup_cons.mp distinct
      rcases List.mem_cons.mp inside with rfl | member
      · have others : rest.filter (fun h => h.key = F.utf8 key) = [] := by
          refine List.filter_eq_nil_iff.mpr fun other there same => fresh ?_
          rw [named, ← of_decide_eq_true same]
          exact List.mem_map_of_mem there
        simp [named, others]
      · have different : first.key ≠ F.utf8 key := by
          intro same
          apply fresh
          rw [same, ← named]
          exact List.mem_map_of_mem member
        simp only [List.filter_cons, different, decide_false, Bool.false_eq_true, if_false]
        exact ih later member
  rw [headerValues, sole]
  rfl

theorem headerValues_of_not_mem {headers : List (Header F)} (absent : ∀ h ∈ headers, h.key ≠ F.utf8 key) :
    headerValues headers key = [] := by
  have none : headers.filter (fun h => h.key = F.utf8 key) = [] := by
    refine List.filter_eq_nil_iff.mpr fun h inside same => absent h inside (of_decide_eq_true same)
  rw [headerValues, none]
  rfl

/-- A header with the name and a value that meets the condition. -/
def HasHeader (source : ReceivedEvent F) (key : String) (condition : F.Text → Prop) : Prop :=
  ∃ h ∈ source.headers, h.key = F.utf8 key ∧ condition h.value

/-- An accepted record has at most one header of a name. -/
theorem Accepted.values (accepted : Accepted limit source) (key : String) :
    (∃ h ∈ source.headers, h.key = F.utf8 key ∧ headerValues source.headers key = [h.value]) ∨
      (∀ h ∈ source.headers, h.key ≠ F.utf8 key) ∧ headerValues source.headers key = [] := by
  by_cases some : ∃ h ∈ source.headers, h.key = F.utf8 key
  · obtain ⟨h, inside, named⟩ := some
    exact .inl ⟨h, inside, named, headerValues_of_mem accepted.distinct inside named⟩
  · have absent : ∀ h ∈ source.headers, h.key ≠ F.utf8 key := fun h inside named => some ⟨h, inside, named⟩
    exact .inr ⟨absent, headerValues_of_not_mem absent⟩

theorem hasHeader_iff (accepted : Accepted limit source) {condition : F.Text → Prop} :
    HasHeader source key condition ↔ ∃ value, headerValues source.headers key = [value] ∧ condition value := by
  constructor
  · rintro ⟨h, inside, named, holds⟩
    exact ⟨h.value, headerValues_of_mem accepted.distinct inside named, holds⟩
  · rintro ⟨value, only, holds⟩
    rcases accepted.values key with ⟨h, inside, named, values⟩ | ⟨-, none⟩
    · rw [values] at only
      cases only
      exact ⟨h, inside, named, holds⟩
    · rw [none] at only
      cases only

/-! ## Attempts -/

/-- The header says that the record is the retry of the tier. -/
def SaysAttempt (source : ReceivedEvent F) (tier : Nat) : Prop :=
  HasHeader source "delivery-attempt" fun value => atoi (F.string value) = some (tier + 1 : Int)

/-- The header says when the retry is due. -/
def SaysNotBefore (source : ReceivedEvent F) (notBefore : Time) : Prop :=
  HasHeader source "retry-not-before" fun value => F.parseTime (F.string value) = some notBefore

theorem lifecycle_not_retry : retryTier agentRunLifecycleTopic = none := by decide +kernel

theorem retryTier_mem {tier : Nat} (isRetry : retryTier topic = some tier) :
    retryTopics[tier]? = some topic ∧ topic ≠ agentRunLifecycleTopic := by
  obtain ⟨bound, same, -⟩ := List.findIdx?_eq_some_iff_getElem.mp isRetry
  refine ⟨?_, ?_⟩
  · rw [List.getElem?_eq_getElem bound, beq_iff_eq.mp same]
  · rintro rfl
    rw [lifecycle_not_retry] at isRetry
    cases isRetry

section Attempts

variable {tier : Nat}

theorem deliveryAttempt_ok (accepted : Accepted limit source) (isRetry : retryTier source.topic = some tier) {n : Int} :
    deliveryAttempt source = .ok n ↔ SaysAttempt source tier ∧ n = tier + 2 := by
  have notFirst := (retryTier_mem isRetry).2
  rw [SaysAttempt, hasHeader_iff accepted]
  unfold deliveryAttempt
  rw [if_neg notFirst, isRetry]
  dsimp only
  rcases accepted.values "delivery-attempt" with ⟨h, -, -, values⟩ | ⟨-, values⟩
  · rw [values]
    dsimp only
    split
    next tells =>
      constructor
      · intro same
        cases same
        exact ⟨⟨h.value, rfl, tells⟩, rfl⟩
      · rintro ⟨-, rfl⟩
        rfl
    next silent =>
      constructor
      · intro none
        cases none
      · rintro ⟨⟨value, only, tells⟩, -⟩
        cases only
        exact absurd tells silent
  · rw [values]
    constructor
    · intro none
      cases none
    · rintro ⟨⟨value, only, -⟩, -⟩
      cases only

/-- The router derives the attempt that the consumer derived. -/
theorem expectedFailureAttempt_ok (accepted : Accepted limit source) (isRetry : retryTier source.topic = some tier)
    (tells : SaysAttempt source tier) : expectedFailureAttempt source = .ok (tier + 2) := by
  have notFirst := (retryTier_mem isRetry).2
  obtain ⟨value, values, same⟩ := (hasHeader_iff accepted).mp tells
  unfold expectedFailureAttempt
  rw [if_neg notFirst, isRetry]
  simp [values, same]

theorem retryNotBefore_ok (accepted : Accepted limit source) (isRetry : retryTier source.topic = some tier) {t : Time} :
    retryNotBefore source = .ok t ↔ SaysNotBefore source t := by
  rw [SaysNotBefore, hasHeader_iff accepted]
  unfold retryNotBefore
  rw [isRetry]
  dsimp only
  rcases accepted.values "retry-not-before" with ⟨h, -, -, values⟩ | ⟨-, values⟩
  · rw [values]
    simp only [soleValue, ne_eq, not_true_eq_false, if_false]
    by_cases empty : h.value = F.utf8 ""
    · have unparsed : F.parseTime (F.string h.value) = none := by rw [empty, F.string_utf8, F.parse_empty]
      rw [if_pos empty]
      constructor
      · intro none
        cases none
      · rintro ⟨value, only, parsed⟩
        cases only
        rw [unparsed] at parsed
        cases parsed
    · rw [if_neg empty]
      constructor
      · intro ok
        split at ok
        next notBefore parsed =>
          cases ok
          exact ⟨h.value, rfl, parsed⟩
        next => cases ok
      · rintro ⟨value, only, parsed⟩
        cases only
        rw [parsed]
  · rw [values]
    simp [soleValue]

end Attempts

/-! ## Retries -/

/-- The digits of a number are single bytes. -/
theorem utf8ByteSize_toString {n : Int} {k : Nat} (nonneg : 0 ≤ n) (positive : 0 < k) (small : n < 10 ^ k) :
    (toString n).utf8ByteSize ≤ k := by
  obtain ⟨m, rfl⟩ := Int.eq_ofNat_of_zero_le nonneg
  have bound : m < 10 ^ k := by exact_mod_cast small
  have single : ∀ c ∈ Nat.toDigits 10 m, c.utf8Size = 1 := by
    intro c inside
    have digit := Nat.isDigit_of_mem_toDigits (by omega) (by omega) inside
    simp only [Char.isDigit, Bool.and_eq_true, decide_eq_true_eq] at digit
    exact Char.utf8Size_eq_one_iff.mpr (UInt32.le_trans digit.2 (by decide))
  change (String.ofList (Nat.toDigits 10 m)).utf8ByteSize ≤ k
  rw [String.utf8ByteSize_ofList, utf8Len_of_single single]
  exact (Nat.length_toDigits_le_iff (by omega) positive).mpr bound

/-- The attempts that are retried, with their topics and delays. -/
theorem retryTarget_cases {attempt : Int} (first : 1 ≤ attempt) {delay : Duration}
    (target : retryTarget attempt = some (topic, delay)) :
    ∃ tier : Nat, attempt = tier + 1 ∧ tier < 3 ∧ retryTier topic = some tier ∧ retryTopics[tier]? = some topic ∧
      retryDelays[tier]? = some delay := by
  obtain ⟨tier, shift⟩ : ∃ tier : Nat, attempt = tier + 1 := ⟨(attempt - 1).toNat, by omega⟩
  have index : (attempt - 1).toNat = tier := by omega
  rw [retryTarget, index] at target
  have few : tier < 3 := by
    have bound := (List.getElem?_eq_some_iff.mp target).1
    simpa [retryTopics, retryDelays] using bound
  refine ⟨tier, shift, few, ?_⟩
  match tier, few with
  | 0, _ | 1, _ | 2, _ =>
    cases target
    exact ⟨by decide +kernel, rfl, rfl⟩

theorem retryTarget_some {attempt : Int} (early : attempt ≤ 3) : ∃ target, retryTarget attempt = some target := by
  have bound : (attempt - 1).toNat < (retryTopics.zip retryDelays).length := by
    simp [retryTopics, retryDelays]
    omega
  exact ⟨_, List.getElem?_eq_getElem bound⟩

theorem retryTarget_none {attempt : Int} (late : 3 < attempt) : retryTarget attempt = none := by
  refine List.getElem?_eq_none ?_
  simp [retryTopics, retryDelays]
  omega

/-- The topics on which a run's event is accepted. -/
theorem topic_size {eventType : String} (accepts : topicAccepts eventType topic = true) :
    topic.utf8ByteSize ≤ 64 ∧ isBlank topic = false := by
  have sizes : ∀ topic ∈ agentRunDLQTopic :: agentRunLifecycleTopic :: retryTopics,
      topic.utf8ByteSize ≤ 64 ∧ isBlank topic = false := by decide +kernel
  refine sizes topic ?_
  unfold topicAccepts at accepts
  split at accepts
  · simp only [Bool.or_eq_true, beq_iff_eq, List.contains_iff_mem] at accepts
    rcases accepts with first | retry
    · simp [first]
    · simp [retry]
  · simp only [Bool.and_eq_true, beq_iff_eq] at accepts
    simp [accepts.2]

section Retries

variable {attempt : Int} {delay : Duration}

/-- The record of a retry. -/
def retryRecord (source : ReceivedEvent F) (attempt : Int) (topic : String) (delay : Duration) (now : Time) :
    ProducerRecord F :=
  ⟨topic, F.utf8 source.envelope.aggregateID.text,
    headersForEnvelope F source.envelope ++ (retryEvent source attempt topic delay now).headers, source.value,
    source.envelope.occurredAt.instant⟩

theorem runEvent_key {e : Envelope} (isRun : e.eventType ∈ runEventTypes) :
    expectedPartitionKey F e = .ok e.aggregateID.text := by
  simp [expectedPartitionKey, isRun]

/-- The names and values of the headers that a retry adds. -/
def retryHeaders (source : ReceivedEvent F) (attempt : Int) (due : Time) : List (String × String) :=
  [("delivery-attempt", toString attempt), ("retry-not-before", F.formatTime due), ("original-topic", source.topic),
    ("original-partition", toString source.partition), ("original-offset", toString source.offset)]

/-- The headers of a retry are valid. -/
theorem retryHeaders_valid (accepted : Accepted limit source) (few : 1 ≤ attempt ∧ attempt ≤ 3) (due : Time) :
    validateHeaders source.envelope (headersForEnvelope F source.envelope ++
      (retryHeaders source attempt due).map fun pair => header F pair.1 pair.2) = .ok () := by
  have names : ∀ key ∈ ["delivery-attempt", "retry-not-before", "original-topic", "original-partition", "original-offset"],
      key ∉ repeatedKeys ∧ key.utf8ByteSize ≠ 0 ∧ key.utf8ByteSize ≤ 20 := by decide +kernel
  have distinct : ((retryHeaders source attempt due).map Prod.fst).Nodup := by
    change ["delivery-attempt", "retry-not-before", "original-topic", "original-partition", "original-offset"].Nodup
    decide +kernel
  have number := utf8ByteSize_toString (n := attempt) (k := 1) (by omega) (by omega) (by omega)
  have time := F.formatTime_size due
  have place := (topic_size accepted.topicAccepts).1
  have partition := utf8ByteSize_toString (k := 10) accepted.partition.1 (by omega) (by have := accepted.partition.2; omega)
  have offset := utf8ByteSize_toString (k := 19) accepted.offset.1 (by omega) (by have := accepted.offset.2; omega)
  simp only [List.forall_mem_cons, List.not_mem_nil, false_implies, implies_true, and_true] at names
  obtain ⟨first, second, third, fourth, fifth⟩ := names
  refine validateHeaders_append accepted.checked _ (by simp [retryHeaders]) distinct ?_ ?_ ?_
  · simp only [retryHeaders, List.forall_mem_cons, List.not_mem_nil, false_implies, implies_true, and_true]
    exact ⟨first.1, second.1, third.1, fourth.1, fifth.1⟩
  · simp only [retryHeaders, List.forall_mem_cons, List.not_mem_nil, false_implies, implies_true, and_true]
    refine ⟨⟨first.2.1, ?_, ?_⟩, ⟨second.2.1, ?_, ?_⟩, ⟨third.2.1, ?_, ?_⟩, ⟨fourth.2.1, ?_, ?_⟩, ⟨fifth.2.1, ?_, ?_⟩⟩ <;>
      omega
  · simp only [retryHeaders, List.map_cons, List.map_nil, List.sum_cons, List.sum_nil]
    omega

/-- A retry is published whatever the clock says. -/
theorem retry_published (accepted : Accepted limit source) (isRun : source.envelope.eventType ∈ runEventTypes)
    (first : 1 ≤ attempt) (target : retryTarget attempt = some (topic, delay)) (now : Time) :
    publishRecord limit (retryEvent source attempt topic delay now) = .ok (retryRecord source attempt topic delay now) := by
  obtain ⟨tier, rfl, few, -, isTopic, -⟩ := retryTarget_cases first target
  have listed : topic ∈ retryTopics := List.mem_of_getElem? isTopic
  refine publishRecord_ok.mpr ⟨accepted.short, source.envelope, accepted.decoded, rfl, ?_, ?_, rfl⟩
  · simp [keyMatches, runEvent_key isRun, Events.topicAccepts, isRun, listed, retryEvent]
  · exact retryHeaders_valid accepted ⟨by omega, by omega⟩ (now + delay)

end Retries

end AgentForge.Consumer
