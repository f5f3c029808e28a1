import AgentForge.Consumer.Progress

/-!
# The retry ladder

A scheduled event that fails is delivered again on the retry topics, one after the other, and at last becomes a dead
letter. The history of an event is computed by `climb` from what each iteration publishes; every retry that it publishes
is accepted when it is received, with the same envelope.
-/

set_option autoImplicit false

namespace AgentForge.Consumer

open Lib Lib.Json Platform Events
open Operator hiding isBlank

/-! ## Histories -/

/-- A delivery that fails: the failure and its time, the new identifiers, and the place that the broker gives to the
record that is published for it. -/
structure Trouble where
  failure : Failure
  now : Time
  failureID : UUID
  eventID : UUID
  partition : Int
  leaderEpoch : Int
  offset : Int
  classified : Classified failure
  failureID_valid : failureID.validV7 = true
  eventID_valid : eventID.validV7 = true
  partition_valid : 0 ≤ partition ∧ partition < 2 ^ 31
  offset_valid : 0 ≤ offset ∧ offset < 2 ^ 63

def Trouble.answers (trouble : Trouble) : Answers :=
  ⟨trouble.now, trouble.failureID, trouble.eventID, .error trouble.failure⟩

section

variable {F : Format}

/-- The record as the broker keeps it. -/
def Trouble.store (trouble : Trouble) (record : ProducerRecord F) : Record F :=
  record.stored trouble.partition trouble.leaderEpoch trouble.offset trouble.partition_valid trouble.offset_valid

/-- What the iteration of a failed delivery publishes before it acknowledges the record. -/
def republished (router : Router) (record : Record F) (trouble : Trouble) : Option (ProducerRecord F) :=
  match iterate router record trouble.answers with
  | some (.acknowledged, w) => w.published.head?
  | _ => none

/-- The deliveries of a record that meets troubles one after the other, and the dead letter if there is one. The history
ends where a delivery does not fail or its record is not acknowledged. -/
def climb (router : Router) : List Trouble → Record F → List (Record F) × Option (ProducerRecord F)
  | [], record => ([record], none)
  | trouble :: rest, record =>
    match republished router record trouble with
    | none => ([record], none)
    | some next =>
      if next.topic = agentRunDLQTopic then ([record], some next)
      else
        let (later, letter) := climb router rest (trouble.store next)
        (record :: later, letter)

/-! ## Retries that are received -/

/-- A retry as it is received. -/
def retried (source : ReceivedEvent F) (attempt : Int) (topic : String) (delay : Duration) (trouble : Trouble) :
    ReceivedEvent F :=
  { (trouble.store (retryRecord source attempt topic delay trouble.now)).received with envelope := source.envelope }

section Retried

variable {limit : Nat} {source : ReceivedEvent F} {attempt : Int} {topic : String} {delay : Duration} {trouble : Trouble}

theorem retried_headers : (retried source attempt topic delay trouble).headers =
    headersForEnvelope F source.envelope ++
      (retryHeaders source attempt (trouble.now + delay)).map fun pair => header F pair.1 pair.2 := rfl

variable (accepted : Accepted limit source) (isRun : source.envelope.eventType ∈ runEventTypes) (first : 1 ≤ attempt)
  (target : retryTarget attempt = some (topic, delay))

include accepted isRun first target

theorem retried_accepted : Accepted limit (retried source attempt topic delay trouble) := by
  obtain ⟨tier, rfl, few, -, isTopic, -⟩ := retryTarget_cases first target
  have listed : topic ∈ retryTopics := List.mem_of_getElem? isTopic
  refine ⟨accepted.short, accepted.decoded, ?_, ?_, trouble.partition_valid, trouble.offset_valid⟩
  · exact retryHeaders_valid accepted ⟨by omega, by omega⟩ _
  · change keyMatches source.envelope topic (F.utf8 source.envelope.aggregateID.text) = true
    simp [keyMatches, runEvent_key isRun, Events.topicAccepts, isRun, listed]

theorem retried_decodes : decodeRecord limit (trouble.store (retryRecord source attempt topic delay trouble.now)) =
    .ok (retried source attempt topic delay trouble) :=
  decodeRecord_ok.mpr ⟨rfl, retried_accepted accepted isRun first target⟩

omit accepted isRun in
/-- A retry says which one it is. -/
theorem retried_attempt {tier : Nat} (isRetry : retryTier topic = some tier) :
    SaysAttempt (retried source attempt topic delay trouble) tier := by
  obtain ⟨other, rfl, few, same, -, -⟩ := retryTarget_cases first target
  rw [isRetry] at same
  cases same
  have numbers : ∀ n : Fin 3, atoi (toString ((n : Nat) + 1 : Int)) = some ((n : Nat) + 1 : Int) := by decide +kernel
  refine ⟨header F "delivery-attempt" (toString ((tier : Int) + 1)), ?_, rfl, ?_⟩
  · rw [retried_headers]
    exact List.mem_append_right _ (by simp [retryHeaders])
  · change atoi (F.string (F.utf8 _)) = _
    rw [F.string_utf8]
    exact numbers ⟨tier, few⟩

/-- It is due after the delay, which can be read if the time can be written. -/
theorem retried_notBefore {due : Time} : SaysNotBefore (retried source attempt topic delay trouble) due ↔
    isWritable (trouble.now + delay) = true ∧ due = trouble.now + delay := by
  have isAccepted : Accepted limit (retried source attempt topic delay trouble) :=
    retried_accepted accepted isRun first target
  have only : headerValues (retried source attempt topic delay trouble).headers "retry-not-before" =
      [F.utf8 (F.formatTime (trouble.now + delay))] := by
    refine headerValues_of_mem (h := header F "retry-not-before" (F.formatTime (trouble.now + delay))) isAccepted.distinct ?_ rfl
    rw [retried_headers]
    exact List.mem_append_right _ (by simp [retryHeaders])
  rw [SaysNotBefore, hasHeader_iff isAccepted, only]
  simp only [List.cons.injEq, and_true, exists_eq_left', F.string_utf8, F.parse_format]
  by_cases writable : isWritable (trouble.now + delay) = true
  · simp [writable, eq_comm]
  · simp [writable]

end Retried

/-! ## Deliveries that can be routed -/

/-- A scheduled event whose headers say what the consumer asks for. -/
structure Standing (router : Router) (record : Record F) (source : ReceivedEvent F) : Prop where
  received : decodeRecord router.maxMessageBytes record = .ok source
  scheduled : source.envelope.eventType = agentRunScheduledType
  times : SaysTimes source
  attempts : SaysAttempts source

section Standing

variable {router : Router} {record : Record F} {source : ReceivedEvent F} {trouble : Trouble} {rest : List Trouble}
  {topic : String} {delay : Duration}

theorem standing_first (received : decodeRecord router.maxMessageBytes record = .ok source)
    (scheduled : source.envelope.eventType = agentRunScheduledType) (isFirst : source.topic = agentRunLifecycleTopic) :
    Standing router record source := by
  have none : ∀ tier, retryTier source.topic ≠ some tier := by
    intro tier
    rw [isFirst, lifecycle_not_retry]
    exact nofun
  exact ⟨received, scheduled, fun tier isRetry => absurd isRetry (none tier), fun tier isRetry => absurd isRetry (none tier)⟩

namespace Standing

theorem accepted (standing : Standing router record source) : Accepted router.maxMessageBytes source :=
  (decodeRecord_ok.mp standing.received).2

theorem isRun (standing : Standing router record source) : source.envelope.eventType ∈ runEventTypes :=
  standing.scheduled ▸ isRun_scheduled

theorem positive (standing : Standing router record source) : 1 ≤ malformedAttempt source.topic :=
  (attempt_bounds standing.accepted standing.isRun).1

theorem expected (standing : Standing router record source) :
    deliveryAttempt source = .ok (malformedAttempt source.topic) ∧
      expectedFailureAttempt source = .ok (malformedAttempt source.topic) := by
  rcases deliveryAttempt_cases standing.accepted standing.isRun with ⟨-, attempt⟩ | ⟨silent, -⟩
  · exact attempt
  · exact absurd standing.attempts silent

/-- A failed delivery publishes what its failure is routed to. -/
theorem republished_eq (standing : Standing router record source) :
    republished router record trouble =
      (router.route source trouble.failure (malformedAttempt source.topic) source.envelope.occurredAt.instant trouble.now
        trouble.failureID trouble.eventID).toOption.map Prod.snd := by
  obtain ⟨due, isDue⟩ := (notBefore_ok standing.accepted standing.isRun).mpr standing.times
  have ran : iterate router record trouble.answers =
      (answering F).run trouble.answers (routeFailed router source trouble.failure trouble.now) ⟨[], []⟩ :=
    iterate_due standing.received standing.scheduled trouble.answers isDue
  rw [routeFailed, standing.expected.1] at ran
  simp only [run_routeAndAcknowledge] at ran
  rw [republished, ran]
  change _ = (router.route source trouble.failure _ _ trouble.now trouble.failureID trouble.eventID).toOption.map _
  cases routed : router.route source trouble.failure (malformedAttempt source.topic) source.envelope.occurredAt.instant
      trouble.now trouble.failureID trouble.eventID with
  | error err => simp [Trouble.answers, routed, Except.toOption]
  | ok pair => simp [Trouble.answers, routed, Except.toOption]

/-- A transient failure leads to the next retry. -/
theorem climb_retry (standing : Standing router record source) (transient : trouble.failure.permanent = false)
    (target : retryTarget (malformedAttempt source.topic) = some (topic, delay))
    (ordered : source.envelope.occurredAt.instant ≤ trouble.now) :
    climb router (trouble :: rest) record =
      (record :: (climb router rest (trouble.store
          (retryRecord source (malformedAttempt source.topic) topic delay trouble.now))).1,
        (climb router rest (trouble.store
          (retryRecord source (malformedAttempt source.topic) topic delay trouble.now))).2) := by
  have routed : router.route source trouble.failure (malformedAttempt source.topic) source.envelope.occurredAt.instant
      trouble.now trouble.failureID trouble.eventID =
        .ok (.retry, retryRecord source (malformedAttempt source.topic) topic delay trouble.now) :=
    (route_retry standing.accepted standing.isRun standing.expected.2 standing.positive trouble.classified transient
      target).mpr ⟨ordered, rfl, rfl⟩
  have next : republished router record trouble =
      some (retryRecord source (malformedAttempt source.topic) topic delay trouble.now) := by
    rw [standing.republished_eq, routed]
    rfl
  have notLetter : topic ≠ agentRunDLQTopic := by
    obtain ⟨tier, -, -, -, isTopic, -⟩ := retryTarget_cases standing.positive target
    have others : ∀ topic ∈ retryTopics, topic ≠ agentRunDLQTopic := by decide +kernel
    exact others topic (List.mem_of_getElem? isTopic)
  rw [climb, next]
  exact if_neg notLetter

/-- A final failure leads to the letter if it fits, and nowhere otherwise. -/
theorem climb_final (standing : Standing router record source) (trouble : Trouble) (rest : List Trouble)
    (final : trouble.failure.permanent = true ∨ retryTier source.topic = some 2) {attempt : Int}
    (number : malformedAttempt source.topic = attempt) {document : Json} (parsed : F.parse source.value = some document) :
    climb router (trouble :: rest) record = ([record], republished router record trouble) ∧
      ∀ letter, republished router record trouble = some letter ↔
        source.envelope.occurredAt.instant ≤ trouble.now ∧
          LetterFits router source (router.report source trouble.failure attempt trouble.now) trouble.failureID
            trouble.eventID ∧
          letter = letterRecord source (router.report source trouble.failure attempt trouble.now) document
            trouble.failureID trouble.eventID := by
  subst number
  obtain ⟨positive, few, last⟩ := attempt_bounds standing.accepted standing.isRun
  have letters : ∀ letter, republished router record trouble = some letter ↔
      source.envelope.occurredAt.instant ≤ trouble.now ∧
        LetterFits router source (router.report source trouble.failure (malformedAttempt source.topic) trouble.now)
          trouble.failureID trouble.eventID ∧
        letter = letterRecord source (router.report source trouble.failure (malformedAttempt source.topic) trouble.now)
          document trouble.failureID trouble.eventID := by
    intro letter
    rw [standing.republished_eq, Option.map_eq_some_iff]
    simp only [toOption_eq_some, Prod.exists, route_final standing.accepted standing.expected.2 ⟨positive, few⟩
      trouble.classified (final.imp_right last.mpr) trouble.failureID_valid trouble.eventID_valid parsed]
    constructor
    · rintro ⟨routing, found, ⟨ordered, fits, -, same⟩, rfl⟩
      exact ⟨ordered, fits, same⟩
    · rintro ⟨ordered, fits, rfl⟩
      exact ⟨_, _, ⟨ordered, fits, rfl, rfl⟩, rfl⟩
  refine ⟨?_, letters⟩
  rw [climb]
  cases found : republished router record trouble with
  | none => rfl
  | some letter =>
    obtain ⟨-, -, rfl⟩ := (letters letter).mp found
    exact if_pos rfl

/-- A retry whose time can be written can be routed in turn. -/
theorem retry (standing : Standing router record source) {attempt : Int} (number : malformedAttempt source.topic = attempt)
    (target : retryTarget attempt = some (topic, delay)) (writable : isWritable (trouble.now + delay) = true) :
    Standing router (trouble.store (retryRecord source attempt topic delay trouble.now))
      (retried source attempt topic delay trouble) := by
  subst number
  refine ⟨retried_decodes standing.accepted standing.isRun standing.positive target, standing.scheduled, ?_, ?_⟩
  · intro tier isRetry
    exact ⟨trouble.now + delay,
      (retried_notBefore standing.accepted standing.isRun standing.positive target).mpr ⟨writable, rfl⟩⟩
  · intro tier isRetry
    exact retried_attempt standing.positive target isRetry

/-- The climb ends at a retry whose time cannot be written. -/
theorem climb_unwritable (standing : Standing router record source)
    (target : retryTarget (malformedAttempt source.topic) = some (topic, delay))
    (unwritable : ¬ isWritable (trouble.now + delay) = true) {next : Trouble} :
    climb router (next :: rest)
        (trouble.store (retryRecord source (malformedAttempt source.topic) topic delay trouble.now)) =
      ([trouble.store (retryRecord source (malformedAttempt source.topic) topic delay trouble.now)], none) := by
  have decodes : decodeRecord router.maxMessageBytes
      (trouble.store (retryRecord source (malformedAttempt source.topic) topic delay trouble.now)) =
        .ok (retried source (malformedAttempt source.topic) topic delay trouble) :=
    retried_decodes standing.accepted standing.isRun standing.positive target
  have isAccepted := (decodeRecord_ok.mp decodes).2
  obtain ⟨tier, -, -, isRetry, -⟩ := retryTarget_cases standing.positive target
  have silent : ¬ SaysTimes (retried source (malformedAttempt source.topic) topic delay trouble) := by
    intro times
    obtain ⟨due, tells⟩ := times tier isRetry
    exact unwritable ((retried_notBefore standing.accepted standing.isRun standing.positive target).mp tells).1
  rw [← notBefore_ok isAccepted standing.isRun] at silent
  cases undue : notBefore (retried source (malformedAttempt source.topic) topic delay trouble) with
  | ok due => exact absurd ⟨due, undue⟩ silent
  | error err =>
    rw [climb, republished, iterate_undue decodes standing.scheduled undue]

/-- A climb to a letter goes on from the retry. -/
theorem climb_step (standing : Standing router record source) (transient : trouble.failure.permanent = false)
    {attempt : Int} (number : malformedAttempt source.topic = attempt) (target : retryTarget attempt = some (topic, delay))
    (ordered : source.envelope.occurredAt.instant ≤ trouble.now) {next : Trouble} {deliveries : List (Record F)}
    {letter : ProducerRecord F} :
    climb router (trouble :: next :: rest) record = (deliveries, some letter) ↔
      isWritable (trouble.now + delay) = true ∧ ∃ later, deliveries = record :: later ∧
        climb router (next :: rest) (trouble.store (retryRecord source attempt topic delay trouble.now)) =
          (later, some letter) := by
  subst number
  rw [standing.climb_retry transient target ordered]
  by_cases writable : isWritable (trouble.now + delay) = true
  · constructor
    · intro climbed
      obtain ⟨rfl, isLetter⟩ := Prod.mk.inj climbed
      exact ⟨writable, _, rfl, Prod.ext rfl isLetter⟩
    · rintro ⟨-, later, rfl, climbed⟩
      rw [climbed]
  · rw [standing.climb_unwritable target writable]
    constructor
    · intro climbed
      cases climbed
    · rintro ⟨isWritable', -⟩
      exact absurd isWritable' writable

end Standing

end Standing

end

/-! ## The sample event -/

namespace Sample

/-- The first delivery of the event. -/
def first : Record Plain.format := record agentRunLifecycleTopic []

def received : ReceivedEvent Plain.format := { first.received with envelope := envelope }

theorem envelope_valid : validateEnvelope Plain.format envelope = .ok () := by decide +kernel

theorem parses : Plain.format.parse first.value = some (envelope.document Plain.format) :=
  (Plain.format.parse_marshal _ _).trans (if_pos (by decide +kernel))

theorem decodes {limit : Nat} (short : Plain.format.length first.value ≤ limit) :
    decodeRecord limit first = .ok received := by
  have decoded : decodeStruct true (envelopeFields Plain.format) .zero (envelope.document Plain.format) = some envelope :=
    decode_document ⟨by decide, by decide⟩ rfl (by decide) ⟨by decide, by decide⟩ rfl
  refine decodeRecord_ok.mpr ⟨rfl, short, decodeEnvelope_ok.mpr ⟨_, parses, decoded, envelope_valid⟩, ?_, ?_,
    first.partition_valid, first.offset_valid⟩
  · decide +kernel
  · decide +kernel

/-- A failure at a minute. -/
def trouble (failure : Failure) (classified : Classified failure) (at_ : Int) : Trouble where
  failure := failure
  now := at_ * minute
  failureID := id 10
  eventID := id 11
  partition := 5
  leaderEpoch := 0
  offset := 23
  classified := classified
  failureID_valid := by decide
  eventID_valid := by decide
  partition_valid := by decide
  offset_valid := by decide

def transient (at_ : Int) : Trouble :=
  trouble (newTransientFailure "PROCESSED_MARKER" "processed-event marker is unavailable")
    ⟨"PROCESSED_MARKER", "processed-event marker is unavailable", false, by rw [newTransientFailure]⟩ at_

def permanent (at_ : Int) : Trouble :=
  trouble (newPermanentFailure "HANDOFF_INTENT" "durable AgentRun handoff intent is invalid")
    (newPermanentFailure_classified _ _) at_

theorem permanent_permanent (at_ : Int) : (permanent at_).failure.permanent = true := by
  dsimp only [permanent, trouble]
  exact newPermanentFailure_permanent _ _

end Sample

section

variable {F : Format}

/-! ## The whole ladder -/

/-- What a retry has in common with the first delivery, and what it says. -/
structure Rung (router : Router) (first record : Record F) (tier : Nat) (due : Time) : Prop where
  topic : retryTopics[tier]? = some record.topic
  value : record.value = first.value
  received : ∃ source original, decodeRecord router.maxMessageBytes record = .ok source ∧
    decodeRecord router.maxMessageBytes first = .ok original ∧ source.envelope.eventID = original.envelope.eventID ∧
    retryNotBefore source = .ok due ∧ deliveryAttempt source = .ok (tier + 2) ∧
    expectedFailureAttempt source = .ok (tier + 2)

/-- The event passes the lifecycle topic, the three retry topics and the dead-letter topic. -/
def Climbs (router : Router) (first : Record F) (t₁ t₂ t₃ t₄ : Trouble) : Prop :=
  ∃ r₁ r₂ r₃ letter, climb router [t₁, t₂, t₃, t₄] first = ([first, r₁, r₂, r₃], some letter) ∧
    first.topic = agentRunLifecycleTopic ∧ Rung router first r₁ 0 (t₁.now + minute) ∧
    Rung router first r₂ 1 (t₂.now + 5 * minute) ∧ Rung router first r₃ 2 (t₃.now + 30 * minute) ∧
    letter.topic = agentRunDLQTopic

section Ladder

variable {router : Router} {first : Record F} {source : ReceivedEvent F}

theorem Standing.rung {record : Record F} {original : ReceivedEvent F} (standing : Standing router record source) {tier : Nat}
    {due : Time} (isRetry : retryTier source.topic = some tier) (tells : SaysNotBefore source due)
    (value : record.value = first.value) (received : decodeRecord router.maxMessageBytes first = .ok original)
    (same : source.envelope = original.envelope) : Rung router first record tier due := by
  have place := (decodeRecord_ok.mp standing.received).1
  have attempt : malformedAttempt source.topic = tier + 2 := by simp [malformedAttempt, isRetry]
  refine ⟨?_, value, source, original, standing.received, received, by rw [same], ?_, ?_, ?_⟩
  · rw [(retryTier_mem isRetry).1, place]
    rfl
  · exact (retryNotBefore_ok standing.accepted isRetry).mpr tells
  · rw [standing.expected.1, attempt]
  · rw [standing.expected.2, attempt]

/-- The third retry as it is received. -/
def lastRetry (source : ReceivedEvent F) (t₁ t₂ t₃ : Trouble) : ReceivedEvent F :=
  retried (retried (retried source 1 "agentforge.agent-run.lifecycle.retry.1m.v1" minute t₁) 2
    "agentforge.agent-run.lifecycle.retry.5m.v1" (5 * minute) t₂) 3 "agentforge.agent-run.lifecycle.retry.30m.v1"
    (30 * minute) t₃

theorem ladder_numbers : malformedAttempt agentRunLifecycleTopic = 1 ∧
    malformedAttempt "agentforge.agent-run.lifecycle.retry.1m.v1" = 2 ∧
    malformedAttempt "agentforge.agent-run.lifecycle.retry.5m.v1" = 3 ∧
    malformedAttempt "agentforge.agent-run.lifecycle.retry.30m.v1" = 4 := by decide +kernel

theorem ladder_tiers : retryTier "agentforge.agent-run.lifecycle.retry.1m.v1" = some 0 ∧
    retryTier "agentforge.agent-run.lifecycle.retry.5m.v1" = some 1 ∧
    retryTier "agentforge.agent-run.lifecycle.retry.30m.v1" = some 2 := by decide +kernel

/-- An event that fails transiently on each delivery passes the whole ladder exactly when the times of its retries can be
written and the letter about its last retry fits. -/
theorem climbs_iff {t₁ t₂ t₃ t₄ : Trouble} (received : decodeRecord router.maxMessageBytes first = .ok source)
    (isFirst : first.topic = agentRunLifecycleTopic) (scheduled : source.envelope.eventType = agentRunScheduledType)
    (transient : ∀ trouble ∈ [t₁, t₂, t₃, t₄], trouble.failure.permanent = false)
    (ordered : ∀ trouble ∈ [t₁, t₂, t₃, t₄], source.envelope.occurredAt.instant ≤ trouble.now) :
    Climbs router first t₁ t₂ t₃ t₄ ↔
      isWritable (t₁.now + minute) = true ∧ isWritable (t₂.now + 5 * minute) = true ∧
        isWritable (t₃.now + 30 * minute) = true ∧
        LetterFits router (lastRetry source t₁ t₂ t₃)
          (router.report (lastRetry source t₁ t₂ t₃) t₄.failure 4 t₄.now) t₄.failureID t₄.eventID := by
  have topic : source.topic = agentRunLifecycleTopic := by
    rw [(decodeRecord_ok.mp received).1]
    exact isFirst
  obtain ⟨one, two, three, four⟩ := ladder_numbers
  obtain ⟨zero', one', two'⟩ := ladder_tiers
  simp only [List.forall_mem_cons, List.not_mem_nil, false_implies, implies_true, and_true] at transient ordered
  obtain ⟨transient₁, transient₂, transient₃, -⟩ := transient
  obtain ⟨ordered₁, ordered₂, ordered₃, ordered₄⟩ := ordered
  have target₁ : retryTarget 1 = some ("agentforge.agent-run.lifecycle.retry.1m.v1", minute) := rfl
  have target₂ : retryTarget 2 = some ("agentforge.agent-run.lifecycle.retry.5m.v1", 5 * minute) := rfl
  have target₃ : retryTarget 3 = some ("agentforge.agent-run.lifecycle.retry.30m.v1", 30 * minute) := rfl
  have standing₀ := standing_first received scheduled topic
  rw [← topic] at one
  obtain ⟨document, parsed, -⟩ := decodeEnvelope_ok.mp standing₀.accepted.decoded
  constructor
  · rintro ⟨r₁, r₂, r₃, letter, climbed, -⟩
    obtain ⟨writable₁, _, -, climbed⟩ := (standing₀.climb_step transient₁ one target₁ ordered₁).mp climbed
    have standing₁ := standing₀.retry one target₁ writable₁
    obtain ⟨writable₂, _, -, climbed⟩ := (standing₁.climb_step transient₂ two target₂ ordered₂).mp climbed
    have standing₂ := standing₁.retry two target₂ writable₂
    obtain ⟨writable₃, _, -, climbed⟩ := (standing₂.climb_step transient₃ three target₃ ordered₃).mp climbed
    have standing₃ := standing₂.retry three target₃ writable₃
    obtain ⟨last, letters⟩ := standing₃.climb_final t₄ [] (.inr two') four parsed
    rw [last] at climbed
    obtain ⟨-, fits, -⟩ := (letters letter).mp (Prod.mk.inj climbed).2
    exact ⟨writable₁, writable₂, writable₃, fits⟩
  · rintro ⟨writable₁, writable₂, writable₃, fits⟩
    have standing₁ := standing₀.retry one target₁ writable₁
    have standing₂ := standing₁.retry two target₂ writable₂
    have standing₃ := standing₂.retry three target₃ writable₃
    have isRun := standing₀.isRun
    have tells₁ := (retried_notBefore standing₀.accepted isRun (by omega) target₁).mpr ⟨writable₁, rfl⟩
    have tells₂ := (retried_notBefore standing₁.accepted isRun (by omega) target₂).mpr ⟨writable₂, rfl⟩
    have tells₃ := (retried_notBefore standing₂.accepted isRun (by omega) target₃).mpr ⟨writable₃, rfl⟩
    have value : source.value = first.value := by
      rw [(decodeRecord_ok.mp received).1]
      rfl
    obtain ⟨last, letters⟩ := standing₃.climb_final t₄ [] (.inr two') four parsed
    have found := (letters _).mpr ⟨ordered₄, fits, rfl⟩
    rw [found] at last
    refine ⟨_, _, _, letterRecord (lastRetry source t₁ t₂ t₃)
        (router.report (lastRetry source t₁ t₂ t₃) t₄.failure 4 t₄.now) document t₄.failureID t₄.eventID, ?_, isFirst,
      standing₁.rung zero' tells₁ value received rfl,
      standing₂.rung one' tells₂ value received rfl, standing₃.rung two' tells₃ value received rfl, rfl⟩
    refine (standing₀.climb_step transient₁ one target₁ ordered₁).mpr ⟨writable₁, _, rfl, ?_⟩
    refine (standing₁.climb_step transient₂ two target₂ ordered₂).mpr ⟨writable₂, _, rfl, ?_⟩
    exact (standing₂.climb_step transient₃ three target₃ ordered₃).mpr ⟨writable₃, _, rfl, last⟩

end Ladder

end

/-- A message limit that the event meets is too small for the letter about its last retry. -/
theorem letter_too_long :
    decodeRecord (Sample.router 1024).maxMessageBytes Sample.first = .ok Sample.received ∧
      ¬ Climbs (Sample.router 1024) Sample.first (Sample.transient 2) (Sample.transient 4) (Sample.transient 10)
        (Sample.transient 41) := by
  refine ⟨Sample.decodes (by decide +kernel), ?_⟩
  have ended : (climb (Sample.router 1024) [Sample.transient 2, Sample.transient 4, Sample.transient 10, Sample.transient 41]
      Sample.first).2.isSome = false := by decide +kernel
  rintro ⟨_, _, _, letter, climbed, -⟩
  rw [climbed] at ended
  cases ended

theorem sample_climbs :
    Climbs (Sample.router 1048576) Sample.first (Sample.transient 2) (Sample.transient 4) (Sample.transient 10)
      (Sample.transient 41) := by
  refine (climbs_iff (Sample.decodes (by decide +kernel)) rfl rfl (by decide +kernel) (by decide +kernel)).mpr
    ⟨by decide, by decide, by decide, by decide, by decide, _, Sample.parses, by decide +kernel, by decide +kernel⟩

section

variable {F : Format}

section Letters

variable {router : Router} {first : Record F} {source : ReceivedEvent F}

/-! ## What a letter says -/

/-- The payload of a letter, as `DecodeEnvelope` reads it. -/
def letterContents (letter : ProducerRecord F) : Option DeadLetterPayload :=
  match decodeEnvelope F letter.value with
  | .ok e => e.payload.bind (decodeStruct true (deadLetterFields F) .zero)
  | .error _ => none

theorem letterContents_letter (accepted : Accepted router.maxMessageBytes source) {report : DeadLetterFailure}
    (reports : Reportable report) {failureID eventID : UUID} (isFailure : failureID.validV7 = true)
    (isEvent : eventID.validV7 = true) (fits : LetterFits router source report failureID eventID) {document : Json}
    (parsed : F.parse source.value = some document) :
    letterContents (letterRecord source report document failureID eventID) =
      some (deadLetterPayload source report (some document)) := by
  obtain ⟨nonzero, writable, whole, parsedWhole, shallow, -⟩ := fits
  rw [parsed] at parsedWhole
  cases parsedWhole
  have letter := letter_of_accepted accepted reports writable parsed isFailure isEvent
  have depth := originalLetter_depth accepted report parsed
  change ((deadLetterPayload source report (some document)).document F).depth = _ at depth
  have decoded : decodeEnvelope F (letterRecord source report document failureID eventID).value = .ok _ :=
    letter.decode nonzero writable (by omega)
  rw [letterContents, decoded]
  dsimp only
  rw [letter.parse (by omega)]
  exact decode_letter letter.valid.writable

/-- The deliveries that a letter can be about. -/
structure Reports (source last : ReceivedEvent F) (letter : ProducerRecord F) : Prop where
  envelope : last.envelope = source.envelope
  contents : ∃ report document, letterContents letter = some (deadLetterPayload last report (some document)) ∧
    decodeDocument F (document.depth + 1) document = .ok source.envelope

theorem Standing.republished_retry {record : Record F} (standing : Standing router record source) {trouble : Trouble}
    (transient : trouble.failure.permanent = false) {topic : String} {delay : Duration}
    (target : retryTarget (malformedAttempt source.topic) = some (topic, delay)) {next : ProducerRecord F}
    (published : republished router record trouble = some next) :
    source.envelope.occurredAt.instant ≤ trouble.now := by
  rw [standing.republished_eq, Option.map_eq_some_iff] at published
  obtain ⟨⟨routing, found⟩, isFound, -⟩ := published
  exact ((route_retry standing.accepted standing.isRun standing.expected.2 standing.positive trouble.classified transient
    target).mp (toOption_eq_some.mp isFound)).1

theorem climb_none {record : Record F} {trouble : Trouble} {rest : List Trouble}
    (stuck : republished router record trouble = none) : climb router (trouble :: rest) record = ([record], none) := by
  rw [climb, stuck]

/-- A letter is about the delivery at which the climb ended. -/
theorem Standing.reports {record : Record F} (standing : Standing router record source) {troubles : List Trouble}
    {deliveries : List (Record F)} {letter : ProducerRecord F}
    (climbed : climb router troubles record = (deliveries, some letter)) :
    ∃ last, Reports source last letter ∧
      ((∃ trouble rest, troubles = trouble :: rest ∧ (trouble.failure.permanent = true ∨ retryTier source.topic = some 2)) →
        last = source) ∧
      ((∀ trouble rest, troubles = trouble :: rest → ¬ (trouble.failure.permanent = true ∨ retryTier source.topic = some 2)) →
        ∃ tier, retryTier last.topic = some tier) := by
  induction troubles generalizing record source deliveries with
  | nil => cases climbed
  | cons trouble rest ih =>
    obtain ⟨document, parsed, decoded, valid⟩ := decodeEnvelope_ok.mp standing.accepted.decoded
    have contained := (decodeDocument_ok (F := F) (Nat.lt_succ_self document.depth)).mpr ⟨decoded, valid⟩
    obtain ⟨positive, few, lastTier⟩ := attempt_bounds standing.accepted standing.isRun
    by_cases final : trouble.failure.permanent = true ∨ retryTier source.topic = some 2
    · obtain ⟨last, letters⟩ := standing.climb_final trouble rest final rfl parsed
      rw [last] at climbed
      obtain ⟨ordered, fits, rfl⟩ := (letters letter).mp (Prod.mk.inj climbed).2
      have reports : Reportable (router.report source trouble.failure (malformedAttempt source.topic) trouble.now) :=
        reportable trouble.classified ⟨positive, few⟩ standing.accepted.occurredAt.1 standing.accepted.occurredAt.2 ordered
      refine ⟨source, ⟨rfl, _, document, letterContents_letter standing.accepted reports trouble.failureID_valid
        trouble.eventID_valid fits parsed, contained⟩, fun _ => rfl, fun other => absurd final (other trouble rest rfl)⟩
    · obtain ⟨transient, early⟩ := not_or.mp final
      have isTransient : trouble.failure.permanent = false := by simpa using transient
      obtain ⟨⟨topic, delay⟩, target⟩ := retryTarget_some (Int.not_lt.mp fun late => early (lastTier.mp late))
      cases published : republished router record trouble with
      | none =>
        rw [climb_none published] at climbed
        cases climbed
      | some next =>
        have ordered := standing.republished_retry isTransient target published
        cases rest with
        | nil =>
          rw [standing.climb_retry isTransient target ordered] at climbed
          cases climbed
        | cons other rest =>
          obtain ⟨writable, later, -, climbed⟩ := (standing.climb_step isTransient rfl target ordered).mp climbed
          obtain ⟨last, reports, here, beyond⟩ := ih (standing.retry rfl target writable) climbed
          obtain ⟨tier, -, -, isRetry, -⟩ := retryTarget_cases positive target
          refine ⟨last, ⟨reports.envelope, reports.contents⟩, ?_, fun _ => ?_⟩
          · rintro ⟨_, _, same, reached⟩
            cases same
            exact absurd reached final
          · by_cases ends : other.failure.permanent = true ∨ retryTier topic = some 2
            · rw [here ⟨other, rest, rfl, ends⟩]
              exact ⟨tier, isRetry⟩
            · refine beyond fun _ _ same => ?_
              cases same
              exact ends

/-- The letter says where the event was first delivered, and contains its envelope. -/
def SaysOrigin (first : Record F) (e : Envelope) (letter : ProducerRecord F) : Prop :=
  ∃ p document, letterContents letter = some p ∧ p.originalTopic = first.topic ∧ p.originalPartition = first.partition ∧
    p.originalOffset = first.offset ∧ p.originalEnvelope = some document ∧
    decodeDocument F (document.depth + 1) document = .ok e

/-- Only scheduled events become letters. -/
theorem scheduled_of_published {record : Record F} (received : decodeRecord router.maxMessageBytes record = .ok source)
    {trouble : Trouble} {next : ProducerRecord F} (published : republished router record trouble = some next) :
    source.envelope.eventType = agentRunScheduledType := by
  refine Decidable.byContradiction fun other => ?_
  have ran : iterate router record trouble.answers = some (.acknowledged, ⟨[], [source]⟩) := iterate_other received other
  rw [republished, ran] at published
  cases published

end Letters

end

end AgentForge.Consumer
