import AgentForge.Consumer.Routes

/-!
# Routes to the dead-letter topic

A failure that is permanent, or that of the last retry, is routed to the dead-letter topic. The letter contains the whole
record, so that it is longer and two levels deeper than the record is; `Publish` applies the same limits to both. A record
that does not decode is reported by its fingerprint.
-/

set_option autoImplicit false

namespace AgentForge.Consumer

open Lib Lib.Json Platform Events
open Operator hiding isBlank

variable {F : Format}

/-! ## Reports -/

/-- The failures that the constructors build. -/
def Classified (failure : Failure) : Prop :=
  ∃ code reason permanent, failure = newFailure code reason permanent

theorem newFailure_cases (code reason : String) (permanent : Bool) :
    (present 80 (trimSpace code) = true ∧ present 500 (trimSpace reason) = true ∧
      newFailure code reason permanent = ⟨trimSpace code, trimSpace reason, permanent⟩) ∨
    newFailure code reason permanent = ⟨"INVALID_FAILURE", "event processing failed", true⟩ := by
  unfold newFailure
  split
  next both =>
    obtain ⟨isCode, isReason⟩ := Bool.and_eq_true_iff.mp both
    exact .inl ⟨isCode, isReason, rfl⟩
  next => exact .inr rfl

theorem Classified.texts {failure : Failure} (classified : Classified failure) :
    present 80 (trimSpace failure.code) = true ∧ present 500 (trimSpace failure.reason) = true := by
  obtain ⟨code, reason, permanent, built⟩ := classified
  rcases newFailure_cases code reason permanent with ⟨isCode, isReason, same⟩ | same
  · rw [built, same]
    simp only [trimSpace_idem]
    exact ⟨isCode, isReason⟩
  · rw [built, same]
    decide +kernel

/-- `classify` of a classified failure reads its fields. -/
theorem Classified.classify {failure : Failure} (classified : Classified failure) :
    classify failure = (failure.permanent, failure.code, failure.reason) := by
  obtain ⟨code, reason⟩ := classified.texts
  have isCode : isBlank failure.code = false := by simpa using (present_iff.mp code).1
  have isReason : isBlank failure.reason = false := by simpa using (present_iff.mp reason).1
  simp [Consumer.classify, isCode, isReason]

/-- What a letter can report: the failure's texts, a bounded attempt and times in order. -/
structure Reportable (report : DeadLetterFailure) : Prop where
  identity : present 160 (trimSpace report.consumerIdentity) = true
  code : present 80 (trimSpace report.code) = true
  reason : present 500 (trimSpace report.reason) = true
  attempts : 1 ≤ report.attempts ∧ report.attempts ≤ 4
  failed : report.firstFailedAt ≠ 0
  writable : isWritable report.firstFailedAt = true
  ordered : report.firstFailedAt ≤ report.lastFailedAt

theorem reportable {router : Router} {failure : Failure} (classified : Classified failure) {attempt : Int}
    (few : 1 ≤ attempt ∧ attempt ≤ 4) {first now : Time} (failed : first ≠ 0) (writable : isWritable first = true)
    (ordered : first ≤ now) : Reportable (router.deadLetterFailure failure.code failure.reason attempt first now) := by
  have identity : present 160 (trimSpace router.consumerIdentity) = true := by
    rw [router.identity_valid.2]
    exact router.identity_valid.1
  exact ⟨identity, classified.texts.1, classified.texts.2, few, failed, writable, ordered⟩

/-! ## Letters -/

section Letter

variable {source : ReceivedEvent F} {report : DeadLetterFailure} {failureID eventID : UUID}

/-- The payload of the letter around a document. -/
def originalLetter (source : ReceivedEvent F) (report : DeadLetterFailure) (document : Json) : Marshalled F :=
  ⟨(deadLetterPayload source report (some document)).document F, some source.value⟩

/-- The letter around a record, as it is published. -/
def originalBytes (source : ReceivedEvent F) (report : DeadLetterFailure) (document : Json) (failureID eventID : UUID) :
    F.Bytes :=
  (originalEvent source report failureID eventID).bytes (originalLetter source report document)

theorem hasFingerprint_empty {p : DeadLetterPayload} (empty : p.rawFingerprint = "") : p.hasFingerprint = false := by
  simp [DeadLetterPayload.hasFingerprint, empty]

theorem present_text (id : UUID) : present 255 id.text = true := by
  obtain ⟨a, b, c, d, e, ha, hb, hc, hd, he, -, text⟩ := text_groups id
  refine present_iff.mpr ⟨isBlank_eq_false (c := '-') (by simp [text]) (by decide), ?_⟩
  rw [utf8ByteSize_text]
  decide

/-- The letter of an accepted record is a proper one. -/
theorem letter_of_accepted {limit : Nat} (accepted : Accepted limit source) (reports : Reportable report)
    (last : isWritable report.lastFailedAt = true) {document : Json} (parsed : F.parse source.value = some document)
    (isFailure : failureID.validV7 = true) (isEvent : eventID.validV7 = true) :
    LetterEnvelope F (originalEvent source report failureID eventID) (deadLetterPayload source report (some document))
      (originalLetter source report document) := by
  have checked := accepted.checked
  have positive := F.length_pos parsed
  have small : IsInt64 report.attempts := ⟨by have := reports.attempts; omega, by have := reports.attempts; omega⟩
  have zero : IsInt64 0 := ⟨by decide, by decide⟩
  have partition : -(2 ^ 31) ≤ source.partition := by have := accepted.partition; omega
  have offset : -(2 ^ 63) ≤ source.offset := by have := accepted.offset; omega
  have marshals : marshalOriginal source report = some (originalLetter source report document) := by
    have both : (isWritable report.firstFailedAt && isWritable report.lastFailedAt) = true := by
      simp [reports.writable, last]
    unfold marshalOriginal
    rw [if_neg (by omega), parsed]
    exact if_pos both
  refine ⟨rfl, rfl, rfl, rfl, rfl, isEvent, checked.tenantID, checked.projectID, checked.runID, isFailure,
    present_trimSpace checked.correlationID, ?_, marshals, rfl, ?_⟩
  · exact present_trimSpace (present_text source.envelope.eventID)
  · refine
      { writable := ⟨zero, ⟨partition, accepted.partition.2⟩, ⟨offset, accepted.offset.2⟩, small, reports.writable, last⟩
        either := by simp [deadLetterPayload, hasFingerprint_empty]
        topic := (topic_size accepted.topicAccepts).2
        partition := accepted.partition.1
        offset := accepted.offset.1
        identity := reports.identity
        code := reports.code
        reason := reports.reason
        attempts := reports.attempts.1
        failed := reports.failed
        ordered := reports.ordered
        disposition := rfl
        original := ?_ }
    intro contained same
    cases same
    obtain ⟨whole, parsedWhole, decoded, valid⟩ := decodeEnvelope_ok.mp accepted.decoded
    rw [parsed] at parsedWhole
    cases parsedWhole
    exact ⟨source.envelope, decoded, valid⟩

/-- The payload of the letter of a record that does not decode. -/
def malformedLetter (source : ReceivedEvent F) (report : DeadLetterFailure) : Marshalled F :=
  ⟨(malformedPayload source report).document F, none⟩

/-- That letter, as it is published. -/
def malformedBytes (source : ReceivedEvent F) (quarantine : UUID) (report : DeadLetterFailure) (failureID eventID : UUID) :
    F.Bytes :=
  (malformedEvent source quarantine report failureID eventID).bytes (malformedLetter source report)

theorem utf8ByteSize_fingerprint (value : F.Bytes) : (fingerprint value).utf8ByteSize = 71 := by
  have start : "sha256:".utf8ByteSize = 7 := by decide +kernel
  rw [fingerprint, String.utf8ByteSize_append, F.digest_size, start]

theorem present_fingerprint (value : F.Bytes) : present 255 (trimSpace (fingerprint value)) = true := by
  refine present_trimSpace (present_iff.mpr ⟨isBlank_eq_false (c := ':') ?_ (by decide), ?_⟩)
  · rw [fingerprint, String.toList_append]
    exact List.mem_append_left _ (by decide +kernel)
  · rw [utf8ByteSize_fingerprint]
    decide

/-- The letter of a record that does not decode is a proper one. -/
theorem letter_of_record {record : Record F} (listed : isBlank record.topic = false) (reports : Reportable report)
    (last : isWritable report.lastFailedAt = true) {quarantine : UUID} (isTenant : quarantine.validV7 = true)
    (isFailure : failureID.validV7 = true) (isEvent : eventID.validV7 = true) :
    LetterEnvelope F (malformedEvent record.received quarantine report failureID eventID)
      (malformedPayload record.received report) (malformedLetter record.received report) := by
  have small : IsInt64 report.attempts := ⟨by have := reports.attempts; omega, by have := reports.attempts; omega⟩
  have size := F.length_lt record.value
  have sized : IsInt64 (F.length record.value) := ⟨by omega, by omega⟩
  have partition : -(2 ^ 31) ≤ record.partition := by have := record.partition_valid; omega
  have offset : -(2 ^ 63) ≤ record.offset := by have := record.offset_valid; omega
  have both : (isWritable report.firstFailedAt && isWritable report.lastFailedAt) = true := by
    simp [reports.writable, last]
  have print : (malformedPayload record.received report).hasFingerprint = true := by
    have start : "sha256:".toList.isPrefixOf (fingerprint record.value).toList = true := by
      rw [fingerprint, String.toList_append]
      exact List.isPrefixOf_iff_prefix.mpr (List.prefix_append _ _)
    have long := utf8ByteSize_fingerprint record.value
    simp only [DeadLetterPayload.hasFingerprint, malformedPayload, Record.received, start, long]
    simp
  refine ⟨rfl, rfl, rfl, rfl, rfl, isEvent, isTenant, rfl, rfl, isFailure, present_fingerprint _, present_fingerprint _,
    if_pos both, rfl, ?_⟩
  exact
    { writable := ⟨sized, ⟨partition, record.partition_valid.2⟩, ⟨offset, record.offset_valid.2⟩, small, reports.writable,
        last⟩
      either := by rw [print]; exact Bool.false_ne_true
      topic := listed
      partition := record.partition_valid.1
      offset := record.offset_valid.1
      identity := reports.identity
      code := reports.code
      reason := reports.reason
      attempts := reports.attempts.1
      failed := reports.failed
      ordered := reports.ordered
      disposition := rfl
      original := fun _ none => by cases none }

end Letter

/-! ## Routes -/

section Route

variable {router : Router} {failure : Failure} {attempt : Int} {first now : Time} {failureID eventID : UUID}
  {source : ReceivedEvent F} {event : OutboxEvent F}

/-- The letter of an accepted record can be published. -/
structure LetterFits (router : Router) (source : ReceivedEvent F) (report : DeadLetterFailure) (failureID eventID : UUID) :
    Prop where
  nonzero : report.lastFailedAt ≠ 0
  writable : isWritable report.lastFailedAt = true
  fits : ∃ document, F.parse source.value = some document ∧ document.depth + 2 ≤ maxNestingDepth ∧
    F.length (originalBytes source report document failureID eventID) ≤ router.maxMessageBytes

/-- The record of a letter. -/
def letterRecord (source : ReceivedEvent F) (report : DeadLetterFailure) (document : Json) (failureID eventID : UUID) :
    ProducerRecord F :=
  ⟨agentRunDLQTopic, F.utf8 source.envelope.aggregateID.text,
    headersForEnvelope F ((originalEvent source report failureID eventID).envelope (originalLetter source report document)) ++
      [header F "delivery-attempt" (toString report.attempts)],
    originalBytes source report document failureID eventID, report.lastFailedAt⟩

/-- A letter's payload is one level deeper than the record in it, which has at least two levels itself. -/
theorem originalLetter_depth {limit : Nat} (accepted : Accepted limit source) (report : DeadLetterFailure)
    {document : Json} (parsed : F.parse source.value = some document) :
    (originalLetter source report document).document.depth = document.depth + 1 := by
  obtain ⟨whole, parsedWhole, decoded, -⟩ := decodeEnvelope_ok.mp accepted.decoded
  rw [parsed] at parsedWhole
  cases parsedWhole
  have object := accepted.checked.isObject
  cases inside : source.envelope.payload with
  | none =>
    rw [inside] at object
    cases object
  | some contents =>
    have below := payload_depth decoded contents inside
    have level : 1 ≤ contents.depth := by
      rw [inside] at object
      cases contents with
      | obj fields => simp
      | _ => cases object
    have headers : (if (deadLetterPayload source report (some document)).originalHeaders = [] then 0 else 2) ≤
        document.depth := by
      split <;> omega
    rw [originalLetter, DeadLetterPayload.document_depth]
    change max document.depth _ + 1 = _
    omega

section Reported

variable {report : DeadLetterFailure}

/-- A dead letter is a new event with the topic and the key of dead letters. -/
theorem deadLetter_ok (valid : validateEnvelope F source.envelope = .ok ()) :
    router.deadLetter source report failureID eventID = .ok event ↔
      ∃ new, newEvent (originalEvent source report failureID eventID) = .ok new ∧
        event = { new with
          topic := agentRunDLQTopic
          partitionKey := source.envelope.aggregateID.text
          headers := [header F "delivery-attempt" (toString report.attempts)] } := by
  simp only [Router.deadLetter, newDeadLetter, valid, bind_eq_ok]
  constructor
  · rintro ⟨made, ⟨_, -, new, isNew, same⟩, final⟩
    cases same
    cases final
    exact ⟨new, isNew, rfl⟩
  · rintro ⟨new, isNew, rfl⟩
    exact ⟨_, ⟨(), trivial, new, isNew, rfl⟩, rfl⟩

theorem attempts_size (reports : Reportable report) : (toString report.attempts).utf8ByteSize ≤ 512 := by
  have digit := utf8ByteSize_toString (n := report.attempts) (k := 1) (by have := reports.attempts; omega) (by omega)
    (by have := reports.attempts; omega)
  omega

theorem publish_letter (accepted : Accepted router.maxMessageBytes source) (reports : Reportable report)
    (isFailure : failureID.validV7 = true) (isEvent : eventID.validV7 = true)
    (fits : LetterFits router source report failureID eventID) {document : Json}
    (parsed : F.parse source.value = some document) :
    ∃ event, router.deadLetter source report failureID eventID = .ok event ∧
      publishRecord router.maxMessageBytes event = .ok (letterRecord source report document failureID eventID) := by
  obtain ⟨nonzero, writable, whole, parsedWhole, shallow, short⟩ := fits
  rw [parsed] at parsedWhole
  cases parsedWhole
  have letter := letter_of_accepted accepted reports writable parsed isFailure isEvent
  have depth := originalLetter_depth accepted report parsed
  change ((deadLetterPayload source report (some document)).document F).depth = _ at depth
  obtain ⟨contained, parsedAgain, decoded, valid⟩ := decodeEnvelope_ok.mp accepted.decoded
  rw [parsed] at parsedAgain
  cases parsedAgain
  have made := newEvent_of_valid letter.isPayload (letter.validate nonzero (by omega)) writable
  refine ⟨_, (deadLetter_ok valid).mpr ⟨_, made, rfl⟩, ?_⟩
  exact letter.publish nonzero writable (by omega) short (letter.key_original (by omega) rfl decoded valid)
    (attempts_size reports)

/-- A dead letter is published exactly when it fits. -/
theorem deadLetter_published (accepted : Accepted router.maxMessageBytes source) (reports : Reportable report)
    (isFailure : failureID.validV7 = true) (isEvent : eventID.validV7 = true) {document : Json}
    (parsed : F.parse source.value = some document) {record : ProducerRecord F} :
    (∃ event, router.deadLetter source report failureID eventID = .ok event ∧
        publishRecord router.maxMessageBytes event = .ok record) ↔
      LetterFits router source report failureID eventID ∧ record = letterRecord source report document failureID eventID := by
  have positive := F.length_pos parsed
  constructor
  · rintro ⟨event, isLetter, published⟩
    obtain ⟨new, made, rfl⟩ := (deadLetter_ok accepted.valid).mp isLetter
    obtain ⟨payload, isPayload, nonzero, writable, shallow, short⟩ := published_new made published
    have contents : payload = originalLetter source report document := by
      change marshalOriginal source report = some payload at isPayload
      rw [marshalOriginal, if_neg (by omega), parsed] at isPayload
      dsimp only [DeadLetterPayload.marshalled] at isPayload
      split at isPayload
      next =>
        cases isPayload
        rfl
      next => cases isPayload
    rw [contents] at shallow short
    rw [originalLetter_depth accepted report parsed] at shallow
    have fits : LetterFits router source report failureID eventID := ⟨nonzero, writable, document, parsed, shallow, short⟩
    obtain ⟨event, again, letter⟩ := publish_letter accepted reports isFailure isEvent fits parsed
    rw [isLetter] at again
    cases again
    rw [published] at letter
    cases letter
    exact ⟨fits, rfl⟩
  · rintro ⟨fits, rfl⟩
    exact publish_letter accepted reports isFailure isEvent fits parsed

/-! ## Quarantined records -/

/-- The letter of a record that does not decode can be published. -/
structure QuarantineFits (router : Router) (source : ReceivedEvent F) (report : DeadLetterFailure)
    (failureID eventID : UUID) : Prop where
  nonzero : report.lastFailedAt ≠ 0
  writable : isWritable report.lastFailedAt = true
  fits : F.length (malformedBytes source router.quarantineTenantID report failureID eventID) ≤ router.maxMessageBytes

theorem validV7_of_version {id : UUID} (isV7 : id.version = 7) : id.validV7 = true := by
  have notNil : id ≠ .nil := by
    rintro rfl
    exact absurd isV7 (by decide)
  simp [UUID.validV7, isV7, notNil]

theorem zero_invalid : ∃ err, validateEnvelope F .zero = .error err := ⟨_, rfl⟩

theorem quarantine_ok {record : Record F} :
    router.deadLetter record.received report failureID eventID = .ok event ↔
      ∃ new, newEvent (malformedEvent record.received router.quarantineTenantID report failureID eventID) = .ok new ∧
        event = { new with
          topic := agentRunDLQTopic
          partitionKey := failureID.text
          headers := [header F "delivery-attempt" (toString report.attempts)] } := by
  obtain ⟨err, invalid⟩ := zero_invalid (F := F)
  change validateEnvelope F record.received.envelope = _ at invalid
  simp only [Router.deadLetter, newMalformedDeadLetter, invalid, bind_eq_ok]
  constructor
  · rintro ⟨made, ⟨new, isNew, same⟩, final⟩
    cases same
    cases final
    exact ⟨new, isNew, rfl⟩
  · rintro ⟨new, isNew, rfl⟩
    exact ⟨_, ⟨new, isNew, rfl⟩, rfl⟩

theorem quarantine_fits {record : Record F} {letter : ProducerRecord F}
    (isLetter : router.deadLetter record.received report failureID eventID = .ok event)
    (published : publishRecord router.maxMessageBytes event = .ok letter) :
    QuarantineFits router record.received report failureID eventID := by
  obtain ⟨new, made, rfl⟩ := quarantine_ok.mp isLetter
  obtain ⟨payload, isPayload, nonzero, writable, shallow, short⟩ := published_new made published
  have contents : payload = malformedLetter record.received report := by
    change (malformedPayload record.received report).marshalled none = some payload at isPayload
    dsimp only [DeadLetterPayload.marshalled] at isPayload
    split at isPayload
    next =>
      cases isPayload
      rfl
    next => cases isPayload
  rw [contents] at short
  exact ⟨nonzero, writable, short⟩

theorem publish_quarantine {record : Record F} (listed : isBlank record.topic = false) (reports : Reportable report)
    (isFailure : failureID.validV7 = true) (isEvent : eventID.validV7 = true)
    (fits : QuarantineFits router record.received report failureID eventID) :
    ∃ event letter, router.deadLetter record.received report failureID eventID = .ok event ∧
      publishRecord router.maxMessageBytes event = .ok letter := by
  obtain ⟨nonzero, writable, short⟩ := fits
  have isTenant := validV7_of_version router.quarantine_valid
  have letter := letter_of_record listed reports writable isTenant isFailure isEvent
  have depth : ((malformedPayload record.received report).document F).depth = 1 := by
    rw [DeadLetterPayload.document_depth]
    rfl
  have made := newEvent_of_valid letter.isPayload (letter.validate nonzero (by rw [depth]; decide)) writable
  exact ⟨_, _, quarantine_ok.mpr ⟨_, made, rfl⟩, letter.publish nonzero writable (by rw [depth]; decide) short
    (letter.key_malformed (by rw [depth]; decide) rfl) (attempts_size reports)⟩

end Reported

/-! ## Route -/

theorem Accepted.occurredAt {limit : Nat} (accepted : Accepted limit source) :
    source.envelope.occurredAt.instant ≠ 0 ∧ isWritable source.envelope.occurredAt.instant = true := by
  obtain ⟨_, _, decoded, _⟩ := decodeEnvelope_ok.mp accepted.decoded
  exact ⟨accepted.checked.occurred, occurredAt_writable decoded accepted.checked.utc⟩

/-- The report of a failure that is found at a time. -/
def Router.report (router : Router) (source : ReceivedEvent F) (failure : Failure) (attempt : Int) (now : Time) :
    DeadLetterFailure :=
  router.deadLetterFailure failure.code failure.reason attempt source.envelope.occurredAt.instant now

/-- `Route` publishes what `routed` builds. -/
theorem route_ok {routing : Routing} {record : ProducerRecord F} :
    router.route source failure attempt first now failureID eventID = .ok (routing, record) ↔
      ∃ isRetry event, router.routed source failure attempt first now failureID eventID = .ok (isRetry, event) ∧
        publishRecord router.maxMessageBytes event = .ok record ∧ routing = if isRetry then .retry else .deadLetter := by
  simp only [Router.route, bind_eq_ok]
  constructor
  · rintro ⟨⟨isRetry, event⟩, built, published⟩
    refine ⟨isRetry, event, built, ?_⟩
    dsimp only at published
    split at published
    next published' =>
      cases published
      exact ⟨published', rfl⟩
    next => cases published
  · rintro ⟨isRetry, event, built, published, rfl⟩
    refine ⟨(isRetry, event), built, ?_⟩
    dsimp only
    rw [published]
    rfl

/-- The event that is built once the metadata have been checked. -/
def Router.built (router : Router) (source : ReceivedEvent F) (failure : Failure) (attempt : Int) (first now : Time)
    (failureID eventID : UUID) : Except Error (Bool × OutboxEvent F) :=
  match retryTarget attempt, !failure.permanent && (validateEnvelope F source.envelope).isOk with
  | some (topic, delay), true => return (true, retryEvent source attempt topic delay now)
  | _, _ => do
    let event ← router.deadLetter source
      (router.deadLetterFailure failure.code failure.reason attempt first now) failureID eventID
    return (false, event)

theorem routed_ok (classified : Classified failure) {isRetry : Bool} :
    router.routed source failure attempt first now failureID eventID = .ok (isRetry, event) ↔
      1 ≤ attempt ∧ first ≠ 0 ∧ first ≤ now ∧
        (source.envelope.eventID = .nil ∨ (expectedFailureAttempt source).toOption = some attempt) ∧
        router.built source failure attempt first now failureID eventID = .ok (isRetry, event) := by
  simp only [Router.routed, guard_eq_ok, classified.classify]
  change _ ∧ _ ∧ router.built source failure attempt first now failureID eventID = _ ↔ _
  simp only [Time.isZero, beq_iff_eq, not_or, not_and, not_not, Int.not_lt]
  constructor
  · rintro ⟨⟨positive, nonzero, ordered⟩, expected, built⟩
    exact ⟨positive, nonzero, ordered, (em _).imp_right expected, built⟩
  · rintro ⟨positive, nonzero, ordered, expected, built⟩
    exact ⟨⟨positive, nonzero, ordered⟩, fun known => expected.resolve_left known, built⟩

/-- A failure that is permanent or that of the last retry becomes a dead letter. -/
theorem built_final (final : failure.permanent = true ∨ 3 < attempt) {isRetry : Bool} :
    router.built source failure attempt first now failureID eventID = .ok (isRetry, event) ↔
      isRetry = false ∧ router.deadLetter source
        (router.deadLetterFailure failure.code failure.reason attempt first now) failureID eventID = .ok event := by
  have letter : router.built source failure attempt first now failureID eventID = (do
      let event ← router.deadLetter source
        (router.deadLetterFailure failure.code failure.reason attempt first now) failureID eventID
      return (false, event)) := by
    unfold Router.built
    rcases final with permanent | late
    · rw [permanent]
      cases retryTarget attempt <;> rfl
    · rw [retryTarget_none late]
  rw [letter, bind_eq_ok]
  constructor
  · rintro ⟨made, isLetter, same⟩
    cases same
    exact ⟨rfl, isLetter⟩
  · rintro ⟨rfl, isLetter⟩
    exact ⟨event, isLetter, rfl⟩

/-- A transient failure of one of the first three attempts is retried. -/
theorem route_retry (accepted : Accepted router.maxMessageBytes source) (isRun : source.envelope.eventType ∈ runEventTypes)
    (expected : expectedFailureAttempt source = .ok attempt) (positive : 1 ≤ attempt) (classified : Classified failure)
    (transient : failure.permanent = false) {topic : String} {delay : Duration}
    (target : retryTarget attempt = some (topic, delay)) {routing : Routing} {record : ProducerRecord F} :
    router.route source failure attempt source.envelope.occurredAt.instant now failureID eventID = .ok (routing, record) ↔
      source.envelope.occurredAt.instant ≤ now ∧ routing = .retry ∧
        record = retryRecord source attempt topic delay now := by
  have built : router.built source failure attempt source.envelope.occurredAt.instant now failureID eventID =
      .ok (true, retryEvent source attempt topic delay now) := by
    simp only [Router.built, target, transient, accepted.valid]
    rfl
  have published := retry_published accepted isRun positive target now
  simp only [route_ok, routed_ok classified, built]
  constructor
  · rintro ⟨isRetry, event, ⟨-, -, ordered, -, same⟩, sent, rfl⟩
    cases same
    rw [published] at sent
    cases sent
    exact ⟨ordered, rfl, rfl⟩
  · rintro ⟨ordered, rfl, rfl⟩
    exact ⟨true, _, ⟨positive, accepted.occurredAt.1, ordered, .inr (by rw [expected]; rfl), rfl⟩, published, rfl⟩

/-- A failure that is permanent or that of the last retry is routed exactly when its letter fits. -/
theorem route_final (accepted : Accepted router.maxMessageBytes source) (expected : expectedFailureAttempt source = .ok attempt)
    (few : 1 ≤ attempt ∧ attempt ≤ 4) (classified : Classified failure) (final : failure.permanent = true ∨ 3 < attempt)
    (isFailure : failureID.validV7 = true) (isEvent : eventID.validV7 = true) {document : Json}
    (parsed : F.parse source.value = some document) {routing : Routing} {record : ProducerRecord F} :
    router.route source failure attempt source.envelope.occurredAt.instant now failureID eventID = .ok (routing, record) ↔
      source.envelope.occurredAt.instant ≤ now ∧
        LetterFits router source (router.report source failure attempt now) failureID eventID ∧ routing = .deadLetter ∧
          record = letterRecord source (router.report source failure attempt now) document failureID eventID := by
  have reports : source.envelope.occurredAt.instant ≤ now → Reportable (router.report source failure attempt now) :=
    reportable classified few accepted.occurredAt.1 accepted.occurredAt.2
  simp only [route_ok, routed_ok classified, built_final final]
  constructor
  · rintro ⟨isRetry, event, ⟨-, -, ordered, -, rfl, isLetter⟩, published, rfl⟩
    obtain ⟨fits, rfl⟩ := (deadLetter_published accepted (reports ordered) isFailure isEvent parsed).mp
      ⟨event, isLetter, published⟩
    exact ⟨ordered, fits, rfl, rfl⟩
  · rintro ⟨ordered, fits, rfl, rfl⟩
    obtain ⟨event, isLetter, published⟩ := publish_letter accepted (reports ordered) isFailure isEvent fits parsed
    exact ⟨false, event, ⟨few.1, accepted.occurredAt.1, ordered, .inr (by rw [expected]; rfl), rfl, isLetter⟩, published, rfl⟩

/-- A record that does not decode is routed exactly when its letter fits. -/
theorem route_malformed {record : Record F} (listed : isBlank record.topic = false) (few : 1 ≤ attempt ∧ attempt ≤ 4)
    (classified : Classified failure) (permanent : failure.permanent = true) (isFailure : failureID.validV7 = true)
    (isEvent : eventID.validV7 = true) :
    (∃ routing letter, router.route record.received failure attempt now now failureID eventID = .ok (routing, letter)) ↔
      QuarantineFits router record.received (router.deadLetterFailure failure.code failure.reason attempt now now) failureID
        eventID := by
  simp only [route_ok, routed_ok classified, built_final (.inl permanent)]
  constructor
  · rintro ⟨_, letter, isRetry, event, ⟨-, -, -, -, rfl, isLetter⟩, published, rfl⟩
    exact quarantine_fits isLetter published
  · intro fits
    have reports : Reportable (router.deadLetterFailure failure.code failure.reason attempt now now) :=
      reportable classified few fits.nonzero fits.writable (Int.le_refl now)
    obtain ⟨event, letter, isLetter, published⟩ := publish_quarantine listed reports isFailure isEvent fits
    exact ⟨_, letter, false, event, ⟨few.1, fits.nonzero, Int.le_refl now, .inl rfl, rfl, isLetter⟩, published, rfl⟩

end Route

end AgentForge.Consumer
