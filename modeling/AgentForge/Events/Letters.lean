import AgentForge.Events.Headers

/-!
# Dead letters that are published

A dead letter with a proper payload is a valid event: it is decoded as it was marshalled, and `Publish` takes it unless
it is too deep or too long.
-/

set_option autoImplicit false

namespace AgentForge.Events

open Lib Lib.Json Platform
open Operator hiding isBlank
open Lib.Field (value_str value_num pointer_arr)

variable {F : Format} {new : NewEvent F} {p : DeadLetterPayload} {payload : Marshalled F}

/-! ## The payload -/

theorem letter_names : (deadLetterFields F).map Lib.Field.name =
    ["originalEnvelope", "rawFingerprint", "rawSize", "originalTopic", "originalPartition", "originalOffset",
      "originalKey", "originalHeaders", "consumerIdentity", "failureCode", "failureReason", "attempts", "firstFailedAt",
      "lastFailedAt", "replayDisposition"] := rfl

theorem header_names : headerFields.map Lib.Field.name = ["key", "value"] := rfl

theorem decode_header (h : HeaderPayload) : decodeStruct true headerFields ⟨"", ""⟩ h.document = some h := by
  simp only [HeaderPayload.document, decodeStruct]
  refine decode_member header_names 0 (by decide) rfl (value_str (asString_str _)) ?_
  exact decode_member header_names 1 (by decide) rfl (value_str (asString_str _)) rfl

/-- What the members of a dead letter can hold. -/
structure DeadLetterPayload.Writable (F : Format) (p : DeadLetterPayload) : Prop where
  rawSize : IsInt64 p.rawSize
  partition : -(2 ^ 31) ≤ p.originalPartition ∧ p.originalPartition < 2 ^ 31
  offset : IsInt64 p.originalOffset
  attempts : IsInt64 p.attempts
  first : isWritable p.firstFailedAt = true
  last : isWritable p.lastFailedAt = true

theorem asInt32_num {n : Int} (bounded : -(2 ^ 31) ≤ n ∧ n < 2 ^ 31) : asInt32 (.num n) = some n := by
  change (if -(2 ^ 31) ≤ n ∧ n < 2 ^ 31 then some n else none) = some n
  exact if_pos bounded

theorem asTime_format {t : Time} (writable : isWritable t = true) : F.asTime (.str (F.formatTime t)) = some t := by
  rw [Format.asTime, asStamp_format writable]
  rfl

/-- A dead letter's payload is decoded as it was marshalled. -/
theorem decode_letter {strict : Bool} {p : DeadLetterPayload} (writable : p.Writable F) :
    decodeStruct strict (deadLetterFields F) .zero (p.document F) = some p := by
  obtain ⟨sized, partitioned, positioned, attempted, first, last⟩ := writable
  obtain ⟨envelope, print, rawSize, topic, partition, offset, key, headers, identity, code, reason, attempts, firstFailedAt,
    lastFailedAt, disposition⟩ := p
  simp only [DeadLetterPayload.document, decodeStruct]
  refine decode_omitNil letter_names 0 (by decide) rfl
    (t := ⟨envelope, "", 0, "", 0, 0, "", [], "", "", "", 0, 0, 0, ""⟩)
    (fun document same => by rw [same]; rfl) (fun same => by rw [same]; rfl) ?_
  refine decode_omitEmpty letter_names 1 (by decide) rfl (value_str (asString_str print))
    (fun empty => by rw [beq_iff_eq.mp empty]) ?_
  refine decode_omitEmpty letter_names 2 (by decide) rfl (value_num (asInt64_num sized))
    (fun empty => by rw [beq_iff_eq.mp empty]) ?_
  refine decode_member letter_names 3 (by decide) rfl (value_str (asString_str _)) ?_
  refine decode_member letter_names 4 (by decide) rfl (value_num (asInt32_num partitioned)) ?_
  refine decode_member letter_names 5 (by decide) rfl (value_num (asInt64_num positioned)) ?_
  refine decode_omitEmpty letter_names 6 (by decide) rfl (value_str (asString_str key))
    (fun empty => by rw [beq_iff_eq.mp empty]) ?_
  refine decode_omitEmpty letter_names 7 (by decide) rfl
    (pointer_arr (asList_map decode_header headers)) (fun empty => by rw [List.isEmpty_iff.mp empty]; rfl) ?_
  refine decode_member letter_names 8 (by decide) rfl (value_str (asString_str _)) ?_
  refine decode_member letter_names 9 (by decide) rfl (value_str (asString_str _)) ?_
  refine decode_member letter_names 10 (by decide) rfl (value_str (asString_str _)) ?_
  refine decode_member letter_names 11 (by decide) rfl (value_num (asInt64_num attempted)) ?_
  refine decode_member letter_names 12 (by decide) rfl (value_str (asTime_format first)) ?_
  refine decode_member letter_names 13 (by decide) rfl (value_str (asTime_format last)) ?_
  exact decode_member letter_names 14 (by decide) rfl (value_str (asString_str _)) rfl

/-! ## New events -/

theorem newEvent_ok {new : NewEvent F} {event : OutboxEvent F} (made : newEvent new = .ok event) :
    ∃ payload, new.payload = some payload ∧ validateEnvelope F (new.envelope payload) = .ok () ∧
      isWritable new.occurredAt = true ∧
      event = ⟨new.envelope payload, agentRunLifecycleTopic, new.aggregateID.text, [], new.bytes payload,
        new.occurredAt⟩ := by
  simp only [newEvent, guard_eq_ok] at made
  obtain ⟨-, -, made⟩ := made
  split at made
  next => cases made
  next payload isPayload =>
    simp only [guard_eq_ok, bind_eq_ok] at made
    obtain ⟨_, valid, writable, same⟩ := made
    cases same
    exact ⟨payload, isPayload, valid, by simpa using writable, rfl⟩

/-- A valid envelope meets the conditions on its parts. -/
theorem newEvent_of_valid {new : NewEvent F} {payload : Marshalled F} (isPayload : new.payload = some payload)
    (valid : validateEnvelope F (new.envelope payload) = .ok ()) (writable : isWritable new.occurredAt = true) :
    newEvent new = .ok ⟨new.envelope payload, agentRunLifecycleTopic, new.aggregateID.text, [], new.bytes payload,
      new.occurredAt⟩ := by
  have checked := checkEnvelope_ok.mp valid
  have typed : (versionDigits new.eventType).isNone = false := by
    cases digits : versionDigits new.eventType with
    | none =>
      have version := checked.version
      simp [NewEvent.envelope, digits] at version
    | some _ => rfl
  have version : new.schemaVersion = 1 := schemaVersion_eq checked
  have notNil : ∀ {id : UUID}, id.validV7 = true → id ≠ .nil := by
    rintro id isV7 rfl
    exact absurd isV7 (by decide)
  have producer : isBlank new.producer = false := by simpa [NewEvent.envelope] using (present_iff.mp checked.producer).1
  have correlation : isBlank new.correlationID = false := by
    simpa [NewEvent.envelope] using (present_iff.mp checked.correlationID).1
  have causation : isBlank new.causationID = false := by
    simpa [NewEvent.envelope] using (present_iff.mp checked.causationID).1
  have aggregateType : new.aggregateType ≠ "" := by
    intro empty
    have filled : isBlank new.aggregateType = false := checked.aggregateType
    rw [empty] at filled
    exact absurd filled (by decide +kernel)
  have aggregateVersion : 1 ≤ new.aggregateVersion := checked.aggregateVersion
  simp only [newEvent, guard_eq_ok]
  refine ⟨?_, ?_, ?_⟩
  · simp only [typed, version, Bool.false_eq_true, false_or, not_or]
    exact ⟨by omega, notNil checked.tenantID, notNil checked.aggregateID, by omega⟩
  · simp [producer, correlation, causation, aggregateType]
  · simp only [isPayload, valid, writable, bind_eq_ok, guard_eq_ok]
    exact ⟨(), trivial, by simp, rfl⟩

/-! ## Letters -/

/-- What `validateDeadLetter` checks of a payload. -/
structure DeadLetterPayload.Valid (F : Format) (p : DeadLetterPayload) : Prop where
  writable : p.Writable F
  either : p.originalEnvelope.isSome ≠ p.hasFingerprint
  topic : isBlank p.originalTopic = false
  partition : 0 ≤ p.originalPartition
  offset : 0 ≤ p.originalOffset
  identity : present 160 p.consumerIdentity = true
  code : present 80 p.failureCode = true
  reason : present 500 p.failureReason = true
  attempts : 1 ≤ p.attempts
  failed : p.firstFailedAt ≠ 0
  ordered : p.firstFailedAt ≤ p.lastFailedAt
  disposition : p.replayDisposition = "QUARANTINED"
  original : ∀ document, p.originalEnvelope = some document →
    ∃ e, decodeStruct true (envelopeFields F) .zero document = some e ∧ validateEnvelope F e = .ok ()

theorem validateDeadLetter_ok {e : Envelope} {p : DeadLetterPayload} {decode : Json → Except Error Envelope}
    (aggregate : e.aggregateType = "EventDeliveryFailure") (payload : e.payload = some (p.document F)) (valid : p.Valid F)
    (decodes : ∀ document, p.originalEnvelope = some document → (decode document).isOk = true) :
    validateDeadLetter F e decode = .ok () := by
  simp only [validateDeadLetter, guard_eq_ok, bind_eq_ok]
  refine ⟨by simp [aggregate], p, ?_, ?_, ?_⟩
  · simp [decodePayload, payload, decode_letter valid.writable]
  · simp [valid.either, valid.topic, valid.partition, valid.offset, valid.identity, valid.code, valid.reason, valid.attempts,
      valid.failed, valid.ordered, valid.disposition, Time.isZero]
  · cases contained : p.originalEnvelope with
    | none => rfl
    | some document =>
      have ok := decodes document contained
      cases result : decode document with
      | ok _ => simp [result]; rfl
      | error _ =>
        rw [result] at ok
        cases ok

/-- The envelope around a letter. -/
structure LetterEnvelope (F : Format) (new : NewEvent F) (p : DeadLetterPayload) (payload : Marshalled F) : Prop where
  eventType : new.eventType = deliveryDeadLetteredType
  schemaVersion : new.schemaVersion = 1
  producer : new.producer = "event-consumer"
  aggregateType : new.aggregateType = "EventDeliveryFailure"
  aggregateVersion : new.aggregateVersion = 1
  eventID : new.eventID.validV7 = true
  tenantID : new.tenantID.validV7 = true
  projectID : new.projectID.all UUID.validV7 = true
  runID : new.runID.all UUID.validV7 = true
  aggregateID : new.aggregateID.validV7 = true
  correlationID : present 255 (trimSpace new.correlationID) = true
  causationID : present 255 (trimSpace new.causationID) = true
  isPayload : new.payload = some payload
  document : payload.document = p.document F
  valid : p.Valid F

theorem LetterEnvelope.parse (letter : LetterEnvelope F new p payload)
    (shallow : (p.document F).depth ≤ maxNestingDepth) : (new.envelope payload).payload = some (p.document F) := by
  change F.parse (F.marshal payload.document payload.message) = _
  rw [letter.document, F.parse_marshal, if_pos shallow]

theorem DeadLetterPayload.Valid.decodes (valid : p.Valid F) {document : Json} {n : Nat}
    (contained : p.originalEnvelope = some document) (enough : document.depth < n) :
    ∃ e, decodeDocument F n document = .ok e := by
  obtain ⟨e, decoded, ok⟩ := valid.original document contained
  exact ⟨e, (decodeDocument_ok enough).mpr ⟨decoded, ok⟩⟩

/-- A letter is valid when it has a time and is not too deep. -/
theorem LetterEnvelope.validate (letter : LetterEnvelope F new p payload) (occurred : new.occurredAt ≠ 0)
    (shallow : (p.document F).depth ≤ maxNestingDepth) : validateEnvelope F (new.envelope payload) = .ok () := by
  have parsed := letter.parse shallow
  refine checkEnvelope_ok.mpr ?_
  refine
    { eventID := letter.eventID
      version := ?_
      occurred := occurred
      utc := rfl
      producer := ?_
      tenantID := letter.tenantID
      projectID := letter.projectID
      runID := letter.runID
      aggregateID := letter.aggregateID
      aggregateType := ?_
      aggregateVersion := letter.aggregateVersion.ge
      correlationID := letter.correlationID
      causationID := letter.causationID
      requestID := by simp [NewEvent.envelope]
      traceparent := .inl rfl
      tracestate := by simp [NewEvent.envelope]
      isObject := ?_
      payload := ?_ }
  · simp only [NewEvent.envelope, letter.eventType, letter.schemaVersion]
    decide +kernel
  · simp only [NewEvent.envelope, letter.producer]
    decide +kernel
  · simp only [NewEvent.envelope, letter.aggregateType]
    decide +kernel
  · rw [parsed]
    rfl
  · have type : (new.envelope payload).eventType = deliveryDeadLetteredType := letter.eventType
    have others : ∀ eventType ∈ runEventTypes, deliveryDeadLetteredType ≠ eventType := by decide +kernel
    simp only [runEventTypes, List.forall_mem_cons, List.not_mem_nil, false_implies, implies_true, and_true] at others
    obtain ⟨a, b, c, d, e, f⟩ := others
    unfold validatePayload
    rw [type, if_neg a, if_neg b, if_neg c, if_neg d, if_neg e, if_neg f, if_pos rfl]
    refine validateDeadLetter_ok letter.aggregateType parsed letter.valid fun document contained => ?_
    have whole : decodeStruct true (deadLetterFields F) .zero (p.document F) = some p := decode_letter letter.valid.writable
    have smaller := original_depth whole document contained
    obtain ⟨contents, decoded⟩ := letter.valid.decodes contained smaller
    rw [parsed]
    simp [decoded, Except.isOk, Except.toBool]

/-! ## Depths -/

theorem Envelope.document_depth (e : Envelope) : (e.document F).depth = (e.payload.getD .null).depth + 1 := by
  cases project : e.projectID <;> cases run : e.runID <;> simp [Envelope.document, project, run]

theorem headers_depth : ∀ {headers : List HeaderPayload}, headers ≠ [] →
    listDepth (headers.map HeaderPayload.document) = 1
  | [], filled => absurd rfl filled
  | [h], _ => by simp [HeaderPayload.document, Json.listDepth]
  | h :: next :: rest, _ => by
    have later := headers_depth (List.cons_ne_nil next rest)
    rw [List.map_cons, Json.listDepth, later]
    simp [HeaderPayload.document]

theorem DeadLetterPayload.document_depth (p : DeadLetterPayload) :
    (p.document F).depth =
      max ((p.originalEnvelope.map Json.depth).getD 0) (if p.originalHeaders = [] then 0 else 2) + 1 := by
  by_cases none : p.originalHeaders = []
  · simp [DeadLetterPayload.document, none]
  · have some : p.originalHeaders.isEmpty = false := by simpa using none
    simp [DeadLetterPayload.document, none, some, headers_depth none]

/-! ## Publication -/

theorem publishRecord_ok {limit : Nat} {event : OutboxEvent F} {record : ProducerRecord F} :
    publishRecord limit event = .ok record ↔ F.length event.serialized ≤ limit ∧
      ∃ e, decodeEnvelope F event.serialized = .ok e ∧ e.eventID = event.envelope.eventID ∧
        keyMatches e event.topic (F.utf8 event.partitionKey) = true ∧
        validateHeaders e (headersForEnvelope F e ++ event.headers) = .ok () ∧
        record = ⟨event.topic, F.utf8 event.partitionKey, headersForEnvelope F e ++ event.headers, event.serialized,
          e.occurredAt.instant⟩ := by
  constructor
  · intro published
    unfold publishRecord at published
    split at published
    next => cases published
    next size =>
      split at published
      next => cases published
      next e decoded =>
        split at published
        next same =>
          split at published
          next headers =>
            cases published
            refine ⟨by omega, e, decoded, same.1, same.2, ?_, rfl⟩
            cases result : validateHeaders e (headersForEnvelope F e ++ event.headers) with
            | ok _ => rfl
            | error _ =>
              rw [result] at headers
              cases headers
          next => cases published
        next => cases published
  · rintro ⟨short, e, decoded, sameID, key, headers, rfl⟩
    obtain ⟨document, parsed, -⟩ := decodeEnvelope_ok.mp decoded
    have positive := F.length_pos parsed
    unfold publishRecord
    rw [if_neg (by omega), decoded]
    dsimp only
    rw [if_pos ⟨sameID, key⟩, headers]
    rfl

/-- The key of a letter: that of the envelope in it or, if there is none, its own. -/
theorem LetterEnvelope.key_original (letter : LetterEnvelope F new p payload)
    (shallow : (p.document F).depth ≤ maxNestingDepth) {document : Json} {e : Envelope}
    (contained : p.originalEnvelope = some document)
    (decoded : decodeStruct true (envelopeFields F) .zero document = some e) (valid : validateEnvelope F e = .ok ()) :
    expectedPartitionKey F (new.envelope payload) = .ok e.aggregateID.text := by
  have type : (new.envelope payload).eventType = deliveryDeadLetteredType := letter.eventType
  have other : deliveryDeadLetteredType ∉ runEventTypes := by decide +kernel
  have inside := (decodeDocument_ok (F := F) (Nat.lt_succ_self document.depth)).mpr ⟨decoded, valid⟩
  simp [expectedPartitionKey, type, letter.parse shallow, decode_letter letter.valid.writable, contained, inside, other]

theorem LetterEnvelope.key_malformed (letter : LetterEnvelope F new p payload)
    (shallow : (p.document F).depth ≤ maxNestingDepth) (empty : p.originalEnvelope = none) :
    expectedPartitionKey F (new.envelope payload) = .ok new.aggregateID.text := by
  have type : (new.envelope payload).eventType = deliveryDeadLetteredType := letter.eventType
  have other : deliveryDeadLetteredType ∉ runEventTypes := by decide +kernel
  simp [expectedPartitionKey, type, letter.parse shallow, decode_letter letter.valid.writable, empty, other]
  rfl

theorem LetterEnvelope.decode (letter : LetterEnvelope F new p payload) (occurred : new.occurredAt ≠ 0)
    (writable : isWritable new.occurredAt = true) (shallow : (p.document F).depth + 1 ≤ maxNestingDepth) :
    decodeEnvelope F (new.bytes payload) = .ok (new.envelope payload) := by
  have parsed := letter.parse (by omega)
  have depth : ((new.envelope payload).document F).depth ≤ maxNestingDepth := by
    rw [Envelope.document_depth, parsed]
    exact shallow
  refine decodeEnvelope_ok.mpr ⟨(new.envelope payload).document F, ?_, ?_, letter.validate occurred (by omega)⟩
  · rw [NewEvent.bytes, F.parse_marshal, if_pos depth]
  · have one : IsInt64 1 := ⟨by decide, by decide⟩
    refine decode_document ?_ rfl writable ?_ parsed
    · simpa only [NewEvent.envelope, letter.schemaVersion] using one
    · simpa only [NewEvent.envelope, letter.aggregateVersion] using one

/-- A letter that is neither too deep nor too long is published. -/
theorem LetterEnvelope.publish (letter : LetterEnvelope F new p payload) (occurred : new.occurredAt ≠ 0)
    (writable : isWritable new.occurredAt = true) (shallow : (p.document F).depth + 1 ≤ maxNestingDepth) {limit : Nat}
    (fits : F.length (new.bytes payload) ≤ limit) {key attempt : String} {createdAt : Time}
    (isKey : expectedPartitionKey F (new.envelope payload) = .ok key) (short : attempt.utf8ByteSize ≤ 512) :
    publishRecord limit
        ⟨new.envelope payload, agentRunDLQTopic, key, [header F "delivery-attempt" attempt], new.bytes payload, createdAt⟩ =
      .ok ⟨agentRunDLQTopic, F.utf8 key,
        headersForEnvelope F (new.envelope payload) ++ [header F "delivery-attempt" attempt], new.bytes payload,
        new.occurredAt⟩ := by
  have type : (new.envelope payload).eventType = deliveryDeadLetteredType := letter.eventType
  have accepts : topicAccepts deliveryDeadLetteredType agentRunDLQTopic = true := by decide +kernel
  have valid := checkEnvelope_ok.mp (letter.validate occurred (by omega))
  refine publishRecord_ok.mpr ⟨fits, new.envelope payload, letter.decode occurred writable shallow, rfl, ?_, ?_, rfl⟩
  · simp [keyMatches, isKey, type, accepts]
  · have name : "delivery-attempt".utf8ByteSize = 16 := by decide +kernel
    refine validateHeaders_append valid [("delivery-attempt", attempt)] (by simp) (by simp) ?_ ?_ ?_
    · simp only [List.mem_singleton, forall_eq]
      decide +kernel
    · simp only [List.mem_singleton, forall_eq, name]
      omega
    · simp only [List.map_cons, List.map_nil, List.sum_cons, List.sum_nil, name]
      omega

/-- What the publication of a new event establishes. -/
theorem published_new {limit : Nat} {new : NewEvent F} {event : OutboxEvent F} {topic key : String}
    {headers : List (Header F)} {record : ProducerRecord F} (made : newEvent new = .ok event)
    (published : publishRecord limit { event with topic := topic, partitionKey := key, headers := headers } = .ok record) :
    ∃ payload, new.payload = some payload ∧ new.occurredAt ≠ 0 ∧ isWritable new.occurredAt = true ∧
      payload.document.depth + 1 ≤ maxNestingDepth ∧ F.length (new.bytes payload) ≤ limit := by
  obtain ⟨payload, isPayload, valid, writable, rfl⟩ := newEvent_ok made
  have checked := checkEnvelope_ok.mp valid
  obtain ⟨short, e, decoded, -⟩ := publishRecord_ok.mp published
  obtain ⟨document, parsed, -⟩ := decodeEnvelope_ok.mp decoded
  have object := checked.isObject
  refine ⟨payload, isPayload, checked.occurred, writable, ?_, short⟩
  -- The payload was parsed for the envelope, and the envelope by `Publish`.
  cases inside : (new.envelope payload).payload with
  | none =>
    rw [inside] at object
    cases object
  | some contents =>
    have parsedPayload : F.parse (F.marshal payload.document payload.message) = some contents := inside
    rw [F.parse_marshal] at parsedPayload
    split at parsedPayload
    next =>
      cases parsedPayload
      change F.parse (F.marshal _ _) = some document at parsed
      rw [F.parse_marshal] at parsed
      split at parsed
      next shallow =>
        rw [Envelope.document_depth, inside] at shallow
        exact shallow
      next => cases parsed
    next => cases parsedPayload

end AgentForge.Events
