import AgentForge.Events.DeadLetter

/-!
# What decoding and validation establish

`Valid` lists what `ValidateEnvelope` checks. The bound on the recursion of `decodeDocument` is never reached, so that
a decoded envelope is valid; and an envelope that is marshalled is decoded as it was.
-/

set_option autoImplicit false

namespace AgentForge.Events

open Lib Lib.Json Operator Platform
open Lib.Field (value_str value_num value_same value_cases pointer_str pointer_same)

variable {F : Format} {e : Envelope} {document : Json}

/-! ## Valid envelopes -/

/-- What `ValidateEnvelope` checks. -/
structure Checked (F : Format) (decode : Json → Except Error Envelope) (e : Envelope) : Prop where
  eventID : e.eventID.validV7 = true
  version : (versionDigits e.eventType).bind eventMajor = some e.schemaVersion
  occurred : e.occurredAt.instant ≠ 0
  utc : e.occurredAt.offset = 0
  producer : present 128 e.producer = true
  tenantID : e.tenantID.validV7 = true
  projectID : e.projectID.all UUID.validV7 = true
  runID : e.runID.all UUID.validV7 = true
  aggregateID : e.aggregateID.validV7 = true
  aggregateType : isBlank e.aggregateType = false
  aggregateVersion : 1 ≤ e.aggregateVersion
  correlationID : present 255 e.correlationID = true
  causationID : present 255 e.causationID = true
  requestID : e.requestID.utf8ByteSize ≤ 128
  traceparent : e.traceparent = "" ∨ validTraceparent e.traceparent = true
  tracestate : e.tracestate.utf8ByteSize ≤ 512
  isObject : e.payload.any Json.isObject = true
  payload : validatePayload F decode e = .ok ()

theorem checkEnvelope_ok {decode : Json → Except Error Envelope} :
    checkEnvelope F decode e = .ok () ↔ Checked F decode e := by
  constructor
  · intro ok
    simp only [checkEnvelope, guard_eq_ok] at ok
    obtain ⟨identity, version, occurred, owner, correlation, trace, state, object, payload⟩ := ok
    simp only [Bool.or_eq_true, Bool.not_eq_true', not_or, Bool.not_eq_false, Bool.and_eq_true, decide_eq_true_eq,
      not_not, Time.isZero, beq_iff_eq] at identity version occurred owner correlation trace state object
    exact ⟨identity.1, version, occurred.1.1, occurred.1.2, occurred.2, owner.1.1.1.1.1, owner.1.1.1.1.2, owner.1.1.1.2,
      owner.1.1.2, owner.1.2, owner.2, correlation.1.1, correlation.1.2, correlation.2,
      (em _).imp_right fun present => by simpa [present] using trace, by omega, object, payload⟩
  · intro checked
    have type : (versionDigits e.eventType).isNone = false := by
      cases digits : versionDigits e.eventType with
      | none =>
        have version := checked.version
        simp [digits] at version
      | some _ => rfl
    simp only [checkEnvelope, guard_eq_ok]
    refine ⟨by simp [checked.eventID, type], by simp [checked.version], ?_, ?_, ?_, ?_, ?_, ?_, checked.payload⟩
    · simp [Time.isZero, checked.occurred, checked.utc, checked.producer]
    · simp [checked.tenantID, checked.projectID, checked.runID, checked.aggregateID, checked.aggregateType,
        checked.aggregateVersion]
    · simp [checked.correlationID, checked.causationID, checked.requestID]
    · rcases checked.traceparent with none | valid
      · simp [none]
      · simp [valid]
    · have := checked.tracestate
      omega
    · simp [checked.isObject]

/-! ## Documents in documents -/

/-- A raw payload is less deep than the document that it is a member of. -/
theorem payload_depth (decoded : decodeStruct true (envelopeFields F) .zero document = some e) :
    ∀ payload, e.payload = some payload → payload.depth < document.depth := by
  refine decodeStruct_invariant (I := fun e : Envelope => ∀ payload, e.payload = some payload → payload.depth < document.depth)
    decoded (fun payload none => by cases none) ?_
  intro field known json smaller t t' before sets
  simp only [envelopeFields, List.mem_cons, List.not_mem_nil, or_false] at known
  rcases known with rfl | rfl | rfl | rfl | rfl | rfl | rfl | rfl | rfl | rfl | rfl | rfl | rfl | rfl | rfl | rfl | rfl
  all_goals first
    | rw [value_same Envelope.payload sets fun _ _ => rfl]
      exact before
    | rw [pointer_same Envelope.payload sets fun _ _ => rfl]
      exact before
    | cases sets
      intro payload same
      cases same
      exact smaller

/-- A time that has been read in UTC can be written. -/
theorem occurredAt_writable (decoded : decodeStruct true (envelopeFields F) .zero document = some e) :
    e.occurredAt.offset = 0 → isWritable e.occurredAt.instant = true := by
  refine decodeStruct_invariant (I := fun e : Envelope => e.occurredAt.offset = 0 → isWritable e.occurredAt.instant = true)
    decoded (fun _ => by decide) ?_
  intro field known json _ t t' before sets
  simp only [envelopeFields, List.mem_cons, List.not_mem_nil, or_false] at known
  rcases known with rfl | rfl | rfl | rfl | rfl | rfl | rfl | rfl | rfl | rfl | rfl | rfl | rfl | rfl | rfl | rfl | rfl
  case inr.inr.inr.inl =>
    rcases value_cases sets with rfl | ⟨stamp, read, rfl⟩
    · exact before
    · cases json with
      | str text => exact F.writable_read read
      | _ => cases read
  all_goals first
    | rw [value_same Envelope.occurredAt sets fun _ _ => rfl]
      exact before
    | rw [pointer_same Envelope.occurredAt sets fun _ _ => rfl]
      exact before
    | cases sets
      exact before

theorem original_depth {strict : Bool} {p : DeadLetterPayload}
    (decoded : decodeStruct strict (deadLetterFields F) .zero document = some p) :
    ∀ original, p.originalEnvelope = some original → original.depth < document.depth := by
  refine decodeStruct_invariant
    (I := fun p : DeadLetterPayload => ∀ original, p.originalEnvelope = some original → original.depth < document.depth)
    decoded (fun original none => by cases none) ?_
  intro field known json smaller t t' before sets
  simp only [deadLetterFields, List.mem_cons, List.not_mem_nil, or_false] at known
  rcases known with rfl | rfl | rfl | rfl | rfl | rfl | rfl | rfl | rfl | rfl | rfl | rfl | rfl | rfl | rfl
  all_goals first
    | rw [value_same DeadLetterPayload.originalEnvelope sets fun _ _ => rfl]
      exact before
    | rw [pointer_same DeadLetterPayload.originalEnvelope sets fun _ _ => rfl]
      exact before
    | cases sets
      intro original same
      cases same
      exact smaller

/-- Validation decodes only documents that are less deep than the payload. -/
theorem checkEnvelope_congr {decode decode' : Json → Except Error Envelope}
    (same : ∀ payload, e.payload = some payload → ∀ original : Json, original.depth < payload.depth →
      decode original = decode' original) :
    checkEnvelope F decode e = checkEnvelope F decode' e := by
  have letters : validateDeadLetter F e decode = validateDeadLetter F e decode' := by
    unfold validateDeadLetter decodePayload
    cases payload : e.payload with
    | none => rfl
    | some document =>
      cases decoded : decodeStruct true (deadLetterFields F) .zero document with
      | none =>
        simp only [Option.bind_some, decoded]
        rfl
      | some letter =>
        cases contained : letter.originalEnvelope with
        | none => simp only [Option.bind_some, decoded, bind, Except.bind, contained]
        | some original =>
          have equal := same document payload original (original_depth decoded original contained)
          simp only [Option.bind_some, decoded, bind, Except.bind, contained, equal]
  have payloads : validatePayload F decode e = validatePayload F decode' e := by
    unfold validatePayload
    rw [letters]
  unfold checkEnvelope
  rw [payloads]

/-- The bound on the recursion does not matter once it exceeds the depth. -/
theorem decodeDocument_bound {n m : Nat} (enough : document.depth < n) (also : document.depth < m) :
    decodeDocument F n document = decodeDocument F m document := by
  induction n generalizing m document with
  | zero => omega
  | succ n ih =>
    cases m with
    | zero => omega
    | succ m =>
      unfold decodeDocument
      cases decoded : decodeStruct true (envelopeFields F) .zero document with
      | none => rfl
      | some e =>
        have equal : checkEnvelope F (decodeDocument F n) e = checkEnvelope F (decodeDocument F m) e := by
          refine checkEnvelope_congr fun payload same original smaller => ?_
          have inside := payload_depth decoded payload same
          exact ih (by omega) (by omega)
        simp only [equal]

theorem decodeDocument_ok {n : Nat} (enough : document.depth < n) :
    decodeDocument F n document = .ok e ↔
      decodeStruct true (envelopeFields F) .zero document = some e ∧ validateEnvelope F e = .ok () := by
  cases n with
  | zero => omega
  | succ n =>
    unfold decodeDocument
    cases decoded : decodeStruct true (envelopeFields F) .zero document with
    | none => simp
    | some e' =>
      have equal : checkEnvelope F (decodeDocument F n) e' = validateEnvelope F e' := by
        refine checkEnvelope_congr fun payload same original smaller => ?_
        have inside := payload_depth decoded payload same
        rw [same]
        exact decodeDocument_bound (by omega) smaller
      simp only [equal]
      constructor
      · intro ok
        split at ok
        next valid =>
          cases ok
          exact ⟨rfl, valid⟩
        next => cases ok
      · rintro ⟨same, valid⟩
        cases same
        rw [valid]

theorem decodeEnvelope_ok {serialized : F.Bytes} :
    decodeEnvelope F serialized = .ok e ↔
      ∃ document, F.parse serialized = some document ∧
        decodeStruct true (envelopeFields F) .zero document = some e ∧ validateEnvelope F e = .ok () := by
  unfold decodeEnvelope
  cases parsed : F.parse serialized with
  | none => simp
  | some document => simp [decodeDocument_ok (Nat.lt_succ_self _)]

/-! ## Marshalled envelopes -/

theorem asUUID_text (id : UUID) : asUUID (.str id.text) = some id := uuidOfText_text id

/-- An `int64`. -/
def IsInt64 (n : Int) : Prop := -(2 ^ 63) ≤ n ∧ n < 2 ^ 63

theorem asInt64_num {n : Int} (bounded : IsInt64 n) : asInt64 (.num n) = some n := by
  change int64 n = some n
  exact if_pos bounded

theorem asString_str (text : String) : asString (.str text) = some text := rfl

theorem asStamp_format {t : Time} (writable : isWritable t = true) : F.asStamp (.str (F.formatTime t)) = some ⟨t, 0⟩ :=
  F.read_format t writable

theorem envelope_names : (envelopeFields F).map Lib.Field.name =
    ["eventId", "eventType", "schemaVersion", "occurredAt", "producer", "tenantId", "projectId", "runId", "aggregateType",
      "aggregateId", "aggregateVersion", "requestId", "traceparent", "tracestate", "correlationId", "causationId",
      "payload"] := rfl

/-- An envelope in UTC is decoded as it was marshalled. -/
theorem decode_document {payload : Json} (version : IsInt64 e.schemaVersion) (utc : e.occurredAt.offset = 0)
    (writable : isWritable e.occurredAt.instant = true) (aggregate : IsInt64 e.aggregateVersion)
    (isPayload : e.payload = some payload) : decodeStruct true (envelopeFields F) .zero (e.document F) = some e := by
  obtain ⟨eventID, eventType, schemaVersion, ⟨occurred, offset⟩, producer, tenantID, projectID, runID, aggregateType,
    aggregateID, aggregateVersion, requestID, traceparent, tracestate, correlationID, causationID, raw⟩ := e
  dsimp only at version utc writable aggregate isPayload
  subst utc isPayload
  simp only [Envelope.document, decodeStruct]
  refine decode_member envelope_names 0 (by decide) rfl (value_str (asUUID_text eventID)) ?_
  refine decode_member envelope_names 1 (by decide) rfl (value_str (asString_str _)) ?_
  refine decode_member envelope_names 2 (by decide) rfl (value_num (asInt64_num version)) ?_
  refine decode_member envelope_names 3 (by decide) rfl (value_str (asStamp_format writable)) ?_
  refine decode_member envelope_names 4 (by decide) rfl (value_str (asString_str _)) ?_
  refine decode_member envelope_names 5 (by decide) rfl (value_str (asUUID_text tenantID)) ?_
  refine decode_omitNil envelope_names 6 (by decide) rfl
    (t := ⟨eventID, eventType, schemaVersion, ⟨occurred, 0⟩, producer, tenantID, projectID, none, "", .nil, 0, "", "", "",
      "", "", none⟩)
    (fun id same => by rw [same]; exact pointer_str (asUUID_text id)) (fun same => by rw [same]; rfl) ?_
  refine decode_omitNil envelope_names 7 (by decide) rfl
    (t := ⟨eventID, eventType, schemaVersion, ⟨occurred, 0⟩, producer, tenantID, projectID, runID, "", .nil, 0, "", "", "",
      "", "", none⟩)
    (fun id same => by rw [same]; exact pointer_str (asUUID_text id)) (fun same => by rw [same]) ?_
  refine decode_member envelope_names 8 (by decide) rfl (value_str (asString_str _)) ?_
  refine decode_member envelope_names 9 (by decide) rfl (value_str (asUUID_text aggregateID)) ?_
  refine decode_member envelope_names 10 (by decide) rfl (value_num (asInt64_num aggregate)) ?_
  refine decode_omitEmpty envelope_names 11 (by decide) rfl (value_str (asString_str requestID))
    (fun empty => by rw [beq_iff_eq.mp empty]) ?_
  refine decode_omitEmpty envelope_names 12 (by decide) rfl (value_str (asString_str traceparent))
    (fun empty => by rw [beq_iff_eq.mp empty]) ?_
  refine decode_omitEmpty envelope_names 13 (by decide) rfl (value_str (asString_str tracestate))
    (fun empty => by rw [beq_iff_eq.mp empty]) ?_
  refine decode_member envelope_names 14 (by decide) rfl (value_str (asString_str _)) ?_
  refine decode_member envelope_names 15 (by decide) rfl (value_str (asString_str _)) ?_
  exact decode_member envelope_names 16 (by decide) rfl rfl rfl

end AgentForge.Events
