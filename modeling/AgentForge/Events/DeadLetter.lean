import AgentForge.Events.Validation

/-!
# New events, dead letters and records

`newEvent` of `events/event.go`, the dead letters of `events/dead_letter.go`, and the two ends of the broker:
what `Publish` checks and produces (`adapters/kafka/producer.go`) and how a record is received
(`adapters/kafka/consumer.go`). New identifiers are arguments.
-/

set_option autoImplicit false

namespace AgentForge.Events

open Lib Operator Platform

section

variable (F : Format)

structure OutboxEvent where
  envelope : Envelope
  topic : String
  partitionKey : String
  headers : List (Header F)
  serialized : F.Bytes
  createdAt : Time

/-- A payload that has been marshalled: its document, and the raw message in it. -/
structure Marshalled where
  document : Json
  message : Option F.Bytes

variable {F}

/-- The arguments of `newEvent`; the payload is `none` when it cannot be marshalled. -/
structure NewEvent (F : Format) where
  eventType : String
  schemaVersion : Int
  occurredAt : Time
  producer : String
  tenantID : UUID
  projectID : Option UUID
  runID : Option UUID
  aggregateType : String
  aggregateID : UUID
  aggregateVersion : Int
  correlationID : String
  causationID : String
  payload : Option (Marshalled F)
  eventID : UUID

/-- `json.Marshal` of the payload. -/
def Marshalled.bytes (payload : Marshalled F) : F.Bytes := F.marshal payload.document payload.message

/-- The envelope of a new event around its payload. -/
def NewEvent.envelope (new : NewEvent F) (payload : Marshalled F) : Envelope where
  eventID := new.eventID
  eventType := new.eventType
  schemaVersion := new.schemaVersion
  occurredAt := ⟨new.occurredAt, 0⟩
  producer := trimSpace new.producer
  tenantID := new.tenantID
  projectID := new.projectID
  runID := new.runID
  aggregateType := new.aggregateType
  aggregateID := new.aggregateID
  aggregateVersion := new.aggregateVersion
  requestID := ""
  traceparent := ""
  tracestate := ""
  correlationID := trimSpace new.correlationID
  causationID := trimSpace new.causationID
  payload := F.parse payload.bytes

/-- `json.Marshal` of the envelope. -/
def NewEvent.bytes (new : NewEvent F) (payload : Marshalled F) : F.Bytes :=
  F.marshal ((new.envelope payload).document F) (some payload.bytes)

def newEvent (new : NewEvent F) : Except Error (OutboxEvent F) := do
  if (versionDigits new.eventType).isNone ∨ new.schemaVersion < 1 ∨ new.tenantID = .nil ∨ new.aggregateID = .nil ∨
      new.aggregateVersion < 1 then
    throw (.invalid "event identity and version are invalid")
  if isBlank new.producer ∨ new.aggregateType = "" ∨ isBlank new.correlationID ∨ isBlank new.causationID then
    throw (.invalid "event producer, aggregate, correlation, and causation are required")
  match new.payload with
  | none => throw (.invalid "serialize event payload")
  | some payload =>
    validateEnvelope F (new.envelope payload)
    if !isWritable new.occurredAt then throw (.invalid "serialize event envelope")
    return {
      envelope := new.envelope payload
      topic := agentRunLifecycleTopic
      partitionKey := new.aggregateID.text
      headers := []
      serialized := new.bytes payload
      createdAt := new.occurredAt }

/-! ## Received records -/

/-- A record of the broker. Partitions are `int32` and offsets `int64`, counted from 0. -/
structure Record (F : Format) where
  topic : String
  partition : Int
  leaderEpoch : Int
  offset : Int
  key : F.Text
  headers : List (Header F)
  value : F.Bytes
  partition_valid : 0 ≤ partition ∧ partition < 2 ^ 31
  offset_valid : 0 ≤ offset ∧ offset < 2 ^ 63

structure ReceivedEvent (F : Format) where
  envelope : Envelope
  topic : String
  partition : Int
  leaderEpoch : Int
  offset : Int
  key : F.Text
  headers : List (Header F)
  value : F.Bytes

/-- A record before it is decoded. -/
def Record.received (record : Record F) : ReceivedEvent F where
  envelope := .zero
  topic := record.topic
  partition := record.partition
  leaderEpoch := record.leaderEpoch
  offset := record.offset
  key := record.key
  headers := record.headers
  value := record.value

/-- The checks of a record against its envelope that the producer and the consumer share. -/
def keyMatches (envelope : Envelope) (topic : String) (key : F.Text) : Bool :=
  match expectedPartitionKey F envelope with
  | .ok expected => topicAccepts envelope.eventType topic && key == F.utf8 expected
  | .error _ => false

/-- `decodeRecord`; an error carries the record as it was received. -/
def decodeRecord (maxMessageBytes : Nat) (record : Record F) : Except (ReceivedEvent F) (ReceivedEvent F) :=
  if F.length record.value = 0 ∨ F.length record.value > maxMessageBytes then .error record.received
  else
    match decodeEnvelope F record.value with
    | .error _ => .error record.received
    | .ok envelope =>
      if (validateHeaders envelope record.headers).isOk && keyMatches envelope record.topic record.key then
        .ok { record.received with envelope := envelope }
      else .error record.received

/-! ## Dead letters -/

/-- The headers that a dead letter may repeat. -/
def safeKeys : List String := repeatedKeys ++ ["delivery-attempt", "retry-not-before"]

def safeOriginalHeaders (headers : List (Header F)) : List HeaderPayload :=
  (headers.filter fun h => safeKeys.any fun key => F.utf8 key = h.key).map fun h => ⟨F.string h.key, F.string h.value⟩

/-- What a dead letter says of the failure. -/
structure DeadLetterFailure where
  consumerIdentity : String
  code : String
  reason : String
  attempts : Int
  firstFailedAt : Time
  lastFailedAt : Time

def deadLetterPayload (original : ReceivedEvent F) (failure : DeadLetterFailure) (envelope : Option Json) :
    DeadLetterPayload where
  originalEnvelope := envelope
  rawFingerprint := ""
  rawSize := 0
  originalTopic := original.topic
  originalPartition := original.partition
  originalOffset := original.offset
  originalKey := F.string original.key
  originalHeaders := safeOriginalHeaders original.headers
  consumerIdentity := trimSpace failure.consumerIdentity
  failureCode := trimSpace failure.code
  failureReason := trimSpace failure.reason
  attempts := failure.attempts
  firstFailedAt := failure.firstFailedAt
  lastFailedAt := failure.lastFailedAt
  replayDisposition := "QUARANTINED"

/-- Only the years 0 to 9999 can be marshalled. -/
def DeadLetterPayload.marshalled (payload : DeadLetterPayload) (message : Option F.Bytes) : Option (Marshalled F) :=
  if isWritable payload.firstFailedAt && isWritable payload.lastFailedAt then some ⟨payload.document F, message⟩ else none

/-- The payload around the original bytes, which must be JSON; an empty raw message is left out. -/
def marshalOriginal (original : ReceivedEvent F) (failure : DeadLetterFailure) : Option (Marshalled F) :=
  if F.length original.value = 0 then (deadLetterPayload original failure none).marshalled none
  else
    match F.parse original.value with
    | some document => (deadLetterPayload original failure (some document)).marshalled (some original.value)
    | none => none

/-- The event around a dead letter's payload. -/
def deadLetterEvent (tenantID : UUID) (projectID runID : Option UUID) (correlationID causationID : String) (now : Time)
    (payload : Option (Marshalled F)) (failureID eventID : UUID) : NewEvent F where
  eventType := deliveryDeadLetteredType
  schemaVersion := 1
  occurredAt := now
  producer := "event-consumer"
  tenantID := tenantID
  projectID := projectID
  runID := runID
  aggregateType := "EventDeliveryFailure"
  aggregateID := failureID
  aggregateVersion := 1
  correlationID := correlationID
  causationID := causationID
  payload := payload
  eventID := eventID

/-- The dead letter of a record with a valid envelope. -/
def originalEvent (original : ReceivedEvent F) (failure : DeadLetterFailure) (failureID eventID : UUID) : NewEvent F :=
  deadLetterEvent original.envelope.tenantID original.envelope.projectID original.envelope.runID
    original.envelope.correlationID original.envelope.eventID.text failure.lastFailedAt
    (marshalOriginal original failure) failureID eventID

def newDeadLetter (original : ReceivedEvent F) (failure : DeadLetterFailure) (failureID eventID : UUID) :
    Except Error (OutboxEvent F) := do
  validateEnvelope F original.envelope
  let event ← newEvent (originalEvent original failure failureID eventID)
  return { event with topic := agentRunDLQTopic, partitionKey := original.envelope.aggregateID.text }

/-- `"sha256:"` and the digits of the sum. -/
def fingerprint (value : F.Bytes) : String := "sha256:" ++ F.digest value

/-- The fingerprint and the size stand for the bytes. -/
def malformedPayload (original : ReceivedEvent F) (failure : DeadLetterFailure) : DeadLetterPayload :=
  { deadLetterPayload original failure none with
    rawFingerprint := fingerprint original.value
    rawSize := F.length original.value
    originalKey := ""
    originalHeaders := [] }

/-- The dead letter of a record that does not decode, in the quarantine tenant. -/
def malformedEvent (original : ReceivedEvent F) (quarantineTenantID : UUID) (failure : DeadLetterFailure)
    (failureID eventID : UUID) : NewEvent F :=
  deadLetterEvent quarantineTenantID none none (fingerprint original.value) (fingerprint original.value)
    failure.lastFailedAt ((malformedPayload original failure).marshalled none) failureID eventID

def newMalformedDeadLetter (original : ReceivedEvent F) (quarantineTenantID : UUID) (failure : DeadLetterFailure)
    (failureID eventID : UUID) : Except Error (OutboxEvent F) := do
  let event ← newEvent (malformedEvent original quarantineTenantID failure failureID eventID)
  return { event with topic := agentRunDLQTopic, partitionKey := failureID.text }

/-! ## Published records -/

structure PublicationError where
  permanent : Bool
  reason : String
  deriving DecidableEq

/-- The record that `Publish` produces, of which the broker chooses the partition and the offset. -/
structure ProducerRecord (F : Format) where
  topic : String
  key : F.Text
  headers : List (Header F)
  value : F.Bytes
  timestamp : Time

/-- What `Publish` does before it produces a record. -/
def publishRecord (maxMessageBytes : Nat) (event : OutboxEvent F) : Except PublicationError (ProducerRecord F) :=
  if F.length event.serialized = 0 ∨ F.length event.serialized > maxMessageBytes then
    .error ⟨true, "event message size is invalid"⟩
  else
    match decodeEnvelope F event.serialized with
    | .error _ => .error ⟨true, "event contract is invalid"⟩
    | .ok decoded =>
      if decoded.eventID = event.envelope.eventID ∧ keyMatches decoded event.topic (F.utf8 event.partitionKey) then
        if (validateHeaders decoded (headersForEnvelope F decoded ++ event.headers)).isOk then
          .ok ⟨event.topic, F.utf8 event.partitionKey, headersForEnvelope F decoded ++ event.headers, event.serialized,
            decoded.occurredAt.instant⟩
        else .error ⟨true, "event headers are invalid"⟩
      else .error ⟨true, "event contract is invalid"⟩

/-- The record as the broker stores it. -/
def ProducerRecord.stored (record : ProducerRecord F) (partition leaderEpoch offset : Int)
    (partition_valid : 0 ≤ partition ∧ partition < 2 ^ 31) (offset_valid : 0 ≤ offset ∧ offset < 2 ^ 63) : Record F :=
  ⟨record.topic, partition, leaderEpoch, offset, record.key, record.headers, record.value, partition_valid, offset_valid⟩

end

end AgentForge.Events
