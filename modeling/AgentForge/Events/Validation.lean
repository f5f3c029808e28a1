import AgentForge.Events.Envelope
import AgentForge.Operator.SpecCodec

/-!
# The contract of an envelope

`DecodeEnvelope`, `ValidateEnvelope`, the topics and keys of events and the headers that repeat parts of the body
(`events/validation.go`).
-/

set_option autoImplicit false

namespace AgentForge.Events

open Lib Operator Platform

/-! ## Types of events -/

def agentRunLifecycleTopic : String := "agentforge.agent-run.lifecycle.v1"

def agentRunDLQTopic : String := "agentforge.agent-run.lifecycle.dlq.v1"

/-- The retry topics, in the order in which a record passes them. -/
def retryTopics : List String :=
  ["agentforge.agent-run.lifecycle.retry.1m.v1", "agentforge.agent-run.lifecycle.retry.5m.v1",
    "agentforge.agent-run.lifecycle.retry.30m.v1"]

def agentRunRequestedType : String := "agent-run.requested.v1"

def agentRunScheduledType : String := "agent-run.scheduled.v1"

def agentRunCapacityWaitType : String := "agent-run.capacity-wait.v1"

def agentRunFailedType : String := "agent-run.failed.v1"

def agentRunCancelRequestedType : String := "agent-run.cancel-requested.v1"

def agentRunRetryRequestedType : String := "agent-run.retry-requested.v1"

def deliveryDeadLetteredType : String := "event-delivery.dead-lettered.v1"

/-- The events of a run. -/
def runEventTypes : List String :=
  [agentRunRequestedType, agentRunScheduledType, agentRunCapacityWaitType, agentRunFailedType,
    agentRunCancelRequestedType, agentRunRetryRequestedType]

/-- The major version in a text that matches `^[a-z0-9-]+\.[a-z0-9-]+\.v[1-9][0-9]*$`; `none` for the others. -/
def versionDigits (eventType : String) : Option (List Char) :=
  match eventType.toList.splitOn '.' with
  | [service, event, 'v' :: first :: digits] =>
    if service ≠ [] ∧ event ≠ [] ∧ (service ++ event).all (fun c => isLowerAlphanumeric c || c == '-') ∧
        first ≠ '0' ∧ (first :: digits).all Char.isDigit then
      some (first :: digits)
    else none
  | _ => none

def eventMajor (digits : List Char) : Option Int := (decimalValue digits).bind int64

/-- `^[\da-f]{2}-[\da-f]{32}-[\da-f]{16}-[\da-f]{2}$` with identifiers that are not zero. -/
def validTraceparent (text : String) : Bool :=
  match text.toList.splitOn '-' with
  | [version, trace, span, flags] =>
    version.length == 2 && trace.length == 32 && span.length == 16 && flags.length == 2 &&
      (version ++ trace ++ span ++ flags).all isLowerHex && trace.any (· != '0') && span.any (· != '0')
  | _ => false

/-! ## Payloads -/

/-- The terminal statuses other than SUCCEEDED and CANCELLED. -/
def isFailureText (status : String) : Bool :=
  ["PROVISIONING_FAILED", "EXECUTION_FAILED", "BUILD_FAILED", "POLICY_REJECTED", "DEPLOYMENT_FAILED",
    "TIMED_OUT"].contains status

section Payloads

variable (F : Format) (envelope : Envelope)

/-- The project and the run of a run's event. -/
def validateRunEventMetadata : Except Error (UUID × UUID) :=
  match envelope.projectID, envelope.runID with
  | some projectID, some runID =>
    if envelope.aggregateType = "AgentRun" ∧ runID = envelope.aggregateID then .ok (projectID, runID)
    else .error (.invalid "run event aggregate metadata is invalid")
  | _, _ => .error (.invalid "run event aggregate metadata is invalid")

/-- The payload, strictly decoded. -/
def decodePayload {P : Type} (fields : List (Lib.Field P)) (zero : P) (message : String) : Except Error P :=
  match envelope.payload.bind (decodeStruct true fields zero) with
  | some payload => .ok payload
  | none => .error (.invalid message)

def validateAgentRunRequested : Except Error Unit := do
  let (projectID, runID) ← validateRunEventMetadata envelope
  let payload ← decodePayload envelope requestedFields ⟨.nil, .nil, "", 0, "", 0, 0, 0, 0, ""⟩ "decode run-request payload"
  if payload.projectID ≠ projectID ∨ payload.runID ≠ runID ∨ payload.status ≠ "QUEUED" ∨ payload.attemptNumber ≠ 1 then
    throw (.invalid "run-request payload identity or state is invalid")
  if !(present 120 payload.runtime && 1 ≤ payload.cpuMillis && payload.cpuMillis ≤ 128000 && 1 ≤ payload.memoryMiB &&
      payload.memoryMiB ≤ 524288 && 1 ≤ payload.timeoutSeconds && payload.timeoutSeconds ≤ 86400 &&
      1 ≤ payload.maxAttempts && payload.maxAttempts ≤ 10 && present 2048 payload.promptReference &&
      F.parsesWithScheme payload.promptReference && "://".toList <:+: payload.promptReference.toList) then
    throw (.invalid "run-request payload constraints are invalid")

def scheduledPayload : Except Error AgentRunScheduledPayload :=
  decodePayload envelope scheduledFields ⟨.nil, .nil, "", .nil, 0, "", "", .nil, .nil, 0, 0⟩ "decode scheduled payload"

def validateAgentRunScheduled : Except Error Unit := do
  let (projectID, runID) ← validateRunEventMetadata envelope
  let payload ← scheduledPayload envelope
  if payload.projectID ≠ projectID ∨ payload.runID ≠ runID ∨
      !(payload.status == "PROVISIONING" && 1 ≤ payload.attemptNumber && payload.attemptID.validV7 &&
        payload.capacityReservationID.validV7 && payload.budgetReservationID.validV7 &&
        matchesClusterID payload.clusterID && matchesIdentifier 62 payload.executionProfile && 1 ≤ payload.cpuMillis &&
        payload.cpuMillis ≤ 128000 && 1 ≤ payload.memoryMiB && payload.memoryMiB ≤ 524288) then
    throw (.invalid "scheduled payload constraints are invalid")

def validateAgentRunCapacityWait : Except Error Unit := do
  let (projectID, runID) ← validateRunEventMetadata envelope
  let payload ← decodePayload envelope (capacityWaitFields F) ⟨.nil, .nil, "", 0, "", "", 0⟩ "decode capacity-wait payload"
  if payload.projectID ≠ projectID ∨ payload.runID ≠ runID ∨
      !(payload.status == "CAPACITY_WAIT" && 1 ≤ payload.attemptNumber && present 80 payload.reasonCode &&
        present 500 payload.reason && !Time.isZero payload.nextEligibleAt &&
        envelope.occurredAt.instant < payload.nextEligibleAt) then
    throw (.invalid "capacity-wait payload constraints are invalid")

def validateAgentRunFailed : Except Error Unit := do
  let (projectID, runID) ← validateRunEventMetadata envelope
  let payload ← decodePayload envelope failedFields ⟨.nil, .nil, "", "", 0, "", ""⟩ "decode run-failed payload"
  if payload.projectID ≠ projectID ∨ payload.runID ≠ runID ∨
      !(isFailureText payload.status && (FailureCategory.ofText payload.failureCategory).isSome &&
        1 ≤ payload.attemptNumber && present 80 payload.reasonCode && present 500 payload.reason) then
    throw (.invalid "run-failed payload constraints are invalid")

def validateAgentRunCancelRequested : Except Error Unit := do
  let (projectID, runID) ← validateRunEventMetadata envelope
  let payload ← decodePayload envelope cancelRequestedFields ⟨.nil, .nil, "", 0, "", ""⟩ "decode cancellation payload"
  if payload.projectID ≠ projectID ∨ payload.runID ≠ runID ∨
      !(payload.status == "CANCELLING" && 1 ≤ payload.attemptNumber && present 255 payload.requestedBy &&
        present 255 payload.commandID) then
    throw (.invalid "cancellation payload constraints are invalid")

def validateAgentRunRetryRequested : Except Error Unit := do
  let (projectID, runID) ← validateRunEventMetadata envelope
  let payload ← decodePayload envelope retryRequestedFields ⟨.nil, .nil, "", 0, "", "", "", ""⟩ "decode retry payload"
  if payload.projectID ≠ projectID ∨ payload.runID ≠ runID ∨
      !(payload.status == "QUEUED" && 2 ≤ payload.attemptNumber && isFailureText payload.previousStatus &&
        payload.previousFailure == "TRANSIENT_DEPENDENCY" && present 255 payload.requestedBy &&
        present 255 payload.commandID) then
    throw (.invalid "retry payload constraints are invalid")

def DeadLetterPayload.hasFingerprint (payload : DeadLetterPayload) : Bool :=
  "sha256:".toList.isPrefixOf payload.rawFingerprint.toList && payload.rawFingerprint.utf8ByteSize == 71 &&
    0 ≤ payload.rawSize

/-- A dead letter has an envelope or a fingerprint; `decode` is `DecodeEnvelope` of the document it contains. -/
def validateDeadLetter (decode : Json → Except Error Envelope) : Except Error Unit := do
  if envelope.aggregateType ≠ "EventDeliveryFailure" then throw (.invalid "dead-letter aggregate metadata is invalid")
  let payload ← decodePayload envelope (deadLetterFields F) .zero "decode dead-letter payload"
  if payload.originalEnvelope.isSome = payload.hasFingerprint ∨
      !(!isBlank payload.originalTopic && 0 ≤ payload.originalPartition && 0 ≤ payload.originalOffset &&
        present 160 payload.consumerIdentity && present 80 payload.failureCode && present 500 payload.failureReason &&
        1 ≤ payload.attempts && !Time.isZero payload.firstFailedAt && payload.firstFailedAt ≤ payload.lastFailedAt &&
        payload.replayDisposition == "QUARANTINED") then
    throw (.invalid "dead-letter payload is invalid")
  match payload.originalEnvelope with
  | some original =>
    match decode original with
    | .ok _ => pure ()
    | .error _ => throw (.invalid "dead-letter original envelope is invalid")
  | none => pure ()

end Payloads

/-! ## Envelopes -/

def Json.isObject : Json → Bool
  | .obj _ => true
  | _ => false

section Envelopes

variable (F : Format)

/-- The switch over the types of events. -/
def validatePayload (decode : Json → Except Error Envelope) (envelope : Envelope) : Except Error Unit :=
  if envelope.eventType = agentRunRequestedType then validateAgentRunRequested F envelope
  else if envelope.eventType = agentRunScheduledType then validateAgentRunScheduled envelope
  else if envelope.eventType = agentRunCapacityWaitType then validateAgentRunCapacityWait F envelope
  else if envelope.eventType = agentRunFailedType then validateAgentRunFailed envelope
  else if envelope.eventType = agentRunCancelRequestedType then validateAgentRunCancelRequested envelope
  else if envelope.eventType = agentRunRetryRequestedType then validateAgentRunRetryRequested envelope
  else if envelope.eventType = deliveryDeadLetteredType then validateDeadLetter F envelope decode
  else .error (.invalid ("unsupported event type " ++ envelope.eventType))

/-- `ValidateEnvelope`, given how contained envelopes are decoded. -/
def checkEnvelope (decode : Json → Except Error Envelope) (envelope : Envelope) : Except Error Unit := do
  if !envelope.eventID.validV7 || (versionDigits envelope.eventType).isNone then
    throw (.invalid "event ID or type is invalid")
  if (versionDigits envelope.eventType).bind eventMajor ≠ some envelope.schemaVersion then
    throw (.invalid "event schema version does not match event type")
  if Time.isZero envelope.occurredAt.instant || envelope.occurredAt.offset ≠ 0 || !present 128 envelope.producer then
    throw (.invalid "event occurrence and producer are required")
  if !(envelope.tenantID.validV7 && envelope.projectID.all UUID.validV7 && envelope.runID.all UUID.validV7 &&
      envelope.aggregateID.validV7 && !isBlank envelope.aggregateType && 1 ≤ envelope.aggregateVersion) then
    throw (.invalid "event ownership or aggregate metadata is invalid")
  if !(present 255 envelope.correlationID && present 255 envelope.causationID &&
      envelope.requestID.utf8ByteSize ≤ 128) then
    throw (.invalid "event correlation metadata is invalid")
  if envelope.traceparent ≠ "" ∧ !validTraceparent envelope.traceparent then
    throw (.invalid "event traceparent is invalid")
  if envelope.tracestate.utf8ByteSize > 512 then throw (.invalid "event tracestate is too long")
  if !envelope.payload.any Json.isObject then throw (.invalid "event payload must be a JSON object")
  validatePayload F decode envelope

/-- Decode and validate a document; the first argument bounds how many envelopes are inside each other. -/
def decodeDocument : Nat → Json → Except Error Envelope
  | 0, _ => .error (.invalid "decode event envelope")
  | n + 1, document =>
    match decodeStruct true (envelopeFields F) .zero document with
    | none => .error (.invalid "decode event envelope")
    | some envelope =>
      match checkEnvelope F (decodeDocument n) envelope with
      | .ok () => .ok envelope
      | .error err => .error err

def validateEnvelope (envelope : Envelope) : Except Error Unit :=
  checkEnvelope F (decodeDocument F ((envelope.payload.map Json.depth).getD 0)) envelope

def decodeEnvelope (serialized : F.Bytes) : Except Error Envelope :=
  match F.parse serialized with
  | none => .error (.invalid "decode event envelope")
  | some document => decodeDocument F (document.depth + 1) document

end Envelopes

/-! ## Topics and keys -/

def topicAccepts (eventType topic : String) : Bool :=
  if runEventTypes.contains eventType then topic == agentRunLifecycleTopic || retryTopics.contains topic
  else eventType == deliveryDeadLetteredType && topic == agentRunDLQTopic

/-- The key of a run's events is the run; a dead letter has the key of what it contains. -/
def expectedPartitionKey (F : Format) (envelope : Envelope) : Except Error String :=
  if runEventTypes.contains envelope.eventType then .ok envelope.aggregateID.text
  else if envelope.eventType = deliveryDeadLetteredType then
    match envelope.payload.bind (decodeStruct false (deadLetterFields F) .zero) with
    | none => .error (.invalid "decode dead-letter payload")
    | some payload =>
      match payload.originalEnvelope with
      | none => .ok envelope.aggregateID.text
      | some original =>
        match decodeDocument F (original.depth + 1) original with
        | .ok contained => .ok contained.aggregateID.text
        | .error err => .error err
  else .error (.invalid ("unsupported event type " ++ envelope.eventType))

/-! ## Headers -/

structure Header (F : Format) where
  key : F.Text
  value : F.Text

section Headers

variable (F : Format)

/-- A header with a string as its name and another as its value. -/
def header (key value : String) : Header F := ⟨F.utf8 key, F.utf8 value⟩

/-- The names and values that headers repeat from the body. -/
def repeatedValues (envelope : Envelope) : List (String × String) :=
  [("event-id", envelope.eventID.text), ("event-type", envelope.eventType),
    ("schema-version", toString envelope.schemaVersion), ("tenant-id", envelope.tenantID.text),
    ("correlation-id", envelope.correlationID), ("causation-id", envelope.causationID)] ++
  [("request-id", envelope.requestID), ("traceparent", envelope.traceparent),
    ("tracestate", envelope.tracestate)].filter fun pair => pair.2 != ""

def headersForEnvelope (envelope : Envelope) : List (Header F) :=
  (repeatedValues envelope).map fun pair => header F pair.1 pair.2

/-- The names of headers that repeat the body. -/
def repeatedKeys : List String :=
  ["event-id", "event-type", "schema-version", "tenant-id", "correlation-id", "causation-id", "request-id", "traceparent",
    "tracestate"]

variable {F}

/-- What the body says for a name; the empty string if it says nothing. -/
def expectedValue (envelope : Envelope) (key : F.Text) : F.Text :=
  match (repeatedValues envelope).find? fun pair => F.utf8 pair.1 = key with
  | some pair => F.utf8 pair.2
  | none => F.utf8 ""

def quoted (key : F.Text) : String := "\"" ++ F.string key ++ "\""

/-- The loop over the headers, with the names seen before and their total size. -/
def checkHeaders (envelope : Envelope) : List (Header F) → List F.Text → Nat → Except Error Unit
  | [], _, _ => .ok ()
  | h :: rest, seen, bytes => do
    let bytes := bytes + F.size h.key + F.size h.value
    if F.size h.key = 0 ∨ F.size h.key > 64 ∨ F.size h.value > 512 ∨ bytes > 4096 then
      throw (.invalid ("kafka header " ++ quoted h.key ++ " is too long"))
    if seen.contains h.key then throw (.invalid ("kafka header " ++ quoted h.key ++ " is duplicated"))
    if (repeatedKeys.any fun key => F.utf8 key = h.key) ∧ expectedValue envelope h.key ≠ h.value then
      throw (.invalid ("kafka header " ++ quoted h.key ++ " does not match event body"))
    checkHeaders envelope rest (h.key :: seen) bytes

/-- `actual[key]`. -/
def headerValue (headers : List (Header F)) (key : F.Text) : F.Text :=
  match headers.find? fun h => h.key = key with
  | some h => h.value
  | none => F.utf8 ""

def validateHeaders (envelope : Envelope) (headers : List (Header F)) : Except Error Unit := do
  if headers.length > 32 then throw (.invalid "kafka record has too many headers")
  checkHeaders envelope headers [] 0
  match (headersForEnvelope F envelope).find? fun expected => headerValue headers expected.key ≠ expected.value with
  | some missing => throw (.invalid ("kafka header " ++ quoted missing.key ++ " does not match event body"))
  | none => pure ()

end Headers

end AgentForge.Events
