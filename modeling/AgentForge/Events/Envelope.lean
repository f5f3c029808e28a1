import AgentForge.Lib.Except
import AgentForge.Lib.Struct
import AgentForge.Events.Format

/-!
# Envelopes and their payloads

The structs of `events/event.go` and `events/dead_letter.go` with their JSON members, and the checks that
`ValidateEnvelope` makes of each type of event (`events/validation.go`). A raw message is the document in it. A dead
letter contains an envelope, which is decoded in turn; the depth of the document bounds this recursion.
-/

set_option autoImplicit false

namespace AgentForge.Events

open Lib Lib.Json Operator Platform

/-! ## Members -/

def asUUID : Json → Option UUID
  | .str text => uuidOfText text
  | _ => none

/-- An `int` or `int64`. -/
def asInt64 (json : Json) : Option Int := json.asInt.bind int64

def asInt32 (json : Json) : Option Int := json.asInt.bind fun n => if -(2 ^ 31) ≤ n ∧ n < 2 ^ 31 then some n else none

def Format.asStamp (F : Format) : Json → Option Stamp
  | .str text => F.readTime text
  | _ => none

def Format.asTime (F : Format) (json : Json) : Option Time := (F.asStamp json).map Stamp.instant

/-! ## Envelopes -/

structure Envelope where
  eventID : UUID
  eventType : String
  schemaVersion : Int
  occurredAt : Stamp
  producer : String
  tenantID : UUID
  projectID : Option UUID
  runID : Option UUID
  aggregateType : String
  aggregateID : UUID
  aggregateVersion : Int
  requestID : String
  traceparent : String
  tracestate : String
  correlationID : String
  causationID : String
  /-- The document in the raw payload, if it is one. -/
  payload : Option Json

/-- `Envelope{}`. -/
def Envelope.zero : Envelope :=
  ⟨.nil, "", 0, ⟨0, 0⟩, "", .nil, none, none, "", .nil, 0, "", "", "", "", "", none⟩

def envelopeFields (F : Format) : List (Lib.Field Envelope) :=
  [.value "eventId" asUUID fun v e => { e with eventID := v },
    .value "eventType" asString fun v e => { e with eventType := v },
    .value "schemaVersion" asInt64 fun v e => { e with schemaVersion := v },
    .value "occurredAt" F.asStamp fun v e => { e with occurredAt := v },
    .value "producer" asString fun v e => { e with producer := v },
    .value "tenantId" asUUID fun v e => { e with tenantID := v },
    .pointer "projectId" asUUID fun v e => { e with projectID := v },
    .pointer "runId" asUUID fun v e => { e with runID := v },
    .value "aggregateType" asString fun v e => { e with aggregateType := v },
    .value "aggregateId" asUUID fun v e => { e with aggregateID := v },
    .value "aggregateVersion" asInt64 fun v e => { e with aggregateVersion := v },
    .value "requestId" asString fun v e => { e with requestID := v },
    .value "traceparent" asString fun v e => { e with traceparent := v },
    .value "tracestate" asString fun v e => { e with tracestate := v },
    .value "correlationId" asString fun v e => { e with correlationID := v },
    .value "causationId" asString fun v e => { e with causationID := v },
    .raw "payload" fun v e => { e with payload := v }]

/-- The JSON of an envelope whose occurrence is in UTC. -/
def Envelope.document (F : Format) (e : Envelope) : Json :=
  .obj <| member "eventId" (.str e.eventID.text) <| member "eventType" (.str e.eventType) <|
    member "schemaVersion" (.num e.schemaVersion) <|
    member "occurredAt" (.str (F.formatTime e.occurredAt.instant)) <| member "producer" (.str e.producer) <|
    member "tenantId" (.str e.tenantID.text) <| omitNil "projectId" (fun id => .str id.text) e.projectID <|
    omitNil "runId" (fun id => .str id.text) e.runID <| member "aggregateType" (.str e.aggregateType) <|
    member "aggregateId" (.str e.aggregateID.text) <| member "aggregateVersion" (.num e.aggregateVersion) <|
    omitEmpty "requestId" (e.requestID == "") (.str e.requestID) <|
    omitEmpty "traceparent" (e.traceparent == "") (.str e.traceparent) <|
    omitEmpty "tracestate" (e.tracestate == "") (.str e.tracestate) <|
    member "correlationId" (.str e.correlationID) <| member "causationId" (.str e.causationID) <|
    member "payload" (e.payload.getD .null) []

/-! ## Payloads -/

structure AgentRunRequestedPayload where
  projectID : UUID
  runID : UUID
  status : String
  attemptNumber : Int
  runtime : String
  cpuMillis : Int
  memoryMiB : Int
  timeoutSeconds : Int
  maxAttempts : Int
  promptReference : String

def requestedFields : List (Lib.Field AgentRunRequestedPayload) :=
  [.value "projectId" asUUID fun v p => { p with projectID := v },
    .value "runId" asUUID fun v p => { p with runID := v },
    .value "status" asString fun v p => { p with status := v },
    .value "attemptNumber" asInt64 fun v p => { p with attemptNumber := v },
    .value "runtime" asString fun v p => { p with runtime := v },
    .value "cpuMillis" asInt64 fun v p => { p with cpuMillis := v },
    .value "memoryMiB" asInt64 fun v p => { p with memoryMiB := v },
    .value "timeoutSeconds" asInt64 fun v p => { p with timeoutSeconds := v },
    .value "maxAttempts" asInt64 fun v p => { p with maxAttempts := v },
    .value "promptReference" asString fun v p => { p with promptReference := v }]

structure AgentRunScheduledPayload where
  projectID : UUID
  runID : UUID
  status : String
  attemptID : UUID
  attemptNumber : Int
  clusterID : String
  executionProfile : String
  capacityReservationID : UUID
  budgetReservationID : UUID
  cpuMillis : Int
  memoryMiB : Int

def scheduledFields : List (Lib.Field AgentRunScheduledPayload) :=
  [.value "projectId" asUUID fun v p => { p with projectID := v },
    .value "runId" asUUID fun v p => { p with runID := v },
    .value "status" asString fun v p => { p with status := v },
    .value "attemptId" asUUID fun v p => { p with attemptID := v },
    .value "attemptNumber" asInt64 fun v p => { p with attemptNumber := v },
    .value "clusterId" asString fun v p => { p with clusterID := v },
    .value "executionProfile" asString fun v p => { p with executionProfile := v },
    .value "capacityReservationId" asUUID fun v p => { p with capacityReservationID := v },
    .value "budgetReservationId" asUUID fun v p => { p with budgetReservationID := v },
    .value "cpuMillis" asInt64 fun v p => { p with cpuMillis := v },
    .value "memoryMiB" asInt64 fun v p => { p with memoryMiB := v }]

structure AgentRunCapacityWaitPayload where
  projectID : UUID
  runID : UUID
  status : String
  attemptNumber : Int
  reasonCode : String
  reason : String
  nextEligibleAt : Time

def capacityWaitFields (F : Format) : List (Lib.Field AgentRunCapacityWaitPayload) :=
  [.value "projectId" asUUID fun v p => { p with projectID := v },
    .value "runId" asUUID fun v p => { p with runID := v },
    .value "status" asString fun v p => { p with status := v },
    .value "attemptNumber" asInt64 fun v p => { p with attemptNumber := v },
    .value "reasonCode" asString fun v p => { p with reasonCode := v },
    .value "reason" asString fun v p => { p with reason := v },
    .value "nextEligibleAt" F.asTime fun v p => { p with nextEligibleAt := v }]

structure AgentRunFailedPayload where
  projectID : UUID
  runID : UUID
  status : String
  failureCategory : String
  attemptNumber : Int
  reasonCode : String
  reason : String

def failedFields : List (Lib.Field AgentRunFailedPayload) :=
  [.value "projectId" asUUID fun v p => { p with projectID := v },
    .value "runId" asUUID fun v p => { p with runID := v },
    .value "status" asString fun v p => { p with status := v },
    .value "failureCategory" asString fun v p => { p with failureCategory := v },
    .value "attemptNumber" asInt64 fun v p => { p with attemptNumber := v },
    .value "reasonCode" asString fun v p => { p with reasonCode := v },
    .value "reason" asString fun v p => { p with reason := v }]

structure AgentRunCancelRequestedPayload where
  projectID : UUID
  runID : UUID
  status : String
  attemptNumber : Int
  requestedBy : String
  commandID : String

def cancelRequestedFields : List (Lib.Field AgentRunCancelRequestedPayload) :=
  [.value "projectId" asUUID fun v p => { p with projectID := v },
    .value "runId" asUUID fun v p => { p with runID := v },
    .value "status" asString fun v p => { p with status := v },
    .value "attemptNumber" asInt64 fun v p => { p with attemptNumber := v },
    .value "requestedBy" asString fun v p => { p with requestedBy := v },
    .value "commandId" asString fun v p => { p with commandID := v }]

structure AgentRunRetryRequestedPayload where
  projectID : UUID
  runID : UUID
  status : String
  attemptNumber : Int
  previousStatus : String
  previousFailure : String
  requestedBy : String
  commandID : String

def retryRequestedFields : List (Lib.Field AgentRunRetryRequestedPayload) :=
  [.value "projectId" asUUID fun v p => { p with projectID := v },
    .value "runId" asUUID fun v p => { p with runID := v },
    .value "status" asString fun v p => { p with status := v },
    .value "attemptNumber" asInt64 fun v p => { p with attemptNumber := v },
    .value "previousStatus" asString fun v p => { p with previousStatus := v },
    .value "previousFailureCategory" asString fun v p => { p with previousFailure := v },
    .value "requestedBy" asString fun v p => { p with requestedBy := v },
    .value "commandId" asString fun v p => { p with commandID := v }]

/-- A header as a dead letter records it. -/
structure HeaderPayload where
  key : String
  value : String

def headerFields : List (Lib.Field HeaderPayload) :=
  [.value "key" asString fun v h => { h with key := v }, .value "value" asString fun v h => { h with value := v }]

structure DeadLetterPayload where
  originalEnvelope : Option Json
  rawFingerprint : String
  rawSize : Int
  originalTopic : String
  originalPartition : Int
  originalOffset : Int
  originalKey : String
  originalHeaders : List HeaderPayload
  consumerIdentity : String
  failureCode : String
  failureReason : String
  attempts : Int
  firstFailedAt : Time
  lastFailedAt : Time
  replayDisposition : String

def DeadLetterPayload.zero : DeadLetterPayload := ⟨none, "", 0, "", 0, 0, "", [], "", "", "", 0, 0, 0, ""⟩

def deadLetterFields (F : Format) : List (Lib.Field DeadLetterPayload) :=
  [.raw "originalEnvelope" fun v p => { p with originalEnvelope := v },
    .value "rawFingerprint" asString fun v p => { p with rawFingerprint := v },
    .value "rawSize" asInt64 fun v p => { p with rawSize := v },
    .value "originalTopic" asString fun v p => { p with originalTopic := v },
    .value "originalPartition" asInt32 fun v p => { p with originalPartition := v },
    .value "originalOffset" asInt64 fun v p => { p with originalOffset := v },
    .value "originalKey" asString fun v p => { p with originalKey := v },
    .pointer "originalHeaders" (asList (decodeStruct true headerFields ⟨"", ""⟩)) fun v p =>
      { p with originalHeaders := v.getD [] },
    .value "consumerIdentity" asString fun v p => { p with consumerIdentity := v },
    .value "failureCode" asString fun v p => { p with failureCode := v },
    .value "failureReason" asString fun v p => { p with failureReason := v },
    .value "attempts" asInt64 fun v p => { p with attempts := v },
    .value "firstFailedAt" F.asTime fun v p => { p with firstFailedAt := v },
    .value "lastFailedAt" F.asTime fun v p => { p with lastFailedAt := v },
    .value "replayDisposition" asString fun v p => { p with replayDisposition := v }]

def HeaderPayload.document (header : HeaderPayload) : Json :=
  .obj <| member "key" (.str header.key) <| member "value" (.str header.value) []

/-- The JSON of a dead letter's payload with times in UTC. -/
def DeadLetterPayload.document (F : Format) (p : DeadLetterPayload) : Json :=
  .obj <| omitNil "originalEnvelope" id p.originalEnvelope <|
    omitEmpty "rawFingerprint" (p.rawFingerprint == "") (.str p.rawFingerprint) <|
    omitEmpty "rawSize" (p.rawSize == 0) (.num p.rawSize) <| member "originalTopic" (.str p.originalTopic) <|
    member "originalPartition" (.num p.originalPartition) <| member "originalOffset" (.num p.originalOffset) <|
    omitEmpty "originalKey" (p.originalKey == "") (.str p.originalKey) <|
    omitEmpty "originalHeaders" p.originalHeaders.isEmpty (.arr (p.originalHeaders.map HeaderPayload.document)) <|
    member "consumerIdentity" (.str p.consumerIdentity) <| member "failureCode" (.str p.failureCode) <|
    member "failureReason" (.str p.failureReason) <| member "attempts" (.num p.attempts) <|
    member "firstFailedAt" (.str (F.formatTime p.firstFailedAt)) <|
    member "lastFailedAt" (.str (F.formatTime p.lastFailedAt)) <|
    member "replayDisposition" (.str p.replayDisposition) []

end AgentForge.Events
