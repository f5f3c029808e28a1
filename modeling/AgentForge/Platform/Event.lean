import Mathlib.Data.List.Infix
import AgentForge.Platform.Capacity

/-!
# Lifecycle events of runs

The events that a transaction writes to the outbox together with its changes (`events/event.go`), and the
contract each of them meets before it is written (`events/validation.go`). The aggregate of every event is
the run, the topic is one constant and the schema version is 1; these are left out of the record.
-/

set_option autoImplicit false

namespace AgentForge.Platform

open Operator

inductive EventType
  | requested
  | scheduled
  | capacityWait
  | failed
  | cancelRequested
  | retryRequested
  deriving DecidableEq

/-- The typed payloads; the project, the run and its status are fields of the event. -/
inductive EventPayload
  | requested (attemptNumber : Int) (runtime : String) (cpuMillis memoryMiB timeoutSeconds maxAttempts : Int)
      (promptReference : String)
  | scheduled (attemptID : UUID) (attemptNumber : Int) (clusterID executionProfile : String)
      (capacityReservationID budgetReservationID : UUID) (cpuMillis memoryMiB : Int)
  | capacityWait (attemptNumber : Int) (reasonCode reason : String) (nextEligibleAt : Time)
  | failed (failureCategory : Failure) (attemptNumber : Int) (reasonCode reason : String)
  | cancelRequested (attemptNumber : Int) (requestedBy commandID : String)
  | retryRequested (attemptNumber : Int) (previousStatus : AgentRunStatus) (previousFailure : Failure)
      (requestedBy commandID : String)
  deriving DecidableEq

def EventPayload.type : EventPayload → EventType
  | requested .. => .requested
  | scheduled .. => .scheduled
  | capacityWait .. => .capacityWait
  | failed .. => .failed
  | cancelRequested .. => .cancelRequested
  | retryRequested .. => .retryRequested

structure OutboxEvent where
  eventID : UUID
  occurredAt : Time
  producer : String
  tenantID : UUID
  projectID : UUID
  runID : UUID
  status : AgentRunStatus
  aggregateVersion : Int
  correlationID : String
  causationID : String
  payload : EventPayload
  deriving DecidableEq

def OutboxEvent.eventType (event : OutboxEvent) : EventType := event.payload.type

/-! ## Validation -/

/-- A text that is not blank and has at most `limit` bytes. -/
def present (limit : Nat) (text : String) : Bool := !isBlank text && text.utf8ByteSize ≤ limit

def UUID.validV7 (id : UUID) : Bool := id != .nil && id.version == 7

/-- The constraints on the payload of an event. `parses` is what `url.Parse` says of the prompt reference:
that it parses and has a scheme. -/
def OutboxEvent.payloadValid (event : OutboxEvent) (parses : Bool) : Bool :=
  match event.payload with
  | .requested number runtime cpu memory timeout attempts prompt =>
    event.status == .queued && number == 1 && present 120 runtime && 1 ≤ cpu && cpu ≤ 128000 && 1 ≤ memory &&
      memory ≤ 524288 && 1 ≤ timeout && timeout ≤ 86400 && 1 ≤ attempts && attempts ≤ 10 && present 2048 prompt &&
      parses && "://".toList <:+: prompt.toList
  | .scheduled attempt number cluster profile capacity budget cpu memory =>
    event.status == .provisioning && 1 ≤ number && attempt.validV7 && capacity.validV7 && budget.validV7 &&
      matchesClusterID cluster && matchesIdentifier 62 profile && 1 ≤ cpu && cpu ≤ 128000 && 1 ≤ memory &&
      memory ≤ 524288
  | .capacityWait number code reason next =>
    event.status == .capacityWait && 1 ≤ number && present 80 code && present 500 reason && !Time.isZero next &&
      event.occurredAt < next
  | .failed failure number code reason =>
    event.status.isFailure && failure.isValid && 1 ≤ number && present 80 code && present 500 reason
  | .cancelRequested number by' command =>
    event.status == .cancelling && 1 ≤ number && present 255 by' && present 255 command
  | .retryRequested number previous failure by' command =>
    event.status == .queued && 2 ≤ number && previous.isFailure && failure == .known .transientDependency &&
      present 255 by' && present 255 command

def OutboxEvent.validateEnvelope (event : OutboxEvent) (parses : Bool) : Except Error Unit := do
  if !event.eventID.validV7 then throw (.invalid "event ID or type is invalid")
  if Time.isZero event.occurredAt || !present 128 event.producer then
    throw (.invalid "event occurrence and producer are required")
  if !event.tenantID.validV7 || !event.projectID.validV7 || !event.runID.validV7 || event.aggregateVersion < 1 then
    throw (.invalid "event ownership or aggregate metadata is invalid")
  if !present 255 event.correlationID || !present 255 event.causationID then
    throw (.invalid "event correlation metadata is invalid")
  if !event.payloadValid parses then throw (.invalid "payload constraints are invalid")

/-- The event with its correlation trimmed, if it meets its contract. -/
def newEvent (event : OutboxEvent) (parses : Bool) : Except Error OutboxEvent := do
  if event.tenantID = .nil ∨ event.runID = .nil ∨ event.aggregateVersion < 1 then
    throw (.invalid "event identity and version are invalid")
  let event := { event with
    correlationID := trimSpace event.correlationID, causationID := trimSpace event.causationID }
  if event.correlationID = "" ∨ event.causationID = "" then
    throw (.invalid "event producer, aggregate, correlation, and causation are required")
  event.validateEnvelope parses
  return event

/-! ## The events of a run -/

/-- The event of a run at its current version. -/
def runEvent (run : AgentRun) (eventID : UUID) (occurredAt : Time) (producer correlationID causationID : String)
    (payload : EventPayload) : OutboxEvent where
  eventID := eventID
  occurredAt := occurredAt
  producer := producer
  tenantID := run.tenantID
  projectID := run.projectID
  runID := run.id
  status := run.status
  aggregateVersion := run.version
  correlationID := correlationID
  causationID := causationID
  payload := payload

def newAgentRunRequested (run : AgentRun) (attempt : AgentRunAttempt) (eventID : UUID) (parses : Bool) :
    Except Error OutboxEvent :=
  newEvent (runEvent run eventID run.createdAt "platform-api" run.idempotencyKey run.idempotencyKey
    (.requested attempt.attemptNumber run.runtime run.cpuMillis run.memoryMiB run.timeoutSeconds run.maxAttempts
      run.promptReference)) parses

def newAgentRunScheduled (run : AgentRun) (attempt : AgentRunAttempt) (assignment : Assignment) (eventID : UUID)
    (correlationID causationID : String) : Except Error OutboxEvent :=
  newEvent (runEvent run eventID run.updatedAt "scheduler" correlationID causationID
    (.scheduled attempt.id attempt.attemptNumber assignment.selectedCluster assignment.executionProfile
      assignment.capacityReservationID assignment.budgetReservationID run.cpuMillis run.memoryMiB)) true

def newAgentRunCapacityWait (run : AgentRun) (reasonCode reason : String) (nextEligibleAt : Time) (eventID : UUID)
    (correlationID causationID : String) : Except Error OutboxEvent :=
  newEvent (runEvent run eventID run.updatedAt "scheduler" correlationID causationID
    (.capacityWait run.attemptCount reasonCode reason nextEligibleAt)) true

def newAgentRunSchedulingRejected (run : AgentRun) (reasonCode reason : String) (eventID : UUID)
    (correlationID causationID : String) : Except Error OutboxEvent :=
  newEvent (runEvent run eventID run.updatedAt "scheduler" correlationID causationID
    (.failed run.failureCategory run.attemptCount reasonCode reason)) true

def newAgentRunCancelRequested (run : AgentRun) (commandID : String) (eventID : UUID) : Except Error OutboxEvent :=
  newEvent (runEvent run eventID run.updatedAt "platform-api" commandID commandID
    (.cancelRequested run.attemptCount run.cancellationRequestedBy commandID)) true

def newAgentRunRetryRequested (run : AgentRun) (previousStatus : AgentRunStatus) (previousFailure : Failure)
    (actor commandID : String) (eventID : UUID) : Except Error OutboxEvent :=
  newEvent (runEvent run eventID run.updatedAt "platform-api" commandID commandID
    (.retryRequested run.attemptCount previousStatus previousFailure actor commandID)) true

/-- A new event is the given one up to the spaces around its correlation. -/
theorem newEvent_ok {event event' : OutboxEvent} {parses : Bool} (made : newEvent event parses = .ok event') :
    event' = { event with
      correlationID := trimSpace event.correlationID, causationID := trimSpace event.causationID } := by
  unfold newEvent at made
  simp only [bind, Except.bind, pure, Except.pure] at made
  split at made
  · cases made
  · split at made
    · cases made
    · split at made
      · cases made
      · cases made
        rfl

end AgentForge.Platform
