import AgentForge.Events.DeadLetter
import AgentForge.Platform.Capacity

/-!
# Routing of failed deliveries

`application/consumer/router.go`: a record whose processing failed is published again, to the next retry topic or as
a dead letter, before its offset is acknowledged. The attempt that a record stands for is derived from its topic and
its headers, once by the consumer (`deliveryAttempt` of `cmd/agentrun-handoff`) and once by the router.
-/

set_option autoImplicit false

namespace AgentForge.Consumer

open Lib Operator Platform Events

/-- A classified failure. -/
structure Failure where
  code : String
  reason : String
  permanent : Bool
  deriving DecidableEq

def newFailure (code reason : String) (permanent : Bool) : Failure :=
  if present 80 (trimSpace code) && present 500 (trimSpace reason) then ⟨trimSpace code, trimSpace reason, permanent⟩
  else ⟨"INVALID_FAILURE", "event processing failed", true⟩

def newTransientFailure (code reason : String) : Failure := newFailure code reason false

def newPermanentFailure (code reason : String) : Failure := newFailure code reason true

/-- `classify` of a failure: whether it is permanent, its code and its reason. -/
def classify (failure : Failure) : Bool × String × String :=
  (failure.permanent,
    if !isBlank failure.code then failure.code
    else if failure.permanent then "PERMANENT_PROCESSING" else "TRANSIENT_PROCESSING",
    if !isBlank failure.reason then failure.reason else "event processing failed")

/-- The delay of each retry topic. -/
def retryDelays : List Duration := [minute, 5 * minute, 30 * minute]

/-- A router, with the limit of the producer that it publishes to. -/
structure Router where
  consumerIdentity : String
  quarantineTenantID : UUID
  maxMessageBytes : Nat
  /-- What `NewRouter` checks; the identity has been trimmed. -/
  identity_valid : present 160 consumerIdentity = true ∧ trimSpace consumerIdentity = consumerIdentity
  quarantine_valid : quarantineTenantID.version = 7

section

variable {F : Format}

/-- Where a retry topic stands in the ladder, counted from 0. -/
def retryTier (topic : String) : Option Nat := retryTopics.findIdx? fun retry => retry == topic

/-- The values of the headers with a name. -/
def headerValues (headers : List (Header F)) (key : String) : List F.Text :=
  (headers.filter fun h => h.key = F.utf8 key).map Header.value

/-- The loop over the values of a header: the last one, unless one that is not empty comes before another. -/
def soleValue : List F.Text → F.Text → Option F.Text
  | [], value => some value
  | next :: rest, value => if value ≠ F.utf8 "" then none else soleValue rest next

/-- `RetryNotBefore`. -/
def retryNotBefore (event : ReceivedEvent F) : Except Error Time :=
  match retryTier event.topic with
  | none => .error (.invalid "retry-not-before is only valid on retry topics")
  | some _ =>
    match soleValue (headerValues event.headers "retry-not-before") (F.utf8 "") with
    | none => .error (.invalid "retry-not-before header is duplicated")
    | some value =>
      if value = F.utf8 "" then .error (.invalid "retry-not-before header is required")
      else
        match F.parseTime (F.string value) with
        | some notBefore => .ok notBefore
        | none => .error (.invalid "retry-not-before header is invalid")

def expectedFailureAttempt (event : ReceivedEvent F) : Except Error Int :=
  if event.topic = agentRunLifecycleTopic then .ok 1
  else
    match retryTier event.topic with
    | none => .error (.invalid "source topic is not routable")
    | some tier =>
      let values := headerValues event.headers "delivery-attempt"
      if values.any fun value => atoi (F.string value) ≠ some (tier + 1 : Int) then
        .error (.invalid "delivery-attempt header is invalid")
      else if values.length ≠ 1 then .error (.invalid "delivery-attempt header is required exactly once")
      else .ok (tier + 2)

/-- `deliveryAttempt`: the first header decides. -/
def deliveryAttempt (event : ReceivedEvent F) : Except Error Int :=
  if event.topic = agentRunLifecycleTopic then .ok 1
  else
    match retryTier event.topic with
    | none => .error (.invalid "delivery attempt metadata is missing")
    | some tier =>
      match headerValues event.headers "delivery-attempt" with
      | [] => .error (.invalid "delivery attempt metadata is missing")
      | value :: _ =>
        if atoi (F.string value) = some (tier + 1 : Int) then .ok (tier + 2)
        else .error (.invalid "delivery-attempt header is invalid")

/-- `malformedAttempt`. -/
def malformedAttempt (topic : String) : Int :=
  match retryTier topic with
  | some tier => tier + 2
  | none => 1

/-- The retry of a record: the same bytes, with headers that say where it came from. -/
def retryEvent (source : ReceivedEvent F) (attempt : Int) (topic : String) (delay : Duration) (now : Time) :
    OutboxEvent F where
  envelope := source.envelope
  topic := topic
  partitionKey := source.envelope.aggregateID.text
  headers :=
    [header F "delivery-attempt" (toString attempt), header F "retry-not-before" (F.formatTime (now + delay)),
      header F "original-topic" source.topic, header F "original-partition" (toString source.partition),
      header F "original-offset" (toString source.offset)]
  serialized := source.value
  createdAt := source.envelope.occurredAt.instant

/-- The topic and the delay of an attempt's retry. -/
def retryTarget (attempt : Int) : Option (String × Duration) := (retryTopics.zip retryDelays)[(attempt - 1).toNat]?

def Router.deadLetterFailure (router : Router) (code reason : String) (attempt : Int) (firstFailedAt now : Time) :
    DeadLetterFailure :=
  ⟨router.consumerIdentity, code, reason, attempt, firstFailedAt, now⟩

/-- The dead letter of a record; a source without a valid envelope is quarantined by its fingerprint. -/
def Router.deadLetter (router : Router) (source : ReceivedEvent F) (failure : DeadLetterFailure)
    (failureID eventID : UUID) : Except Error (OutboxEvent F) := do
  let event ← match validateEnvelope F source.envelope with
    | .ok () => newDeadLetter source failure failureID eventID
    | .error _ => newMalformedDeadLetter source router.quarantineTenantID failure failureID eventID
  return { event with headers := [header F "delivery-attempt" (toString failure.attempts)] }

/-- The event that `Route` publishes, and whether it is a retry. -/
def Router.routed (router : Router) (source : ReceivedEvent F) (failure : Failure) (attempt : Int)
    (firstFailedAt now : Time) (failureID eventID : UUID) : Except Error (Bool × OutboxEvent F) := do
  if attempt < 1 ∨ Time.isZero firstFailedAt ∨ now < firstFailedAt then
    throw (.invalid "processing failure metadata is invalid")
  if source.envelope.eventID ≠ .nil ∧ (expectedFailureAttempt source).toOption ≠ some attempt then
    throw (.invalid "processing attempt does not match source delivery metadata")
  let (permanent, code, reason) := classify failure
  match retryTarget attempt, !permanent && (validateEnvelope F source.envelope).isOk with
  | some (topic, delay), true => return (true, retryEvent source attempt topic delay now)
  | _, _ =>
    let event ← router.deadLetter source (router.deadLetterFailure code reason attempt firstFailedAt now) failureID eventID
    return (false, event)

inductive Routing
  | retry
  | deadLetter
  deriving DecidableEq

/-- `Route` up to the answer of the broker: the record that it produces. -/
def Router.route (router : Router) (source : ReceivedEvent F) (failure : Failure) (attempt : Int)
    (firstFailedAt now : Time) (failureID eventID : UUID) : Except Error (Routing × ProducerRecord F) := do
  let (isRetry, event) ← router.routed source failure attempt firstFailedAt now failureID eventID
  match publishRecord router.maxMessageBytes event with
  | .ok record => return (if isRetry then .retry else .deadLetter, record)
  | .error err => throw (.invalid ((if isRetry then "publish retry event: " else "publish dead-letter event: ") ++ err.reason))

end

end AgentForge.Consumer
