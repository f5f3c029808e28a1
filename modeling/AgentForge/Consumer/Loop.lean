import AgentForge.Consumer.DeadLetters
import AgentForge.Lib.Program

/-!
# The consume loop

One iteration of `consume` (`cmd/agentrun-handoff/main.go`) for the record that `Poll` returned, as a program over the
calls that it makes. Every ending but one has acknowledged the record or is an error that ends the consumer, which is
then started again at the same record: `acknowledges_iff` says which records can be passed.
-/

set_option autoImplicit false

namespace AgentForge.Consumer

open Lib Lib.Json Platform Events
open Operator hiding isBlank

/-! ## The program -/

/-- The calls of an iteration. -/
inductive Op (F : Format)
  /-- The clock. -/
  | now
  /-- Wait until a time, unless it has passed; the answer is `false` when the consumer is shut down meanwhile. -/
  | wait (notBefore : Time)
  /-- Two new identifiers. -/
  | newIDs
  /-- `Process` of the handoff service. -/
  | process (event : ReceivedEvent F) (now : Time)
  | publish (record : ProducerRecord F)
  | acknowledge (event : ReceivedEvent F)

@[reducible] def Op.Res {F : Format} : Op F → Type
  | now => Time
  | wait _ => Bool
  | newIDs => UUID × UUID
  | process .. => Except Failure Unit
  | publish _ => Except Error Unit
  | acknowledge _ => Except Error Unit

/-- How an iteration ends. -/
inductive Ending
  /-- The record was acknowledged, and the loop polls again. -/
  | acknowledged
  | shutdown
  /-- `consume` returned the error. -/
  | failed (err : Error)
  deriving DecidableEq

section Program

variable {F : Format}

abbrev Loop (F : Format) (α : Type) := Prog (Op F) Op.Res α

def call (op : Op F) : Loop F op.Res := Prog.perform op

def acknowledge (event : ReceivedEvent F) : Loop F Ending := do
  match ← call (.acknowledge event) with
  | .ok () => return .acknowledged
  | .error err => return .failed err

/-- Route a failure, and acknowledge the record once it has been published again. -/
def routeAndAcknowledge (router : Router) (event : ReceivedEvent F) (failure : Failure) (attempt : Int)
    (firstFailedAt now : Time) : Loop F Ending := do
  let (failureID, eventID) ← call .newIDs
  match router.route event failure attempt firstFailedAt now failureID eventID with
  | .error err => return .failed err
  | .ok (_, record) =>
    match ← call (.publish record) with
    | .error err => return .failed err
    | .ok () => acknowledge event

/-- `retryNotBefore` of the consumer. -/
def notBefore (event : ReceivedEvent F) : Except Error Time :=
  if event.topic = agentRunLifecycleTopic then .ok 0 else retryNotBefore event

def invalidEnvelope : Failure := newPermanentFailure "INVALID_ENVELOPE" "invalid event envelope"

/-- What follows a failure of the service. -/
def routeFailed (router : Router) (received : ReceivedEvent F) (failure : Failure) (now : Time) : Loop F Ending :=
  match deliveryAttempt received with
  | .error err => return .failed err
  | .ok attempt => routeAndAcknowledge router received failure attempt received.envelope.occurredAt.instant now

/-- A scheduled event from the time at which it is due. -/
def deliver (router : Router) (received : ReceivedEvent F) (due : Time) : Loop F Ending := do
  if !(← call (.wait due)) then return .shutdown
  else
    let now ← call .now
    match ← call (.process received now) with
    | .ok () => acknowledge received
    | .error failure => routeFailed router received failure now

/-- One iteration. -/
def consume (router : Router) (record : Record F) : Loop F Ending := do
  match decodeRecord router.maxMessageBytes record with
  | .error invalid =>
    let now ← call .now
    routeAndAcknowledge router invalid invalidEnvelope (malformedAttempt invalid.topic) now now
  | .ok received =>
    if received.envelope.eventType ≠ agentRunScheduledType then acknowledge received
    else
      match notBefore received with
      | .error err => return .failed err
      | .ok due => deliver router received due

end Program

/-! ## Calls that succeed -/

/-- What the clock, the identifiers and the service answer. -/
structure Answers where
  now : Time
  failureID : UUID
  eventID : UUID
  processed : Except Failure Unit

/-- The identifiers are new ones of version 7, and a failure is a classified one. -/
structure Answers.Proper (answers : Answers) : Prop where
  failureID : answers.failureID.validV7 = true
  eventID : answers.eventID.validV7 = true
  classified : ∀ failure, answers.processed = .error failure → Classified failure

/-- What has been published and acknowledged. -/
structure Effects (F : Format) where
  published : List (ProducerRecord F)
  acknowledged : List (ReceivedEvent F)

/-- The broker takes every record and every acknowledgement. -/
@[reducible] def answering (F : Format) : Server (Op F) Op.Res where
  World := Effects F
  Fault := Answers
  Move := Empty
  respond w op answers :=
    match op with
    | .now => some (answers.now, w)
    | .wait _ => some (true, w)
    | .newIDs => some ((answers.failureID, answers.eventID), w)
    | .process .. => some (answers.processed, w)
    | .publish record => some (.ok (), { w with published := w.published ++ [record] })
    | .acknowledge event => some (.ok (), { w with acknowledged := w.acknowledged ++ [event] })
  move m _ := nomatch m

section Iteration

variable {F : Format}

/-- The iteration's ending and effects. -/
def iterate (router : Router) (record : Record F) (answers : Answers) : Option (Ending × Effects F) :=
  (answering F).run answers (consume router record) ⟨[], []⟩

/-- The iteration ends with the acknowledgement of the record, and of no other. -/
def Acknowledges (router : Router) (record : Record F) (answers : Answers) : Prop :=
  ∃ w, iterate router record answers = some (.acknowledged, w) ∧
    w.acknowledged.map (fun event => (event.topic, event.partition, event.offset)) =
      [(record.topic, record.partition, record.offset)]

instance (router : Router) (record : Record F) (answers : Answers) : Decidable (Acknowledges router record answers) :=
  match ran : iterate router record answers with
  | some (.acknowledged, w) =>
    decidable_of_iff (w.acknowledged.map (fun event => (event.topic, event.partition, event.offset)) =
        [(record.topic, record.partition, record.offset)])
      ⟨fun places => ⟨w, ran, places⟩, fun ⟨_, same, places⟩ => by rw [ran] at same; cases same; exact places⟩
  | some (.shutdown, _) => isFalse fun ⟨_, same, _⟩ => by rw [ran] at same; cases same
  | some (.failed _, _) => isFalse fun ⟨_, same, _⟩ => by rw [ran] at same; cases same
  | none => isFalse fun ⟨_, same, _⟩ => by rw [ran] at same; cases same

variable {router : Router} {record : Record F} {answers : Answers} {source : ReceivedEvent F}

theorem run_acknowledge (event : ReceivedEvent F) (w : Effects F) :
    (answering F).run answers (acknowledge event) w =
      some (.acknowledged, ⟨w.published, w.acknowledged ++ [event]⟩) := rfl

/-- A route is followed by the acknowledgement unless it fails. -/
theorem run_routeAndAcknowledge {failure : Failure} {attempt : Int} {first now : Time} (w : Effects F) :
    (answering F).run answers (routeAndAcknowledge router source failure attempt first now) w =
      match router.route source failure attempt first now answers.failureID answers.eventID with
      | .error err => some (.failed err, w)
      | .ok (_, record) => some (.acknowledged, ⟨w.published ++ [record], w.acknowledged ++ [source]⟩) := by
  change (answering F).run answers (match router.route source failure attempt first now answers.failureID answers.eventID
    with
    | .error err => _
    | .ok (_, record) => _) w = _
  cases router.route source failure attempt first now answers.failureID answers.eventID with
  | error err => rfl
  | ok routed => rfl

/-- The coordinates of the record that an event was received from. -/
theorem received_place (received : decodeRecord router.maxMessageBytes record = .ok source) :
    (source.topic, source.partition, source.offset) = (record.topic, record.partition, record.offset) := by
  rw [(decodeRecord_ok.mp received).1]
  rfl

theorem acknowledges_acknowledge (place : (source.topic, source.partition, source.offset) =
      (record.topic, record.partition, record.offset))
    (ran : iterate router record answers = (answering F).run answers (acknowledge source) ⟨[], []⟩) :
    Acknowledges router record answers := by
  rw [run_acknowledge] at ran
  exact ⟨_, ran, by simpa using place⟩

/-- An iteration that routes the record acknowledges it exactly when the route succeeds. -/
theorem acknowledges_route {failure : Failure} {attempt : Int} {first now : Time}
    (place : (source.topic, source.partition, source.offset) = (record.topic, record.partition, record.offset))
    (ran : iterate router record answers =
      (answering F).run answers (routeAndAcknowledge router source failure attempt first now) ⟨[], []⟩) :
    Acknowledges router record answers ↔
      ∃ routing letter, router.route source failure attempt first now answers.failureID answers.eventID =
        .ok (routing, letter) := by
  rw [run_routeAndAcknowledge] at ran
  constructor
  · rintro ⟨w, ended, -⟩
    rw [ran] at ended
    split at ended
    next => cases ended
    next routing letter routed => exact ⟨routing, letter, routed⟩
  · rintro ⟨routing, letter, routed⟩
    rw [routed] at ran
    exact ⟨_, ran, by simpa using place⟩

/-- An iteration that returns an error does not acknowledge. -/
theorem not_acknowledges {err : Error} {w : Effects F} (ran : iterate router record answers = some (.failed err, w)) :
    ¬ Acknowledges router record answers := by
  rintro ⟨w', ended, -⟩
  rw [ran] at ended
  cases ended

/-! ### What an iteration does -/

theorem iterate_malformed (rejected : decodeRecord router.maxMessageBytes record = .error source) :
    iterate router record answers = (answering F).run answers
      (routeAndAcknowledge router source invalidEnvelope (malformedAttempt source.topic) answers.now answers.now)
      ⟨[], []⟩ := by
  simp only [iterate, consume, rejected]
  rfl

theorem iterate_other (received : decodeRecord router.maxMessageBytes record = .ok source)
    (other : source.envelope.eventType ≠ agentRunScheduledType) :
    iterate router record answers = (answering F).run answers (acknowledge source) ⟨[], []⟩ := by
  simp only [iterate, consume, received, if_pos other]

theorem run_deliver (due : Time) (w : Effects F) :
    (answering F).run answers (deliver router source due) w =
      match answers.processed with
      | .ok () => (answering F).run answers (acknowledge source) w
      | .error failure => (answering F).run answers (routeFailed router source failure answers.now) w := by
  have waited : (answering F).run answers (call (.wait due)) w = some (true, w) := rfl
  have time : (answering F).run answers (call .now) w = some (answers.now, w) := rfl
  have outcome : (answering F).run answers (call (.process source answers.now)) w = some (answers.processed, w) := rfl
  rw [deliver, Server.run_bind waited]
  simp only [Bool.not_true, Bool.false_eq_true, if_false]
  rw [Server.run_bind time, Server.run_bind outcome]
  cases answers.processed with
  | ok done => rfl
  | error failure => rfl

section Scheduled

variable (received : decodeRecord router.maxMessageBytes record = .ok source)
  (scheduled : source.envelope.eventType = agentRunScheduledType)

include received scheduled

theorem iterate_undue {err : Error} (undue : notBefore source = .error err) :
    iterate router record answers = some (.failed err, ⟨[], []⟩) := by
  simp only [iterate, consume, received, scheduled, ne_eq, not_true_eq_false, if_false, undue]
  rfl

theorem iterate_due (answers : Answers) {due : Time} (isDue : notBefore source = .ok due) :
    iterate router record answers =
      match answers.processed with
      | .ok () => (answering F).run answers (acknowledge source) ⟨[], []⟩
      | .error failure => (answering F).run answers (routeFailed router source failure answers.now) ⟨[], []⟩ := by
  refine Eq.trans ?_ (run_deliver due _)
  simp only [iterate, consume, received, scheduled, ne_eq, not_true_eq_false, if_false, isDue]

end Scheduled

/-! ### Topics and attempts -/

theorem isRun_scheduled : agentRunScheduledType ∈ runEventTypes := by decide +kernel

/-- An accepted event of a run is on the lifecycle topic or on a retry topic. -/
theorem topic_cases {limit : Nat} (accepted : Accepted limit source) (isRun : source.envelope.eventType ∈ runEventTypes) :
    source.topic = agentRunLifecycleTopic ∨ ∃ tier, tier < 3 ∧ retryTier source.topic = some tier := by
  have accepts := accepted.topicAccepts
  have tiers : ∀ topic ∈ retryTopics, ∃ tier, tier < 3 ∧ retryTier topic = some tier := by
    simp only [retryTopics, List.forall_mem_cons, List.not_mem_nil, false_implies, implies_true, and_true]
    exact ⟨⟨0, by omega, by decide +kernel⟩, ⟨1, by omega, by decide +kernel⟩, ⟨2, by omega, by decide +kernel⟩⟩
  simp only [topicAccepts, List.contains_iff_mem.mpr isRun, if_true, Bool.or_eq_true, beq_iff_eq,
    List.contains_iff_mem] at accepts
  exact accepts.imp_right fun listed => tiers _ listed

/-- The headers that a retry must have. -/
def SaysTimes (source : ReceivedEvent F) : Prop :=
  ∀ tier, retryTier source.topic = some tier → ∃ due, SaysNotBefore source due

def SaysAttempts (source : ReceivedEvent F) : Prop :=
  ∀ tier, retryTier source.topic = some tier → SaysAttempt source tier

section Headers

variable {limit : Nat} (accepted : Accepted limit source) (isRun : source.envelope.eventType ∈ runEventTypes)

include accepted isRun

theorem notBefore_ok : (∃ due, notBefore source = .ok due) ↔ SaysTimes source := by
  unfold notBefore SaysTimes
  rcases topic_cases accepted isRun with first | ⟨tier, -, isRetry⟩
  · simp [first, lifecycle_not_retry]
  · simp [(retryTier_mem isRetry).2, isRetry, retryNotBefore_ok accepted isRetry]

theorem deliveryAttempt_cases : (SaysAttempts source ∧ deliveryAttempt source = .ok (malformedAttempt source.topic) ∧
      expectedFailureAttempt source = .ok (malformedAttempt source.topic)) ∨
    ¬ SaysAttempts source ∧ ∃ err, deliveryAttempt source = .error err := by
  unfold SaysAttempts malformedAttempt
  rcases topic_cases accepted isRun with first | ⟨tier, -, isRetry⟩
  · left
    simp [first, lifecycle_not_retry, deliveryAttempt, expectedFailureAttempt]
  · by_cases tells : SaysAttempt source tier
    · left
      refine ⟨fun other same => ?_, ?_⟩
      · rw [isRetry] at same
        cases same
        exact tells
      · simp only [isRetry]
        exact ⟨(deliveryAttempt_ok accepted isRetry).mpr ⟨tells, rfl⟩, expectedFailureAttempt_ok accepted isRetry tells⟩
    · refine .inr ⟨fun all => tells (all tier isRetry), ?_⟩
      cases attempt : deliveryAttempt source with
      | ok n => exact absurd ((deliveryAttempt_ok accepted isRetry).mp attempt).1 tells
      | error err => exact ⟨err, rfl⟩

theorem attempt_bounds : 1 ≤ malformedAttempt source.topic ∧ malformedAttempt source.topic ≤ 4 ∧
    (3 < malformedAttempt source.topic ↔ retryTier source.topic = some 2) := by
  unfold malformedAttempt
  rcases topic_cases accepted isRun with first | ⟨tier, few, isRetry⟩
  · simp [first, lifecycle_not_retry]
  · simp only [isRetry, Option.some.injEq]
    omega

end Headers

end Iteration

end AgentForge.Consumer
