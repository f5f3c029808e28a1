import AgentForge.Consumer.Loop

/-!
# Records that pass the consumer

An iteration whose calls succeed acknowledges its record unless the record, or the letter about it, is one that the code
rejects without routing it. Such a record is delivered again for ever, and with it its partition stands still.
-/

set_option autoImplicit false

namespace AgentForge.Consumer

open Lib Lib.Json Platform Events
open Operator hiding isBlank

section

variable {F : Format} {router : Router} {record : Record F} {answers : Answers}

/-- What a scheduled event needs when its processing fails. -/
structure Routable (router : Router) (source : ReceivedEvent F) (answers : Answers) (failure : Failure) : Prop where
  attempt : SaysAttempts source
  ordered : source.envelope.occurredAt.instant ≤ answers.now
  fits : failure.permanent = true ∨ retryTier source.topic = some 2 →
    LetterFits router source (router.report source failure (malformedAttempt source.topic) answers.now) answers.failureID
      answers.eventID

/-- The records that pass, given the clock and the outcome of processing. -/
def Passable (router : Router) (record : Record F) (answers : Answers) : Prop :=
  match decodeRecord router.maxMessageBytes record with
  | .error source =>
    QuarantineFits router source
      (router.deadLetterFailure invalidEnvelope.code invalidEnvelope.reason (malformedAttempt source.topic) answers.now
        answers.now) answers.failureID answers.eventID
  | .ok source =>
    source.envelope.eventType = agentRunScheduledType →
      SaysTimes source ∧ ∀ failure, answers.processed = .error failure → Routable router source answers failure

theorem newPermanentFailure_permanent (code reason : String) : (newPermanentFailure code reason).permanent = true := by
  unfold newPermanentFailure
  rcases newFailure_cases code reason true with ⟨-, -, built⟩ | built
  · rw [built]
  · rw [built]

theorem newPermanentFailure_classified (code reason : String) : Classified (newPermanentFailure code reason) :=
  ⟨code, reason, true, by rw [newPermanentFailure]⟩

/-- The topics that the consumer reads. -/
def consumedTopics : List String := agentRunLifecycleTopic :: retryTopics

theorem consumed_topic {topic : String} (consumed : topic ∈ consumedTopics) :
    isBlank topic = false ∧ 1 ≤ malformedAttempt topic ∧ malformedAttempt topic ≤ 4 := by
  have all : ∀ topic ∈ consumedTopics, isBlank topic = false ∧ 1 ≤ malformedAttempt topic ∧ malformedAttempt topic ≤ 4 := by
    decide +kernel
  exact all topic consumed

/-- A failure of an accepted event is routed exactly when the event is routable. -/
theorem acknowledges_failed {source : ReceivedEvent F} (proper : answers.Proper)
    (received : decodeRecord router.maxMessageBytes record = .ok source)
    (scheduled : source.envelope.eventType = agentRunScheduledType) {due : Time} (isDue : notBefore source = .ok due)
    {failure : Failure} (failed : answers.processed = .error failure) :
    Acknowledges router record answers ↔ Routable router source answers failure := by
  have accepted := (decodeRecord_ok.mp received).2
  have isRun : source.envelope.eventType ∈ runEventTypes := scheduled ▸ isRun_scheduled
  have classified := proper.classified failure failed
  have ran := iterate_due received scheduled answers isDue
  simp only [failed] at ran
  obtain ⟨positive, few, last⟩ := attempt_bounds accepted isRun
  rcases deliveryAttempt_cases accepted isRun with ⟨tells, attempt, expected⟩ | ⟨silent, err, noAttempt⟩
  · rw [routeFailed, attempt] at ran
    rw [acknowledges_route (received_place received) ran]
    obtain ⟨document, parsed, -⟩ := decodeEnvelope_ok.mp accepted.decoded
    by_cases final : failure.permanent = true ∨ retryTier source.topic = some 2
    · simp only [route_final accepted expected ⟨positive, few⟩ classified (final.imp_right last.mpr) proper.failureID
        proper.eventID parsed]
      constructor
      · rintro ⟨_, _, ordered, fits, -, -⟩
        exact ⟨tells, ordered, fun _ => fits⟩
      · rintro ⟨-, ordered, fits⟩
        exact ⟨_, _, ordered, fits final, rfl, rfl⟩
    · obtain ⟨transient, early⟩ := not_or.mp final
      have notLast : malformedAttempt source.topic ≤ 3 := Int.not_lt.mp fun late => early (last.mp late)
      obtain ⟨⟨topic, delay⟩, target⟩ := retryTarget_some notLast
      simp only [route_retry accepted isRun expected positive classified (by simpa using transient) target]
      constructor
      · rintro ⟨_, _, ordered, -, -⟩
        exact ⟨tells, ordered, fun reached => absurd reached final⟩
      · rintro ⟨-, ordered, -⟩
        exact ⟨_, _, ordered, rfl, rfl⟩
  · rw [routeFailed, noAttempt] at ran
    exact iff_of_false (not_acknowledges ran) fun routable => silent routable.attempt

/-- An iteration whose calls succeed acknowledges the record exactly when it is passable. -/
theorem acknowledges_iff_passable (consumed : record.topic ∈ consumedTopics) (proper : answers.Proper) :
    Acknowledges router record answers ↔ Passable router record answers := by
  unfold Passable
  cases received : decodeRecord router.maxMessageBytes record with
  | error source =>
    obtain rfl := decodeRecord_error received
    obtain ⟨filled, few⟩ := consumed_topic consumed
    rw [acknowledges_route rfl (iterate_malformed received)]
    exact route_malformed filled few (newPermanentFailure_classified _ _) (newPermanentFailure_permanent _ _)
      proper.failureID proper.eventID
  | ok source =>
    have accepted := (decodeRecord_ok.mp received).2
    by_cases scheduled : source.envelope.eventType = agentRunScheduledType
    · have isRun : source.envelope.eventType ∈ runEventTypes := scheduled ▸ isRun_scheduled
      simp only [scheduled, forall_const]
      rw [← notBefore_ok accepted isRun]
      cases isDue : notBefore source with
      | error err =>
        refine iff_of_false (not_acknowledges (iterate_undue received scheduled isDue)) ?_
        rintro ⟨⟨due, none⟩, -⟩
        cases none
      | ok due =>
        cases outcome : answers.processed with
        | ok done =>
          have ran := iterate_due received scheduled answers isDue
          simp only [outcome] at ran
          refine iff_of_true (acknowledges_acknowledge (received_place received) ran) ⟨⟨due, rfl⟩, ?_⟩
          intro failure none
          cases none
        | error failure =>
          rw [acknowledges_failed proper received scheduled isDue outcome]
          constructor
          · intro routable
            refine ⟨⟨due, rfl⟩, fun other same => ?_⟩
            cases same
            exact routable
          · rintro ⟨-, routable⟩
            exact routable failure rfl
    · refine iff_of_true ?_ fun isScheduled => absurd isScheduled scheduled
      exact acknowledges_acknowledge (received_place received) (iterate_other received scheduled)

end

/-! ## A sample event -/

namespace Sample

/-- A version 7 identifier that ends in the given byte. -/
def id (last : BitVec 8) : UUID := ⟨#v[0x01, 0x91, 0, 0, 0, 0, 0x70, 0, 0x80, 0, 0, 0, 0, 0, 0, last]⟩

def payload : Json :=
  .obj [("projectId", .str (id 2).text), ("runId", .str (id 3).text), ("status", .str "PROVISIONING"),
    ("attemptId", .str (id 4).text), ("attemptNumber", .num 1), ("clusterId", .str "local"),
    ("executionProfile", .str "standard"), ("capacityReservationId", .str (id 6).text),
    ("budgetReservationId", .str (id 7).text), ("cpuMillis", .num 500), ("memoryMiB", .num 256)]

def envelope : Envelope where
  eventID := id 5
  eventType := agentRunScheduledType
  schemaVersion := 1
  occurredAt := ⟨minute, 0⟩
  producer := "scheduler"
  tenantID := id 1
  projectID := some (id 2)
  runID := some (id 3)
  aggregateType := "AgentRun"
  aggregateID := id 3
  aggregateVersion := 2
  requestID := ""
  traceparent := ""
  tracestate := ""
  correlationID := "c"
  causationID := "d"
  payload := some payload

/-- The event as a record of a topic, with the given headers besides its own. -/
def record (topic : String) (headers : List (Header Plain.format)) : Record Plain.format where
  topic := topic
  partition := 3
  leaderEpoch := 0
  offset := 17
  key := (id 3).text
  headers := headersForEnvelope Plain.format envelope ++ headers
  value := Plain.marshal (envelope.document Plain.format) none
  partition_valid := by decide
  offset_valid := by decide

/-- A router and its producer with a limit on messages. -/
def router (limit : Nat) : Router where
  consumerIdentity := "agentrun-handoff.v1"
  quarantineTenantID := id 9
  maxMessageBytes := limit
  identity_valid := by decide +kernel
  quarantine_valid := by decide

def answers (processed : Except Failure Unit) : Answers := ⟨2 * minute, id 10, id 11, processed⟩

theorem answers_proper : (answers (.ok ())).Proper := ⟨by decide, by decide, fun _ none => by cases none⟩

theorem failed_proper {failure : Failure} (classified : Classified failure) : (answers (.error failure)).Proper := by
  have isFailure : (id 10).validV7 = true := by decide
  have isEvent : (id 11).validV7 = true := by decide
  refine ⟨isFailure, isEvent, fun other same => ?_⟩
  cases same
  exact classified

end Sample

/-- A scheduled event on a retry topic that does not say when it is due is not acknowledged, although nothing fails. -/
theorem undated_retry_blocks :
    (Sample.record "agentforge.agent-run.lifecycle.retry.1m.v1" []).topic ∈ consumedTopics ∧
      (Sample.answers (.ok ())).Proper ∧
      ¬ Acknowledges (Sample.router 1048576) (Sample.record "agentforge.agent-run.lifecycle.retry.1m.v1" [])
        (Sample.answers (.ok ())) :=
  ⟨by decide +kernel, Sample.answers_proper, by decide +kernel⟩

/-- A permanent failure on the lifecycle topic is passed to the dead-letter topic. -/
theorem permanent_failure_passes :
    Passable (Sample.router 1048576) (Sample.record agentRunLifecycleTopic [])
      (Sample.answers (.error (newPermanentFailure "HANDOFF_INTENT" "durable AgentRun handoff intent is invalid"))) :=
  (acknowledges_iff_passable (by decide +kernel) (Sample.failed_proper (newPermanentFailure_classified _ _))).mp
    (by decide +kernel)

end AgentForge.Consumer
