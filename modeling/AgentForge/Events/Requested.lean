import AgentForge.Events.Letters

/-!
# The event of a new run

`NewAgentRunRequested` (`events/event.go`). Of a run that `NewAgentRun` accepted, the contract of the event checks everything
again; what `NewAgentRun` does not check is the time and the form of the prompt reference (`newAgentRunRequested_iff`).
-/

set_option autoImplicit false

namespace AgentForge.Events

open Lib Lib.Json Platform
open Operator (Time)
open Lib.Field (value_str value_num)

variable {F : Format}

/-! ## The payload -/

def statusText : AgentRunStatus → String
  | .queued => "QUEUED"
  | .scheduling => "SCHEDULING"
  | .capacityWait => "CAPACITY_WAIT"
  | .provisioning => "PROVISIONING"
  | .running => "RUNNING"
  | .testing => "TESTING"
  | .building => "BUILDING"
  | .scanning => "SCANNING"
  | .readyToDeploy => "READY_TO_DEPLOY"
  | .deploying => "DEPLOYING"
  | .cancelling => "CANCELLING"
  | .succeeded => "SUCCEEDED"
  | .cancelled => "CANCELLED"
  | .provisioningFailed => "PROVISIONING_FAILED"
  | .executionFailed => "EXECUTION_FAILED"
  | .buildFailed => "BUILD_FAILED"
  | .policyRejected => "POLICY_REJECTED"
  | .deploymentFailed => "DEPLOYMENT_FAILED"
  | .timedOut => "TIMED_OUT"

def AgentRunRequestedPayload.document (p : AgentRunRequestedPayload) : Json :=
  .obj <|
    member "projectId" (.str p.projectID.text) <|
    member "runId" (.str p.runID.text) <|
    member "status" (.str p.status) <|
    member "attemptNumber" (.num p.attemptNumber) <|
    member "runtime" (.str p.runtime) <|
    member "cpuMillis" (.num p.cpuMillis) <|
    member "memoryMiB" (.num p.memoryMiB) <|
    member "timeoutSeconds" (.num p.timeoutSeconds) <|
    member "maxAttempts" (.num p.maxAttempts) <|
    member "promptReference" (.str p.promptReference) []

def requestedPayload (run : AgentRun) (attempt : AgentRunAttempt) : AgentRunRequestedPayload where
  projectID := run.projectID
  runID := run.id
  status := statusText run.status
  attemptNumber := attempt.attemptNumber
  runtime := run.runtime
  cpuMillis := run.cpuMillis
  memoryMiB := run.memoryMiB
  timeoutSeconds := run.timeoutSeconds
  maxAttempts := run.maxAttempts
  promptReference := run.promptReference

/-- The arguments that `NewAgentRunRequested` gives to `newEvent`. -/
def requestedEvent (F : Format) (run : AgentRun) (attempt : AgentRunAttempt) (eventID : UUID) : NewEvent F where
  eventType := agentRunRequestedType
  schemaVersion := 1
  occurredAt := run.createdAt
  producer := "platform-api"
  tenantID := run.tenantID
  projectID := some run.projectID
  runID := some run.id
  aggregateType := "AgentRun"
  aggregateID := run.id
  aggregateVersion := run.version
  correlationID := run.idempotencyKey
  causationID := run.idempotencyKey
  payload := some ⟨(requestedPayload run attempt).document, none⟩
  eventID := eventID

def newAgentRunRequested (F : Format) (run : AgentRun) (attempt : AgentRunAttempt) (eventID : UUID) :
    Except Error (OutboxEvent F) := newEvent (requestedEvent F run attempt eventID)

theorem requested_names : requestedFields.map Lib.Field.name =
    ["projectId", "runId", "status", "attemptNumber", "runtime", "cpuMillis", "memoryMiB", "timeoutSeconds", "maxAttempts",
      "promptReference"] := rfl

/-- The payload is decoded as it was marshalled. -/
theorem decode_requested {p : AgentRunRequestedPayload} (attempt : IsInt64 p.attemptNumber) (cpu : IsInt64 p.cpuMillis)
    (memory : IsInt64 p.memoryMiB) (timeout : IsInt64 p.timeoutSeconds) (attempts : IsInt64 p.maxAttempts) :
    decodeStruct true requestedFields ⟨.nil, .nil, "", 0, "", 0, 0, 0, 0, ""⟩ p.document = some p := by
  obtain ⟨projectID, runID, status, attemptNumber, runtime, cpuMillis, memoryMiB, timeoutSeconds, maxAttempts, prompt⟩ := p
  simp only [AgentRunRequestedPayload.document, decodeStruct]
  refine decode_member requested_names 0 (by decide) rfl (value_str (asUUID_text projectID)) ?_
  refine decode_member requested_names 1 (by decide) rfl (value_str (asUUID_text runID)) ?_
  refine decode_member requested_names 2 (by decide) rfl (value_str (asString_str _)) ?_
  refine decode_member requested_names 3 (by decide) rfl (value_num (asInt64_num attempt)) ?_
  refine decode_member requested_names 4 (by decide) rfl (value_str (asString_str _)) ?_
  refine decode_member requested_names 5 (by decide) rfl (value_num (asInt64_num cpu)) ?_
  refine decode_member requested_names 6 (by decide) rfl (value_num (asInt64_num memory)) ?_
  refine decode_member requested_names 7 (by decide) rfl (value_num (asInt64_num timeout)) ?_
  refine decode_member requested_names 8 (by decide) rfl (value_num (asInt64_num attempts)) ?_
  exact decode_member requested_names 9 (by decide) rfl (value_str (asString_str _)) rfl

/-! ## Accepted runs -/

/-- A run as `NewAgentRun` makes it. -/
structure Accepted (input : NewAgentRunInput) (id : UUID) (now : Time) (run : AgentRun) : Prop where
  run_eq : run = input.trimmed.run id now
  prompt : lengthWithin 2048 run.promptReference = true
  runtime : lengthWithin 120 run.runtime = true
  cpu : 1 ≤ run.cpuMillis ∧ run.cpuMillis ≤ 128000
  memory : 1 ≤ run.memoryMiB ∧ run.memoryMiB ≤ 524288
  timeout : 1 ≤ run.timeoutSeconds ∧ run.timeoutSeconds ≤ 86400
  attempts : 1 ≤ run.maxAttempts ∧ run.maxAttempts ≤ 10
  key : lengthWithin 255 run.idempotencyKey = true

theorem accepted_of_new {input : NewAgentRunInput} {id : UUID} {now : Time} {run : AgentRun}
    (made : newAgentRun input id now = .ok run) : Accepted input id now run := by
  simp only [newAgentRun, NewAgentRunInput.validate, bind_eq_ok, guard_eq_ok] at made
  obtain ⟨_, ⟨-, prompt, runtime, resources, timeout, attempts, texts⟩, same⟩ := made
  cases same
  split at texts
  · cases texts
  · next key =>
    simp only [Bool.or_eq_true, Bool.not_eq_true', not_or, Bool.not_eq_false] at prompt runtime key
    refine ⟨rfl, prompt, runtime, ?_, ?_, ?_, ?_, key.1.1⟩ <;> dsimp only [NewAgentRunInput.run] <;> omega

/-- The prompt reference as the contract of the event wants it. -/
def isPromptURL (F : Format) (prompt : String) : Bool :=
  F.parsesWithScheme prompt && "://".toList <:+: prompt.toList

section Contract

variable {input : NewAgentRunInput} {id eventID : UUID} {now : Time} {run : AgentRun} {attempt : AgentRunAttempt}

theorem present_of_lengthWithin {limit : Nat} {text : String} (within : lengthWithin limit (trimSpace text) = true) :
    present limit (trimSpace text) = true := by
  simp only [lengthWithin, Bool.and_eq_true, bne_iff_ne, decide_eq_true_eq] at within
  refine present_iff.mpr ⟨?_, within.2⟩
  cases blank : isBlank (trimSpace text) with
  | false => rfl
  | true =>
    have empty : trimSpace text = "" := by simpa [isBlank] using blank
    exact absurd (by simp [empty]) within.1

/-- The payload of the first attempt meets its contract exactly if the prompt reference is a URL. -/
theorem validateAgentRunRequested_iff {e : Envelope} (accepted : Accepted input id now run) (first : attempt.attemptNumber = 1)
    (project : e.projectID = some run.projectID) (isRun : e.runID = some run.id) (type : e.aggregateType = "AgentRun")
    (aggregate : e.aggregateID = run.id) (payload : e.payload = some (requestedPayload run attempt).document) :
    validateAgentRunRequested F e = .ok () ↔ isPromptURL F run.promptReference = true := by
  have decoded : decodePayload e requestedFields ⟨.nil, .nil, "", 0, "", 0, 0, 0, 0, ""⟩ "decode run-request payload" =
      .ok (requestedPayload run attempt) := by
    obtain ⟨-, -, -, cpu, memory, timeout, attempts, -⟩ := accepted
    rw [decodePayload, payload, Option.bind_some, decode_requested] <;> simp only [requestedPayload, IsInt64] <;> omega
  have metadata : validateRunEventMetadata e = .ok (run.projectID, run.id) := by
    rw [validateRunEventMetadata, project, isRun]
    exact if_pos ⟨type, aggregate.symm⟩
  have queued : run.status = .queued := by
    rw [accepted.run_eq]
    rfl
  have prompt : present 2048 run.promptReference = true := by
    have within := accepted.prompt
    rw [accepted.run_eq] at within ⊢
    exact present_of_lengthWithin within
  have runtime : present 120 run.runtime = true := by
    have within := accepted.runtime
    rw [accepted.run_eq] at within ⊢
    exact present_of_lengthWithin within
  simp only [validateAgentRunRequested, bind_eq_ok, guard_eq_ok]
  constructor
  · rintro ⟨_, same, _, payload, -, valid⟩
    rw [metadata] at same
    rw [decoded] at payload
    cases same
    cases payload
    split at valid
    · cases valid
    · next passed =>
      simp only [Bool.not_eq_true', Bool.not_eq_false, Bool.and_eq_true, requestedPayload] at passed
      exact Bool.and_eq_true_iff.mpr ⟨passed.1.2, passed.2⟩
  · intro url
    refine ⟨_, metadata, _, decoded, ?_, ?_⟩
    · simp [requestedPayload, queued, first, statusText]
    · simp only [isPromptURL, Bool.and_eq_true, decide_eq_true_eq] at url
      rw [if_neg]
      · rfl
      · simp only [Bool.not_eq_true', Bool.not_eq_false, Bool.and_eq_true, decide_eq_true_eq]
        exact ⟨⟨⟨⟨⟨⟨⟨⟨⟨⟨⟨runtime, accepted.cpu.1⟩, accepted.cpu.2⟩, accepted.memory.1⟩, accepted.memory.2⟩, accepted.timeout.1⟩,
          accepted.timeout.2⟩, accepted.attempts.1⟩, accepted.attempts.2⟩, prompt⟩, url.1⟩, url.2⟩

/-- The event of an accepted run is built exactly if the clock shows a time that JSON can hold and the prompt reference is a
URL. -/
theorem newAgentRunRequested_iff (accepted : Accepted input id now run) (first : attempt.attemptNumber = 1)
    (tenant : input.tenantID.validV7 = true) (project : input.projectID.validV7 = true) (isRun : id.validV7 = true)
    (event : eventID.validV7 = true) :
    (∃ event, newAgentRunRequested F run attempt eventID = .ok event) ↔
      now ≠ 0 ∧ isWritable now = true ∧ isPromptURL F run.promptReference = true := by
  have parsed : ((requestedEvent F run attempt eventID).envelope ⟨(requestedPayload run attempt).document, none⟩).payload =
      some (requestedPayload run attempt).document := by
    change F.parse (F.marshal _ _) = _
    rw [F.parse_marshal, if_pos]
    simp [AgentRunRequestedPayload.document, maxNestingDepth]
  have contract := @validateAgentRunRequested_iff F input id now run attempt _ accepted first rfl rfl rfl rfl parsed
  have created : run.createdAt = now := by
    rw [accepted.run_eq]
    rfl
  have payload : ∀ decode, validatePayload F decode
      ((requestedEvent F run attempt eventID).envelope ⟨(requestedPayload run attempt).document, none⟩) =
        validateAgentRunRequested F _ := fun _ => if_pos rfl
  constructor
  · rintro ⟨made, new⟩
    obtain ⟨_, same, valid, writable, -⟩ := newEvent_ok new
    cases same
    have checked := checkEnvelope_ok.mp valid
    have occurred : run.createdAt ≠ 0 := checked.occurred
    rw [created] at occurred
    refine ⟨occurred, created ▸ writable, contract.mp ?_⟩
    rw [← payload]
    exact checked.payload
  · rintro ⟨occurred, writable, url⟩
    have key : present 255 (trimSpace run.idempotencyKey) = true := by
      have within := accepted.key
      rw [accepted.run_eq] at within ⊢
      have trimmed : trimSpace (input.trimmed.run id now).idempotencyKey = trimSpace input.idempotencyKey :=
        trimSpace_idem input.idempotencyKey
      rw [trimmed]
      exact present_of_lengthWithin within
    have owner : run.tenantID.validV7 = true ∧ run.projectID.validV7 = true ∧ run.id.validV7 = true ∧ 1 ≤ run.version := by
      rw [accepted.run_eq]
      exact ⟨tenant, project, isRun, le_refl _⟩
    have occurred : run.createdAt ≠ 0 := created ▸ occurred
    have writable : isWritable run.createdAt = true := created ▸ writable
    have version : (versionDigits agentRunRequestedType).bind eventMajor = some 1 := by decide +kernel
    have producer : present 128 (trimSpace "platform-api") = true := by decide +kernel
    have type : isBlank "AgentRun" = false := by decide +kernel
    refine ⟨_, newEvent_of_valid rfl (checkEnvelope_ok.mpr ?_) writable⟩
    exact
      { eventID := event
        version := version
        occurred := occurred
        utc := rfl
        producer := producer
        tenantID := owner.1
        projectID := owner.2.1
        runID := owner.2.2.1
        aggregateID := owner.2.2.1
        aggregateType := type
        aggregateVersion := owner.2.2.2
        correlationID := key
        causationID := key
        requestID := by simp [NewEvent.envelope]
        traceparent := .inl rfl
        tracestate := by simp [NewEvent.envelope]
        isObject := by
          rw [parsed]
          rfl
        payload := by
          rw [payload]
          exact contract.mpr url }

end Contract

end AgentForge.Events
