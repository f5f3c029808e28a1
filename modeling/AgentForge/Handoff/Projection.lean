import Mathlib.Algebra.Group.Nat.Defs
import AgentForge.Platform.DesiredState
import AgentForge.Platform.Identity

/-!
# The AgentRun projected from a scheduled event

`desiredAgentRun` and its helpers in `handoff/service.go`: names, labels, annotations and spec of the
object that the handoff creates. `references` and `failureCategories` allocate their result, so that an
empty list becomes an empty slice and not nil.
-/

set_option autoImplicit false

namespace AgentForge.Handoff

open Operator Platform

/-- The fields of a scheduled event's payload that the handoff reads. -/
structure AgentRunScheduledPayload where
  projectID : UUID
  runID : UUID
  attemptID : UUID
  attemptNumber : Int
  clusterID : String
  executionProfile : String
  cpuMillis : Int
  memoryMiB : Int
  deriving DecidableEq

/-- The fields of an event's envelope that the handoff reads. The payload is `none` when it does not
decode. -/
structure Envelope where
  eventID : UUID
  eventType : String
  tenantID : UUID
  correlationID : String
  causationID : String
  traceparent : String
  tracestate : String
  payload : Option AgentRunScheduledPayload
  deriving DecidableEq

/-- `int32(n)`. -/
def int32 (n : Int) : Int := Int.bmod n (2 ^ 32)

/-- The text of an identifier without its dashes. -/
def compactText (id : UUID) : String := String.ofList (withoutDashes id.text)

def namespaceName (tenantID : UUID) : String := "af-" ++ compactText tenantID

def agentRunName (runID : UUID) (attempt : Int) : String := "run-" ++ compactText runID ++ "-a" ++ toString attempt

def managedByKey : String := "app.kubernetes.io/managed-by"

def tenantIDKey : String := "execution.agentforge.dev/tenant-id"

def projectIDKey : String := "execution.agentforge.dev/project-id"

def runIDKey : String := "execution.agentforge.dev/run-id"

def auditAnnotations (envelope : Envelope) (payload : AgentRunScheduledPayload) : StringMap :=
  [("execution.agentforge.dev/scheduled-event-id", envelope.eventID.text),
    ("execution.agentforge.dev/correlation-id", envelope.correlationID),
    ("execution.agentforge.dev/causation-id", envelope.causationID),
    ("execution.agentforge.dev/cluster-id", payload.clusterID)] ++
  (if envelope.traceparent != "" then [("execution.agentforge.dev/traceparent", envelope.traceparent)] else []) ++
  (if envelope.tracestate != "" then [("execution.agentforge.dev/tracestate", envelope.tracestate)] else [])

/-- A slice allocated for the values, also when there are none. -/
def allocated {α β : Type} (convert : α → β) (values : List α) : Slice β := some (values.map convert)

def references (values : List String) : Slice LocalObjectReference := allocated LocalObjectReference.mk values

def failureCategories (values : List FailureCategory) : Slice FailureCategory := allocated id values

def optionalReference (value : String) : Option LocalObjectReference :=
  if value == "" then none else some ⟨value⟩

def desiredAgentRun (ns name : String) (envelope : Envelope) (payload : AgentRunScheduledPayload)
    (desired : AgentRunDesiredState) : AgentRun where
  metadata :=
    { ns, name
      labels :=
        [(managedByKey, "agentforge-handoff"), (tenantIDKey, envelope.tenantID.text),
          (projectIDKey, payload.projectID.text), (runIDKey, payload.runID.text)]
      annotations := auditAnnotations envelope payload }
  spec :=
    { tenantID := envelope.tenantID.text
      projectID := payload.projectID.text
      runID := payload.runID.text
      attemptID := payload.attemptID.text
      attempt := int32 payload.attemptNumber
      runnerImage := desired.runnerImage
      runtime := desired.runtime
      executionProfile := desired.executionProfile
      taskRef := desired.taskReference
      timeoutSeconds := int32 desired.timeoutSeconds
      retryPolicy :=
        { maxAttempts := int32 desired.maxAttempts
          initialBackoffSeconds := int32 desired.initialBackoffSeconds
          maxBackoffSeconds := int32 desired.maxBackoffSeconds
          retryableFailureCategories := failureCategories desired.retryableFailureCategories }
      resources :=
        { requests := ⟨int32 payload.cpuMillis, int32 payload.memoryMiB⟩
          limits := ⟨int32 desired.cpuLimitMillis, int32 desired.memoryLimitMiB⟩ }
      workspace := ⟨int32 desired.workspaceSizeGiB, desired.storageClassName, desired.workspaceRetentionPolicy⟩
      network := ⟨desired.networkProfile, optionalReference desired.allowedDestinationsRef⟩
      artifactDestinationRef := ⟨desired.artifactDestinationRef⟩
      configurationRefs := references desired.configurationRefs
      secretRefs := references desired.secretRefs
      deployOnSuccess := desired.deployOnSuccess
      desiredState := .running }

end AgentForge.Handoff
