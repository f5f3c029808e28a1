import AgentForge.Handoff.Projection
import AgentForge.Lib.Program
import AgentForge.Operator.SpecCodec
import Mathlib.Data.List.Infix

/-!
# The handoff service

`Process` of `handoff/service.go` as a program over the calls it makes: the processed-event marker and
the durable intent in PostgreSQL, and the namespace and the AgentRun in the selected cluster. The
cluster keeps the JSON of a spec; reading it decodes that JSON.

Metrics and logs are left out. Of the received event only the envelope and the verdict of
`validateReceivedEvent` are kept.
-/

set_option autoImplicit false

namespace AgentForge.Handoff

open Lib Operator Platform

def consumerIdentity : String := "agentrun-handoff.v1"

def agentRunScheduledType : String := "agent-run.scheduled.v1"

/-- A received event, with the verdict of `validateReceivedEvent` on its source metadata and bytes. -/
structure ReceivedEvent where
  envelope : Envelope
  accepted : Bool
  deriving DecidableEq

/-- A classified failure of the consumer. -/
structure Failure where
  code : String
  reason : String
  permanent : Bool
  deriving DecidableEq

def newPermanentFailure (code reason : String) : Failure := ⟨code, reason, true⟩

def newTransientFailure (code reason : String) : Failure := ⟨code, reason, false⟩

/-! ## Errors of the calls -/

inductive IntentError
  | missing
  | invalid
  | unavailable
  deriving DecidableEq

inductive DependencyError
  | unauthorizedCluster
  | unavailable
  deriving DecidableEq

/-- The reasons of API errors that the service tells apart. -/
inductive StatusReason
  | notFound
  | alreadyExists
  | invalid
  | forbidden
  | unauthorized
  | unknown
  deriving DecidableEq

/-- An error of a cluster call, or one that `ensureNamespace` or `ensureAgentRun` makes itself, which has
no status reason. -/
structure KubernetesError where
  reason : StatusReason
  message : String
  deriving DecidableEq

def classifyDependency (code reason : String) : DependencyError → Failure
  | .unauthorizedCluster => newPermanentFailure code reason
  | .unavailable => newTransientFailure code reason

def classifyKubernetes (code reason : String) (err : KubernetesError) : Failure :=
  if err.reason = .invalid || err.reason = .forbidden || err.reason = .unauthorized || err.reason = .alreadyExists ||
      decide ("conflicts".toList <:+: err.message.toList) then
    newPermanentFailure (code ++ "_CONFLICT") reason
  else newTransientFailure (code ++ "_UNAVAILABLE") reason

/-! ## The world -/

/-- A row of `agentrun_handoff_intents`. The desired state is `none` when it does not decode. -/
structure IntentRow where
  eventID : UUID
  tenantID : UUID
  runID : UUID
  attemptID : UUID
  attemptNumber : Int
  clusterID : String
  desiredState : Option AgentRunDesiredState
  deriving DecidableEq

/-- A row of `clusters` with its allowlist. -/
structure ClusterRow where
  id : String
  tenantRestricted : Bool
  allowlist : List UUID
  deriving DecidableEq

/-- The key columns of a row of `processed_events`. -/
structure ProcessedRow where
  consumerIdentity : String
  eventID : UUID
  tenantID : UUID
  deriving DecidableEq

/-- The name of an AgentRun among all clusters. -/
structure RunKey where
  clusterID : String
  ns : String
  name : String
  deriving DecidableEq

/-- An AgentRun as the API server keeps it. -/
structure StoredRun where
  metadata : ObjectMeta
  spec : Json

structure World where
  intents : List IntentRow
  clusters : List ClusterRow
  /-- The clusters that the client selector has a context for. -/
  contexts : List String
  processed : List ProcessedRow
  /-- The labels of a cluster's namespace. -/
  namespaces : String → String → Option StringMap
  agentRuns : RunKey → Option StoredRun

/-! ## Calls -/

inductive Op
  | seen (identity : String) (eventID tenantID : UUID)
  | loadIntent (event : ReceivedEvent) (payload : AgentRunScheduledPayload)
  | authorize (clusterID : String) (tenantID : UUID)
  | select (clusterID : String)
  | getNamespace (clusterID name : String)
  | createNamespace (clusterID name : String) (labels : StringMap)
  | getAgentRun (key : RunKey)
  | createAgentRun (clusterID : String) (run : AgentRun)
  | mark (identity : String) (event : ReceivedEvent)

@[reducible] def Op.Res : Op → Type
  | seen .. => Except Unit Bool
  | loadIntent .. => Except IntentError AgentRunDesiredState
  | authorize .. => Except DependencyError Unit
  | select .. => Except DependencyError Unit
  | getNamespace .. => Except KubernetesError StringMap
  | createNamespace .. => Except KubernetesError Unit
  | getAgentRun .. => Except KubernetesError (ObjectMeta × AgentRunSpec)
  | createAgentRun .. => Except KubernetesError Unit
  | mark .. => Except Unit Bool

/-- Whether a desired state may be projected for the payload. -/
def intentValid (payload : AgentRunScheduledPayload) (desired : AgentRunDesiredState) : Bool :=
  (desired.validate payload.attemptNumber).isOk && desired.executionProfile == payload.executionProfile &&
    desired.cpuMillis == payload.cpuMillis && desired.memoryMiB == payload.memoryMiB

section Effects

variable (w : World)

def seen (identity : String) (eventID tenantID : UUID) : Bool :=
  w.processed.contains ⟨identity, eventID, tenantID⟩

def loadIntent (event : ReceivedEvent) (payload : AgentRunScheduledPayload) : Except IntentError AgentRunDesiredState :=
  match w.intents.find? fun row =>
      row.eventID == event.envelope.eventID && row.tenantID == event.envelope.tenantID && row.runID == payload.runID &&
        row.attemptID == payload.attemptID && row.attemptNumber == payload.attemptNumber &&
        row.clusterID == payload.clusterID with
  | none => .error .missing
  | some row =>
    match row.desiredState with
    | none => .error .invalid
    | some desired => if intentValid payload desired then .ok desired else .error .invalid

def authorize (clusterID : String) (tenantID : UUID) : Except DependencyError Unit :=
  match w.clusters.find? (·.id == clusterID) with
  | none => .error .unauthorizedCluster
  | some cluster =>
    if !cluster.tenantRestricted || cluster.allowlist.contains tenantID then .ok () else .error .unauthorizedCluster

def select (clusterID : String) : Except DependencyError Unit :=
  if w.contexts.contains clusterID then .ok () else .error .unauthorizedCluster

def getNamespace (clusterID name : String) : Except KubernetesError StringMap :=
  match w.namespaces clusterID name with
  | some labels => .ok labels
  | none => .error ⟨.notFound, "namespaces not found"⟩

def createNamespace (clusterID name : String) (labels : StringMap) : Except KubernetesError Unit × World :=
  match w.namespaces clusterID name with
  | some _ => (.error ⟨.alreadyExists, "namespaces already exists"⟩, w)
  | none =>
    (.ok (), { w with namespaces := Function.update w.namespaces clusterID (Function.update (w.namespaces clusterID) name labels) })

/-- Reading decodes the stored spec. -/
def getAgentRun (key : RunKey) : Except KubernetesError (ObjectMeta × AgentRunSpec) :=
  match w.agentRuns key with
  | none => .error ⟨.notFound, "agentruns not found"⟩
  | some stored =>
    match AgentRunSpec.ofJson stored.spec with
    | some spec => .ok (stored.metadata, spec)
    | none => .error ⟨.unknown, "agentrun does not decode"⟩

def createAgentRun (clusterID : String) (run : AgentRun) : Except KubernetesError Unit × World :=
  let key : RunKey := ⟨clusterID, run.metadata.ns, run.metadata.name⟩
  match w.namespaces clusterID run.metadata.ns, w.agentRuns key with
  | none, _ => (.error ⟨.notFound, "namespaces not found"⟩, w)
  | some _, some _ => (.error ⟨.alreadyExists, "agentruns already exists"⟩, w)
  | some _, none =>
    (.ok (), { w with agentRuns := Function.update w.agentRuns key (some ⟨run.metadata, run.spec.toJson⟩) })

/-- Insert the marker unless the consumer has one for the event; the answer says whether it had. -/
def mark (identity : String) (event : ReceivedEvent) : Except Unit Bool × World :=
  if !event.accepted then (.error (), w)
  else if w.processed.any fun row => row.consumerIdentity == identity && row.eventID == event.envelope.eventID then
    (.ok true, w)
  else
    (.ok false, { w with processed := ⟨identity, event.envelope.eventID, event.envelope.tenantID⟩ :: w.processed })

end Effects

/-- How the environment treats a call: it succeeds, it is refused without effect, or it takes effect
and its answer is lost. -/
inductive Fault
  | none
  | refused
  | lost
  deriving DecidableEq

/-- An answer under a fault, which the caller sees as `e`. -/
def faulty {ε α : Type} (w : World) (e : ε) (answer : Except ε α × World) : Fault → Except ε α × World
  | .none => answer
  | .refused => (.error e, w)
  | .lost => (.error e, answer.2)

def unavailable : KubernetesError := ⟨.unknown, "the server is currently unable to handle the request"⟩

def respond (w : World) : (op : Op) → Fault → op.Res × World
  | .seen identity eventID tenantID => faulty w () (.ok (seen w identity eventID tenantID), w)
  | .loadIntent event payload => faulty w .unavailable (loadIntent w event payload, w)
  | .authorize clusterID tenantID => faulty w .unavailable (authorize w clusterID tenantID, w)
  | .select clusterID => faulty w .unavailable (select w clusterID, w)
  | .getNamespace clusterID name => faulty w unavailable (getNamespace w clusterID name, w)
  | .createNamespace clusterID name labels => faulty w unavailable (createNamespace w clusterID name labels)
  | .getAgentRun key => faulty w unavailable (getAgentRun w key, w)
  | .createAgentRun clusterID run => faulty w unavailable (createAgentRun w clusterID run)
  | .mark identity event => faulty w () (mark w identity event)

/-- A step of another client: it writes an AgentRun, or the service marks another event. -/
inductive Move
  | writeAgentRun (key : RunKey) (stored : Option StoredRun)
  | writeProcessed (row : ProcessedRow)

def applyMove (w : World) : Move → World
  | .writeAgentRun key stored => { w with agentRuns := Function.update w.agentRuns key stored }
  | .writeProcessed row => { w with processed := row :: w.processed }

/-- PostgreSQL and the clusters, as the service calls them. -/
def server : Server Op Op.Res where
  World := World
  Fault := Fault
  Move := Move
  respond w op fault := some (respond w op fault)
  move m w := some (applyMove w m)

/-! ## The service -/

/-- Programs over the calls of the service. -/
abbrev Ctl (α : Type) := Prog Op Op.Res α

/-- One call. -/
def call (op : Op) : Ctl op.Res := Prog.perform op

def namespaceLabels (tenantID : UUID) : StringMap :=
  [(managedByKey, "agentforge-handoff"), (tenantIDKey, tenantID.text)]

/-- The ownership check of an existing namespace. -/
def namespaceOwned (tenantID : UUID) (labels : StringMap) : Except KubernetesError Unit :=
  if labels.at managedByKey ≠ "agentforge-handoff" ∨ labels.at tenantIDKey ≠ tenantID.text then
    .error ⟨.unknown, "namespace tenant ownership conflicts"⟩
  else .ok ()

def ensureNamespace (clusterID name : String) (tenantID : UUID) : Ctl (Except KubernetesError Unit) := do
  match ← call (.getNamespace clusterID name) with
  | .ok labels => return namespaceOwned tenantID labels
  | .error err =>
    if err.reason ≠ .notFound then return .error err
    else match ← call (.createNamespace clusterID name (namespaceLabels tenantID)) with
    | .ok () => return .ok ()
    | .error createErr =>
      if createErr.reason ≠ .alreadyExists then return .error createErr
      else match ← call (.getNamespace clusterID name) with
      | .error err => return .error err
      | .ok labels => return namespaceOwned tenantID labels

/-- The four managed labels agree, and the existing object has every desired annotation. -/
def managedMetadataMatches (existing desired : ObjectMeta) : Bool :=
  ([managedByKey, tenantIDKey, projectIDKey, runIDKey].all fun key => existing.labels.at key == desired.labels.at key) &&
    desired.annotations.all fun (key, value) => existing.annotations.at key == value

/-- The comparison with an existing AgentRun. -/
def agentRunMatches (desired : AgentRun) (existing : ObjectMeta × AgentRunSpec) : Except KubernetesError Unit :=
  if existing.2 ≠ desired.spec ∨ !managedMetadataMatches existing.1 desired.metadata then
    .error ⟨.unknown, "existing AgentRun desired state conflicts"⟩
  else .ok ()

def ensureAgentRun (clusterID : String) (desired : AgentRun) : Ctl (Except KubernetesError Unit) := do
  match ← call (.getAgentRun ⟨clusterID, desired.metadata.ns, desired.metadata.name⟩) with
  | .ok existing => return agentRunMatches desired existing
  | .error err =>
    if err.reason ≠ .notFound then return .error err
    else match ← call (.createAgentRun clusterID desired) with
    | .ok () => return .ok ()
    | .error createErr =>
      if createErr.reason ≠ .alreadyExists then return .error createErr
      else match ← call (.getAgentRun ⟨clusterID, desired.metadata.ns, desired.metadata.name⟩) with
      | .error err => return .error err
      | .ok existing => return agentRunMatches desired existing

/-- The AgentRun that the event asks for. -/
def projectedRun (envelope : Envelope) (payload : AgentRunScheduledPayload) (desired : AgentRunDesiredState) : AgentRun :=
  desiredAgentRun (namespaceName envelope.tenantID) (agentRunName payload.runID payload.attemptNumber) envelope payload
    desired

/-- `Process` from the cluster calls on: the objects, then the marker. -/
def handOver (received : ReceivedEvent) (payload : AgentRunScheduledPayload) (desired : AgentRunDesiredState) :
    Ctl (Except Failure Unit) := do
  let envelope := received.envelope
  match ← ensureNamespace payload.clusterID (namespaceName envelope.tenantID) envelope.tenantID with
  | .error err => return .error (classifyKubernetes "NAMESPACE" "tenant namespace handoff failed" err)
  | .ok () =>
    match ← ensureAgentRun payload.clusterID (projectedRun envelope payload desired) with
    | .error err => return .error (classifyKubernetes "AGENTRUN" "AgentRun handoff failed" err)
    | .ok () =>
      match ← call (.mark consumerIdentity received) with
      | .error () => return .error (newTransientFailure "PROCESSED_MARKER" "processed-event marker is unavailable")
      | .ok _ => return .ok ()

/-- `Process` from the marker's answer on: the intent and the cluster, then the objects. -/
def project (received : ReceivedEvent) (payload : AgentRunScheduledPayload) : Ctl (Except Failure Unit) := do
  match ← call (.loadIntent received payload) with
  | .error .unavailable =>
    return .error (newTransientFailure "HANDOFF_INTENT" "durable AgentRun handoff intent is unavailable")
  | .error _ => return .error (newPermanentFailure "HANDOFF_INTENT" "durable AgentRun handoff intent is invalid")
  | .ok desired =>
    if !intentValid payload desired then
      return .error (newPermanentFailure "HANDOFF_INTENT" "durable AgentRun handoff intent is invalid")
    else match ← call (.authorize payload.clusterID received.envelope.tenantID) with
    | .error err =>
      return .error (classifyDependency "CLUSTER_AUTHORIZATION" "selected cluster is not authorized for tenant" err)
    | .ok () =>
      match ← call (.select payload.clusterID) with
      | .error err => return .error (classifyDependency "CLUSTER_CLIENT" "selected cluster client is unavailable" err)
      | .ok () => handOver received payload desired

def process (received : ReceivedEvent) : Ctl (Except Failure Unit) := do
  let envelope := received.envelope
  if envelope.eventType ≠ agentRunScheduledType then
    return .error (newPermanentFailure "UNSUPPORTED_EVENT" "handoff accepts only scheduled AgentRun events")
  else match envelope.payload with
  | none => return .error (newPermanentFailure "INVALID_INTENT_EVENT" "scheduled event payload is invalid")
  | some payload =>
    match ← call (.seen consumerIdentity envelope.eventID envelope.tenantID) with
    | .error () => return .error (newTransientFailure "PROCESSED_MARKER" "processed-event marker is unavailable")
    | .ok true => return .ok ()
    | .ok false => project received payload

/-- One delivery of the event. -/
def deliver (received : ReceivedEvent) : Ctl Unit := process received >>= fun _ => pure ()

/-! ## A sample event -/

/-- A version 7 identifier that ends in the given byte. -/
def sampleID (last : BitVec 8) : UUID :=
  ⟨#v[0x01, 0x90, 0, 0, 0, 0, 0x70, 0, 0x80, 0, 0, 0, 0, 0, 0, last]⟩

def samplePayload : AgentRunScheduledPayload :=
  { projectID := sampleID 2, runID := sampleID 3, attemptID := sampleID 4, attemptNumber := 1, clusterID := "local"
    executionProfile := "standard", cpuMillis := 500, memoryMiB := 256 }

def sampleEvent : ReceivedEvent :=
  { envelope :=
      { eventID := sampleID 5, eventType := agentRunScheduledType, tenantID := sampleID 1, correlationID := "c"
        causationID := "d", traceparent := "", tracestate := "", payload := some samplePayload }
    accepted := true }

/-- A desired state with the given retry categories and the given configuration and secret references. -/
def sampleDesired (categories : List FailureCategory) (references : List String) : AgentRunDesiredState :=
  { runnerImage := "runner@sha256:0000000000000000000000000000000000000000000000000000000000000000"
    runtime := "python", executionProfile := "standard", taskReference := "task://one", timeoutSeconds := 60
    maxAttempts := 3, initialBackoffSeconds := 1, maxBackoffSeconds := 2, retryableFailureCategories := categories
    cpuMillis := 500, memoryMiB := 256, cpuLimitMillis := 500, memoryLimitMiB := 256, workspaceSizeGiB := 1
    storageClassName := "", workspaceRetentionPolicy := .delete, networkProfile := .isolated
    allowedDestinationsRef := "", artifactDestinationRef := "artifacts", configurationRefs := references
    secretRefs := references, deployOnSuccess := false }

end AgentForge.Handoff
