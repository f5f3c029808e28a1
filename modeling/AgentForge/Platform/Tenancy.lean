import AgentForge.Platform.Interleavings

/-!
# A tenant with one cluster

The smallest database in which runs can be created and scheduled: a tenant with a project and a policy, and a
cluster with a capacity snapshot. Histories over it show that what the other modules assume can be met, and
where the code departs from what is expected of it.
-/

set_option autoImplicit false

namespace AgentForge.Platform

open Operator Lib

/-- A tenant with a project and a policy, and a cluster that has reported its capacity. -/
def Db.provisioned (tenant : TenantRow) (project : ProjectRow) (policy : PolicyRow) (cluster : ExecutionCluster)
    (capacity : ClusterCapacity) : Db :=
  { Db.empty with
    tenants := Table.empty.put tenant
    projects := Table.empty.put project
    policies := Table.empty.put policy
    clusters := Table.empty.put cluster
    snapshots := Table.empty.put capacity }

theorem Db.provisioned_fresh (tenant : TenantRow) (project : ProjectRow) (policy : PolicyRow) (cluster : ExecutionCluster)
    (capacity : ClusterCapacity) : (Db.provisioned tenant project policy cluster capacity).Fresh :=
  ⟨rfl, rfl, rfl, rfl, rfl, rfl, rfl⟩

/-- Calls that run one after the other from a fresh database. -/
def ranFrom (start : Db) (calls : List Call) : platform.System :=
  ⟨(platform.play calls start).1, [], (platform.play calls start).2⟩

theorem ranFrom_reachable (start : Db) (calls : List Call) : Protocol.Reachable start (ranFrom start calls) :=
  Protocol.reachable_play (P := platform) calls start

/-! ## Acme and its calls -/

namespace Acme

/-- The identifiers of version 7 that differ in the last byte. -/
def id (n : BitVec 8) : UUID := ⟨#v[0, 0, 0, 0, 0, 0, 0x70, 0, 0, 0, 0, 0, 0, 0, 0, n]⟩

def tenantID : UUID := id 1

def projectID : UUID := id 2

/-- A time in seconds. -/
def seconds (n : Int) : Time := n * second

def policy : SchedulingPolicy where
  maxConcurrentRuns := 1
  maxUserConcurrentRuns := 1
  maxQueuedRuns := 1
  maxCPUMillis := 4000
  maxMemoryMiB := 4096
  dailyBudgetMinorUnits := 100
  allowedRuntimes := ["python"]
  allowedProfiles := ["standard"]
  deferralDuration := 30 * second

def cluster : ExecutionCluster where
  id := "east-1"
  region := "east"
  status := .active
  supportedRuntimes := ["python"]
  supportedExecutionProfiles := ["standard"]
  maintenance := false
  tenantRestricted := false
  schedulingWeight := 100
  cpuCostMinorUnits := 5
  memoryGiBCostMinorUnits := 5
  lastHeartbeatAt := seconds 1000
  version := 1
  createdAt := seconds 1
  updatedAt := seconds 1

def capacity : ClusterCapacity := ⟨"east-1", seconds 1000, 8000, 8192, 0⟩

def db : Db := .provisioned ⟨tenantID, .active⟩ ⟨projectID, tenantID, .active⟩ ⟨tenantID, policy⟩ cluster capacity

theorem db_fresh : db.Fresh := Db.provisioned_fresh _ _ _ _ _

/-- The input of a run with an idempotency key. -/
def input (key : String) : NewAgentRunInput where
  tenantID := tenantID
  projectID := projectID
  promptReference := "s3://prompts/1"
  runtime := "python"
  cpuMillis := 1000
  memoryMiB := 1024
  timeoutSeconds := 600
  maxAttempts := 5
  idempotencyKey := key
  requestHash := "hash"
  createdBy := "ada"

/-- A pending attempt of a run. -/
def attempt (attemptID runID : UUID) (now : Time) : AgentRunAttempt where
  id := attemptID
  tenantID := tenantID
  runID := runID
  attemptNumber := 1
  status := .pending
  failureCategory := .none
  version := 1
  assignment := none
  workloadReference := ""
  createdAt := now
  updatedAt := now
  startedAt := none
  completedAt := none

/-- Create a run; its first attempt and its event have the two identifiers that follow. -/
def create (n : BitVec 8) (key : String) : Call :=
  .create ⟨(input key).run (id n) (seconds 900), attempt (id (n + 1)) (id n) (seconds 900), id (n + 2), true⟩

def claim (now : Int) : Call := .claim ⟨"scheduler-1", seconds now, 60 * second, 10, 60 * second, 10⟩

/-- What a claim returns for a run. -/
def claimed (n attemptID : BitVec 8) (attemptNumber version : Int) (expiry : Time) : ClaimedRun where
  id := id n
  tenantID := tenantID
  projectID := projectID
  runtime := "python"
  promptReference := "s3://prompts/1"
  maxAttempts := 5
  executionProfile := "standard"
  preferredRegion := ""
  createdBy := "ada"
  cpuMillis := 1000
  memoryMiB := 1024
  timeoutSeconds := 600
  attemptNumber := attemptNumber
  attemptID := id attemptID
  attemptVersion := 1
  priority := 0
  effectivePriority := 1
  version := version
  createdAt := seconds 900
  schedulerLeaseOwner := "scheduler-1"
  schedulerLeaseExpiry := expiry

def desiredState : AgentRunDesiredState where
  runnerImage := "runner@sha256:0123456789abcdef0123456789abcdef0123456789abcdef0123456789abcdef"
  runtime := "python"
  executionProfile := "standard"
  taskReference := "s3://prompts/1"
  timeoutSeconds := 600
  maxAttempts := 5
  initialBackoffSeconds := 5
  maxBackoffSeconds := 300
  retryableFailureCategories := [.transientDependency, .internal]
  cpuMillis := 1000
  memoryMiB := 1024
  cpuLimitMillis := 1000
  memoryLimitMiB := 1024
  workspaceSizeGiB := 10
  storageClassName := ""
  workspaceRetentionPolicy := .delete
  networkProfile := .isolated
  allowedDestinationsRef := ""
  artifactDestinationRef := "artifacts"
  configurationRefs := []
  secretRefs := []
  deployOnSuccess := false

/-- Schedule a claimed run on the cluster; the new rows have three identifiers from `m` on. -/
def intent (claim : ClaimedRun) (now : Int) (m : BitVec 8) : SchedulingIntentRequest where
  claim := claim
  leaseOwner := "scheduler-1"
  attemptID := claim.attemptID
  attemptVersion := claim.attemptVersion
  clusterID := "east-1"
  clusterFreshness := 3600 * second
  strategy := "least-loaded"
  selectionScore := 10
  budgetMinorUnits := 10
  reservationTTL := 600 * second
  correlationID := "correlation"
  causationID := "causation"
  now := seconds now
  desiredState := desiredState
  capacityID := id m
  budgetID := id (m + 1)
  eventID := id (m + 2)

/-- Reserve capacity for an attempt; the new rows have the two identifiers from `m` on. -/
def reservation (n attemptID : BitVec 8) (now : Int) (ttl : Duration) (m : BitVec 8) : ReservationRequest where
  tenantID := tenantID
  runID := id n
  attemptID := id attemptID
  attemptNumber := 1
  clusterID := "east-1"
  cpuMillis := 1000
  memoryMiB := 1024
  budgetMinorUnits := 10
  now := seconds now
  ttl := ttl
  capacityID := id m
  budgetID := id (m + 1)

/-- Move the newest reservation of the first attempt of a run. -/
def close (n : BitVec 8) (target : ReservationState) (now : Int) (pick : Nat) : ReservationTransition :=
  ⟨tenantID, id n, 1, seconds now, target, pick⟩

/-- Move a run to a failed status that can be retried. -/
def fail (n : BitVec 8) (target : AgentRunStatus) (now : Int) : Call :=
  .transitionRun ⟨tenantID, id n, target, .known .transientDependency, seconds now⟩

/-- Retry a run; the new attempt and the event have the two identifiers from `m` on. -/
def retry (n : BitVec 8) (commandID : String) (now : Int) (m : BitVec 8) : RetryRunRequest :=
  ⟨tenantID, id n, commandID, "ada", seconds now, id m, id (m + 1)⟩

end Acme

end AgentForge.Platform
