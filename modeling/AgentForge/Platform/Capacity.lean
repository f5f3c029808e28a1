import AgentForge.Platform.Policy

/-!
# Clusters and reservations

Execution clusters with their reported capacity (`domain/cluster.go`), the reservations that hold capacity
and budget for an attempt (`domain/reservation.go`), and the choice of a cluster
(`application/scheduler/strategy.go`).
-/

set_option autoImplicit false

namespace AgentForge.Platform

open Operator

/-! ## Clusters -/

inductive ClusterStatus
  | active
  | unavailable
  deriving DecidableEq

structure ExecutionCluster where
  id : String
  region : String
  status : ClusterStatus
  supportedRuntimes : List String
  supportedExecutionProfiles : List String
  maintenance : Bool
  tenantRestricted : Bool
  schedulingWeight : Int
  cpuCostMinorUnits : Int
  memoryGiBCostMinorUnits : Int
  lastHeartbeatAt : Time
  version : Int
  createdAt : Time
  updatedAt : Time
  deriving DecidableEq

structure ClusterCapacity where
  clusterID : String
  observedAt : Time
  allocatableCPUMillis : Int
  allocatableMemoryMiB : Int
  queuedWorkloads : Int
  deriving DecidableEq

structure ClusterCandidate where
  cluster : ExecutionCluster
  capacity : ClusterCapacity
  deriving DecidableEq

/-- The pattern `^[a-z0-9][a-z0-9-]{low,high}$`. -/
def matchesDashed (low high : Nat) (value : String) : Bool :=
  match value.toList with
  | [] => false
  | first :: rest =>
    isLowerAlphanumeric first && low ≤ rest.length && rest.length ≤ high &&
      rest.all fun c => isLowerAlphanumeric c || c == '-'

def matchesClusterID (value : String) : Bool := matchesDashed 2 62 value

def validClusterValues (values : List String) (maximum : Nat) : Bool :=
  values.length != 0 && values.length ≤ maximum && validPolicyValues values

def minute : Duration := 60 * second

/-- `Validate`. -/
def ExecutionCluster.valid (cluster : ExecutionCluster) (now : Time) : Bool :=
  matchesClusterID cluster.id && matchesDashed 0 62 cluster.region && 1 ≤ cluster.schedulingWeight &&
    cluster.schedulingWeight ≤ 1000 && 0 ≤ cluster.cpuCostMinorUnits && 0 ≤ cluster.memoryGiBCostMinorUnits &&
    1 ≤ cluster.version && !Time.isZero cluster.lastHeartbeatAt && cluster.lastHeartbeatAt ≤ now + minute &&
    validClusterValues cluster.supportedRuntimes 64 && validClusterValues cluster.supportedExecutionProfiles 32

/-- `Validate`. -/
def ClusterCapacity.valid (capacity : ClusterCapacity) (now : Time) : Bool :=
  capacity.clusterID != "" && !Time.isZero capacity.observedAt && capacity.observedAt ≤ now + minute &&
    0 ≤ capacity.allocatableCPUMillis && 0 ≤ capacity.allocatableMemoryMiB && 0 ≤ capacity.queuedWorkloads

/-! ## Reservations -/

inductive ReservationState
  | reserved
  | settled
  | released
  | expired
  deriving DecidableEq

structure CapacityReservation where
  id : UUID
  tenantID : UUID
  runID : UUID
  attemptID : UUID
  attemptNumber : Int
  clusterID : String
  cpuMillis : Int
  memoryMiB : Int
  state : ReservationState
  expiresAt : Time
  createdAt : Time
  settledAt : Option Time
  releasedAt : Option Time
  deriving DecidableEq

structure BudgetReservation where
  id : UUID
  capacityReservationID : UUID
  tenantID : UUID
  runID : UUID
  attemptNumber : Int
  usageDate : Time
  amountMinorUnits : Int
  state : ReservationState
  expiresAt : Time
  createdAt : Time
  settledAt : Option Time
  releasedAt : Option Time
  deriving DecidableEq

structure ReservationBundle where
  capacity : CapacityReservation
  budget : BudgetReservation
  deriving DecidableEq

/-- `Validate`. -/
def CapacityReservation.valid (reservation : CapacityReservation) (now : Time) : Bool :=
  reservation.id.version == 7 && reservation.tenantID.version == 7 && reservation.runID.version == 7 &&
    reservation.attemptID.version == 7 && 1 ≤ reservation.attemptNumber && matchesClusterID reservation.clusterID &&
    1 ≤ reservation.cpuMillis && reservation.cpuMillis ≤ 128000 && 1 ≤ reservation.memoryMiB &&
    reservation.memoryMiB ≤ 524288 && reservation.state == .reserved && now < reservation.expiresAt &&
    !Time.isZero reservation.createdAt

/-! ## Cluster selection -/

inductive Strategy
  | leastLoaded
  | regionAffinity
  deriving DecidableEq

def Strategy.name : Strategy → String
  | leastLoaded => "least-loaded"
  | regionAffinity => "region-affinity"

structure SelectionRequest where
  cpuMillis : Int
  memoryMiB : Int
  preferredRegion : String
  deriving DecidableEq

structure SelectionDecision where
  clusterID : String
  strategy : String
  reason : String
  score : Int
  projectedUtilizationBPS : Int
  queuedWorkloads : Int
  effectiveCost : Int
  usedRegionFallback : Bool
  decidedAt : Time
  deriving DecidableEq

inductive SelectionError
  | noCapacity (reason : String)
  | invalid (message : String)
  deriving DecidableEq

structure ScoredCandidate where
  clusterID : String
  score : Int
  projected : Int
  queued : Int
  cost : Int
  deriving DecidableEq

/-- The quotient scaled and rounded up. The remainder is at most `denominator - 1`, so nothing is negative. -/
def ceilingRatio (numerator denominator scale : Int) : Int :=
  let quotient := numerator / denominator
  let remainder := numerator % denominator
  if remainder ≠ 0 then quotient * scale + ((remainder * scale - 1) / denominator + 1) else quotient * scale

/-- The reported capacity is enough and the cluster takes work. -/
def ClusterCandidate.sufficient (candidate : ClusterCandidate) (request : SelectionRequest) : Bool :=
  request.cpuMillis ≤ candidate.capacity.allocatableCPUMillis &&
    request.memoryMiB ≤ candidate.capacity.allocatableMemoryMiB && candidate.cluster.status == .active &&
    !candidate.cluster.maintenance

def ClusterCandidate.scored (candidate : ClusterCandidate) (request : SelectionRequest) : ScoredCandidate :=
  let projected := max (ceilingRatio request.cpuMillis candidate.capacity.allocatableCPUMillis 10000)
    (ceilingRatio request.memoryMiB candidate.capacity.allocatableMemoryMiB 10000)
  let cost := candidate.cluster.cpuCostMinorUnits + candidate.cluster.memoryGiBCostMinorUnits
  { clusterID := candidate.cluster.id
    score := projected * 1000 / candidate.cluster.schedulingWeight + candidate.capacity.queuedWorkloads * 100 + cost
    projected := projected
    queued := candidate.capacity.queuedWorkloads
    cost := cost }

/-- The order of `rankCandidates`. -/
def ScoredCandidate.less (a b : ScoredCandidate) : Bool :=
  if a.score ≠ b.score then a.score < b.score
  else if a.projected ≠ b.projected then a.projected < b.projected
  else if a.queued ≠ b.queued then a.queued < b.queued
  else if a.cost ≠ b.cost then a.cost < b.cost
  else a.clusterID < b.clusterID

/-- The first of the candidates in that order. -/
def firstRanked : List ScoredCandidate → Option ScoredCandidate
  | [] => none
  | c :: rest =>
    match firstRanked rest with
    | none => some c
    | some d => some (if d.less c then d else c)

def rankCandidates (candidates : List ClusterCandidate) (request : SelectionRequest) (now : Time) (strategy : Strategy)
    (fallback : Bool) : Except SelectionError SelectionDecision :=
  if request.cpuMillis ≤ 0 ∨ request.memoryMiB ≤ 0 ∨ now = 0 then .error (.invalid "selection request is invalid")
  else
    match firstRanked ((candidates.filter (·.sufficient request)).map (·.scored request)) with
    | none => .error (.noCapacity "no eligible cluster has sufficient capacity")
    | some selected =>
      .ok {
        clusterID := selected.clusterID, strategy := strategy.name,
        reason := "selected lowest deterministic capacity score", score := selected.score,
        projectedUtilizationBPS := selected.projected, queuedWorkloads := selected.queued,
        effectiveCost := selected.cost, usedRegionFallback := fallback, decidedAt := now }

/-- The choice among all candidates, with the region as a preference that was not met. -/
def selectGlobal (candidates : List ClusterCandidate) (request : SelectionRequest) (now : Time) :
    Except SelectionError SelectionDecision :=
  (rankCandidates candidates request now .regionAffinity (request.preferredRegion != "")).map fun decision =>
    if decision.usedRegionFallback then
      { decision with reason := "preferred region had no sufficient capacity; selected global least-loaded cluster" }
    else decision

def Strategy.select (strategy : Strategy) (candidates : List ClusterCandidate) (request : SelectionRequest) (now : Time) :
    Except SelectionError SelectionDecision :=
  match strategy with
  | .leastLoaded => rankCandidates candidates request now .leastLoaded false
  | .regionAffinity =>
    if request.preferredRegion ≠ "" then
      let regional := candidates.filter fun candidate => candidate.cluster.region == request.preferredRegion
      match rankCandidates regional request now .regionAffinity false with
      | .ok decision => .ok { decision with reason := "selected least-loaded cluster in preferred region" }
      | .error _ => selectGlobal candidates request now
    else selectGlobal candidates request now

theorem firstRanked_mem {ranked : List ScoredCandidate} {selected : ScoredCandidate}
    (first : firstRanked ranked = some selected) : selected ∈ ranked := by
  induction ranked generalizing selected with
  | nil => cases first
  | cons c rest ih =>
    simp only [firstRanked] at first
    cases found : firstRanked rest with
    | none => rw [found] at first; cases first; exact List.mem_cons_self
    | some d =>
      rw [found] at first
      cases first
      split
      · exact List.mem_cons_of_mem _ (ih found)
      · exact List.mem_cons_self

theorem firstRanked_eq_none {ranked : List ScoredCandidate} : firstRanked ranked = none ↔ ranked = [] := by
  cases ranked with
  | nil => simp [firstRanked]
  | cons c rest => cases found : firstRanked rest <;> simp [firstRanked, found]

end AgentForge.Platform
