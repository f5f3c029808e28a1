import AgentForge.Platform.Queue

/-!
# Reservations and the cluster registry

The transactions that hold capacity of a cluster and budget of a tenant for an attempt, and that settle,
release or expire what is held (`adapters/postgres/reservations.go`), and the registry that reports the
capacity of clusters (`adapters/postgres/clusters.go`).
-/

set_option autoImplicit false

namespace AgentForge.Platform

open Operator Lib

structure ReservationRequest where
  tenantID : UUID
  runID : UUID
  attemptID : UUID
  attemptNumber : Int
  clusterID : String
  cpuMillis : Int
  memoryMiB : Int
  budgetMinorUnits : Int
  now : Time
  ttl : Duration
  /-- The identifiers of a new bundle. -/
  capacityID : UUID
  budgetID : UUID
  deriving DecidableEq

/-- `validateReservationRequest`. -/
def ReservationRequest.valid (request : ReservationRequest) : Bool :=
  request.tenantID != .nil && request.runID != .nil && request.attemptID != .nil && 1 ≤ request.attemptNumber &&
    request.clusterID != "" && 1 ≤ request.cpuMillis && request.cpuMillis ≤ 128000 && 1 ≤ request.memoryMiB &&
    request.memoryMiB ≤ 524288 && 0 ≤ request.budgetMinorUnits && !Time.isZero request.now && 0 < request.ttl &&
    request.ttl ≤ 86400 * second

/-- The capacity and budget rows of a request. -/
def ReservationRequest.bundle (request : ReservationRequest) : ReservationBundle where
  capacity := {
    id := request.capacityID, tenantID := request.tenantID, runID := request.runID, attemptID := request.attemptID,
    attemptNumber := request.attemptNumber, clusterID := request.clusterID, cpuMillis := request.cpuMillis,
    memoryMiB := request.memoryMiB, state := .reserved, expiresAt := request.now + request.ttl,
    createdAt := request.now, settledAt := none, releasedAt := none }
  budget := {
    id := request.budgetID, capacityReservationID := request.capacityID, tenantID := request.tenantID,
    runID := request.runID, attemptNumber := request.attemptNumber, usageDate := day request.now,
    amountMinorUnits := request.budgetMinorUnits, state := .reserved, expiresAt := request.now + request.ttl,
    createdAt := request.now, settledAt := none, releasedAt := none }

def newReservationBundle (request : ReservationRequest) : Except Error ReservationBundle :=
  if request.bundle.capacity.valid request.now then .ok request.bundle
  else .error (.invalid "capacity reservation is invalid")

/-- The bundle as its columns keep it. -/
def ReservationBundle.stored (bundle : ReservationBundle) : ReservationBundle where
  capacity := { bundle.capacity with
    expiresAt := pgTime bundle.capacity.expiresAt, createdAt := pgTime bundle.capacity.createdAt }
  budget := { bundle.budget with
    expiresAt := pgTime bundle.budget.expiresAt, createdAt := pgTime bundle.budget.createdAt }

/-! ## Admission -/

/-- The capacity left on a cluster is enough. -/
def admitCapacity (clusterID : String) (capacity : ClusterCapacity) (cpuMillis memoryMiB : Int) (now : Time) :
    Program Unit := do
  let (reservedCPU, reservedMemory) ← Tx.perform (selectReserved clusterID now)
  Tx.check (cpuMillis ≤ capacity.allocatableCPUMillis - reservedCPU &&
    memoryMiB ≤ capacity.allocatableMemoryMiB - reservedMemory) .capacityUnavailable

/-- The budget left of a tenant's day is enough. Without a policy there is none. -/
def admitBudget (tenantID : UUID) (limit : Option Int) (amount : Int) (now : Time) : Program Unit := do
  Tx.perform (ensureUsage tenantID (day now))
  let usage ← required (lockUsage tenantID (day now)) .notFound
  Tx.check (limit.any fun limit => amount ≤ limit - usage.spentMinorUnits - usage.reservedMinorUnits)
    .budgetUnavailable

/-- Insert a bundle and count its amount as reserved. -/
def recordBundle (bundle : ReservationBundle) : Program Unit := do
  exec (insertCapacity bundle.stored.capacity)
  exec (insertBudget bundle.stored.budget)
  exec (addUsage bundle.budget.tenantID bundle.budget.usageDate 0 bundle.budget.amountMinorUnits)

/-! ## Reserve -/

/-- The existing bundle is the one the request asks for. -/
def ReservationRequest.agrees (request : ReservationRequest) (existing : ReservationBundle) : Bool :=
  existing.capacity.clusterID == request.clusterID && existing.capacity.cpuMillis == request.cpuMillis &&
    existing.capacity.memoryMiB == request.memoryMiB &&
    existing.budget.amountMinorUnits == request.budgetMinorUnits && existing.capacity.attemptID == request.attemptID

/-- The part of Reserve that makes a new bundle. -/
def reserveNew (request : ReservationRequest) (policy : SchedulingPolicy) : Program ReservationBundle := do
  let capacity ← required (selectLatestCapacity request.clusterID) .notFound
  admitCapacity request.clusterID capacity request.cpuMillis request.memoryMiB request.now
  admitBudget request.tenantID (some policy.dailyBudgetMinorUnits) request.budgetMinorUnits request.now
  let bundle ← Tx.lift (newReservationBundle request)
  recordBundle bundle
  return bundle

def reserve (request : ReservationRequest) : Program ReservationBundle := do
  Tx.check request.valid (.invalid "reservation request is invalid")
  let policy ← required (lockPolicy request.tenantID) .notFound
  let _ ← required (lockCluster request.clusterID) .notFound
  let found ← Tx.perform (lockActive request.tenantID request.runID request.attemptNumber)
  match found with
  | some existing => do
    Tx.check (request.agrees existing) .conflict
    return existing
  | none => reserveNew request policy

/-! ## Settle, release, expire -/

structure ReservationTransition where
  tenantID : UUID
  runID : UUID
  attemptNumber : Int
  now : Time
  target : ReservationState
  /-- Which of several newest reservations PostgreSQL returns. -/
  pick : Nat
  deriving DecidableEq

def ReservationTransition.valid (request : ReservationTransition) : Bool :=
  request.tenantID != .nil && request.runID != .nil && 1 ≤ request.attemptNumber && !Time.isZero request.now

/-- Move both rows of a bundle and the totals of its day. -/
def closeBundle (request : ReservationTransition) (bundle : ReservationBundle) : Program Bool := do
  Tx.perform (closeCapacity bundle.capacity.id request.target request.now)
  Tx.perform (closeBudget bundle.budget.id request.target request.now)
  exec (addUsage request.tenantID bundle.budget.usageDate
    (if request.target = .settled then bundle.budget.amountMinorUnits else 0) (-bundle.budget.amountMinorUnits))
  return true

/-- `transition`: whether the reservation changed. -/
def transitionReservation (request : ReservationTransition) : Program Bool := do
  Tx.check request.valid (.invalid "reservation transition identity is invalid")
  let _ ← Tx.perform (lockPolicy request.tenantID)
  let bundle ← required (lockNewest request.tenantID request.runID request.attemptNumber request.pick) .notFound
  if bundle.capacity.state = request.target then return false
  else if bundle.capacity.state ≠ .reserved then .fail .conflict
  else if request.target = .expired then do
    let expiresAt ← required (selectExpiresAt bundle.capacity.id) .notFound
    if request.now < expiresAt then return false else closeBundle request bundle
  else closeBundle request bundle

/-- `order by expires_at, id`. -/
def CapacityReservation.expiresFirst (a b : CapacityReservation) : Bool :=
  if a.expiresAt ≠ b.expiresAt then a.expiresAt < b.expiresAt else a.id.digits ≤ b.id.digits

/-- The reservations that `ReclaimExpired` lists. -/
def Db.expired (db : Db) (now : Time) (limit : Nat) : List CapacityReservation :=
  ((db.capacities.rows.filter fun row => row.state == .reserved && row.expiresAt ≤ pgTime now).insertionSort
    fun a b => a.expiresFirst b).take limit

/-! ## Cluster registry -/

structure ClusterWrite where
  cluster : ExecutionCluster
  capacity : ClusterCapacity
  allowedTenants : List UUID
  deriving DecidableEq

def ClusterWrite.valid (write : ClusterWrite) : Bool :=
  write.cluster.valid write.cluster.updatedAt && write.capacity.valid write.cluster.updatedAt &&
    write.capacity.clusterID == write.cluster.id && !write.allowedTenants.contains .nil &&
    write.allowedTenants.Nodup && (!write.cluster.tenantRestricted || write.allowedTenants.length != 0)

/-- The snapshot as its columns keep it. -/
def ClusterCapacity.stored (capacity : ClusterCapacity) : ClusterCapacity :=
  { capacity with observedAt := pgTime capacity.observedAt }

/-- The cluster as its columns keep it. -/
def ExecutionCluster.stored (cluster : ExecutionCluster) : ExecutionCluster :=
  { cluster with
    lastHeartbeatAt := pgTime cluster.lastHeartbeatAt
    createdAt := pgTime cluster.createdAt
    updatedAt := pgTime cluster.updatedAt }

def writeCapacityAndAllowlist (write : ClusterWrite) : Program Unit := do
  exec (insertSnapshot write.capacity.stored)
  exec (replaceAllowlist write.capacity.clusterID write.allowedTenants)

def registerCluster (write : ClusterWrite) : Program Unit := do
  Tx.check write.valid (.invalid "cluster write is invalid")
  exec (insertCluster write.cluster.stored)
  writeCapacityAndAllowlist write

def updateClusterMetadata (write : ClusterWrite) (expectedVersion : Int) : Program Unit := do
  Tx.check (1 ≤ expectedVersion && write.cluster.version == expectedVersion + 1) .versionConflict
  Tx.check write.valid (.invalid "cluster write is invalid")
  let updated ← Tx.perform (updateCluster write.cluster.id expectedVersion fun row =>
    { write.cluster.stored with createdAt := row.createdAt })
  match updated with
  | some _ => writeCapacityAndAllowlist write
  | none => do
    let found ← Tx.perform (Statement.query fun db : Db => db.clusters.get? write.cluster.id)
    .fail (if found.isSome then .versionConflict else .notFound)

end AgentForge.Platform
