import AgentForge.Platform.Database

/-!
# Statements of the repositories

The SQL statements that the repositories run, each with its answer, the rows it writes and the keys it locks.
An insert locks the entries of the unique indexes it adds to, so that a second insert of the same value waits
for the first transaction to end; an update and a `select ... for update` lock the rows they return.
-/

set_option autoImplicit false

namespace AgentForge.Platform

open Operator Lib

abbrev SQL (α : Type) := Statement Db Key Write α

/-- A statement that fails. -/
def refused {α : Type} (e : Error) : Effect Key Write (Except Error α) := ⟨.error e, [], []⟩

/-! ## Runs -/

/-- `select ... from agent_runs where tenant_id and id for update`. -/
def lockRun (tenantID id : UUID) : SQL (Option RunRow) :=
  .lock (fun db => db.run? tenantID id) fun found => found.toList.map fun row => .run row.run.id

def selectRun (tenantID id : UUID) : SQL (Option RunRow) := .query fun db => db.run? tenantID id

def insertRun (row : RunRow) : SQL (Except Error Unit) where
  run db _ :=
    if !row.textsStorable || !row.checks then refused .database
    else if (db.runs.get? row.run.id).isSome || (db.runByKey? row.run.tenantID row.run.idempotencyKey).isSome then
      refused .conflict
    else if !db.projects.rows.any fun project =>
        project.id == row.run.projectID && project.tenantID == row.run.tenantID then refused .notFound
    else ⟨.ok (), [.run row], [.run row.run.id, .idempotencyKey row.run.tenantID row.run.idempotencyKey]⟩

/-- `update agent_runs set ... where tenant_id and id and ... returning`. -/
def updateRun (tenantID id : UUID) (filter : RunRow → Bool) (set : RunRow → RunRow) : SQL (Except Error (Option RunRow)) where
  run db _ :=
    match (db.run? tenantID id).filter filter with
    | none => ⟨.ok none, [], []⟩
    | some row =>
      if !(set row).textsStorable || !(set row).checks then refused .database
      else ⟨.ok (some (set row)), [.run (set row)], [.run row.run.id]⟩

/-! ## Attempts -/

def lockAttempt (tenantID runID id : UUID) (number : Int) : SQL (Option AgentRunAttempt) :=
  .lock (fun db => (db.attempts.get? id).filter fun row =>
      row.tenantID == tenantID && row.runID == runID && row.attemptNumber == number)
    fun found => found.toList.map fun row => .attempt row.id

def selectAttempt (tenantID runID : UUID) (number : Int) : SQL (Option AgentRunAttempt) :=
  .query fun db => db.attempt? tenantID runID number

def insertAttempt (row : AgentRunAttempt) : SQL (Except Error Unit) where
  run db _ :=
    if !row.checks then refused .database
    else if (db.attempts.get? row.id).isSome || db.attempts.rows.any fun other =>
        other.runID == row.runID && other.attemptNumber == row.attemptNumber then refused .conflict
    else if (db.run? row.tenantID row.runID).isNone then refused .notFound
    else ⟨.ok (), [.attempt row], [.attempt row.id, .attemptNumber row.runID row.attemptNumber]⟩

def updateAttempt (tenantID id : UUID) (filter : AgentRunAttempt → Bool) (set : AgentRunAttempt → AgentRunAttempt) :
    SQL (Except Error (Option AgentRunAttempt)) where
  run db _ :=
    match (db.attempts.get? id).filter fun row => row.tenantID == tenantID && filter row with
    | none => ⟨.ok none, [], []⟩
    | some row =>
      if !(set row).checks then refused .database
      else ⟨.ok (some (set row)), [.attempt (set row)], [.attempt row.id]⟩

/-! ## Tenants, policies, usage -/

/-- The statuses of a tenant and one of its projects. -/
def selectOwnership (tenantID projectID : UUID) : SQL (Option (String × String)) :=
  .query fun db =>
    match db.tenants.get? tenantID, (db.projects.get? projectID).filter fun project => project.tenantID == tenantID with
    | some tenant, some project => some (tenant.status.text, project.status.text)
    | _, _ => none

/-- `select ... from scheduler_tenant_policies where tenant_id for update`. -/
def lockPolicy (tenantID : UUID) : SQL (Option SchedulingPolicy) :=
  .lock (fun db => (db.policies.get? tenantID).map (·.policy)) fun found => found.toList.map fun _ => .policy tenantID

/-- The statuses that `readSchedulingUsage` counts as active. -/
def AgentRunStatus.countsAsActive (status : AgentRunStatus) : Bool := status.isOccupying || status == .cancelling

/-- The totals over the runs of a tenant. -/
def Db.runUsage (db : Db) (tenantID : UUID) (createdBy : String) : SchedulingUsage where
  activeTenantRuns := db.runs.count fun row => row.run.tenantID == tenantID && row.run.status.countsAsActive
  activeUserRuns := db.runs.count fun row =>
    row.run.tenantID == tenantID && row.run.createdBy == createdBy && row.run.status.countsAsActive
  queuedTenantRuns := db.runs.count fun row => row.run.tenantID == tenantID && row.run.status.isWaiting
  activeCPUMillis := db.runs.total fun row =>
    if row.run.tenantID == tenantID && row.run.status.countsAsActive then row.run.cpuMillis else 0
  activeMemoryMiB := db.runs.total fun row =>
    if row.run.tenantID == tenantID && row.run.status.countsAsActive then row.run.memoryMiB else 0
  budgetUsedMinorUnits := 0

def selectRunUsage (tenantID : UUID) (createdBy : String) : SQL SchedulingUsage :=
  .query fun db => db.runUsage tenantID createdBy

/-- `coalesce(spent_minor_units + reserved_minor_units, 0)` of a day; no row counts as 0. -/
def Db.budgetUsed (db : Db) (tenantID : UUID) (date : Time) : Int :=
  match db.usage.get? (tenantID, date) with
  | some usage => usage.spentMinorUnits + usage.reservedMinorUnits
  | none => 0

def selectBudgetUsed (tenantID : UUID) (date : Time) : SQL Int := .query fun db => db.budgetUsed tenantID date

/-- `insert into tenant_daily_budget_usage ... on conflict do nothing`. -/
def ensureUsage (tenantID : UUID) (date : Time) : SQL Unit where
  run db _ :=
    match db.usage.get? (tenantID, date) with
    | some _ => ⟨(), [], []⟩
    | none => ⟨(), [.usage ⟨tenantID, date, 0, 0⟩], [.usage tenantID date]⟩

def lockUsage (tenantID : UUID) (date : Time) : SQL (Option BudgetUsage) :=
  .lock (fun db => db.usage.get? (tenantID, date)) fun found => found.toList.map fun _ => .usage tenantID date

/-- The totals with some added. -/
def BudgetUsage.add (usage : BudgetUsage) (spent reserved : Int) : BudgetUsage :=
  { usage with
    spentMinorUnits := usage.spentMinorUnits + spent, reservedMinorUnits := usage.reservedMinorUnits + reserved }

/-- `update tenant_daily_budget_usage`: add to the two totals of a day. -/
def addUsage (tenantID : UUID) (date : Time) (spent reserved : Int) : SQL (Except Error Unit) where
  run db _ :=
    match db.usage.get? (tenantID, date) with
    | none => ⟨.ok (), [], []⟩
    | some usage =>
      if !(usage.add spent reserved).checks then refused .database
      else ⟨.ok (), [.usage (usage.add spent reserved)], [.usage tenantID date]⟩

/-! ## Clusters -/

def lockCluster (id : String) : SQL (Option ExecutionCluster) :=
  .lock (fun db => db.clusters.get? id) fun found => found.toList.map fun _ => .cluster id

/-- The tenant may use the cluster. -/
def Db.allows (db : Db) (cluster : ExecutionCluster) (tenantID : UUID) : Bool :=
  !cluster.tenantRestricted ||
    match db.allowlists.get? cluster.id with
    | some allowed => allowed.tenants.contains tenantID
    | none => false

/-- The conditions of `lockEligibleCluster` on a cluster and its newest snapshot. -/
def Db.eligible (db : Db) (tenantID : UUID) (runtime profile : String) (freshSince : Time) (candidate : ClusterCandidate) :
    Bool :=
  candidate.cluster.status == .active && !candidate.cluster.maintenance &&
    pgTime freshSince ≤ candidate.cluster.lastHeartbeatAt && candidate.cluster.supportedRuntimes.contains runtime &&
    candidate.cluster.supportedExecutionProfiles.contains profile && db.allows candidate.cluster tenantID &&
    pgTime freshSince ≤ candidate.capacity.observedAt

/-- A cluster with its newest snapshot. -/
def Db.candidate? (db : Db) (id : String) : Option ClusterCandidate :=
  match db.clusters.get? id, db.latestCapacity? id with
  | some cluster, some capacity => some ⟨cluster, capacity⟩
  | _, _ => none

/-- `lockEligibleCluster`'s `select ... for update of cluster`. -/
def lockEligible (id : String) (tenantID : UUID) (runtime profile : String) (freshSince : Time) :
    SQL (Option ClusterCandidate) :=
  .lock (fun db => (db.candidate? id).filter fun candidate => db.eligible tenantID runtime profile freshSince candidate)
    fun found => found.toList.map fun _ => .cluster id

def selectLatestCapacity (clusterID : String) : SQL (Option ClusterCapacity) := .query fun db => db.latestCapacity? clusterID

/-- The reserved CPU and memory of a cluster at a time. -/
def selectReserved (clusterID : String) (now : Time) : SQL (Int × Int) :=
  .query fun db => (db.reservedCPU clusterID (pgTime now), db.reservedMemory clusterID (pgTime now))

def insertCluster (row : ExecutionCluster) : SQL (Except Error Unit) where
  run db _ :=
    if (db.clusters.get? row.id).isSome then refused .conflict else ⟨.ok (), [.cluster row], [.cluster row.id]⟩

def updateCluster (id : String) (version : Int) (set : ExecutionCluster → ExecutionCluster) :
    SQL (Option ExecutionCluster) where
  run db _ :=
    match (db.clusters.get? id).filter fun row => row.version == version with
    | none => ⟨none, [], []⟩
    | some row => ⟨some (set row), [.cluster (set row)], [.cluster id]⟩

def insertSnapshot (row : ClusterCapacity) : SQL (Except Error Unit) where
  run db _ :=
    if (db.snapshots.get? (row.clusterID, row.observedAt)).isSome then refused .conflict
    else if (db.clusters.get? row.clusterID).isNone then refused .notFound
    else ⟨.ok (), [.snapshot row], [.snapshot row.clusterID row.observedAt]⟩

/-- `delete from cluster_tenant_allowlist` and the inserts that follow it. -/
def replaceAllowlist (clusterID : String) (tenants : List UUID) : SQL (Except Error Unit) where
  run db _ :=
    if tenants.any fun tenant => (db.tenants.get? tenant).isNone then refused .notFound
    else ⟨.ok (), [.allowlist ⟨clusterID, tenants⟩], []⟩

/-! ## Reservations -/

def insertCapacity (row : CapacityReservation) : SQL (Except Error Unit) where
  run db _ :=
    if !row.checks then refused .database
    else if (db.capacities.get? row.id).isSome || (db.activeCapacity? row.runID row.attemptNumber).isSome then
      refused .conflict
    else if (db.run? row.tenantID row.runID).isNone || (db.attempts.get? row.attemptID).isNone ||
        (db.clusters.get? row.clusterID).isNone then refused .notFound
    else ⟨.ok (), [.capacity row], [.capacity row.id, .activeCapacity row.runID row.attemptNumber]⟩

def insertBudget (row : BudgetReservation) : SQL (Except Error Unit) where
  run db _ :=
    if !row.checks then refused .database
    else if (db.budgets.get? row.id).isSome || (db.budgetOf? row.capacityReservationID).isSome ||
        db.budgets.rows.any (fun other =>
          other.runID == row.runID && other.attemptNumber == row.attemptNumber && other.state == .reserved) then
      refused .conflict
    else if (db.capacities.get? row.capacityReservationID).isNone || (db.run? row.tenantID row.runID).isNone then
      refused .notFound
    else ⟨.ok (), [.budget row], [.budget row.id, .budgetOf row.capacityReservationID,
      .activeBudget row.runID row.attemptNumber]⟩

/-- A capacity reservation with its budget row. -/
def Db.bundle? (db : Db) (capacity : CapacityReservation) : Option ReservationBundle :=
  (db.budgetOf? capacity.id).map fun budget => ⟨capacity, budget⟩

/-- The keys of both rows of a bundle. -/
def ReservationBundle.keys (bundle : ReservationBundle) : List Key := [.capacity bundle.capacity.id, .budget bundle.budget.id]

/-- `findActiveReservation`'s `select ... for update`. -/
def lockActive (tenantID runID : UUID) (number : Int) : SQL (Option ReservationBundle) :=
  .lock (fun db => ((db.activeCapacity? runID number).filter fun row => row.tenantID == tenantID).bind db.bundle?)
    fun found => found.toList.flatMap ReservationBundle.keys

/-- The reservations of an attempt, with their budget rows. -/
def Db.bundles (db : Db) (tenantID runID : UUID) (number : Int) : List ReservationBundle :=
  (db.capacities.rows.filter fun row => row.tenantID == tenantID && row.runID == runID && row.attemptNumber == number).filterMap
    db.bundle?

/-- The bundles that `order by created_at desc limit 1` may return. -/
def Db.newest (db : Db) (tenantID runID : UUID) (number : Int) : List ReservationBundle :=
  (db.bundles tenantID runID number).filter fun bundle =>
    (db.bundles tenantID runID number).all fun other => other.capacity.createdAt ≤ bundle.capacity.createdAt

/-- `select ... order by capacity.created_at desc limit 1 for update of capacity, budget`. Which of several
newest reservations PostgreSQL returns is not determined; `pick` chooses. -/
def lockNewest (tenantID runID : UUID) (number : Int) (pick : Nat) : SQL (Option ReservationBundle) :=
  .lock (fun db => (db.newest tenantID runID number)[pick % (db.newest tenantID runID number).length]?)
    fun found => found.toList.flatMap ReservationBundle.keys

def selectExpiresAt (id : UUID) : SQL (Option Time) := .query fun db => (db.capacities.get? id).map (·.expiresAt)

/-- The timestamp that a reservation gets when it leaves RESERVED. -/
def closedAt (target : ReservationState) (now : Time) : Option Time × Option Time :=
  if target = .settled then (some (pgTime now), none) else (none, some (pgTime now))

/-- The columns that closing a capacity row sets. -/
def CapacityReservation.close (row : CapacityReservation) (target : ReservationState) (now : Time) : CapacityReservation :=
  { row with state := target, settledAt := (closedAt target now).1, releasedAt := (closedAt target now).2 }

/-- The columns that closing a budget row sets. -/
def BudgetReservation.close (row : BudgetReservation) (target : ReservationState) (now : Time) : BudgetReservation :=
  { row with state := target, settledAt := (closedAt target now).1, releasedAt := (closedAt target now).2 }

def closeCapacity (id : UUID) (target : ReservationState) (now : Time) : SQL Unit where
  run db _ :=
    match (db.capacities.get? id).filter fun row => row.state == .reserved with
    | none => ⟨(), [], []⟩
    | some row => ⟨(), [.capacity (row.close target now)], [.capacity id]⟩

def closeBudget (id : UUID) (target : ReservationState) (now : Time) : SQL Unit where
  run db _ :=
    match (db.budgets.get? id).filter fun row => row.state == .reserved with
    | none => ⟨(), [], []⟩
    | some row => ⟨(), [.budget (row.close target now)], [.budget id]⟩

/-! ## Outbox and handoff intents -/

def insertEvent (row : OutboxEvent) : SQL (Except Error Unit) where
  run db _ :=
    if row.eventID.version != 7 then refused .database
    else if (db.outbox.get? row.eventID).isSome then refused .conflict
    else if (db.tenants.get? row.tenantID).isNone then refused .notFound
    else ⟨.ok (), [.event row], [.event row.eventID]⟩

/-- `select event_id from outbox_events where tenant_id and run_id and event_type and aggregate_version`. -/
def Db.event? (db : Db) (tenantID runID : UUID) (type : EventType) (version : Int) : Option OutboxEvent :=
  db.outbox.rows.find? fun row =>
    row.tenantID == tenantID && row.runID == runID && row.eventType == type && row.aggregateVersion == version

def selectEvent (tenantID runID : UUID) (type : EventType) (version : Int) : SQL (Option UUID) :=
  .query fun db => (db.event? tenantID runID type version).map (·.eventID)

def insertIntent (row : IntentRow) : SQL (Except Error Unit) where
  run db _ :=
    if !row.checks then refused .database
    else if (db.intents.get? row.eventID).isSome || db.intents.rows.any fun other =>
        other.tenantID == row.tenantID && other.runID == row.runID && other.attemptNumber == row.attemptNumber then
      refused .conflict
    else if (db.tenants.get? row.tenantID).isNone then refused .notFound
    else ⟨.ok (), [.intent row], [.intent row.eventID, .intentOf row.tenantID row.runID row.attemptNumber]⟩

/-- `select desired_state from agentrun_handoff_intents where event_id and tenant_id and run_id and attempt_number`. -/
def selectIntent (eventID tenantID runID : UUID) (number : Int) : SQL (Option AgentRunDesiredState) :=
  .query fun db => ((db.intents.get? eventID).filter fun row =>
    row.tenantID == tenantID && row.runID == runID && row.attemptNumber == number).map (·.desiredState)

end AgentForge.Platform
