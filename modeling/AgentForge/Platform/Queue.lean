import AgentForge.Platform.Runs

/-!
# The scheduler queue

Claiming waiting runs under a lease and renewing the lease (`adapters/postgres/scheduler_queue.go`). A claim
is one statement: it ranks the claimable runs of each tenant, skips the rows that others have locked, and
takes the first ones of the ranking. The aging of priorities is a division in double precision.
-/

set_option autoImplicit false

namespace AgentForge.Platform

open Operator Lib Lib.Word

structure SchedulerClaimRequest where
  owner : String
  now : Time
  leaseDuration : Duration
  batchSize : Nat
  agingInterval : Duration
  maximumAgingBoost : Int
  deriving DecidableEq

structure ClaimedRun where
  id : UUID
  tenantID : UUID
  projectID : UUID
  runtime : String
  promptReference : String
  maxAttempts : Int
  executionProfile : String
  preferredRegion : String
  createdBy : String
  cpuMillis : Int
  memoryMiB : Int
  timeoutSeconds : Int
  attemptNumber : Int
  attemptID : UUID
  attemptVersion : Int
  priority : Int
  effectivePriority : Int
  version : Int
  createdAt : Time
  schedulerLeaseOwner : String
  schedulerLeaseExpiry : Time
  deriving DecidableEq

/-! ## Claim -/

def SchedulerClaimRequest.valid (request : SchedulerClaimRequest) : Bool :=
  lengthWithin 160 (trimSpace request.owner) && !Time.isZero request.now && 0 < request.leaseDuration &&
    1 ≤ request.batchSize && request.batchSize ≤ 1000 && 0 < request.agingInterval && 0 ≤ request.maximumAgingBoost &&
    request.maximumAgingBoost ≤ 1000

/-- The lease that a claim sets. -/
def SchedulerClaimRequest.lease (request : SchedulerClaimRequest) : Lease :=
  ⟨trimSpace request.owner, pgTime (request.now + request.leaseDuration)⟩

/-- The `where` clause on the run itself. -/
def RunRow.claimable (row : RunRow) (now : Time) : Bool :=
  match row.run.status with
  | .queued => true
  | .capacityWait => row.nextEligibleAt.any (· ≤ pgTime now)
  | .scheduling => row.lease.any (·.expiresAt ≤ pgTime now)
  | _ => false

/-- The current attempt of a run. -/
def Db.currentAttempt? (db : Db) (row : RunRow) : Option AgentRunAttempt :=
  db.attempt? row.run.tenantID row.run.id row.run.attemptCount

/-- The run waits for a claim and its current attempt is pending. -/
def Db.claimable (db : Db) (now : Time) (row : RunRow) : Bool :=
  row.claimable now && (db.currentAttempt? row).any (·.status == .pending)

/-- `Duration.Seconds`. -/
def durationSeconds (d : Duration) : Double :=
  (Double.ofQuotient (d / second).toNat 1 0).add (Double.ofQuotient (d % second).toNat second.toNat 0)

/-- How many aging intervals the run has waited. The time is an exact number of seconds before it is divided. -/
def RunRow.aging (row : RunRow) (request : SchedulerClaimRequest) : Int :=
  ((Double.ofQuotient (max 0 (pgTime request.now - row.run.createdAt)).toNat second.toNat 0).div
    (durationSeconds request.agingInterval)).floor

-- 0.3 s are less than three times 0.1 s.
example : ((Double.ofQuotient 300000000 1000000000 0).div (durationSeconds 100000000)).floor = 2 := by decide +kernel

def RunRow.effectivePriority (row : RunRow) (request : SchedulerClaimRequest) : Int :=
  row.priority + min request.maximumAgingBoost (row.aging request)

/-- Identifiers in the order of their bytes. -/
def UUID.digits (id : UUID) : List Nat := id.bytes.toList.map BitVec.toNat

/-- `partition by tenant_id order by effective_priority desc, created_at asc, id asc`. -/
def RunRow.precedes (request : SchedulerClaimRequest) (a b : RunRow) : Bool :=
  if a.effectivePriority request ≠ b.effectivePriority request then
    b.effectivePriority request < a.effectivePriority request
  else if a.run.createdAt ≠ b.run.createdAt then a.run.createdAt < b.run.createdAt
  else a.run.id.digits < b.run.id.digits

/-- The place of a run among the claimable runs of its tenant. -/
def tenantRank (request : SchedulerClaimRequest) (base : List RunRow) (row : RunRow) : Nat :=
  (base.filter fun other => other.run.tenantID == row.run.tenantID && other.precedes request row).length + 1

/-- `order by tenant_rank asc, effective_priority desc, created_at asc, tenant_id asc, id asc`. -/
def claimOrder (request : SchedulerClaimRequest) (base : List RunRow) (a b : RunRow) : Bool :=
  if tenantRank request base a ≠ tenantRank request base b then tenantRank request base a < tenantRank request base b
  else if a.effectivePriority request ≠ b.effectivePriority request then
    b.effectivePriority request < a.effectivePriority request
  else if a.run.createdAt ≠ b.run.createdAt then a.run.createdAt < b.run.createdAt
  else if a.run.tenantID ≠ b.run.tenantID then a.run.tenantID.digits < b.run.tenantID.digits
  else a.run.id.digits ≤ b.run.id.digits

/-- The runs that a claim takes, in its order. -/
def Db.claims (db : Db) (request : SchedulerClaimRequest) (others : Key → Bool) : List RunRow :=
  let base := db.runs.rows.filter (db.claimable request.now)
  ((base.insertionSort fun a b => claimOrder request base a b).filter fun row => !others (.run row.run.id)).take
    request.batchSize

/-- The columns that a claim sets. -/
def claimedRow (request : SchedulerClaimRequest) (row : RunRow) : RunRow :=
  { row with
    run := { row.run with
      status := .scheduling
      version := row.run.version + 1
      updatedAt := pgTime request.now }
    lease := some request.lease }

/-- What a claim returns for a claimed row and its current attempt. -/
def claimedRun (request : SchedulerClaimRequest) (row : RunRow) (attempt : AgentRunAttempt) : ClaimedRun where
  id := row.run.id
  tenantID := row.run.tenantID
  projectID := row.run.projectID
  runtime := row.run.runtime
  promptReference := row.run.promptReference
  maxAttempts := row.run.maxAttempts
  executionProfile := row.executionProfile
  preferredRegion := row.preferredRegion.getD ""
  createdBy := row.run.createdBy
  cpuMillis := row.run.cpuMillis
  memoryMiB := row.run.memoryMiB
  timeoutSeconds := row.run.timeoutSeconds
  attemptNumber := row.run.attemptCount
  attemptID := attempt.id
  attemptVersion := attempt.version
  priority := row.priority
  effectivePriority := row.effectivePriority request
  version := row.run.version + 1
  createdAt := row.run.createdAt
  schedulerLeaseOwner := request.lease.owner
  schedulerLeaseExpiry := request.lease.expiresAt

/-- The claim statement. The cast of the aging to `integer` overflows for very small intervals. -/
def claimRuns (request : SchedulerClaimRequest) : SQL (Except Error (List ClaimedRun)) where
  run db others :=
    let taken := db.claims request others
    if db.runs.rows.any fun row => db.claimable request.now row && 2147483647 < row.aging request then refused .database
    else if taken.any fun row => !(claimedRow request row).textsStorable || !(claimedRow request row).checks then
      refused .database
    else
      ⟨.ok (taken.filterMap fun row => (db.currentAttempt? row).map (claimedRun request row)),
        taken.map fun row => .run (claimedRow request row), taken.map fun row => .run row.run.id⟩

def claim (request : SchedulerClaimRequest) : Program (List ClaimedRun) := do
  Tx.check request.valid (.invalid "scheduler claim requires bounded owner, clock, lease, batch, and aging policy")
  exec (claimRuns request)

/-! ## Renew -/

structure RenewRequest where
  tenantID : UUID
  runID : UUID
  owner : String
  expectedVersion : Int
  now : Time
  lease : Duration
  deriving DecidableEq

def RenewRequest.valid (request : RenewRequest) : Bool :=
  request.tenantID.version == 7 && request.runID.version == 7 && lengthWithin 160 (trimSpace request.owner) &&
    1 ≤ request.expectedVersion && !Time.isZero request.now && 0 < request.lease

/-- The run is under the caller's unexpired lease at the expected version. -/
def RenewRequest.matches (request : RenewRequest) (row : RunRow) : Bool :=
  row.run.status == .scheduling && row.run.version == request.expectedVersion &&
    row.lease.any fun lease => lease.owner == trimSpace request.owner && pgTime request.now < lease.expiresAt

def renewedRow (request : RenewRequest) (row : RunRow) : RunRow :=
  { row with
    run := { row.run with version := row.run.version + 1, updatedAt := pgTime request.now }
    lease := row.lease.map fun lease => { lease with expiresAt := pgTime (request.now + request.lease) } }

def renew (request : RenewRequest) : Program Int := do
  Tx.check request.valid (.invalid "scheduler lease renewal metadata is invalid")
  let updated ← exec (updateRun request.tenantID request.runID request.matches (renewedRow request))
  match updated with
  | some row => return row.run.version
  | none => saveError request.tenantID request.runID

end AgentForge.Platform
