import Mathlib.Data.List.Sort
import Mathlib.Data.Prod.Lex
import AgentForge.Platform.Tenancy

/-!
# The fairness of a claim

A claim ranks the waiting runs of each tenant and takes runs in the order of their ranks. It skips the rows that
another claimant has locked and those that have changed since the ranks were computed. The runs of a tenant
with many of them cannot hold up those of another tenant: every free run of a lower rank is taken first.
-/

set_option autoImplicit false

namespace AgentForge.Platform

open Lib

/-- The runs that a claim ranks. -/
def Db.waitingRuns (db : Db) (request : SchedulerClaimRequest) : List RunRow :=
  db.runs.rows.filter (db.claimable request.now)

/-! ## The order inside a tenant -/

theorem UUID.digits_injective : Function.Injective UUID.digits := by
  rintro ⟨a⟩ ⟨b⟩ same
  have lists : a.toList = b.toList := List.map_injective_iff.mpr (fun x y => BitVec.eq_of_toNat_eq) same
  rw [Vector.toList_inj.mp lists]

/-- The columns by which the runs of a tenant are ranked. -/
def RunRow.precedence (request : SchedulerClaimRequest) (row : RunRow) : Int ×ₗ Int ×ₗ List Nat :=
  toLex (-row.effectivePriority request, toLex (row.run.createdAt, row.run.id.digits))

section Ranks

variable {request : SchedulerClaimRequest} {base : List RunRow} {a b c : RunRow}

theorem precedes_iff : a.precedes request b = true ↔ a.precedence request < b.precedence request := by
  by_cases priority : a.effectivePriority request = b.effectivePriority request
  · by_cases age : a.run.createdAt = b.run.createdAt
    · simp [RunRow.precedes, RunRow.precedence, Prod.Lex.toLex_lt_toLex, priority, age]
    · simp [RunRow.precedes, RunRow.precedence, Prod.Lex.toLex_lt_toLex, priority, age]
  · simp [RunRow.precedes, RunRow.precedence, Prod.Lex.toLex_lt_toLex, priority]

theorem precedence_inj : a.precedence request = b.precedence request → a.run.id = b.run.id := by
  intro same
  have columns := toLex_inj.mp same
  have inner := toLex_inj.mp (congrArg Prod.snd columns)
  exact UUID.digits_injective (congrArg Prod.snd inner)

/-- A run that precedes another one of its tenant has a lower rank: what precedes it also precedes the other, and it
is not among them itself. -/
theorem rank_lt_of_precedes (member : a ∈ base) (tenant : a.run.tenantID = b.run.tenantID)
    (first : a.precedes request b = true) : tenantRank request base a < tenantRank request base b := by
  have split := List.perm_cons_erase member
  unfold tenantRank
  simp only [← List.countP_eq_length_filter, split.countP_eq, List.countP_cons]
  have itself : a.precedes request a = false := by
    rw [← Bool.not_eq_true, precedes_iff]
    exact lt_irrefl _
  have others : (base.erase a).countP (fun other => other.run.tenantID == a.run.tenantID && other.precedes request a) ≤
      (base.erase a).countP (fun other => other.run.tenantID == b.run.tenantID && other.precedes request b) := by
    refine List.countP_mono_left fun other _ before => ?_
    simp only [Bool.and_eq_true, beq_iff_eq, precedes_iff] at before ⊢
    exact ⟨before.1.trans tenant, before.2.trans (precedes_iff.mp first)⟩
  simp only [tenant] at others
  simp only [itself, Bool.and_false, Bool.false_eq_true, if_false, tenant, beq_self_eq_true, first, Bool.and_self, if_true]
  omega

/-- The ranks of a tenant's runs are their places in the order of effective priority, age and identifier. -/
theorem rank_lt_iff (distinct : ∀ x ∈ base, ∀ y ∈ base, x.run.id = y.run.id → x = y) (first : a ∈ base) (second : b ∈ base)
    (tenant : a.run.tenantID = b.run.tenantID) :
    tenantRank request base a < tenantRank request base b ↔ a.precedes request b = true := by
  refine ⟨fun lower => ?_, rank_lt_of_precedes first tenant⟩
  rcases lt_trichotomy (a.precedence request) (b.precedence request) with less | same | more
  · exact precedes_iff.mpr less
  · rw [distinct a first b second (precedence_inj same)] at lower
    exact absurd lower (lt_irrefl _)
  · exact absurd (rank_lt_of_precedes second tenant.symm (precedes_iff.mpr more)) (not_lt.mpr lower.le)

end Ranks

/-! ## The order of the claim -/

/-- The columns by which a claim takes runs. -/
def RunRow.turn (request : SchedulerClaimRequest) (base : List RunRow) (row : RunRow) :
    Nat ×ₗ Int ×ₗ Int ×ₗ List Nat ×ₗ List Nat :=
  toLex (tenantRank request base row, toLex (-row.effectivePriority request, toLex (row.run.createdAt,
    toLex (row.run.tenantID.digits, row.run.id.digits))))

section Order

variable {request : SchedulerClaimRequest} {base : List RunRow} {a b : RunRow}

theorem claimOrder_iff : claimOrder request base a b = true ↔ a.turn request base ≤ b.turn request base := by
  unfold claimOrder RunRow.turn
  by_cases rank : tenantRank request base a = tenantRank request base b
  · by_cases priority : a.effectivePriority request = b.effectivePriority request
    · by_cases age : a.run.createdAt = b.run.createdAt
      · by_cases tenant : a.run.tenantID = b.run.tenantID
        · simp [Prod.Lex.toLex_le_toLex, rank, priority, age, tenant]
        · simp [Prod.Lex.toLex_le_toLex, rank, priority, age, tenant, UUID.digits_injective.eq_iff]
      · simp [Prod.Lex.toLex_le_toLex, rank, priority, age]
    · simp [Prod.Lex.toLex_le_toLex, rank, priority]
  · simp [Prod.Lex.toLex_le_toLex, rank]

theorem rank_le_of_claimOrder (ordered : claimOrder request base a b = true) :
    tenantRank request base a ≤ tenantRank request base b := by
  rcases Prod.Lex.toLex_le_toLex.mp (claimOrder_iff.mp ordered) with less | same
  · exact less.le
  · exact same.1.le

theorem pairwise_claimOrder (rows : List RunRow) :
    (rows.insertionSort fun a b => claimOrder request base a b).Pairwise fun a b => claimOrder request base a b := by
  have : Std.Total fun a b : RunRow => claimOrder request base a b = true :=
    ⟨fun a b => by simp only [claimOrder_iff]; exact le_total _ _⟩
  have : IsTrans RunRow fun a b => claimOrder request base a b = true :=
    ⟨fun a b c => by simp only [claimOrder_iff]; exact le_trans⟩
  exact List.pairwise_insertionSort _ rows

end Order

/-! ## What a claim takes -/

section Claim

variable {db : Db} {request : SchedulerClaimRequest} {skipped : Key → Bool} {row other : RunRow} {reply : List ClaimedRun}

theorem length_claims : (db.claims request skipped).length ≤ request.batchSize :=
  List.length_take_le _ _

theorem mem_waitingRuns_of_claims (claimed : row ∈ db.claims request skipped) : row ∈ db.waitingRuns request := by
  have inside := (List.mem_filter.mp (List.mem_of_mem_take claimed)).1
  rwa [List.mem_insertionSort] at inside

/-- The queue is sorted by rank and cut after the batch: what is free and has a lower rank than a claimed run is in
front of the cut. -/
theorem mem_claims_of_rank_lt (claimed : row ∈ db.claims request skipped) (candidate : other ∈ db.waitingRuns request)
    (free : skipped (.run other.run.id) = false)
    (lower : tenantRank request (db.waitingRuns request) other < tenantRank request (db.waitingRuns request) row) :
    other ∈ db.claims request skipped := by
  have sorted := (@pairwise_claimOrder request (db.waitingRuns request) (db.waitingRuns request)).sublist
    (List.filter_sublist (p := fun row => !skipped (.run row.run.id)))
  have queued : other ∈ ((db.waitingRuns request).insertionSort
      fun a b => claimOrder request (db.waitingRuns request) a b).filter fun row => !skipped (.run row.run.id) :=
    List.mem_filter.mpr ⟨(List.mem_insertionSort _).mpr candidate, by simp [free]⟩
  rw [← List.take_append_drop request.batchSize (List.filter _ _)] at sorted queued
  rcases List.mem_append.mp queued with taken | left
  · exact taken
  · have ordered := (List.pairwise_append.mp sorted).2.2 row claimed other left
    exact absurd lower (not_lt.mpr (rank_le_of_claimOrder ordered))

/-- A claim that succeeds stores the runs it takes with their leases, and answers with them. -/
theorem claimRuns_effect (answered : ((claimRuns request).run db skipped).answer = .ok reply) :
    ((claimRuns request).run db skipped).writes =
        (db.claims request skipped).map (fun row => .run (claimedRow request row)) ∧
      reply = (db.claims request skipped).filterMap fun row => (db.currentAttempt? row).map (claimedRun request row) := by
  unfold claimRuns at answered ⊢
  dsimp only at answered ⊢
  split at answered
  · cases answered
  · next small =>
    split at answered
    · cases answered
    · next storable =>
      cases answered
      rw [if_neg small, if_neg storable]
      exact ⟨rfl, rfl⟩

theorem stored_inj (first : row ∈ db.runs) (second : other ∈ db.runs) (id : row.run.id = other.run.id) : row = other := by
  have found := Table.get?_key first
  rw [id, Table.get?_key second] at found
  exact (Option.some.inj found).symm

/-- A claimed run has a current attempt, so the answer has one entry for every run that the claim takes. -/
theorem claims_reply : ((db.claims request skipped).filterMap fun row =>
      (db.currentAttempt? row).map (claimedRun request row)).map ClaimedRun.id =
    (db.claims request skipped).map (·.run.id) := by
  rw [List.map_filterMap, ← List.filterMap_eq_map]
  refine List.filterMap_congr fun row taken => ?_
  have claimable := (List.mem_filter.mp (mem_waitingRuns_of_claims taken)).2
  simp only [Db.claimable, Bool.and_eq_true, Option.any_eq_true] at claimable
  obtain ⟨-, attempt, current, -⟩ := claimable
  rw [current]
  rfl

/-- What a waiting run satisfies. -/
theorem waiting_of_claimable (checked : row.checks = true) (claimable : db.claimable request.now row = true) :
    (∀ lease, row.lease = some lease → lease.expiresAt ≤ pgTime request.now) ∧
      (row.run.status = .capacityWait → ∃ time, row.nextEligibleAt = some time ∧ time ≤ pgTime request.now) ∧
      ∃ attempt, db.currentAttempt? row = some attempt ∧ attempt.status = .pending := by
  simp only [Db.claimable, Bool.and_eq_true, Option.any_eq_true, beq_iff_eq] at claimable
  obtain ⟨waits, attempt⟩ := claimable
  refine ⟨fun lease held => ?_, fun status => ?_, attempt⟩
  · have status := (RunRow.lease_isSome_of_checks checked).mp (by rw [held]; rfl)
    rw [RunRow.claimable, status, held] at waits
    simpa using waits
  · rw [RunRow.claimable, status] at waits
    simpa [Option.any_eq_true] using waits

end Claim

/-! ## A claim of two tenants -/

/-- Another tenant's run, with its attempt. -/
def addGlobex (db : Db) : Db :=
  { db with
    runs := db.runs.put (createdRow ((({ Acme.input "m" with tenantID := Acme.id 3 }).run (Acme.id 40)) (Acme.seconds 950)))
    attempts := db.attempts.put { Acme.attempt (Acme.id 41) (Acme.id 40) (Acme.seconds 950) with tenantID := Acme.id 3 } }

/-- Three runs of Acme and one younger run of another tenant wait. -/
def acmeQueued : Db := addGlobex (ranFrom Acme.db [Acme.create 10 "k", Acme.create 20 "l", Acme.create 30 "m"]).db

/-- A batch of two. -/
def acmeBatch : SchedulerClaimRequest := ⟨"scheduler-1", Acme.seconds 1000, 60 * Operator.second, 2, 60 * Operator.second, 10⟩

/-- Another scheduler has locked Acme's first run. -/
def acmeLocked : Key → Bool := fun key => key == .run (Acme.id 10)

theorem acmeQueued_claims : (∀ row ∈ acmeQueued.runs.rows, row.checks = true) ∧
    ((claimRuns acmeBatch).run acmeQueued fun key => acmeLocked key || (fun _ => false) key).answer.toOption.map
      (List.map ClaimedRun.id) = some [Acme.id 40, Acme.id 20] := by decide +kernel

/-- The rank of a run of the queue. -/
def acmeRank (n : BitVec 8) : Option Nat :=
  (acmeQueued.runs.get? (Acme.id n)).map (tenantRank acmeBatch (acmeQueued.waitingRuns acmeBatch))

end AgentForge.Platform
