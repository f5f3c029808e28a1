import Mathlib.Data.Prod.Lex
import Mathlib.Data.String.Basic
import AgentForge.Lib.Word
import AgentForge.Platform.Capacity

/-!
# The choice of a cluster

The least score wins, then the least projected utilisation, queue, cost and identifier. The choice is the same for
every order of the candidates, and for candidates in the ranges of the schema no step of a score overflows or
divides by zero.
-/

set_option autoImplicit false

namespace AgentForge.Platform

open Operator Lib.Word

/-! ## Scores in 64 bits -/

def checkedRatio (numerator denominator scale : Int) : Option Int := do
  let quotient ← checkedDiv 64 numerator denominator
  let result ← checked 64 (quotient * scale)
  if numerator.tmod denominator ≠ 0 then
    let product ← checked 64 (numerator.tmod denominator * scale)
    let less ← checked 64 (product - 1)
    let part ← checkedDiv 64 less denominator
    let part ← checked 64 (part + 1)
    checked 64 (result + part)
  else return result

/-- The score with every step checked: no answer means that one overflows or divides by zero. -/
def ClusterCandidate.checkedScored (candidate : ClusterCandidate) (request : SelectionRequest) : Option ScoredCandidate := do
  let cpu ← checkedRatio request.cpuMillis candidate.capacity.allocatableCPUMillis 10000
  let memory ← checkedRatio request.memoryMiB candidate.capacity.allocatableMemoryMiB 10000
  let projected := max cpu memory
  let cost ← checked 64 (candidate.cluster.cpuCostMinorUnits + candidate.cluster.memoryGiBCostMinorUnits)
  let scaled ← checked 64 (projected * 1000)
  let weighted ← checkedDiv 64 scaled candidate.cluster.schedulingWeight
  let queued ← checked 64 (candidate.capacity.queuedWorkloads * 100)
  let sum ← checked 64 (weighted + queued)
  let score ← checked 64 (sum + cost)
  return { clusterID := candidate.cluster.id, score, projected, queued := candidate.capacity.queuedWorkloads, cost }

/-- The bounds on a request for a run. -/
structure SelectionRequest.Bounded (request : SelectionRequest) : Prop where
  cpu : 1 ≤ request.cpuMillis ∧ request.cpuMillis ≤ 128000
  memory : 1 ≤ request.memoryMiB ∧ request.memoryMiB ≤ 524288

/-- The ranges of a registered cluster and its capacity. -/
structure ClusterCandidate.Bounded (candidate : ClusterCandidate) : Prop where
  weight : 1 ≤ candidate.cluster.schedulingWeight ∧ candidate.cluster.schedulingWeight ≤ 1000
  cpuCost : 0 ≤ candidate.cluster.cpuCostMinorUnits ∧ candidate.cluster.cpuCostMinorUnits < 2147483648
  memoryCost : 0 ≤ candidate.cluster.memoryGiBCostMinorUnits ∧ candidate.cluster.memoryGiBCostMinorUnits < 2147483648
  queued : 0 ≤ candidate.capacity.queuedWorkloads ∧ candidate.capacity.queuedWorkloads < 2147483648
  cpu : 0 ≤ candidate.capacity.allocatableCPUMillis ∧ Fits 64 candidate.capacity.allocatableCPUMillis
  memory : 0 ≤ candidate.capacity.allocatableMemoryMiB ∧ Fits 64 candidate.capacity.allocatableMemoryMiB

section Scores

variable {numerator denominator : Int}

/-- A part of at most the whole is at most 10000 basis points, and no step of the ratio overflows. -/
theorem checkedRatio_eq (positive : 1 ≤ numerator) (few : numerator ≤ 524288) (enough : numerator ≤ denominator)
    (fits : Fits 64 denominator) :
    checkedRatio numerator denominator 10000 = some (ceilingRatio numerator denominator 10000) ∧
      0 ≤ ceilingRatio numerator denominator 10000 ∧ ceilingRatio numerator denominator 10000 ≤ 10000 := by
  rw [fits64] at fits
  have remainder : numerator.tmod denominator = numerator % denominator := Int.tmod_eq_emod_of_nonneg (by omega)
  rcases enough.lt_or_eq with less | rfl
  · have quotient : numerator / denominator = 0 := Int.ediv_eq_zero_of_lt (by omega) less
    have rest : numerator % denominator = numerator := Int.emod_eq_of_lt (by omega) less
    have part : 0 ≤ (numerator * 10000 - 1) / denominator := Int.ediv_nonneg (by omega) (by omega)
    have most : (numerator * 10000 - 1) / denominator < 10000 := by
      apply Int.ediv_lt_of_lt_mul (by omega)
      omega
    have first : checkedDiv 64 numerator denominator = some (numerator / denominator) :=
      checkedDiv_of_pos (by omega) (by omega) (by rw [quotient, fits64]; omega)
    have last : checkedDiv 64 (numerator * 10000 - 1) denominator = some ((numerator * 10000 - 1) / denominator) :=
      checkedDiv_of_pos (by omega) (by omega) (by rw [fits64]; omega)
    have exact : ceilingRatio numerator denominator 10000 = (numerator * 10000 - 1) / denominator + 1 := by
      simp only [ceilingRatio, quotient, rest, if_pos (show numerator ≠ 0 by omega)]
      omega
    refine ⟨?_, by omega, by omega⟩
    rw [exact, checkedRatio, first, remainder, rest, quotient]
    simp only [Option.bind_eq_bind, Option.bind_some, zero_mul, checked_of_fits (fits64.mpr (by omega : _ ∧ (0 : Int) < _)),
      if_pos (show numerator ≠ 0 by omega), checked_of_fits (fits64.mpr (⟨by omega, by omega⟩ : _ ∧ numerator * 10000 < _)),
      checked_of_fits (fits64.mpr (⟨by omega, by omega⟩ : _ ∧ numerator * 10000 - 1 < _)), last,
      checked_of_fits (fits64.mpr (⟨by omega, by omega⟩ : _ ∧ (numerator * 10000 - 1) / denominator + 1 < _)), zero_add]
  · have quotient : numerator / numerator = 1 := Int.ediv_self (by omega)
    have rest : numerator % numerator = 0 := Int.emod_self
    have first : checkedDiv 64 numerator numerator = some (numerator / numerator) :=
      checkedDiv_of_pos (by omega) (by omega) (by rw [quotient, fits64]; omega)
    have exact : ceilingRatio numerator numerator 10000 = 10000 := by
      simp only [ceilingRatio, quotient, rest, ne_eq, not_true_eq_false, if_false]
      omega
    refine ⟨?_, by omega, by omega⟩
    rw [exact, checkedRatio, first, remainder, rest, quotient]
    rfl

/-- A sufficient candidate has a score: no step overflows or divides by zero. -/
theorem checkedScored_eq {candidate : ClusterCandidate} {request : SelectionRequest} (bounded : candidate.Bounded)
    (small : request.Bounded) (sufficient : candidate.sufficient request = true) :
    candidate.checkedScored request = some (candidate.scored request) := by
  simp only [ClusterCandidate.sufficient, Bool.and_eq_true, decide_eq_true_eq] at sufficient
  obtain ⟨⟨⟨cpu, memory⟩, -⟩, -⟩ := sufficient
  obtain ⟨cpuRatio, cpuLow, cpuHigh⟩ := checkedRatio_eq small.cpu.1 (by have := small.cpu.2; omega) cpu bounded.cpu.2
  obtain ⟨memoryRatio, memoryLow, memoryHigh⟩ := checkedRatio_eq small.memory.1 small.memory.2 memory bounded.memory.2
  unfold ClusterCandidate.checkedScored ClusterCandidate.scored
  rw [cpuRatio, memoryRatio]
  simp only [Option.bind_eq_bind, Option.bind_some, Option.pure_def]
  generalize ceilingRatio request.cpuMillis candidate.capacity.allocatableCPUMillis 10000 = x at *
  generalize ceilingRatio request.memoryMiB candidate.capacity.allocatableMemoryMiB 10000 = y at *
  have least : 0 ≤ max x y := le_max_of_le_left cpuLow
  have most : max x y ≤ 10000 := max_le cpuHigh memoryHigh
  generalize max x y = projected at least most
  obtain ⟨weight, -⟩ := bounded.weight
  have cpuCost := bounded.cpuCost
  have memoryCost := bounded.memoryCost
  have queued := bounded.queued
  have low : 0 ≤ projected * 1000 / candidate.cluster.schedulingWeight := Int.ediv_nonneg (by omega) (by omega)
  have high : projected * 1000 / candidate.cluster.schedulingWeight ≤ projected * 1000 := Int.ediv_le_self _ (by omega)
  have weighted : checkedDiv 64 (projected * 1000) candidate.cluster.schedulingWeight =
      some (projected * 1000 / candidate.cluster.schedulingWeight) :=
    checkedDiv_of_pos (by omega) (by omega) (by rw [fits64]; omega)
  have cost : checked 64 (candidate.cluster.cpuCostMinorUnits + candidate.cluster.memoryGiBCostMinorUnits) = some _ :=
    checked_of_fits (fits64.mpr (by omega))
  have scaled : checked 64 (projected * 1000) = some _ := checked_of_fits (fits64.mpr (by omega))
  have waiting : checked 64 (candidate.capacity.queuedWorkloads * 100) = some _ := checked_of_fits (fits64.mpr (by omega))
  have sum : checked 64 (projected * 1000 / candidate.cluster.schedulingWeight + candidate.capacity.queuedWorkloads * 100) =
      some _ := checked_of_fits (fits64.mpr (by omega))
  have score : checked 64 (projected * 1000 / candidate.cluster.schedulingWeight + candidate.capacity.queuedWorkloads * 100 +
      (candidate.cluster.cpuCostMinorUnits + candidate.cluster.memoryGiBCostMinorUnits)) = some _ :=
    checked_of_fits (fits64.mpr (by omega))
  simp only [Option.bind_some, cost, scaled, weighted, waiting, sum, score]

end Scores

/-! ## The least candidate -/

/-- The columns by which candidates are compared. -/
def ScoredCandidate.key (c : ScoredCandidate) : Int ×ₗ Int ×ₗ Int ×ₗ Int ×ₗ String :=
  toLex (c.score, toLex (c.projected, toLex (c.queued, toLex (c.cost, c.clusterID))))

section Least

variable {a b c : ScoredCandidate} {ranked others : List ScoredCandidate}

theorem less_iff : a.less b = true ↔ a.key < b.key := by
  unfold ScoredCandidate.less ScoredCandidate.key
  by_cases score : a.score = b.score
  · by_cases projected : a.projected = b.projected
    · by_cases queued : a.queued = b.queued
      · by_cases cost : a.cost = b.cost
        · simp [Prod.Lex.toLex_lt_toLex, score, projected, queued, cost]
        · simp [Prod.Lex.toLex_lt_toLex, score, projected, queued, cost]
      · simp [Prod.Lex.toLex_lt_toLex, score, projected, queued]
    · simp [Prod.Lex.toLex_lt_toLex, score, projected]
  · simp [Prod.Lex.toLex_lt_toLex, score]

theorem key_injective : Function.Injective ScoredCandidate.key := by
  rintro ⟨id, score, projected, queued, cost⟩ ⟨id', score', projected', queued', cost'⟩ same
  simp only [ScoredCandidate.key, toLex_inj, Prod.mk.injEq] at same
  obtain ⟨rfl, rfl, rfl, rfl, rfl⟩ := same
  rfl

theorem firstRanked_least (first : firstRanked ranked = some c) : ∀ d ∈ ranked, c.key ≤ d.key := by
  induction ranked generalizing c with
  | nil => cases first
  | cons head rest ih =>
    rw [firstRanked] at first
    cases found : firstRanked rest with
    | none =>
      rw [found] at first
      cases first
      rw [firstRanked_eq_none.mp found]
      simp
    | some best =>
      rw [found] at first
      cases first
      have least := ih found
      intro d member
      split
      · next less =>
        rcases List.mem_cons.mp member with rfl | inside
        · exact (less_iff.mp less).le
        · exact least d inside
      · next kept =>
        rw [less_iff, not_lt] at kept
        rcases List.mem_cons.mp member with rfl | inside
        · exact le_refl _
        · exact kept.trans (least d inside)

/-- The first candidate is the one that is least in every column. -/
theorem firstRanked_eq_some : firstRanked ranked = some c ↔ c ∈ ranked ∧ ∀ d ∈ ranked, c.key ≤ d.key := by
  refine ⟨fun first => ⟨firstRanked_mem first, firstRanked_least first⟩, fun ⟨member, least⟩ => ?_⟩
  cases found : firstRanked ranked with
  | none =>
    rw [firstRanked_eq_none.mp found] at member
    cases member
  | some best =>
    have same := le_antisymm (least best (firstRanked_mem found)) (firstRanked_least found c member)
    rw [key_injective same]

theorem firstRanked_perm (perm : ranked.Perm others) : firstRanked ranked = firstRanked others := by
  ext c
  simp only [firstRanked_eq_some, perm.mem_iff]

end Least

/-! ## Strategies -/

/-- The candidates that a strategy chooses from. -/
def Strategy.pool (strategy : Strategy) (candidates : List ClusterCandidate) (request : SelectionRequest) :
    List ClusterCandidate :=
  match strategy with
  | .leastLoaded => candidates
  | .regionAffinity =>
    let regional := candidates.filter fun candidate => candidate.cluster.region == request.preferredRegion
    if request.preferredRegion ≠ "" ∧ regional.any (·.sufficient request) = true then regional else candidates

/-- The choice is made outside the region that the request prefers. -/
def Strategy.fallsBack (strategy : Strategy) (candidates : List ClusterCandidate) (request : SelectionRequest) : Bool :=
  strategy == .regionAffinity && request.preferredRegion != "" &&
    !(candidates.filter fun candidate => candidate.cluster.region == request.preferredRegion).any (·.sufficient request)

/-- The decision describes the least sufficient candidate of the pool. -/
structure Chooses (pool : List ClusterCandidate) (request : SelectionRequest) (decision : SelectionDecision)
    (candidate : ClusterCandidate) : Prop where
  member : candidate ∈ pool
  sufficient : candidate.sufficient request = true
  cluster : decision.clusterID = candidate.cluster.id
  columns : (⟨decision.clusterID, decision.score, decision.projectedUtilizationBPS, decision.queuedWorkloads,
    decision.effectiveCost⟩ : ScoredCandidate) = candidate.scored request
  least : ∀ other ∈ pool, other.sufficient request = true →
    (candidate.scored request).key ≤ (other.scored request).key

section Strategies

variable {candidates others pool : List ClusterCandidate} {request : SelectionRequest} {now : Time}

theorem request_valid (small : request.Bounded) (clock : now ≠ 0) :
    ¬(request.cpuMillis ≤ 0 ∨ request.memoryMiB ≤ 0 ∨ now = 0) := by
  rintro (none | none | zero)
  · exact absurd small.cpu.1 (by omega)
  · exact absurd small.memory.1 (by omega)
  · exact clock zero

theorem rank_of_none (small : request.Bounded) (clock : now ≠ 0) (strategy : Strategy) (fallback : Bool)
    (insufficient : ∀ candidate ∈ pool, candidate.sufficient request = false) :
    rankCandidates pool request now strategy fallback =
      .error (.noCapacity "no eligible cluster has sufficient capacity") := by
  have empty : pool.filter (·.sufficient request) = [] :=
    List.filter_eq_nil_iff.mpr fun candidate member => by simp [insufficient candidate member]
  rw [rankCandidates, if_neg (request_valid small clock), empty]
  rfl

theorem rank_of_sufficient (small : request.Bounded) (clock : now ≠ 0) (strategy : Strategy) (fallback : Bool)
    (some : ∃ candidate ∈ pool, candidate.sufficient request = true) :
    ∃ decision candidate, rankCandidates pool request now strategy fallback = .ok decision ∧
      Chooses pool request decision candidate ∧ decision.usedRegionFallback = fallback := by
  rw [rankCandidates, if_neg (request_valid small clock)]
  cases first : firstRanked ((pool.filter (·.sufficient request)).map (·.scored request)) with
  | none =>
    obtain ⟨candidate, member, sufficient⟩ := some
    have empty := firstRanked_eq_none.mp first
    rw [List.map_eq_nil_iff, List.filter_eq_nil_iff] at empty
    exact absurd sufficient (empty candidate member)
  | some selected =>
    obtain ⟨inside, least⟩ := firstRanked_eq_some.mp first
    obtain ⟨candidate, kept, rfl⟩ := List.mem_map.mp inside
    obtain ⟨member, sufficient⟩ := List.mem_filter.mp kept
    exact ⟨_, candidate, rfl, ⟨member, sufficient, rfl, rfl, fun other listed enough =>
      least _ (List.mem_map_of_mem (List.mem_filter.mpr ⟨listed, enough⟩))⟩, rfl⟩

/-- The ranking does not depend on the order of the candidates. -/
theorem rankCandidates_perm (perm : others.Perm pool) (strategy : Strategy) (fallback : Bool) :
    rankCandidates others request now strategy fallback = rankCandidates pool request now strategy fallback := by
  rw [rankCandidates, rankCandidates, firstRanked_perm ((perm.filter _).map _)]

theorem select_perm (perm : others.Perm candidates) (strategy : Strategy) :
    strategy.select others request now = strategy.select candidates request now := by
  cases strategy with
  | leastLoaded => exact rankCandidates_perm perm _ _
  | regionAffinity =>
    unfold Strategy.select selectGlobal
    dsimp only
    rw [rankCandidates_perm (perm.filter _), rankCandidates_perm perm]

/-- A choice among all candidates keeps the ranking's decision apart from its text. -/
theorem selectGlobal_of_sufficient (small : request.Bounded) (clock : now ≠ 0)
    (some : ∃ candidate ∈ candidates, candidate.sufficient request = true) :
    ∃ decision candidate, selectGlobal candidates request now = .ok decision ∧
      Chooses candidates request decision candidate ∧ decision.usedRegionFallback = (request.preferredRegion != "") := by
  obtain ⟨decision, candidate, ranked, chooses, fallback⟩ :=
    rank_of_sufficient small clock .regionAffinity (request.preferredRegion != "") some
  rw [selectGlobal, ranked]
  refine ⟨_, candidate, rfl, ?_⟩
  dsimp only
  split
  · exact ⟨⟨chooses.member, chooses.sufficient, chooses.cluster, chooses.columns, chooses.least⟩, fallback⟩
  · exact ⟨chooses, fallback⟩

theorem select_of_none (strategy : Strategy) (small : request.Bounded) (clock : now ≠ 0)
    (insufficient : ∀ candidate ∈ candidates, candidate.sufficient request = false) :
    strategy.select candidates request now = .error (.noCapacity "no eligible cluster has sufficient capacity") := by
  cases strategy with
  | leastLoaded => exact rank_of_none small clock _ _ insufficient
  | regionAffinity =>
    unfold Strategy.select selectGlobal
    dsimp only
    rw [rank_of_none small clock _ _ insufficient,
      rank_of_none small clock _ _ fun candidate member => insufficient candidate (List.mem_filter.mp member).1]
    split <;> rfl

theorem select_of_sufficient (strategy : Strategy) (small : request.Bounded) (clock : now ≠ 0)
    (some : ∃ candidate ∈ candidates, candidate.sufficient request = true) :
    ∃ decision candidate, strategy.select candidates request now = .ok decision ∧
      Chooses (strategy.pool candidates request) request decision candidate ∧
      decision.usedRegionFallback = strategy.fallsBack candidates request := by
  cases strategy with
  | leastLoaded => exact rank_of_sufficient small clock _ _ some
  | regionAffinity =>
    unfold Strategy.select Strategy.pool Strategy.fallsBack
    dsimp only
    by_cases preferred : request.preferredRegion = ""
    · rw [if_neg (not_not_intro preferred), if_neg fun both => both.1 preferred]
      obtain ⟨decision, candidate, chosen, chooses, fallback⟩ := selectGlobal_of_sufficient small clock some
      exact ⟨decision, candidate, chosen, chooses, by simp [fallback, preferred]⟩
    · rw [if_pos preferred]
      cases regional : (candidates.filter fun candidate => candidate.cluster.region == request.preferredRegion).any
          (·.sufficient request) with
      | true =>
        obtain ⟨decision, candidate, ranked, chooses, fallback⟩ :=
          rank_of_sufficient small clock .regionAffinity false (List.any_eq_true.mp regional)
        rw [ranked, if_pos ⟨preferred, rfl⟩]
        exact ⟨_, candidate, rfl, ⟨chooses.member, chooses.sufficient, chooses.cluster, chooses.columns, chooses.least⟩,
          by simp [fallback]⟩
      | false =>
        have none : ∀ candidate ∈ candidates.filter fun candidate => candidate.cluster.region == request.preferredRegion,
            candidate.sufficient request = false := by simpa using regional
        rw [rank_of_none small clock _ _ none, if_neg fun both => nomatch both.2]
        obtain ⟨decision, candidate, chosen, chooses, fallback⟩ := selectGlobal_of_sufficient small clock some
        exact ⟨decision, candidate, chosen, chooses, by simp [fallback]⟩

/-- A strategy reports missing capacity exactly if no candidate is sufficient, and otherwise chooses the least
sufficient one of its pool; the fallback is reported exactly if a preferred region has none. -/
theorem select_least (strategy : Strategy) (small : request.Bounded) (clock : now ≠ 0)
    (bounded : ∀ candidate ∈ candidates, candidate.Bounded) :
    ((∃ reason, strategy.select candidates request now = .error (.noCapacity reason)) ↔
      ∀ candidate ∈ candidates, candidate.sufficient request = false) ∧
    ((∃ candidate ∈ candidates, candidate.sufficient request = true) →
      ∃ decision candidate, strategy.select candidates request now = .ok decision ∧
        Chooses (strategy.pool candidates request) request decision candidate ∧
        decision.usedRegionFallback = strategy.fallsBack candidates request) ∧
    (∀ others, others.Perm candidates → strategy.select others request now = strategy.select candidates request now) ∧
    ∀ candidate ∈ candidates, candidate.sufficient request = true →
      candidate.checkedScored request = some (candidate.scored request) := by
  refine ⟨⟨fun ⟨reason, refused⟩ candidate member => ?_, fun insufficient => ⟨_, select_of_none strategy small clock insufficient⟩⟩,
    select_of_sufficient strategy small clock, fun others perm => select_perm perm strategy,
    fun candidate member sufficient => checkedScored_eq (bounded candidate member) small sufficient⟩
  rw [← Bool.not_eq_true]
  intro sufficient
  obtain ⟨decision, -, chosen, -⟩ := select_of_sufficient strategy small clock ⟨candidate, member, sufficient⟩
  rw [refused] at chosen
  cases chosen

end Strategies

/-! ## Clusters of three regions -/

def candidateAt (id region : String) (cpuMillis queued : Int) : ClusterCandidate where
  cluster := {
    id, region, status := .active, supportedRuntimes := ["python"], supportedExecutionProfiles := ["standard"]
    maintenance := false, tenantRestricted := false, schedulingWeight := 100, cpuCostMinorUnits := 5
    memoryGiBCostMinorUnits := 5, lastHeartbeatAt := 1, version := 1, createdAt := 1, updatedAt := 1 }
  capacity := ⟨id, 1, cpuMillis, 8192, queued⟩

/-- A full cluster in the west, two equal ones in the east and a busy one in the north. -/
def mixedCandidates : List ClusterCandidate :=
  [candidateAt "west-1" "west" 500 0, candidateAt "east-2" "east" 8000 0, candidateAt "east-1" "east" 8000 0,
    candidateAt "north-1" "north" 8000 9]

def preferring (region : String) : SelectionRequest := ⟨1000, 1024, region⟩

theorem mixedCandidates_bounded : ∀ candidate ∈ mixedCandidates, candidate.Bounded := by
  simp only [mixedCandidates, List.forall_mem_cons, List.not_mem_nil, false_imp_iff, implies_true, and_true]
  refine ⟨?_, ?_, ?_, ?_⟩ <;> constructor <;> decide

/-- The full west is left for the first of the two equal clusters in the east, with a fallback. The north is kept to,
although the east is less loaded. -/
theorem select_mixed :
    (∃ decision candidate, Strategy.regionAffinity.select mixedCandidates (preferring "west") 1 = .ok decision ∧
      Chooses (Strategy.regionAffinity.pool mixedCandidates (preferring "west")) (preferring "west") decision candidate ∧
      decision.clusterID = "east-1" ∧ decision.usedRegionFallback = true) ∧
    ∃ decision candidate, Strategy.regionAffinity.select mixedCandidates (preferring "north") 1 = .ok decision ∧
      Chooses (Strategy.regionAffinity.pool mixedCandidates (preferring "north")) (preferring "north") decision candidate ∧
      decision.clusterID = "north-1" ∧ decision.usedRegionFallback = false := by
  have chooses := fun region => (@select_least mixedCandidates (preferring region) 1 .regionAffinity
    ⟨by simp [preferring], by simp [preferring]⟩ (by decide) mixedCandidates_bounded).2.1
      ⟨candidateAt "east-1" "east" 8000 0, by simp [mixedCandidates], rfl⟩
  have chosen : (Strategy.regionAffinity.select mixedCandidates (preferring "west") 1).toOption.map (·.clusterID) =
      some "east-1" ∧ (Strategy.regionAffinity.select mixedCandidates (preferring "north") 1).toOption.map (·.clusterID) =
        some "north-1" := by decide +kernel
  obtain ⟨decision, candidate, selected, least, fallback⟩ := chooses "west"
  obtain ⟨decision', candidate', selected', least', fallback'⟩ := chooses "north"
  rw [selected, selected'] at chosen
  exact ⟨⟨decision, candidate, selected, least, Option.some.inj chosen.1, fallback.trans (by decide +kernel)⟩,
    decision', candidate', selected', least', Option.some.inj chosen.2, fallback'.trans (by decide +kernel)⟩

/-! ## A request without a preferred region -/

def roomyCandidate : ClusterCandidate := candidateAt "east-1" "east" 8000 0

def anywhere : SelectionRequest := preferring ""

/-- No candidate is in the region of the request, since it names none, and the choice among all candidates is not
reported as a fallback. -/
theorem unpreferred_choice : (∀ candidate ∈ [roomyCandidate], candidate.cluster.region ≠ anywhere.preferredRegion) ∧
    roomyCandidate.sufficient anywhere = true ∧
    (Strategy.regionAffinity.select [roomyCandidate] anywhere 1).toOption.map (·.usedRegionFallback) = some false := by
  decide

end AgentForge.Platform
