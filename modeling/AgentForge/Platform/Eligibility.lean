import AgentForge.Platform.Policy

/-!
# Laws of the eligibility decision

What is expected of `EvaluateEligibility`: a rejection depends on the statuses, the runtime, the profile and the
policy only, lower numbers keep a run eligible, an eligible run stays within the limits, and a deferral ends later
than now. The sums of resources are 64-bit ones: a sum beyond the range is negative, and a run that exceeds its
tenant's limit is eligible. At the last second of the clock a deferral ends at once. In every other case the
decision is as expected.
-/

set_option autoImplicit false

namespace AgentForge.Platform

open Operator Lib.Word

/-- The values that the resource fields of an input can have. -/
structure EligibilityInput.Typed (input : EligibilityInput) : Prop where
  activeCPU : Fits 64 input.usage.activeCPUMillis
  activeMemory : Fits 64 input.usage.activeMemoryMiB
  cpu : Fits 64 input.request.cpuMillis
  memory : Fits 64 input.request.memoryMiB
  limits : ∀ policy ∈ input.policy, Fits 64 policy.maxCPUMillis ∧ Fits 64 policy.maxMemoryMiB

/-! ## What the rules decide -/

section Rules

variable {policy : SchedulingPolicy} {input : EligibilityInput} {decision : EligibilityDecision}

theorem resourceStatusRule_eq_none :
    resourceStatusRule policy input = none ↔ input.tenantStatus = "ACTIVE" ∧ input.projectStatus = "ACTIVE" := by
  unfold resourceStatusRule
  split
  · simp_all
  · split <;> simp_all

theorem runtimeProfileRule_eq_none :
    runtimeProfileRule policy input = none ↔
      input.request.runtime ∈ policy.allowedRuntimes ∧ input.request.executionProfile ∈ policy.allowedProfiles := by
  unfold runtimeProfileRule
  split
  · simp_all
  · split <;> simp_all

theorem concurrencyRule_eq_none :
    concurrencyRule policy input = none ↔
      input.usage.activeTenantRuns < policy.maxConcurrentRuns ∧
        input.usage.activeUserRuns < policy.maxUserConcurrentRuns := by
  unfold concurrencyRule
  split
  · next full => simp [not_lt.mpr full]
  · next room =>
    split
    · next full => simp [not_lt.mpr full]
    · next more => exact iff_of_true rfl ⟨not_le.mp room, not_le.mp more⟩

theorem queueRule_eq_none :
    queueRule policy input = none ↔ input.usage.queuedTenantRuns ≤ policy.maxQueuedRuns := by
  unfold queueRule
  split
  · next full => simp [not_le.mpr full]
  · next room => exact iff_of_true rfl (not_lt.mp room)

theorem resourceQuotaRule_eq_none : resourceQuotaRule policy input = none ↔
    wrap (input.usage.activeCPUMillis + input.request.cpuMillis) ≤ policy.maxCPUMillis ∧
      wrap (input.usage.activeMemoryMiB + input.request.memoryMiB) ≤ policy.maxMemoryMiB := by
  unfold resourceQuotaRule
  split
  · next full => simp [not_le.mpr full]
  · next room =>
    split
    · next full => simp [not_le.mpr full]
    · next more => exact iff_of_true rfl ⟨not_lt.mp room, not_lt.mp more⟩

theorem budgetRule_eq_none :
    budgetRule policy input = none ↔ input.usage.budgetUsedMinorUnits < policy.dailyBudgetMinorUnits := by
  unfold budgetRule
  split
  · next full => simp [not_lt.mpr full]
  · next room => exact iff_of_true rfl (not_le.mp room)

/-- The limits other than those on CPU and memory. -/
structure AdmitsOthers (policy : SchedulingPolicy) (input : EligibilityInput) : Prop where
  tenant : input.tenantStatus = "ACTIVE"
  project : input.projectStatus = "ACTIVE"
  runtime : input.request.runtime ∈ policy.allowedRuntimes
  profile : input.request.executionProfile ∈ policy.allowedProfiles
  tenantRuns : input.usage.activeTenantRuns < policy.maxConcurrentRuns
  userRuns : input.usage.activeUserRuns < policy.maxUserConcurrentRuns
  queue : input.usage.queuedTenantRuns ≤ policy.maxQueuedRuns
  budget : input.usage.budgetUsedMinorUnits < policy.dailyBudgetMinorUnits

theorem eligibilityRules_eq_none : eligibilityRules.findSome? (fun rule => rule policy input) = none ↔
    AdmitsOthers policy input ∧
      wrap (input.usage.activeCPUMillis + input.request.cpuMillis) ≤ policy.maxCPUMillis ∧
      wrap (input.usage.activeMemoryMiB + input.request.memoryMiB) ≤ policy.maxMemoryMiB := by
  simp only [List.findSome?_eq_none_iff, eligibilityRules, List.mem_cons, List.not_mem_nil, or_false, forall_eq_or_imp,
    forall_eq, resourceStatusRule_eq_none, runtimeProfileRule_eq_none, concurrencyRule_eq_none, queueRule_eq_none,
    resourceQuotaRule_eq_none, budgetRule_eq_none]
  constructor
  · rintro ⟨⟨tenant, project⟩, ⟨runtime, profile⟩, ⟨tenantRuns, userRuns⟩, queue, resources, budget⟩
    exact ⟨⟨tenant, project, runtime, profile, tenantRuns, userRuns, queue, budget⟩, resources⟩
  · rintro ⟨⟨tenant, project, runtime, profile, tenantRuns, userRuns, queue, budget⟩, resources⟩
    exact ⟨⟨tenant, project⟩, ⟨runtime, profile⟩, ⟨tenantRuns, userRuns⟩, queue, resources, budget⟩

/-- A status or a value that the policy never admits. -/
def Rejected (policy : SchedulingPolicy) (input : EligibilityInput) : Prop :=
  ¬((input.tenantStatus = "ACTIVE" ∧ input.projectStatus = "ACTIVE") ∧
    input.request.runtime ∈ policy.allowedRuntimes ∧ input.request.executionProfile ∈ policy.allowedProfiles)

theorem resourceStatusRule_reject (fires : resourceStatusRule policy input = some decision) : decision.outcome = .reject := by
  unfold resourceStatusRule at fires
  split at fires
  · cases fires
    rfl
  · split at fires <;> cases fires
    rfl

theorem runtimeProfileRule_reject (fires : runtimeProfileRule policy input = some decision) : decision.outcome = .reject := by
  unfold runtimeProfileRule at fires
  split at fires
  · cases fires
    rfl
  · split at fires <;> cases fires
    rfl

/-- The rules that compare usage with the limits defer the run by the policy's duration. -/
theorem usageRule_defer {rule : EligibilityRule} (member : rule ∈ [concurrencyRule, queueRule, resourceQuotaRule, budgetRule])
    (fires : rule policy input = some decision) :
    decision.outcome = .defer ∧ decision.nextEligibleAt = some (Time.add input.now policy.deferralDuration) := by
  simp only [List.mem_cons, List.not_mem_nil, or_false] at member
  rcases member with rfl | rfl | rfl | rfl <;>
    simp only [concurrencyRule, queueRule, resourceQuotaRule, budgetRule] at fires <;>
    split at fires <;> (try split at fires) <;> cases fires <;> exact ⟨rfl, rfl⟩

/-- What blocks a run either rejects it for its status, runtime or profile, or defers it. -/
theorem blocked_cases (blocked : eligibilityRules.findSome? (fun rule => rule policy input) = some decision) :
    (decision.outcome = .reject ∧ Rejected policy input) ∨
      (decision.outcome = .defer ∧ ¬ Rejected policy input ∧
        decision.nextEligibleAt = some (Time.add input.now policy.deferralDuration)) := by
  rw [eligibilityRules, List.findSome?_cons] at blocked
  cases status : resourceStatusRule policy input with
  | some found =>
    rw [status] at blocked
    cases blocked
    refine .inl ⟨resourceStatusRule_reject status, fun admitted => ?_⟩
    rw [resourceStatusRule_eq_none.mpr admitted.1] at status
    cases status
  | none =>
    rw [status, List.findSome?_cons] at blocked
    cases values : runtimeProfileRule policy input with
    | some found =>
      rw [values] at blocked
      cases blocked
      refine .inl ⟨runtimeProfileRule_reject values, fun admitted => ?_⟩
      rw [runtimeProfileRule_eq_none.mpr admitted.2] at values
      cases values
    | none =>
      rw [values] at blocked
      obtain ⟨rule, member, fires⟩ := List.exists_of_findSome?_eq_some blocked
      obtain ⟨defers, later⟩ := usageRule_defer member fires
      exact .inr ⟨defers, not_not_intro ⟨resourceStatusRule_eq_none.mp status, runtimeProfileRule_eq_none.mp values⟩, later⟩

theorem applyRules_eligible_iff : (applyRules policy input).outcome = .eligible ↔
    AdmitsOthers policy input ∧
      wrap (input.usage.activeCPUMillis + input.request.cpuMillis) ≤ policy.maxCPUMillis ∧
      wrap (input.usage.activeMemoryMiB + input.request.memoryMiB) ≤ policy.maxMemoryMiB := by
  rw [← eligibilityRules_eq_none]
  unfold applyRules
  cases blocked : eligibilityRules.findSome? fun rule => rule policy input with
  | none => simp [eligibleDecision]
  | some decision =>
    rcases blocked_cases blocked with ⟨outcome, -⟩ | ⟨outcome, -⟩
    · simp [outcome]
    · simp [outcome]

theorem applyRules_reject_iff : (applyRules policy input).outcome = .reject ↔ Rejected policy input := by
  unfold applyRules
  cases blocked : eligibilityRules.findSome? fun rule => rule policy input with
  | none =>
    have admitted := (eligibilityRules_eq_none.mp blocked).1
    have kept : ¬ Rejected policy input :=
      not_not_intro ⟨⟨admitted.tenant, admitted.project⟩, admitted.runtime, admitted.profile⟩
    simp [eligibleDecision, kept]
  | some decision =>
    rcases blocked_cases blocked with ⟨outcome, rejected⟩ | ⟨outcome, kept, -⟩
    · simp [outcome, rejected]
    · simp [outcome, kept]

theorem applyRules_defer (defers : (applyRules policy input).outcome = .defer) :
    (applyRules policy input).nextEligibleAt = some (Time.add input.now policy.deferralDuration) := by
  unfold applyRules at defers ⊢
  cases blocked : eligibilityRules.findSome? fun rule => rule policy input with
  | none =>
    rw [blocked] at defers
    cases defers
  | some decision =>
    rw [blocked] at defers
    rcases blocked_cases blocked with ⟨outcome, -⟩ | ⟨-, -, later⟩
    · rw [Option.getD_some, outcome] at defers
      cases defers
    · exact later

end Rules

/-! ## The evaluation -/

section Evaluation

variable {input : EligibilityInput} {decision : EligibilityDecision} {policy : SchedulingPolicy}

theorem deferral_pos (valid : validateSchedulingPolicy policy = .ok ()) : 0 < policy.deferralDuration := by
  unfold validateSchedulingPolicy at valid
  split at valid
  · cases valid
  · next bounds =>
    simp only [not_or, not_le] at bounds
    exact bounds.2.2.2.2.2.2.2.2.2

/-- Usage and resources that are nowhere higher. -/
structure Lowered (lower input : EligibilityInput) : Prop where
  statuses : lower.tenantStatus = input.tenantStatus ∧ lower.projectStatus = input.projectStatus
  texts : lower.request.runtime = input.request.runtime ∧ lower.request.executionProfile = input.request.executionProfile
  policy : lower.policy = input.policy
  tenantRuns : lower.usage.activeTenantRuns ≤ input.usage.activeTenantRuns
  userRuns : lower.usage.activeUserRuns ≤ input.usage.activeUserRuns
  queued : lower.usage.queuedTenantRuns ≤ input.usage.queuedTenantRuns
  activeCPU : lower.usage.activeCPUMillis ≤ input.usage.activeCPUMillis
  activeMemory : lower.usage.activeMemoryMiB ≤ input.usage.activeMemoryMiB
  budget : lower.usage.budgetUsedMinorUnits ≤ input.usage.budgetUsedMinorUnits
  cpu : lower.request.cpuMillis ≤ input.request.cpuMillis
  memory : lower.request.memoryMiB ≤ input.request.memoryMiB

/-- The input has the same status, runtime, profile and policy. -/
structure SameTerms (other input : EligibilityInput) : Prop where
  statuses : other.tenantStatus = input.tenantStatus ∧ other.projectStatus = input.projectStatus
  texts : other.request.runtime = input.request.runtime ∧ other.request.executionProfile = input.request.executionProfile
  policy : other.policy = input.policy

/-- A sum of active and requested resources leaves 64 bits, and no other limit holds the run back. -/
def Overflows (policy : SchedulingPolicy) (input : EligibilityInput) : Prop :=
  AdmitsOthers policy input.trimmed ∧
    (input.usage.activeCPUMillis + input.request.cpuMillis ≤ policy.maxCPUMillis ∨
      9223372036854775808 ≤ input.usage.activeCPUMillis + input.request.cpuMillis) ∧
    (input.usage.activeMemoryMiB + input.request.memoryMiB ≤ policy.maxMemoryMiB ∨
      9223372036854775808 ≤ input.usage.activeMemoryMiB + input.request.memoryMiB) ∧
    (9223372036854775808 ≤ input.usage.activeCPUMillis + input.request.cpuMillis ∨
      9223372036854775808 ≤ input.usage.activeMemoryMiB + input.request.memoryMiB)

/-- How long a deferral of the input lasts. -/
def EligibilityInput.deferral (input : EligibilityInput) : Duration :=
  match input.policy with
  | none => 30 * second
  | some policy => policy.deferralDuration

/-- The clock shows the last second that can be represented, and the delay leads beyond it to no later fraction. -/
def Stalls (now delay : Int) : Prop :=
  now / second = 9223372036854775807 ∧ 9223372036854775807 < (now + delay) / second ∧
    (now + delay) % second ≤ now % second

/-- The total after the run is added. -/
structure WithinLimits (policy : SchedulingPolicy) (input : EligibilityInput) : Prop where
  tenantRuns : input.usage.activeTenantRuns + 1 ≤ policy.maxConcurrentRuns
  userRuns : input.usage.activeUserRuns + 1 ≤ policy.maxUserConcurrentRuns
  cpu : input.usage.activeCPUMillis + input.request.cpuMillis ≤ policy.maxCPUMillis
  memory : input.usage.activeMemoryMiB + input.request.memoryMiB ≤ policy.maxMemoryMiB

/-- What is expected of a decision. -/
structure Lawful (input : EligibilityInput) (decision : EligibilityDecision) : Prop where
  reject : ∀ other result, SameTerms other input → evaluateEligibility other = .ok result →
    (result.outcome = .reject ↔ decision.outcome = .reject)
  lower : decision.outcome = .eligible → ∀ other result, Lowered other input → evaluateEligibility other = .ok result →
    result.outcome = .eligible
  within : decision.outcome = .eligible → ∃ policy, input.policy = some policy ∧ WithinLimits policy input
  later : decision.outcome = .defer → ∃ next, decision.nextEligibleAt = some next ∧ input.now < next

theorem reject_of_sameTerms {other : EligibilityInput} {result : EligibilityDecision} (same : SameTerms other input)
    (first : evaluateEligibility other = .ok result) (second : evaluateEligibility input = .ok decision) :
    result.outcome = .reject ↔ decision.outcome = .reject := by
  obtain ⟨-, -, read⟩ := evaluateEligibility_eq_ok.mp first
  obtain ⟨-, -, read'⟩ := evaluateEligibility_eq_ok.mp second
  rw [same.policy] at read
  rcases read with ⟨none, rfl⟩ | ⟨policy, found, -, -, rfl⟩
  · rcases read' with ⟨-, rfl⟩ | ⟨policy, found, -⟩
    · rfl
    · rw [none] at found
      cases found
  · rcases read' with ⟨none, -⟩ | ⟨policy', found', -, -, rfl⟩
    · rw [none] at found
      cases found
    · cases found.symm.trans found'
      simp only [applyRules_reject_iff, Rejected, EligibilityInput.trimmed, same.statuses,
        same.texts]

/-- A deferral ends later than now, unless it goes on beyond the last second and now is in that second. -/
theorem lt_add_iff {now delay : Int} (clock : Fits 64 (now / second)) (positive : 0 < delay) :
    now < Time.add now delay ↔ ¬ Stalls now delay := by
  rw [fits64] at clock
  unfold Time.add Stalls
  dsimp only
  split
  · simp only [second] at *
    omega
  · split
    · simp only [second] at *
      omega
    · simp only [second] at *
      omega

example : Stalls (9223372036854775807 * second) (30 * second) := by
  unfold Stalls second
  decide

theorem deferral_of_defer (evaluated : evaluateEligibility input = .ok decision) (defers : decision.outcome = .defer) :
    decision.nextEligibleAt = some (Time.add input.now input.deferral) ∧ 0 < input.deferral := by
  obtain ⟨-, -, read⟩ := evaluateEligibility_eq_ok.mp evaluated
  rcases read with ⟨missing, rfl⟩ | ⟨policy, found, valid, -, rfl⟩
  · rw [EligibilityInput.deferral, missing]
    exact ⟨rfl, by decide⟩
  · rw [EligibilityInput.deferral, found]
    exact ⟨applyRules_defer defers, deferral_pos valid⟩

theorem later_iff (clock : Fits 64 (input.now / second)) (evaluated : evaluateEligibility input = .ok decision)
    (defers : decision.outcome = .defer) :
    (∃ next, decision.nextEligibleAt = some next ∧ input.now < next) ↔ ¬ Stalls input.now input.deferral := by
  obtain ⟨next, positive⟩ := deferral_of_defer evaluated defers
  rw [← lt_add_iff clock positive, next]
  simp

/-- What an evaluation with a policy has checked of the numbers. -/
theorem evaluated_bounds (evaluated : evaluateEligibility input = .ok decision) (found : input.policy ≠ none) :
    (0 ≤ input.usage.activeCPUMillis ∧ 0 ≤ input.usage.activeMemoryMiB) ∧
      1 ≤ input.request.cpuMillis ∧ 1 ≤ input.request.memoryMiB := by
  obtain ⟨-, complete, read⟩ := evaluateEligibility_eq_ok.mp evaluated
  rcases read with ⟨none, -⟩ | ⟨policy, -, -, nonnegative, -⟩
  · exact absurd none found
  · simp only [SchedulingUsage.nonnegative, Bool.and_eq_true, decide_eq_true_eq] at nonnegative
    simp only [SchedulingRequest.complete, Bool.and_eq_true, decide_eq_true_eq] at complete
    exact ⟨⟨nonnegative.1.1.2, nonnegative.1.2⟩, complete.1.2, complete.2⟩

/-- The range of the sums that an evaluation adds. -/
theorem sums_bounds (typed : input.Typed) (evaluated : evaluateEligibility input = .ok decision)
    (found : input.policy ≠ none) :
    (0 ≤ input.usage.activeCPUMillis + input.request.cpuMillis ∧
      input.usage.activeCPUMillis + input.request.cpuMillis < 18446744073709551616) ∧
    0 ≤ input.usage.activeMemoryMiB + input.request.memoryMiB ∧
      input.usage.activeMemoryMiB + input.request.memoryMiB < 18446744073709551616 := by
  have bounds := evaluated_bounds evaluated found
  have activeCPU := fits64.mp typed.activeCPU
  have activeMemory := fits64.mp typed.activeMemory
  have cpu := fits64.mp typed.cpu
  have memory := fits64.mp typed.memory
  omega

/-- A sum that the rule lets pass is within its limit, or it has left the range. -/
theorem wrap_le_iff {sum limit : Int} (lower : 0 ≤ sum) (upper : sum < 18446744073709551616) (nonnegative : 0 ≤ limit) :
    wrap sum ≤ limit ↔ sum ≤ limit ∨ 9223372036854775808 ≤ sum := by
  by_cases fits : sum < 9223372036854775808
  · rw [wrap_of_fits (fits64.mpr ⟨by omega, fits⟩)]
    omega
  · rw [wrap_of_le (not_lt.mp fits) upper]
    omega

theorem limits_pos (valid : validateSchedulingPolicy policy = .ok ()) :
    0 ≤ policy.maxCPUMillis ∧ 0 ≤ policy.maxMemoryMiB := by
  unfold validateSchedulingPolicy at valid
  split at valid
  · cases valid
  · next bounds =>
    simp only [not_or, not_lt] at bounds
    exact ⟨le_trans (by decide) bounds.2.2.2.2.1, le_trans (by decide) bounds.2.2.2.2.2.1⟩

/-- When an evaluated run is eligible, in terms of the exact sums. -/
theorem eligible_iff_sums (typed : input.Typed) (found : input.policy = some policy)
    (evaluated : evaluateEligibility input = .ok decision) :
    decision.outcome = .eligible ↔ AdmitsOthers policy input.trimmed ∧
      (input.usage.activeCPUMillis + input.request.cpuMillis ≤ policy.maxCPUMillis ∨
        9223372036854775808 ≤ input.usage.activeCPUMillis + input.request.cpuMillis) ∧
      (input.usage.activeMemoryMiB + input.request.memoryMiB ≤ policy.maxMemoryMiB ∨
        9223372036854775808 ≤ input.usage.activeMemoryMiB + input.request.memoryMiB) := by
  obtain ⟨cpu, memory⟩ := sums_bounds typed evaluated (by rw [found]; nofun)
  obtain ⟨-, -, read⟩ := evaluateEligibility_eq_ok.mp evaluated
  rcases read with ⟨none, -⟩ | ⟨policy', found', valid, -, rfl⟩
  · rw [found] at none
    cases none
  · cases found.symm.trans found'
    obtain ⟨limit, limit'⟩ := limits_pos valid
    rw [applyRules_eligible_iff]
    change _ ∧ wrap (input.usage.activeCPUMillis + input.request.cpuMillis) ≤ _ ∧
      wrap (input.usage.activeMemoryMiB + input.request.memoryMiB) ≤ _ ↔ _
    rw [wrap_le_iff cpu.1 cpu.2 limit, wrap_le_iff memory.1 memory.2 limit']

/-- An input with lower numbers that is evaluated is in range too. -/
theorem Lowered.typed {other : EligibilityInput} {result : EligibilityDecision} (lowered : Lowered other input)
    (typed : input.Typed) (evaluated : evaluateEligibility other = .ok result) (found : other.policy ≠ none) : other.Typed := by
  have bounds := evaluated_bounds evaluated found
  have activeCPU := fits64.mp typed.activeCPU
  have activeMemory := fits64.mp typed.activeMemory
  have cpu := fits64.mp typed.cpu
  have memory := fits64.mp typed.memory
  have lowerCPU := lowered.activeCPU
  have lowerMemory := lowered.activeMemory
  have lowerRequest := lowered.cpu
  have lowerRequest' := lowered.memory
  refine ⟨fits64.mpr ?_, fits64.mpr ?_, fits64.mpr ?_, fits64.mpr ?_, lowered.policy ▸ typed.limits⟩ <;> omega

theorem Lowered.admits {other : EligibilityInput} (lowered : Lowered other input)
    (admitted : AdmitsOthers policy input.trimmed) :
    AdmitsOthers policy other.trimmed where
  tenant := (congrArg trimSpace lowered.statuses.1).trans admitted.tenant
  project := (congrArg trimSpace lowered.statuses.2).trans admitted.project
  runtime := by
    have known := admitted.runtime
    simp only [EligibilityInput.trimmed] at known ⊢
    rwa [lowered.texts.1]
  profile := by
    have known := admitted.profile
    simp only [EligibilityInput.trimmed] at known ⊢
    rwa [lowered.texts.2]
  tenantRuns := lowered.tenantRuns.trans_lt admitted.tenantRuns
  userRuns := lowered.userRuns.trans_lt admitted.userRuns
  queue := lowered.queued.trans admitted.queue
  budget := lowered.budget.trans_lt admitted.budget

end Evaluation

/-! ## A tenant that uses all of the range -/

/-- A run that asks for one unit of each resource, next to this active CPU and this many active runs. -/
def besideCPU (activeCPUMillis activeRuns : Int) : EligibilityInput where
  tenantStatus := " ACTIVE\n"
  projectStatus := "ACTIVE"
  request := ⟨"python ", "standard", "ada", 1, 1⟩
  policy := some ⟨2, 2, 1, 1000, 1000, 1, ["go", "python"], ["standard"], second⟩
  usage := ⟨activeRuns, 1, 0, activeCPUMillis, 0, 0⟩
  now := 9223372036854775806 * second

theorem besideCPU_evaluated :
    evaluateEligibility (besideCPU 999 1) = .ok eligibleDecision ∧
    evaluateEligibility (besideCPU 999 2) = .ok (deferredDecision "TENANT_CONCURRENCY_LIMIT"
      "tenant concurrent-run limit is reached" (9223372036854775806 * second) second) ∧
    evaluateEligibility (besideCPU 9223372036854775807 1) = .ok eligibleDecision := by decide +kernel

theorem besideCPU_typed (activeRuns : Int) : (besideCPU 999 activeRuns).Typed := by
  have small : Fits 64 999 ∧ Fits 64 0 ∧ Fits 64 1 := ⟨fits64.mpr (by decide), fits64.mpr (by decide), fits64.mpr (by decide)⟩
  refine ⟨small.1, small.2.1, small.2.2, small.2.2, ?_⟩
  rintro _ ⟨⟩
  exact ⟨fits64.mpr (by decide), fits64.mpr (by decide)⟩

theorem besideCPU_kept (activeRuns : Int) :
    ∀ policy, (besideCPU 999 activeRuns).policy = some policy → ¬ Overflows policy (besideCPU 999 activeRuns) := by
  rintro _ ⟨⟩ ⟨-, -, -, out⟩
  rcases out with cpu | memory
  · exact absurd cpu (by change ¬ (_ : Int) ≤ 999 + 1; decide)
  · exact absurd memory (by change ¬ (_ : Int) ≤ 0 + 1; decide)

end AgentForge.Platform
