import AgentForge.Lib.Word
import AgentForge.Platform.AgentRun
import AgentForge.Platform.DesiredState

/-!
# The tenant scheduling policy

Ordered rules that decide whether a run may be scheduled under its tenant's quotas and budget
(`domain/scheduler_policy.go`). The first rule that blocks gives the decision. The sums of resources wrap in 64
bits, and a deferral ends at the last second that Go can represent, at the latest.
-/

set_option autoImplicit false

namespace AgentForge.Platform

open Operator Lib.Word

structure SchedulingRequest where
  runtime : String
  executionProfile : String
  createdBy : String
  cpuMillis : Int
  memoryMiB : Int
  deriving DecidableEq

structure SchedulingPolicy where
  maxConcurrentRuns : Int
  maxUserConcurrentRuns : Int
  maxQueuedRuns : Int
  maxCPUMillis : Int
  maxMemoryMiB : Int
  dailyBudgetMinorUnits : Int
  allowedRuntimes : List String
  allowedProfiles : List String
  deferralDuration : Duration
  deriving DecidableEq

structure SchedulingUsage where
  activeTenantRuns : Int
  activeUserRuns : Int
  queuedTenantRuns : Int
  activeCPUMillis : Int
  activeMemoryMiB : Int
  budgetUsedMinorUnits : Int
  deriving DecidableEq

/-- The status of a tenant or a project. -/
inductive ResourceStatus
  | active
  | suspended
  deriving DecidableEq

def ResourceStatus.text : ResourceStatus → String
  | active => "ACTIVE"
  | suspended => "SUSPENDED"

structure EligibilityInput where
  tenantStatus : String
  projectStatus : String
  request : SchedulingRequest
  policy : Option SchedulingPolicy
  usage : SchedulingUsage
  now : Time
  deriving DecidableEq

/-! ## Validation -/

/-- The pattern `^[a-z0-9][a-z0-9._-]{0,119}$` for every value, and no value twice. -/
def validPolicyValues (values : List String) : Bool := values.all (matchesIdentifier 119) && values.Nodup

def validateSchedulingPolicy (policy : SchedulingPolicy) : Except Error Unit :=
  if policy.maxConcurrentRuns < 1 ∨ policy.maxUserConcurrentRuns < 1 ∨
      policy.maxUserConcurrentRuns > policy.maxConcurrentRuns ∨ policy.maxQueuedRuns < 1 ∨ policy.maxCPUMillis < 1 ∨
      policy.maxMemoryMiB < 1 ∨ policy.dailyBudgetMinorUnits < 0 ∨ policy.allowedRuntimes = [] ∨
      policy.allowedProfiles = [] ∨ policy.deferralDuration ≤ 0 then
    .error (.invalid "scheduling policy is invalid")
  else if !validPolicyValues policy.allowedRuntimes || !validPolicyValues policy.allowedProfiles then
    .error (.invalid "scheduling policy runtime and profile values must be normalized and unique")
  else .ok ()

/-- The input with its texts trimmed. -/
def EligibilityInput.trimmed (input : EligibilityInput) : EligibilityInput :=
  { input with
    tenantStatus := trimSpace input.tenantStatus
    projectStatus := trimSpace input.projectStatus
    request := { input.request with
      runtime := trimSpace input.request.runtime
      executionProfile := trimSpace input.request.executionProfile
      createdBy := trimSpace input.request.createdBy } }

/-- The request metadata that a trimmed request needs. -/
def SchedulingRequest.complete (request : SchedulingRequest) : Bool :=
  request.runtime != "" && request.executionProfile != "" && request.createdBy != "" && 1 ≤ request.cpuMillis &&
    1 ≤ request.memoryMiB

/-- No total is negative. -/
def SchedulingUsage.nonnegative (usage : SchedulingUsage) : Bool :=
  0 ≤ usage.activeTenantRuns && 0 ≤ usage.activeUserRuns && 0 ≤ usage.queuedTenantRuns &&
    0 ≤ usage.activeCPUMillis && 0 ≤ usage.activeMemoryMiB && 0 ≤ usage.budgetUsedMinorUnits

/-! ## Rules -/

/-- `Time.Add` of a time without a monotonic reading: the seconds are a saturating 64-bit sum. -/
def Time.add (t d : Int) : Int :=
  let seconds : Int := (t + d) / second
  (if 9223372036854775807 < seconds then 9223372036854775807
    else if seconds < -9223372036854775808 then -9223372036854775807
    else seconds) * second + (t + d) % second

def deferredDecision (code explanation : String) (now : Time) (delay : Duration) : EligibilityDecision :=
  ⟨.defer, code, explanation, some (Time.add now delay)⟩

def rejectedDecision (code explanation : String) : EligibilityDecision := ⟨.reject, code, explanation, none⟩

/-- A rule: the decision that blocks the run, if it does. -/
abbrev EligibilityRule := SchedulingPolicy → EligibilityInput → Option EligibilityDecision

def resourceStatusRule : EligibilityRule := fun _ input =>
  if input.tenantStatus ≠ "ACTIVE" then some (rejectedDecision "TENANT_SUSPENDED" "tenant is not active")
  else if input.projectStatus ≠ "ACTIVE" then some (rejectedDecision "PROJECT_SUSPENDED" "project is not active")
  else none

def runtimeProfileRule : EligibilityRule := fun policy input =>
  if !policy.allowedRuntimes.contains input.request.runtime then
    some (rejectedDecision "UNSUPPORTED_RUNTIME" "runtime is not allowed by tenant policy")
  else if !policy.allowedProfiles.contains input.request.executionProfile then
    some (rejectedDecision "UNSUPPORTED_PROFILE" "execution profile is not allowed by tenant policy")
  else none

def concurrencyRule : EligibilityRule := fun policy input =>
  if input.usage.activeTenantRuns ≥ policy.maxConcurrentRuns then
    some (deferredDecision "TENANT_CONCURRENCY_LIMIT" "tenant concurrent-run limit is reached" input.now
      policy.deferralDuration)
  else if input.usage.activeUserRuns ≥ policy.maxUserConcurrentRuns then
    some (deferredDecision "USER_CONCURRENCY_LIMIT" "user concurrent-run limit is reached" input.now
      policy.deferralDuration)
  else none

def queueRule : EligibilityRule := fun policy input =>
  if input.usage.queuedTenantRuns > policy.maxQueuedRuns then
    some (deferredDecision "TENANT_QUEUE_LIMIT" "tenant queued-run limit is exceeded" input.now
      policy.deferralDuration)
  else none

def resourceQuotaRule : EligibilityRule := fun policy input =>
  if wrap (input.usage.activeCPUMillis + input.request.cpuMillis) > policy.maxCPUMillis then
    some (deferredDecision "TENANT_CPU_LIMIT" "tenant CPU limit has insufficient headroom" input.now
      policy.deferralDuration)
  else if wrap (input.usage.activeMemoryMiB + input.request.memoryMiB) > policy.maxMemoryMiB then
    some (deferredDecision "TENANT_MEMORY_LIMIT" "tenant memory limit has insufficient headroom" input.now
      policy.deferralDuration)
  else none

def budgetRule : EligibilityRule := fun policy input =>
  if input.usage.budgetUsedMinorUnits ≥ policy.dailyBudgetMinorUnits then
    some (deferredDecision "DAILY_BUDGET_LIMIT" "tenant daily budget has no available balance" input.now
      policy.deferralDuration)
  else none

def eligibilityRules : List EligibilityRule :=
  [resourceStatusRule, runtimeProfileRule, concurrencyRule, queueRule, resourceQuotaRule, budgetRule]

def eligibleDecision : EligibilityDecision := ⟨.eligible, "ELIGIBLE", "run satisfies scheduling policy", none⟩

/-- The decision of the rules under a policy. -/
def applyRules (policy : SchedulingPolicy) (input : EligibilityInput) : EligibilityDecision :=
  (eligibilityRules.findSome? fun rule => rule policy input).getD eligibleDecision

def evaluateEligibility (input : EligibilityInput) : Except Error EligibilityDecision :=
  if Time.isZero input.now || !input.trimmed.request.complete then
    .error (.invalid "scheduling request metadata is invalid")
  else
    match input.policy with
    | none =>
      .ok (deferredDecision "POLICY_MISSING" "tenant scheduling policy is not configured" input.now (30 * second))
    | some policy =>
      match validateSchedulingPolicy policy with
      | .error e => .error e
      | .ok () =>
        if !input.usage.nonnegative then .error (.invalid "scheduling usage cannot be negative")
        else .ok (applyRules policy input.trimmed)

/-! ## What an evaluation has read -/

variable {input : EligibilityInput} {decision : EligibilityDecision}

/-- What an evaluation without an error has read. -/
theorem evaluateEligibility_eq_ok : evaluateEligibility input = .ok decision ↔
    Time.isZero input.now = false ∧ input.trimmed.request.complete = true ∧
      ((input.policy = none ∧ decision =
          deferredDecision "POLICY_MISSING" "tenant scheduling policy is not configured" input.now (30 * second)) ∨
        ∃ policy, input.policy = some policy ∧ validateSchedulingPolicy policy = .ok () ∧ input.usage.nonnegative = true ∧
          decision = applyRules policy input.trimmed) := by
  constructor
  · intro evaluated
    unfold evaluateEligibility at evaluated
    split at evaluated
    · cases evaluated
    · next passed =>
      simp only [Bool.or_eq_true, not_or, Bool.not_eq_true, Bool.not_eq_true', Bool.not_eq_false] at passed
      refine ⟨passed.1, passed.2, ?_⟩
      split at evaluated
      · next found =>
        cases evaluated
        exact .inl ⟨found, rfl⟩
      · next policy found =>
        split at evaluated
        · cases evaluated
        · next valid =>
          split at evaluated
          · cases evaluated
          · next nonnegative =>
            cases evaluated
            exact .inr ⟨policy, found, valid, by simpa using nonnegative, rfl⟩
  · rintro ⟨clock, complete, read⟩
    have passed : ¬((Time.isZero input.now || !input.trimmed.request.complete) = true) := by
      rw [clock, complete]
      decide
    unfold evaluateEligibility
    rw [if_neg passed]
    split
    · next found =>
      rcases read with ⟨-, rfl⟩ | ⟨policy, found', -⟩
      · rfl
      · rw [found] at found'
        cases found'
    · next policy found =>
      rcases read with ⟨none, -⟩ | ⟨policy', found', valid, nonnegative, rfl⟩
      · rw [found] at none
        cases none
      · cases found.symm.trans found'
        rw [valid]
        dsimp only
        rw [if_neg (by simp [nonnegative])]

/-- Without a policy no run is eligible. -/
theorem policy_of_eligible (evaluated : evaluateEligibility input = .ok decision) (eligible : decision.outcome = .eligible) :
    ∃ policy, input.policy = some policy := by
  obtain ⟨-, -, read⟩ := evaluateEligibility_eq_ok.mp evaluated
  rcases read with ⟨-, rfl⟩ | ⟨policy, found, -⟩
  · cases eligible
  · exact ⟨policy, found⟩

end AgentForge.Platform
