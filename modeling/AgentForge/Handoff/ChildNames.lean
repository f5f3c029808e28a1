import Mathlib
import AgentForge.Handoff.Service
import AgentForge.Operator.Matching

/-!
# Child names of the AgentRuns that the handoff creates

The handoff names an AgentRun after its run and the scheduled attempt, and the operator names its
children after the run and the attempt it observes, which its own retries advance. A child name
determines the run and the observed attempt, so two AgentRuns share no child name just if they differ in
one of the two.
-/

set_option autoImplicit false

namespace AgentForge.Handoff

open Operator Platform

/-! ## What a child name determines -/

/-- The five child names. -/
def childNames (names : ResourceNames) : List String :=
  [names.serviceAccount, names.configuration, names.workspace, names.networkPolicy, names.job]

def childSuffixes : List String := ["-sa", "-config", "-workspace", "-network", "-job"]

theorem mem_childNames {runID : String} {attempt : Int} {name : String} :
    name ∈ childNames (namesOf runID attempt) ↔ ∃ suffix ∈ childSuffixes, name = childBase runID attempt ++ suffix := by
  simp [childNames, childSuffixes, namesOf]

/-- Two texts of one that has no dash and one that starts with a dash are split alike. -/
theorem split_at_dash {xs ys : List Char} {s t : List Char} (left : '-' ∉ xs) (right : '-' ∉ ys)
    (same : xs ++ '-' :: s = ys ++ '-' :: t) : xs = ys := by
  induction xs generalizing ys with
  | nil =>
    cases ys with
    | nil => rfl
    | cons y ys =>
      simp only [List.nil_append, List.cons_append, List.cons.injEq] at same
      exact absurd (List.mem_cons.mpr (.inl same.1)) right
  | cons x xs ih =>
    cases ys with
    | nil =>
      simp only [List.nil_append, List.cons_append, List.cons.injEq] at same
      exact absurd (List.mem_cons.mpr (.inl same.1.symm)) left
    | cons y ys =>
      simp only [List.cons_append, List.cons.injEq] at same
      rw [same.1, ih (fun mem => left (List.mem_cons_of_mem _ mem)) (fun mem => right (List.mem_cons_of_mem _ mem)) same.2]

/-- The text of a possible attempt has no dash. -/
theorem dash_notMem_attempt {attempt : Int} (low : 1 ≤ attempt) (high : attempt ≤ 10) :
    '-' ∉ (toString attempt).toList := by
  interval_cases attempt <;> decide

theorem suffix_eq_cons {suffix : String} (mem : suffix ∈ childSuffixes) : ∃ rest, suffix.toList = '-' :: rest := by
  simp only [childSuffixes, List.mem_cons, List.not_mem_nil, or_false] at mem
  rcases mem with rfl | rfl | rfl | rfl | rfl <;> exact ⟨_, rfl⟩

/-- A child name determines the run and the attempt it was derived from. -/
theorem childBase_determines {a b : UUID} {m n : Int} {s t : String} (lowM : 1 ≤ m) (highM : m ≤ 10) (lowN : 1 ≤ n)
    (highN : n ≤ 10) (hs : s ∈ childSuffixes) (ht : t ∈ childSuffixes)
    (same : childBase a.text m ++ s = childBase b.text n ++ t) : a = b ∧ m = n := by
  obtain ⟨s', headS⟩ := suffix_eq_cons hs
  obtain ⟨t', headT⟩ := suffix_eq_cons ht
  have chars := congrArg String.toList same
  simp only [childBase, String.toList_append, String.toList_ofList, UUID.withoutDashes_text, List.append_assoc,
    List.append_cancel_left_eq, headS, headT] at chars
  -- the digits of the identifier end at the dash before the attempt
  have digits : a.hex = b.hex :=
    split_at_dash (UUID.dash_notMem_hex a) (UUID.dash_notMem_hex b) chars
  rw [digits, List.append_cancel_left_eq, List.append_cancel_left_eq] at chars
  have attempt := split_at_dash (dash_notMem_attempt lowM highM) (dash_notMem_attempt lowN highN) chars
  exact ⟨UUID.hex_injective digits, Int.repr_injective (String.toList_inj.mp attempt)⟩

/-! ## AgentRuns of one tenant -/

/-- An AgentRun that the handoff created for the tenant, with an observed attempt that the operator's retries
can reach. -/
structure HandedOff (tenantID : UUID) (run : AgentRun) : Prop where
  projected : ∃ envelope payload desired, envelope.tenantID = tenantID ∧ intentValid payload desired = true ∧
    run.metadata.ns = (projectedRun envelope payload desired).metadata.ns ∧
    run.metadata.name = (projectedRun envelope payload desired).metadata.name ∧
    run.spec = (projectedRun envelope payload desired).spec
  scheduled : run.spec.attempt ≤ run.status.attempt
  bounded : run.status.attempt ≤ run.spec.retryPolicy.maxAttempts

/-- No child name of the one is a child name of the other. -/
def NamesDisjoint (names names' : ResourceNames) : Prop := ∀ name ∈ childNames names, name ∉ childNames names'

theorem HandedOff.runID {tenantID : UUID} {run : AgentRun} (handed : HandedOff tenantID run) :
    ∃ id : UUID, run.spec.runID = id.text := by
  obtain ⟨_, payload, _, -, -, -, -, spec⟩ := handed.projected
  exact ⟨payload.runID, by rw [spec]; rfl⟩

/-- Two AgentRuns of a tenant share no child name just if they belong to different runs or observe different
attempts. -/
theorem namesDisjoint_iff_run_or_attempt {tenantID : UUID} {run run' : AgentRun} {names names' : ResourceNames}
    (handed : HandedOff tenantID run) (handed' : HandedOff tenantID run') (named : forAgentRun run = .ok names)
    (named' : forAgentRun run' = .ok names') :
    NamesDisjoint names names' ↔
      run.spec.runID ≠ run'.spec.runID ∨ run.status.attempt ≠ run'.status.attempt := by
  have current : currentAttempt run = run.status.attempt := if_pos handed.scheduled
  have current' : currentAttempt run' = run'.status.attempt := if_pos handed'.scheduled
  obtain ⟨-, low, -, high, rfl⟩ := forAgentRun_eq_ok.mp named
  obtain ⟨-, low', -, high', rfl⟩ := forAgentRun_eq_ok.mp named'
  rw [current] at low high ⊢
  rw [current'] at low' high' ⊢
  constructor
  · intro disjoint
    by_contra! same
    have mem : (namesOf run.spec.runID run.status.attempt).job ∈ childNames (namesOf run.spec.runID run.status.attempt) := by
      simp [childNames]
    refine disjoint _ mem ?_
    rwa [← same.1, ← same.2]
  · intro different name mem mem'
    obtain ⟨id, runID⟩ := handed.runID
    obtain ⟨id', runID'⟩ := handed'.runID
    rw [runID, mem_childNames] at mem
    rw [runID', mem_childNames] at mem'
    obtain ⟨suffix, isSuffix, rfl⟩ := mem
    obtain ⟨suffix', isSuffix', same⟩ := mem'
    obtain ⟨rfl, attempt⟩ := childBase_determines low high low' high' isSuffix isSuffix' same
    rcases different with runs | attempts
    · exact runs (runID.trans runID'.symm)
    · exact attempts attempt

/-- A child that another AgentRun built is refused. -/
theorem ownership_conflict {context context' : BuildContext} (owner : context.owner = ownerReference context.run)
    (owner' : context'.owner = ownerReference context'.run)
    (uids : context.run.metadata.uid ≠ context'.run.metadata.uid) (name name' : String) :
    validateExistingOwnership context'.run (context'.metadata name') (context.metadata name) =
      .error "resource is not controlled by this AgentRun" := by
  have wanted : (context'.metadata name').controllerOf = some (ownerReference context'.run) := by
    simp [ObjectMeta.controllerOf, BuildContext.metadata, owner', ownerReference]
  have found : (context.metadata name).controllerOf = some (ownerReference context.run) := by
    simp [ObjectMeta.controllerOf, BuildContext.metadata, owner, ownerReference]
  have other : ((ownerReference context.run).uid != context'.run.metadata.uid) = true := by
    simpa [ownerReference] using uids
  simp only [validateExistingOwnership, wanted, found, other, Bool.true_or, if_true]

/-- The AgentRun of the sample run for a scheduled attempt, with the attempt that the operator observes. -/
def sampleRun (scheduled observed : Int) : AgentRun :=
  let run := projectedRun sampleEvent.envelope { samplePayload with attemptNumber := scheduled } (sampleDesired [.internal] [])
  { run with
    metadata := { run.metadata with uid := "uid-" ++ toString scheduled }
    status := { attempt := observed } }

theorem sampleRun_handedOff {scheduled observed : Int}
    (valid : intentValid { samplePayload with attemptNumber := scheduled } (sampleDesired [.internal] []) = true)
    (retried : int32 scheduled ≤ observed) (bounded : observed ≤ 3) :
    HandedOff (sampleID 1) (sampleRun scheduled observed) :=
  ⟨⟨sampleEvent.envelope, { samplePayload with attemptNumber := scheduled }, sampleDesired [.internal] [], rfl, valid, rfl, rfl,
    rfl⟩, retried, bounded⟩

/-- The first attempt, and the second attempt of the platform: their children are named apart. -/
theorem namesDisjoint_two_attempts :
    NamesDisjoint (namesOf (sampleID 3).text 1) (namesOf (sampleID 3).text 2) := by
  have first : HandedOff (sampleID 1) (sampleRun 1 1) :=
    sampleRun_handedOff (by decide +kernel) (by decide) (by decide)
  have second : HandedOff (sampleID 1) (sampleRun 2 2) :=
    sampleRun_handedOff (by decide +kernel) (by decide) (by decide)
  exact (namesDisjoint_iff_run_or_attempt first second (by decide +kernel) (by decide +kernel)).mpr
    (.inr (by decide))

/-- The operator retries the first attempt, and the platform schedules the second: two AgentRuns with the same
child names, neither of which accepts a child of the other. -/
theorem not_namesDisjoint_operator_retry :
    ∃ run run' : AgentRun, ∃ names names' : ResourceNames, HandedOff (sampleID 1) run ∧ HandedOff (sampleID 1) run' ∧
      run.metadata.name ≠ run'.metadata.name ∧ run.metadata.uid ≠ run'.metadata.uid ∧
      run.spec.attempt < run'.spec.attempt ∧
      run.spec.retryPolicy.maxAttempts = run'.spec.retryPolicy.maxAttempts ∧ forAgentRun run = .ok names ∧
      forAgentRun run' = .ok names' ∧ ¬ NamesDisjoint names names' ∧ names.job = names'.job ∧
      ∀ context context' : BuildContext, context.run = run → context'.run = run' →
        context.owner = ownerReference run → context'.owner = ownerReference run' →
        validateExistingOwnership run' (context'.metadata names'.job) (context.metadata names.job) =
          .error "resource is not controlled by this AgentRun" := by
  refine ⟨sampleRun 1 2, sampleRun 2 2, namesOf (sampleID 3).text 2, namesOf (sampleID 3).text 2,
    sampleRun_handedOff (by decide +kernel) (by decide) (by decide),
    sampleRun_handedOff (by decide +kernel) (by decide) (by decide), by decide +kernel, by decide +kernel,
    by decide +kernel, rfl, by decide +kernel, by decide +kernel, ?_, rfl, ?_⟩
  · intro disjoint
    exact disjoint (namesOf (sampleID 3).text 2).job (by simp [childNames]) (by simp [childNames])
  · intro context context' run run' owner owner'
    rw [← run] at owner
    rw [← run'] at owner' ⊢
    refine ownership_conflict owner owner' ?_ _ _
    rw [run, run']
    decide +kernel

end AgentForge.Handoff
