import Mathlib.Data.List.Sort
import Mathlib.Data.Prod.Lex
import Mathlib.Data.String.Basic
import AgentForge.Operator.Lifecycle
import AgentForge.Runner.Config

/-!
# When an execution has succeeded

The controller reports success for one combination of the Job's conditions and counters with the state of the newest
Pod of the Job. The Pods may be listed in any order, and those of other Jobs do not matter.
-/

set_option autoImplicit false

namespace AgentForge.Operator

/-- At most one of the states of a container is set. -/
def ContainerStatus.Single (container : ContainerStatus) : Prop :=
  [container.waiting.isSome, container.running.isSome, container.terminated.isSome].count true ≤ 1

/-- The Pod is the newest one of the Job, by creation time and then by name. -/
structure Newest (job : Job) (pods : List Pod) (pod : Pod) : Prop where
  listed : pod ∈ pods
  owned : ownedByJob job pod = true
  newest : ∀ other ∈ pods, ownedByJob job other = true →
    other.metadata.creationTimestamp < pod.metadata.creationTimestamp ∨
      other.metadata.creationTimestamp = pod.metadata.creationTimestamp ∧ other.metadata.name ≤ pod.metadata.name

/-- The Job reports completion and no failure. -/
structure Job.Completed (job : Job) : Prop where
  unfailed : ∀ condition ∈ job.status.conditions, condition.status = .true →
    condition.type ≠ .failed ∧ condition.type ≠ .failureTarget
  counters : ¬(0 < job.status.failed ∧ job.status.active = 0)
  complete : (∃ condition ∈ job.status.conditions, condition.type = .complete ∧ condition.status = .true) ∨
    0 < job.status.succeeded

/-- The runner of the Pod ended well and left this evidence. -/
structure Pod.Delivered (ext : Externals) (pod : Pod) (evidence : TerminationEvidence) : Prop where
  kept : pod.reason ≠ "Evicted" ∧ pod.reason ≠ "NodeLost"
  ended : ∃ terminated, runnerTermination pod = some terminated ∧ terminated.exitCode = 0 ∧
    parseTerminationEvidence ext terminated.message = .ok evidence

/-! ## The newest Pod -/

section Selection

variable {job : Job} {pods others : List Pod} {pod a b c : Pod}

/-- The columns by which Pods are ordered. -/
def Pod.age (pod : Pod) : Int ×ₗ String := toLex (pod.metadata.creationTimestamp, pod.metadata.name)

theorem age_le_iff : a.age ≤ b.age ↔ a.metadata.creationTimestamp < b.metadata.creationTimestamp ∨
    a.metadata.creationTimestamp = b.metadata.creationTimestamp ∧ a.metadata.name ≤ b.metadata.name :=
  Prod.Lex.toLex_le_toLex

theorem podOrder_iff : podOrder a b = true ↔ a.age ≤ b.age := by
  rw [age_le_iff]
  simp [podOrder]

theorem name_eq_of_age (same : a.age = b.age) : a.metadata.name = b.metadata.name :=
  congrArg Prod.snd (toLex_inj.mp same)

theorem pairwise_podOrder (pods : List Pod) :
    (pods.insertionSort fun left right => podOrder left right).Pairwise fun left right => podOrder left right := by
  have : Std.Total fun left right : Pod => podOrder left right = true :=
    ⟨fun a b => by simp only [podOrder_iff]; exact le_total _ _⟩
  have : IsTrans Pod fun left right => podOrder left right = true :=
    ⟨fun a b c => by simp only [podOrder_iff]; exact le_trans⟩
  exact List.pairwise_insertionSort _ pods

/-- Pods with different names are never equal in the order. -/
theorem sorted_eq_of_perm (names : (pods.map (·.metadata.name)).Nodup) (perm : others.Perm pods) :
    (others.insertionSort fun left right => podOrder left right) = pods.insertionSort fun left right => podOrder left right := by
  refine List.Perm.eq_of_pairwise ?_ (pairwise_podOrder others) (pairwise_podOrder pods)
    ((List.perm_insertionSort _ others).trans (perm.trans (List.perm_insertionSort _ pods).symm))
  intro a b first second before after
  have name := name_eq_of_age (le_antisymm (podOrder_iff.mp before) (podOrder_iff.mp after))
  exact List.inj_on_of_nodup_map names (perm.mem_iff.mp ((List.mem_insertionSort _).mp first))
    ((List.mem_insertionSort _).mp second) name

theorem selectLifecyclePod_perm (names : (pods.map (·.metadata.name)).Nodup) (perm : others.Perm pods) :
    selectLifecyclePod job others = selectLifecyclePod job pods := by
  have distinct : ((pods.filter (ownedByJob job)).map (·.metadata.name)).Nodup :=
    names.sublist (List.filter_sublist.map _)
  rw [selectLifecyclePod, selectLifecyclePod, sorted_eq_of_perm distinct (perm.filter _)]

theorem selectLifecyclePod_filter (job : Job) (pods : List Pod) :
    selectLifecyclePod job (pods.filter (ownedByJob job)) = selectLifecyclePod job pods := by
  rw [selectLifecyclePod, selectLifecyclePod, List.filter_filter]
  simp only [Bool.and_self]

/-- The last Pod of the sorted list is the newest. -/
theorem newest_of_selected (selected : selectLifecyclePod job pods = some pod) : Newest job pods pod := by
  obtain ⟨front, sorted⟩ := List.getLast?_eq_some_iff.mp selected
  have ordered := pairwise_podOrder (pods.filter (ownedByJob job))
  rw [sorted] at ordered
  have member : ∀ p, p ∈ front ++ [pod] ↔ p ∈ pods.filter (ownedByJob job) := fun p => by
    rw [← sorted, List.mem_insertionSort]
  obtain ⟨listed, owned⟩ := List.mem_filter.mp ((member pod).mp (by simp))
  refine ⟨listed, owned, fun other inside controls => ?_⟩
  have place := (member other).mpr (List.mem_filter.mpr ⟨inside, controls⟩)
  rcases List.mem_append.mp place with before | last
  · have order := podOrder_iff.mp ((List.pairwise_append.mp ordered).2.2 other before pod (by simp))
    exact age_le_iff.mp order
  · rw [List.mem_singleton.mp last]
    exact .inr ⟨rfl, le_refl _⟩

/-- There is one newest Pod when the names differ, and it is selected. -/
theorem selectLifecyclePod_eq_some (names : (pods.map (·.metadata.name)).Nodup) :
    selectLifecyclePod job pods = some pod ↔ Newest job pods pod := by
  refine ⟨newest_of_selected, fun newest => ?_⟩
  cases selected : selectLifecyclePod job pods with
  | none =>
    have empty := List.getLast?_eq_none_iff.mp selected
    have inside : pod ∈ (pods.filter (ownedByJob job)).insertionSort fun left right => podOrder left right :=
      (List.mem_insertionSort _).mpr (List.mem_filter.mpr ⟨newest.listed, newest.owned⟩)
    rw [empty] at inside
    cases inside
  | some found =>
    have chosen := newest_of_selected selected
    have below := age_le_iff.mpr (newest.newest found chosen.listed chosen.owned)
    have above := age_le_iff.mpr (chosen.newest pod newest.listed newest.owned)
    have name := name_eq_of_age (le_antisymm below above)
    rw [List.inj_on_of_nodup_map names chosen.listed newest.listed name]

end Selection

/-! ## The outcome -/

section Outcome

variable {ext : Externals} {job : Job} {pod : Pod} {observation : LifecycleObservation}

theorem findJobCondition_isSome {type : JobConditionType} :
    (findJobCondition job type).isSome = true ↔
      ∃ condition ∈ job.status.conditions, condition.type = type ∧ condition.status = .true := by
  simp [findJobCondition, List.find?_isSome]

theorem observePodConditions_phase (running : observation.phase ≠ .succeeded) :
    (observePodConditions observation pod).phase ≠ .succeeded := by
  unfold observePodConditions
  dsimp only
  repeat' split
  all_goals first | exact running | nofun

theorem observeNonTerminalPod_phase (running : observation.phase ≠ .succeeded) :
    (observeNonTerminalPod observation pod).phase ≠ .succeeded := by
  unfold observeNonTerminalPod
  repeat' split
  all_goals first | exact running | exact observePodConditions_phase running | nofun

/-- A completed Job has succeeded when its Pod left valid evidence. -/
theorem observeCompletion_succeeded (running : observation.phase ≠ .succeeded) {pod : Option Pod} :
    (observeCompletion ext job observation pod).phase = .succeeded ↔ ∃ p terminated evidence, pod = some p ∧
      runnerTermination p = some terminated ∧ parseTerminationEvidence ext terminated.message = .ok evidence ∧
      (observeCompletion ext job observation pod).artifactManifestRef = evidence.artifactManifestRef := by
  cases pod with
  | none => simpa [observeCompletion] using running
  | some p =>
    cases ended : runnerTermination p with
    | none => simpa [observeCompletion, ended] using running
    | some terminated =>
      cases parsed : parseTerminationEvidence ext terminated.message with
      | error reason => simp [observeCompletion, ended, parsed]
      | ok evidence => simp [observeCompletion, ended, parsed]

theorem waiting_eq_none {container : ContainerStatus} {terminated : ContainerStateTerminated} (single : container.Single)
    (ended : container.terminated = some terminated) : container.waiting = none := by
  unfold ContainerStatus.Single at single
  rw [ended] at single
  cases waiting : container.waiting with
  | none => rfl
  | some reason =>
    rw [waiting] at single
    cases running : container.running <;> simp [running] at single

/-- A Pod whose runner has terminated shows no failure exactly if it was kept and its runner exited with zero. -/
theorem podFailure_eq_none {terminated : ContainerStateTerminated} (single : ∀ container ∈ pod.containerStatuses, container.Single)
    (ended : runnerTermination pod = some terminated) :
    podFailure pod = none ↔ (pod.reason ≠ "Evicted" ∧ pod.reason ≠ "NodeLost") ∧ terminated.exitCode = 0 := by
  obtain ⟨container, runner, state⟩ := Option.bind_eq_some_iff.mp ended
  have waiting := waiting_eq_none (single container (List.mem_of_find?_eq_some runner)) state
  unfold podFailure
  rw [runner]
  dsimp only
  rw [waiting, state, Option.bind_none, Option.bind_some]
  by_cases evicted : pod.reason = "Evicted"
  · simp [evicted]
  · by_cases lost : pod.reason = "NodeLost"
    · simp [lost]
    · by_cases zero : terminated.exitCode = 0
      · simp [evicted, lost, zero, terminatedFailure]
      · simp only [terminatedFailure, beq_iff_eq, evicted, lost, zero, if_false]
        split <;> simp

theorem observeJobStatus_of_completed (completed : job.Completed) (pod : Option Pod) (observation : LifecycleObservation) :
    observeJobStatus ext job pod observation = observeCompletion ext job observation pod := by
  have absent : ∀ type, type = .failed ∨ type = .failureTarget → findJobCondition job type = none := by
    intro type known
    rw [← Option.not_isSome_iff_eq_none, findJobCondition_isSome]
    rintro ⟨condition, member, same, holds⟩
    have other := completed.unfailed condition member holds
    rcases known with rfl | rfl
    · exact other.1 same
    · exact other.2 same
  have counters : (decide (job.status.failed > 0) && job.status.active == 0) = false := by
    have apart := completed.counters
    rw [← Bool.not_eq_true]
    simpa using apart
  have complete : ((findJobCondition job .complete).isSome || decide (job.status.succeeded > 0)) = true := by
    rw [Bool.or_eq_true, findJobCondition_isSome, decide_eq_true_eq]
    exact completed.complete
  unfold observeJobStatus
  rw [absent .failed (.inl rfl), absent .failureTarget (.inr rfl), Option.or_none]
  dsimp only
  rw [counters, complete]
  rfl

theorem completed_of_succeeded {pod : Option Pod} (running : observation.phase ≠ .succeeded)
    (succeeded : (observeJobStatus ext job pod observation).phase = .succeeded) : job.Completed := by
  unfold observeJobStatus at succeeded
  cases failure : (findJobCondition job .failed).or (findJobCondition job .failureTarget) with
  | some condition =>
    rw [failure] at succeeded
    dsimp only at succeeded
    cases succeeded
  | none =>
    rw [failure] at succeeded
    dsimp only at succeeded
    obtain ⟨noFailed, noTarget⟩ := Option.or_eq_none_iff.mp failure
    split at succeeded
    · cases succeeded
    · next counters =>
      split at succeeded
      · next complete =>
        refine ⟨fun condition member holds => ⟨fun same => ?_, fun same => ?_⟩, by simpa using counters, ?_⟩
        · have found := findJobCondition_isSome.mpr ⟨condition, member, same, holds⟩
          rw [noFailed] at found
          cases found
        · have found := findJobCondition_isSome.mpr ⟨condition, member, same, holds⟩
          rw [noTarget] at found
          cases found
        · rwa [Bool.or_eq_true, findJobCondition_isSome, decide_eq_true_eq] at complete
      · split at succeeded
        · split at succeeded
          · exact absurd succeeded running
          · exact absurd succeeded running
        · exact absurd succeeded (observeNonTerminalPod_phase running)

end Outcome

/-! ## The characterisation -/

section Lifecycle

variable {ext : Externals} {job : Job} {pods : List Pod}

theorem observeLifecycle_of_none (selected : selectLifecyclePod job pods = none) :
    observeLifecycle ext job pods = observeJobStatus ext job none (initialObservation job none) := by
  unfold observeLifecycle
  rw [selected]

theorem observeLifecycle_of_healthy {pod : Pod} (selected : selectLifecyclePod job pods = some pod)
    (healthy : podFailure pod = none) :
    observeLifecycle ext job pods = observeJobStatus ext job (some pod) (initialObservation job (some pod)) := by
  unfold observeLifecycle
  rw [selected]
  dsimp only
  rw [Option.bind_some, terminalPodObservation, healthy]
  rfl

theorem healthy_of_succeeded {pod : Pod} (selected : selectLifecyclePod job pods = some pod)
    (succeeded : (observeLifecycle ext job pods).phase = .succeeded) : podFailure pod = none := by
  cases failure : podFailure pod with
  | none => rfl
  | some failed =>
    unfold observeLifecycle at succeeded
    rw [selected] at succeeded
    dsimp only at succeeded
    rw [Option.bind_some, terminalPodObservation, failure] at succeeded
    cases succeeded

/-- The evidence that the newest Pod delivered is what a completed Job is judged by. -/
theorem observeLifecycle_of_delivered {pod : Pod} {evidence : TerminationEvidence} (completed : job.Completed)
    (single : ∀ container ∈ pod.containerStatuses, container.Single) (selected : selectLifecyclePod job pods = some pod)
    (delivered : pod.Delivered ext evidence) :
    (observeLifecycle ext job pods).phase = .succeeded ∧
      (observeLifecycle ext job pods).artifactManifestRef = evidence.artifactManifestRef := by
  obtain ⟨terminated, ended, zero, parsed⟩ := delivered.ended
  have healthy := (podFailure_eq_none single ended).mpr ⟨delivered.kept, zero⟩
  rw [observeLifecycle_of_healthy selected healthy, observeJobStatus_of_completed completed]
  simp [observeCompletion, ended, parsed]

/-- Success is the completed Job together with the evidence of its newest Pod. Nothing depends on the order of the
Pods, or on the Pods of others. -/
theorem observeLifecycle_succeeded_iff (names : (pods.map (·.metadata.name)).Nodup)
    (single : ∀ pod ∈ pods, ∀ container ∈ pod.containerStatuses, container.Single) :
    ((observeLifecycle ext job pods).phase = .succeeded ↔
      job.Completed ∧ ∃ pod evidence, Newest job pods pod ∧ pod.Delivered ext evidence) ∧
    (∀ pod evidence, (observeLifecycle ext job pods).phase = .succeeded → Newest job pods pod → pod.Delivered ext evidence →
      (observeLifecycle ext job pods).artifactManifestRef = evidence.artifactManifestRef) ∧
    (∀ others, others.Perm pods → observeLifecycle ext job others = observeLifecycle ext job pods) ∧
    ∀ others, others.filter (ownedByJob job) = pods.filter (ownedByJob job) →
      observeLifecycle ext job others = observeLifecycle ext job pods := by
  have initial : ∀ pod, (initialObservation job pod).phase ≠ .succeeded := fun _ => nofun
  have completed : (observeLifecycle ext job pods).phase = .succeeded → job.Completed := by
    intro succeeded
    cases selected : selectLifecyclePod job pods with
    | none =>
      rw [observeLifecycle_of_none selected] at succeeded
      exact completed_of_succeeded (initial none) succeeded
    | some pod =>
      rw [observeLifecycle_of_healthy selected (healthy_of_succeeded selected succeeded)] at succeeded
      exact completed_of_succeeded (initial (some pod)) succeeded
  refine ⟨⟨fun succeeded => ⟨completed succeeded, ?_⟩, ?_⟩, ?_, ?_, ?_⟩
  · have complete := completed succeeded
    cases selected : selectLifecyclePod job pods with
    | none =>
      rw [observeLifecycle_of_none selected, observeJobStatus_of_completed complete] at succeeded
      cases succeeded
    | some pod =>
      have healthy := healthy_of_succeeded selected succeeded
      have newest := newest_of_selected selected
      rw [observeLifecycle_of_healthy selected healthy, observeJobStatus_of_completed complete] at succeeded
      obtain ⟨p, terminated, evidence, same, ended, parsed, -⟩ := (observeCompletion_succeeded (initial _)).mp succeeded
      cases same
      obtain ⟨kept, zero⟩ := (podFailure_eq_none (single pod newest.listed) ended).mp healthy
      exact ⟨pod, evidence, newest, kept, terminated, ended, zero, parsed⟩
  · rintro ⟨complete, pod, evidence, newest, delivered⟩
    exact (observeLifecycle_of_delivered complete (single pod newest.listed) ((selectLifecyclePod_eq_some names).mpr newest)
      delivered).1
  · intro pod evidence succeeded newest delivered
    exact (observeLifecycle_of_delivered (completed succeeded) (single pod newest.listed)
      ((selectLifecyclePod_eq_some names).mpr newest) delivered).2
  · intro others perm
    rw [observeLifecycle, observeLifecycle, selectLifecyclePod_perm names perm]
  · intro others same
    rw [observeLifecycle, observeLifecycle, ← selectLifecyclePod_filter job others, same, selectLifecyclePod_filter]

end Lifecycle

/-! ## A Job that completed -/

def completedJob : Job where
  metadata := { name := "job", uid := "1" }
  spec := {
    parallelism := none, completions := none, backoffLimit := none, activeDeadlineSeconds := none
    template := {
      labels := [], annotations := []
      spec := {
        serviceAccountName := "", automountServiceAccountToken := none, restartPolicy := "Never"
        terminationGracePeriodSeconds := none, enableServiceLinks := none, hostNetwork := false, hostPID := false
        hostIPC := false, nodeSelector := [], tolerations := [], topologySpreadConstraints := [], priorityClassName := ""
        nodeAffinity := [], securityContext := none, containers := [], volumes := [] } } }
  status := { conditions := [{ type := .complete, status := .true }], succeeded := 1 }

/-- A Pod that a Job of this UID controls. -/
def podOf (uid name : String) (created : Time) (containers : List ContainerStatus) : Pod where
  metadata :=
    { name, creationTimestamp := created, ownerReferences := [⟨"batch/v1", "Job", "job", uid, true, true⟩] }
  containerStatuses := containers

/-- The termination message of a runner that published its manifest. -/
def evidenceMessage : String :=
  "\x7b\"schemaVersion\":1,\"artifactManifestRef\":\"s3://artifacts/runs/1/result-manifest.json\"\x7d"

def deliveringPod : Pod :=
  podOf "1" "pod-b" 20 [{ name := "runner", terminated := some { exitCode := 0, message := evidenceMessage } }]

/-- A newer Pod of another Job, the Pod that delivered, and an older one that was replaced. -/
def completedPods : List Pod := [podOf "2" "pod-c" 30 [], deliveringPod, podOf "1" "pod-a" 10 []]

theorem completedJob_succeeded :
    (observeLifecycle Runner.textExternals completedJob completedPods).phase = .succeeded ∧
      (observeLifecycle Runner.textExternals completedJob completedPods).artifactManifestRef =
        "s3://artifacts/runs/1/result-manifest.json" ∧
      observeLifecycle Runner.textExternals completedJob completedPods.reverse =
        observeLifecycle Runner.textExternals completedJob completedPods := by
  have single : ∀ pod ∈ completedPods, ∀ container ∈ pod.containerStatuses, container.Single := by
    simp [completedPods, deliveringPod, podOf, ContainerStatus.Single]
  have parsed : parseTerminationEvidence Runner.textExternals evidenceMessage =
      .ok ⟨1, "s3://artifacts/runs/1/result-manifest.json"⟩ := by decide +kernel
  have completed : completedJob.Completed := by
    refine ⟨?_, ?_, ?_⟩ <;> simp [completedJob]
  have newest : Newest completedJob completedPods deliveringPod := by
    refine ⟨by simp [completedPods], rfl, ?_⟩
    decide +kernel
  have delivered : deliveringPod.Delivered Runner.textExternals ⟨1, "s3://artifacts/runs/1/result-manifest.json"⟩ :=
    ⟨by decide, _, rfl, rfl, parsed⟩
  obtain ⟨succeeds, reference, order, -⟩ := observeLifecycle_succeeded_iff (by decide) single
  have succeeded := succeeds.mpr ⟨completed, deliveringPod, _, newest, delivered⟩
  exact ⟨succeeded, reference _ _ succeeded newest delivered, order _ (List.reverse_perm _)⟩

end AgentForge.Operator
