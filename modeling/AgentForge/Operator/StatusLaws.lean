import AgentForge.Operator.Histories
import AgentForge.Operator.JobLaws

/-!
# Laws of the persisted status

Over every history of reconciles, with stale reads, lost writes, crashes and arbitrary answers about the other objects:
how the attempt advances, what the records of earlier attempts say, when the record of the current attempt mirrors the
top-level status, and for which attempts children are created.
-/

set_option autoImplicit false

namespace AgentForge.Operator

open Lib

/-! ## A run to test the laws on -/

section Sample

/-- A new run, with the retry policy of the sample, in an empty cluster. -/
def sampleCluster (policy : WorkspaceRetentionPolicy) : Cluster where
  run :=
    { metadata := { name := "run-1", ns := "tenant-1", uid := "uid-1", resourceVersion := 1, generation := 1 }
      spec := { sampleSpec .running with workspace := ⟨1, "local", policy⟩ } }
  runPresent := true
  earlier := []
  claims := fun _ => none
  clock := 64000000000 * second
  counter := 1

theorem sampleCluster_created (policy : WorkspaceRetentionPolicy) : Created (sampleCluster policy) :=
  ⟨rfl, rfl, le_refl _, (by decide : (3 : Int) ≤ 10), le_refl _, by rintro name claim ⟨⟩⟩

/-- The other objects: children do not exist yet, what the run refers to does, and the Job is as given. The service account
is answered with an error of its own. -/
def showing (account : ApiError) (job : Except ApiError Job) (pods : List Pod) : Answering :=
  .observed fun op =>
    match op with
    | .get .configMap name => if name = "artifacts" then .ok { metadata := { name := "artifacts" } } else .error .notFound
    | .get .job _ => job
    | .get .serviceAccount _ => .error account
    | .get .networkPolicy _ => .error .notFound
    | .get .persistentVolumeClaim _ => .error .notFound
    | .apply _ _ => .ok ()
    | .getStorageClass _ => .ok ⟨some .waitForFirstConsumer⟩
    | .listPods _ => .ok pods
    | .getSecret _ => .ok ()
    | .deletePod _ => .ok ()
    | .deleteJob _ _ => .ok ()
    | .now => 0
    | .getRun => .error .other
    | .patchRunStatus _ _ => .error .other
    | .patchRunFinalizers _ _ => .error .other
    | .patchWorkspace _ _ _ => .error .other

/-- Calls that the server answers without a fault. -/
def served (n : Nat) : List (Label clusterServer) := List.replicate n (.answer .current)

/-- A call on another object. -/
def shown (job : Except ApiError Job) (pods : List Pod) (n : Nat) : List (Label clusterServer) :=
  List.replicate n (.answer (showing .notFound job pods))

/-- The Job of the first attempt after its Pod was evicted. -/
def evictedJob : Job :=
  let job := buildJob
    { run := (sampleCluster .delete).run, names := namesOf sampleRunID 1, profile := standardProfile, egress := none
      labels := [], owner := ownerReference (sampleCluster .delete).run }
  { job with
    metadata := { job.metadata with uid := "6" }
    status := { conditions := [{ type := .failed, status := .true }], failed := 1 } }

def evictedPod : Pod := { attemptPod with reason := "Evicted" }

/-- A reconcile that creates all children and finds the Pod evicted. -/
def createAndFail : List (Label clusterServer) :=
  Label.start :: served 8 ++ shown (.error .notFound) [] 2 ++ served 1 ++ shown (.error .notFound) [] 3 ++ served 4 ++
    shown (.error .notFound) [] 1 ++ served 1 ++ shown (.error .notFound) [] 2 ++ served 1 ++
    shown (.error .notFound) [] 2 ++ served 1 ++ shown (.ok evictedJob) [evictedPod] 2 ++ served 6 ++ [Label.stop]

/-- A later reconcile, after the backoff, that starts the next attempt, up to the write of its status. -/
def retryLater : List (Label clusterServer) := Label.move (.setClock (64000001000 * second)) :: Label.start :: served 5

theorem sampleCluster_valid : validateSpec sampleReconciler.ext (sampleCluster .delete).run.spec = .ok () := by
  decide +kernel

/-- A Pod is evicted, and the next answer to a later reconcile starts the second attempt. -/
theorem eviction_reaches : ∃ c d, Reaches clusterServer (controller sampleReconciler) (fun _ _ => True)
      ⟨sampleCluster .delete, none⟩ c ∧ step clusterServer (controller sampleReconciler) c (.answer .current) = some d ∧
    c.world.run.status.attempt = 1 ∧ d.world.run.status.attempt = 2 := by
  have executed : (execute clusterServer (controller sampleReconciler) (fun _ _ => true) (createAndFail ++ retryLater)
      ⟨sampleCluster .delete, none⟩).any (fun c =>
        c.world.run.status.attempt = 1 && (step clusterServer (controller sampleReconciler) c (.answer .current)).any
          fun d => d.world.run.status.attempt = 2) = true := by decide +kernel
  obtain ⟨c, reached, holds⟩ := exists_reaches_any executed
  simp only [Bool.and_eq_true, decide_eq_true_eq, Option.any_eq_true] at holds
  obtain ⟨first, d, next, second⟩ := holds
  exact ⟨c, d, reached, next, first, second⟩

end Sample

/-! ## The attempt -/

section Attempts

variable {r : Reconciler} {w₀ : Cluster} {c d : Config clusterServer}

/-- The invariant along every history, whatever the answers are. -/
theorem inv_of_reaches (created : Created w₀)
    (reached : Reaches clusterServer (controller r) (fun _ _ => True) ⟨w₀, none⟩ c) :
    HistoryInv r False c ∧ SameIntent w₀.run c.world.run := by
  have reached : Reaches clusterServer (controller r) (Allowed r False) ⟨w₀, none⟩ c :=
    reached.mono fun _ _ _ => False.elim
  exact ⟨historyInv_of_reaches created reached, sameIntent_of_reaches created reached⟩

/-- The specification of a run is accepted in all its versions. -/
theorem accepted_of_valid (created : Created w₀) (valid : validateSpec r.ext w₀.run.spec = .ok ()) {run : AgentRun}
    (intent : SameIntent w₀.run run) : Accepted r.ext run :=
  Accepted.mono ⟨created.generation, valid⟩ intent

theorem attempt_le_currentAttempt (run : AgentRun) : run.status.attempt ≤ currentAttempt run := by
  unfold currentAttempt
  split <;> omega

/-- The next attempt begins: the current one failed in this reconcile, for a reason that the policy lists. -/
structure Retried (r : Reconciler) (log : Log) (old new : AgentRun) : Prop where
  next : new.status.attempt = currentAttempt old + 1
  running : old.spec.desiredState = .running
  failed : ∃ category reason, FailedIn r log old (some category) reason ∧
    (category = .transientDependency ∨ category = .internal) ∧
    category ∈ old.spec.retryPolicy.retryableFailureCategories.items

/-- What one transition does to the attempt and to final phases. -/
structure AttemptStep (r : Reconciler) (log : Log) (old new : AgentRun) : Prop where
  within : new.status.attempt = 0 ∨
    new.spec.attempt ≤ new.status.attempt ∧ new.status.attempt ≤ new.spec.retryPolicy.maxAttempts
  final : old.status.phase = some .succeeded ∨ old.status.phase = some .cancelled → new.status.phase = old.status.phase
  grows : old.status.attempt ≤ new.status.attempt
  change : new.status.attempt = old.status.attempt ∨ old.status.attempt = 0 ∧ new.status.attempt = new.spec.attempt ∨
    Retried r log old new

theorem retryAllowed_listed {run : AgentRun} (allowed : retryAllowed run = true) :
    ∃ category, run.status.failureCategory = some category ∧
      (category = .transientDependency ∨ category = .internal) ∧
      category ∈ run.spec.retryPolicy.retryableFailureCategories.items := by
  simp only [retryAllowed, Bool.and_eq_true] at allowed
  have listed := allowed.2
  split at listed
  · next same => exact ⟨_, same, .inl rfl, by simpa using listed⟩
  · next same => exact ⟨_, same, .inr rfl, by simpa using listed⟩
  · cases listed

theorem not_final_of_ongoing {status : AgentRunStatus} (ongoing : status.terminal = false) :
    ¬ (status.phase = some .succeeded ∨ status.phase = some .cancelled) := by
  rintro (phase | phase) <;> simp [AgentRunStatus.terminal, phase, AgentRunPhase.terminal] at ongoing

/-- The run that is advanced is the one read, or a draft of it. -/
theorem currentAttempt_of_source {before mid : AgentRun}
    (source : mid = before ∨ before.status.terminal = false ∧ Draft before mid ∧ Mirrored mid) :
    currentAttempt mid = currentAttempt before ∧ mid.spec = before.spec := by
  rcases source with rfl | ⟨-, draft, -⟩
  · exact ⟨rfl, rfl⟩
  · exact ⟨draft.currentAttempt, draft.spec⟩

/-- A status that a reconcile writes makes one step of the attempt. -/
theorem Written.attemptStep {tidy : Prop} {log : Log} {before new : AgentRun} {status : AgentRunStatus}
    (written : Written r tidy log before status) (persisted : Persisted r tidy before) (accepted : Accepted r.ext before)
    (spec : new.spec = before.spec) (stored : new.status = status.stored) (stable : Persisted r tidy new) :
    AttemptStep r log before new := by
  have within := stable.attempt.imp And.left id
  have attempt : new.status.attempt = status.attempt := by rw [stored]; rfl
  have phase : new.status.phase = status.phase := by rw [stored]; rfl
  have positive := (validateSpec_attempt accepted.2).2.1
  have observed := attempt_le_currentAttempt before
  cases written with
  | noted conditions generation => exact ⟨within, fun _ => phase, attempt.ge, .inl attempt⟩
  | worked started draft concluded =>
    rw [draft.attempt] at attempt
    refine ⟨within, fun final => absurd final (not_final_of_ongoing started), attempt ▸ observed, ?_⟩
    rw [attempt, spec]
    rcases persisted.attempt with ⟨zero, -⟩ | ⟨begun, -⟩
    · exact .inr (.inl ⟨zero, if_neg (by omega)⟩)
    · exact .inl (currentAttempt_of_ge begun)
  | advanced running source failed allowed next =>
    obtain ⟨current, sameSpec⟩ := currentAttempt_of_source source
    have grown : new.status.attempt = currentAttempt before + 1 := by
      rw [attempt, ← current]
      exact next.advanced.attempt
    refine ⟨within, fun final => ?_, by omega, .inr (.inr ⟨grown, running, ?_⟩)⟩
    · rcases source with rfl | ⟨started, -⟩
      · rw [retryAllowed_phase allowed] at final
        rcases final with ⟨⟨⟩⟩ | ⟨⟨⟩⟩
      · exact absurd final (not_final_of_ongoing started)
    · obtain ⟨category, same, retryable, listed⟩ := retryAllowed_listed allowed
      rw [same] at failed
      rw [sameSpec] at listed
      exact ⟨category, _, failed, retryable, listed⟩

/-- One transition from a configuration that keeps the invariant. -/
theorem HistoryInv.attemptStep {tidy : Prop} (inv : HistoryInv r tidy c) (accepted : Accepted r.ext c.world.run)
    {l : Label clusterServer} (stepped : Stepped clusterServer (controller r) c l d) :
    AttemptStep r c.log c.world.run d.world.run := by
  have transition := inv.transition stepped
  have persisted := inv.versions.persisted _ List.mem_cons_self accepted
  have stable : Persisted r tidy d.world.run := by
    have versions := transition.versions inv.versions
    refine versions.persisted _ List.mem_cons_self (accepted.mono (versions.intent _ ?_))
    exact transition.mem_versions List.mem_cons_self
  have unchanged : d.world.run.status = c.world.run.status → AttemptStep r c.log c.world.run d.world.run := by
    intro same
    exact ⟨stable.attempt.imp And.left id, fun _ => by rw [same], by rw [same], .inl (by rw [same])⟩
  cases transition with
  | kept run => exact unchanged (by rw [run])
  | edited new run _ _ _ status => exact unchanged (by rw [run]; exact status)
  | written status writes run =>
    exact (writes.written accepted).attemptStep persisted accepted (by rw [run]; rfl) (by rw [run]; rfl) stable

/-- In every history the persisted attempt moves only forward: it is set to the scheduled attempt, and grows by one when
a reconcile found or observed the current attempt as failed for a retryable reason of the policy, while the run is to be
running. It stays within the policy, and a final phase stays. -/
theorem attemptStep_of_reaches (created : Created w₀) (valid : validateSpec r.ext w₀.run.spec = .ok ())
    (reached : Reaches clusterServer (controller r) (fun _ _ => True) ⟨w₀, none⟩ c) {l : Label clusterServer}
    (next : step clusterServer (controller r) c l = some d) : AttemptStep r c.log c.world.run d.world.run := by
  obtain ⟨inv, intent⟩ := inv_of_reaches created reached
  exact inv.attemptStep (accepted_of_valid created valid intent) (stepped_of_step next)

/-- A Pod is evicted, and a later reconcile starts the second attempt. -/
theorem attemptStep_of_eviction : ∃ c d, Reaches clusterServer (controller sampleReconciler) (fun _ _ => True)
      ⟨sampleCluster .delete, none⟩ c ∧ step clusterServer (controller sampleReconciler) c (.answer .current) = some d ∧
    c.world.run.status.attempt = 1 ∧ d.world.run.status.attempt = 2 ∧
    AttemptStep sampleReconciler c.log c.world.run d.world.run := by
  obtain ⟨c, d, reached, next, first, second⟩ := eviction_reaches
  exact ⟨c, d, reached, next, first, second,
    attemptStep_of_reaches (sampleCluster_created .delete) sampleCluster_valid reached next⟩

end Attempts

/-! ## The records of the attempts -/

section Records

variable {r : Reconciler} {w₀ : Cluster} {c d : Config clusterServer}

/-- The records are ordered and few, and each earlier attempt has exactly one, which says that it failed. -/
structure AttemptRecords (run : AgentRun) : Prop where
  ordered : Ordered run.status.attempts
  few : run.status.attempts.length ≤ 10
  earlier : ∀ k, run.spec.attempt ≤ k → k < run.status.attempt →
    ∃ entry ∈ run.status.attempts, entry.attempt = k ∧ entry.phase = some .failed ∧
      ∀ other ∈ run.status.attempts, other.attempt = k → other = entry

/-- What one transition does to the records: those of earlier attempts stay, and an attempt that is left behind is
recorded with the category and reason under which the reconcile saw it fail. -/
structure RecordStep (r : Reconciler) (log : Log) (old new : AgentRun) : Prop where
  kept : ∀ entry ∈ old.status.attempts, entry.attempt < old.status.attempt → entry ∈ new.status.attempts
  left : currentAttempt old < new.status.attempt → ∃ entry ∈ new.status.attempts,
    entry.attempt = currentAttempt old ∧ entry.phase = some .failed ∧
      FailedIn r log old entry.failureCategory entry.failureReason

theorem length_le_of_range {attempts : List AttemptStatus} (ordered : Ordered attempts)
    (range : ∀ entry ∈ attempts, 1 ≤ entry.attempt ∧ entry.attempt ≤ 10) : attempts.length ≤ 10 := by
  have nodup : (attempts.map (·.attempt)).Nodup :=
    List.pairwise_map.mpr (ordered.imp fun h => h.ne)
  have bounded : (attempts.map (·.attempt)).toFinset ⊆ Finset.Icc 1 10 := by
    intro k member
    obtain ⟨entry, inside, rfl⟩ := List.mem_map.mp (List.mem_toFinset.mp member)
    exact Finset.mem_Icc.mpr (range entry inside)
  calc attempts.length = (attempts.map (·.attempt)).toFinset.card := by
        rw [List.toFinset_card_of_nodup nodup, List.length_map]
    _ ≤ (Finset.Icc (1 : Int) 10).card := Finset.card_le_card bounded
    _ = 10 := by decide

theorem Persisted.records {tidy : Prop} {run : AgentRun} (persisted : Persisted r tidy run) (accepted : Accepted r.ext run)
    (ceiling : run.spec.retryPolicy.maxAttempts ≤ 10) (configured : r.resourceBuilder.isSome = true) : AttemptRecords run := by
  refine ⟨persisted.ordered, length_le_of_range persisted.ordered fun entry member => ?_, fun k low high => ?_⟩
  · have positive := (validateSpec_attempt accepted.2).2.1
    have range := persisted.range entry member
    rcases persisted.attempt with ⟨zero, -⟩ | ⟨-, within⟩ <;> omega
  · obtain ⟨entry, member, at_, failed⟩ := persisted.earlier configured k low high
    exact ⟨entry, member, at_, failed, fun other inside same =>
      persisted.ordered.unique inside member (same.trans at_.symm)⟩

/-- The record of an earlier attempt says that it failed, so that storing it again changes nothing. -/
theorem Persisted.earlier_settled {tidy : Prop} {run : AgentRun} (persisted : Persisted r tidy run)
    (configured : r.resourceBuilder.isSome = true) {entry : AttemptStatus} (member : entry ∈ run.status.attempts)
    (earlier : entry.attempt < run.status.attempt) : entry.stored = entry := by
  obtain ⟨other, inside, same, failed⟩ :=
    persisted.earlier configured entry.attempt (persisted.range entry member).1 earlier
  obtain rfl := persisted.ordered.unique inside member same
  exact persisted.settled other member (by simp [failed])

theorem Written.recordStep {tidy : Prop} {log : Log} {before new : AgentRun} {status : AgentRunStatus}
    (written : Written r tidy log before status) (persisted : Persisted r tidy before)
    (configured : r.resourceBuilder.isSome = true) (stored : new.status = status.stored) :
    RecordStep r log before new := by
  have attempt : new.status.attempt = status.attempt := by rw [stored]; rfl
  have attempts : new.status.attempts = status.attempts.map AttemptStatus.stored := by rw [stored]; rfl
  have observed := attempt_le_currentAttempt before
  -- the records that a write keeps are stored as they were
  have keep : (∀ entry ∈ before.status.attempts, entry.attempt < before.status.attempt → entry ∈ status.attempts) →
      ∀ entry ∈ before.status.attempts, entry.attempt < before.status.attempt → entry ∈ new.status.attempts := by
    intro inside entry member earlier
    rw [attempts, ← persisted.earlier_settled configured member earlier]
    exact List.mem_map_of_mem (inside entry member earlier)
  cases written with
  | noted conditions generation =>
    refine ⟨keep fun _ member _ => member, fun grown => ?_⟩
    rw [attempt] at grown
    exact absurd observed (not_le.mpr grown)
  | worked started draft concluded =>
    refine ⟨keep fun entry member earlier => (draft.others entry (by omega)).mpr member, fun grown => ?_⟩
    rw [attempt, draft.attempt] at grown
    exact absurd grown (lt_irrefl _)
  | @advanced mid run running source failed allowed next =>
    obtain ⟨current, -⟩ := currentAttempt_of_source source
    have storable : Ordered mid.status.attempts ∧ ∀ entry ∈ before.status.attempts,
        entry.attempt < before.status.attempt → entry ∈ mid.status.attempts := by
      rcases source with rfl | ⟨-, draft, -⟩
      · exact ⟨persisted.ordered, fun _ member _ => member⟩
      · exact ⟨draft.ordered, fun entry member earlier => (draft.others entry (by omega)).mpr member⟩
    have inside : ∀ entry ∈ mid.status.attempts, entry.attempt ≤ currentAttempt before →
        entry ∈ (upsertAttemptStatus run).status.attempts := fun entry member low =>
      (next.advanced.mem_attempts storable.1).mpr (.inr ⟨member, by omega⟩)
    refine ⟨keep fun entry member earlier => inside entry (storable.2 entry member earlier) (by omega), fun _ => ?_⟩
    obtain ⟨entry, member, at_, phase, category, reason, -⟩ :=
      persisted.mirrored_of_source configured source allowed
    have here : entry.attempt = currentAttempt before := by
      rw [at_, retryAllowed_current allowed, current]
    refine ⟨entry.stored, attempts ▸ List.mem_map_of_mem (inside entry member here.le), here,
      phase.trans (retryAllowed_phase allowed), ?_⟩
    have facts : entry.stored.failureCategory = mid.status.failureCategory ∧
        entry.stored.failureReason = mid.status.failureReason := ⟨category, reason⟩
    rw [facts.1, facts.2]
    exact failed

/-- With a configured builder, every persisted status records each earlier attempt once, as failed with the category and
reason under which a reconcile saw it fail, and no later write changes such a record. -/
theorem attemptRecords_of_reaches (created : Created w₀) (valid : validateSpec r.ext w₀.run.spec = .ok ())
    (configured : r.resourceBuilder.isSome = true)
    (reached : Reaches clusterServer (controller r) (fun _ _ => True) ⟨w₀, none⟩ c) :
    AttemptRecords c.world.run ∧
      ∀ l d, step clusterServer (controller r) c l = some d → RecordStep r c.log c.world.run d.world.run := by
  obtain ⟨inv, intent⟩ := inv_of_reaches created reached
  have accepted := accepted_of_valid created valid intent
  have persisted := inv.versions.persisted _ List.mem_cons_self accepted
  refine ⟨persisted.records accepted (inv.versions.ceiling _ List.mem_cons_self) configured, fun l d next => ?_⟩
  have unchanged : d.world.run.status = c.world.run.status → RecordStep r c.log c.world.run d.world.run := by
    intro same
    refine ⟨fun entry member _ => same ▸ member, fun grown => absurd grown (not_lt.mpr ?_)⟩
    rw [same]
    exact attempt_le_currentAttempt c.world.run
  cases inv.transition (stepped_of_step next) with
  | kept run => exact unchanged (by rw [run])
  | edited new run _ _ _ status => exact unchanged (by rw [run]; exact status)
  | written status writes run => exact (writes.written accepted).recordStep persisted configured (by rw [run]; rfl)

/-- After the eviction and the retry the first attempt is recorded as failed. -/
theorem attemptRecords_of_eviction : ∃ c, Reaches clusterServer (controller sampleReconciler) (fun _ _ => True)
      ⟨sampleCluster .delete, none⟩ c ∧ c.world.run.status.attempt = 2 ∧ AttemptRecords c.world.run := by
  obtain ⟨c, d, reached, next, -, second⟩ := eviction_reaches
  have later := reached.step _ trivial next
  exact ⟨d, later, second, (attemptRecords_of_reaches (sampleCluster_created .delete) sampleCluster_valid rfl later).1⟩

end Records

/-! ## The record of the current attempt -/

section Mirror

variable {r : Reconciler} {w₀ : Cluster} {c : Config clusterServer}

/-- Every persisted status with a terminal phase is mirrored by the record of its attempt. -/
def TerminalMirrored (c : Cluster) : Prop := ∀ run ∈ c.versions, run.status.terminal = true → Mirrored run

/-- In a history of a valid run whose answers about children are tidy, every terminal status is mirrored. -/
theorem terminalMirrored_of_tidy (created : Created w₀) (valid : validateSpec r.ext w₀.run.spec = .ok ())
    (reached : Reaches clusterServer (controller r) (TidyStep r) ⟨w₀, none⟩ c) : TerminalMirrored c.world := by
  have allowed : Reaches clusterServer (controller r) (Allowed r True) ⟨w₀, none⟩ c :=
    reached.mono fun _ _ tidily _ => tidily
  have inv := historyInv_of_reaches created allowed
  have intent := sameIntent_of_reaches created allowed
  intro run member terminal
  have accepted : Accepted r.ext run := by
    refine ⟨inv.versions.generation run member, ?_⟩
    have same := (accepted_of_valid created valid intent).2
    rw [(inv.versions.intent run member).spec] at same
    exact same
  exact ((inv.versions.persisted run member accepted).terminal terminal).resolve_right fun h => h.1 trivial

/-- The children that are found are the run's own, no call on one fails for good, and a run that is returned can be
built. -/
def tidily (c : Config clusterServer) : Label clusterServer → Bool
  | .answer answering =>
    match c.task with
    | some ⟨log, .call op _⟩ =>
      (c.world.respond op answering).all fun answer =>
        ((op.childFailure answer.1).all fun e => e.errorClass ≠ .permanent && (!op.isApply || e ≠ .conflict)) &&
        (match op, answer.1 with
          | .get kind name, .ok object => log.all fun e => (e.1.answeredRun e.2).all fun before =>
            name ≠ (namesOf before.spec.runID (currentAttempt before)).of kind ||
              ownChild before kind (kind.metadata object)
          | _, _ => true) &&
        (op.answeredRun answer.1).all fun run => (newDefaultBuilder.buildAll sampleExternals run).isOk
    | _ => true
  | _ => true

theorem tidyStep_of_tidily (c : Config clusterServer) (l : Label clusterServer) (checked : tidily c l = true) :
    TidyStep sampleReconciler c l := by
  rintro answering log op next res w rfl task answered
  simp only [tidily, task, answered, Option.all_some, Bool.and_eq_true] at checked
  obtain ⟨⟨failures, owners⟩, builds⟩ := checked
  refine ⟨⟨?_, ?_⟩, ?_⟩
  · intro e failed
    simpa [failed, imp_iff_not_or] using failures
  · rintro before kind object ⟨event, member, carried⟩ ⟨⟩
    simpa [carried] using List.all_eq_true.mp owners event member
  · intro run carried
    rw [carried] at builds
    simp only [Option.all_some] at builds
    cases built : newDefaultBuilder.buildAll sampleExternals run with
    | error reason => simp [built, Except.isOk, Except.toBool] at builds
    | ok resources => exact ⟨newDefaultBuilder, resources, rfl, built⟩

/-- A run whose Job is created and fails ends with a mirrored record. -/
theorem terminalMirrored_of_eviction : ∃ c, Reaches clusterServer (controller sampleReconciler)
      (TidyStep sampleReconciler) ⟨sampleCluster .delete, none⟩ c ∧ c.world.run.status.phase = some .failed ∧
    TerminalMirrored c.world := by
  have executed : (execute clusterServer (controller sampleReconciler) tidily createAndFail
      ⟨sampleCluster .delete, none⟩).any (fun c => c.world.run.status.phase == some .failed) = true := by decide +kernel
  obtain ⟨c, reached, failed⟩ := exists_reaches tidyStep_of_tidily executed
  exact ⟨c, reached, beq_iff_eq.mp failed,
    terminalMirrored_of_tidy (sampleCluster_created .delete) sampleCluster_valid reached⟩

/-- Reading the first child is forbidden. The run is persisted as failed, and its attempt is not recorded. -/
theorem terminalMirrored_fails : Created (sampleCluster .delete) ∧
    validateSpec sampleExternals (sampleCluster .delete).run.spec = .ok () ∧
    ∃ c, Reaches clusterServer (controller sampleReconciler) (fun _ _ => True) ⟨sampleCluster .delete, none⟩ c ∧
      ¬ TerminalMirrored c.world := by
  have executed : (execute clusterServer (controller sampleReconciler) (fun _ _ => true)
      (Label.start :: served 8 ++ [Label.answer (showing .forbidden (.error .notFound) [])] ++ served 3)
      ⟨sampleCluster .delete, none⟩).any
        (fun c => c.world.run.status.terminal && c.world.run.status.attempts.isEmpty) = true := by decide +kernel
  obtain ⟨c, reached, holds⟩ := exists_reaches_any executed
  simp only [Bool.and_eq_true, List.isEmpty_iff] at holds
  refine ⟨sampleCluster_created _, sampleCluster_valid, c, reached, fun mirrored => ?_⟩
  obtain ⟨entry, member, -⟩ := mirrored _ List.mem_cons_self holds.1
  rw [holds.2] at member
  cases member

end Mirror

/-! ## The attempts that get children -/

section Children

variable {r : Reconciler} {w₀ : Cluster} {c : Config clusterServer}

theorem of_injective {runID : String} {kind : Kind} {a b : Int}
    (same : (namesOf runID a).of kind = (namesOf runID b).of kind) : a = b := by
  cases kind <;> simp only [namesOf, ResourceNames.of, String.append_left_inj] at same <;> exact childBase_injective same

/-- The child is one of attempt `k` of the run. -/
def ChildOf (run : AgentRun) (kind : Kind) (object : kind.Object) (k : Int) : Prop :=
  (kind.metadata object).name = (namesOf run.spec.runID k).of kind

/-- A child is applied only for the scheduled attempt, or for one that a persisted status has named before. -/
theorem persisted_before_apply (created : Created w₀)
    (reached : Reaches clusterServer (controller r) (fun _ _ => True) ⟨w₀, none⟩ c) {log : Log} {kind : Kind}
    {object : kind.Object} {next : (Op.apply kind object).Res → Ctl Unit}
    (task : c.task = some ⟨log, .call (.apply kind object) next⟩) :
    (∃ k, ChildOf c.world.run kind object k) ∧ ∀ k, ChildOf c.world.run kind object k →
      k = c.world.run.spec.attempt ∨ ∃ run ∈ c.world.versions, run.status.attempt = k := by
  obtain ⟨inv, -⟩ := inv_of_reaches created reached
  have safe := inv.safe
  rw [task] at safe
  obtain ⟨before, read, applies⟩ := safe.calls
  have member : before ∈ c.world.versions := inv.read before (by simpa [Config.log, task] using read.read)
  have spec := (inv.versions.intent before member).spec
  have child : ChildOf c.world.run kind object (currentAttempt before) := by
    rw [ChildOf, spec]
    exact applies.name
  refine ⟨⟨_, child⟩, fun k named => ?_⟩
  obtain rfl : k = currentAttempt before := of_injective (named.symm.trans child)
  rw [spec]
  unfold currentAttempt
  split
  · exact .inr ⟨before, member, rfl⟩
  · exact .inl rfl

/-- The next call applies the service account of the second attempt of a run that was scheduled for its first. -/
def appliesSecond (c : Config clusterServer) : Bool :=
  match c.task with
  | some ⟨_, .call (.apply .serviceAccount object) _⟩ =>
    c.world.run.spec.attempt == 1 &&
      (Kind.serviceAccount.metadata object).name == (namesOf c.world.run.spec.runID 2).of .serviceAccount
  | _ => false

/-- After an eviction and the write of the second attempt, its service account is applied. -/
theorem persisted_before_apply_second : ∃ (c : Config clusterServer) (log : Log) (object : ServiceAccount)
    (next : (Op.apply .serviceAccount object).Res → Ctl Unit),
    Reaches clusterServer (controller sampleReconciler) (fun _ _ => True) ⟨sampleCluster .delete, none⟩ c ∧
    c.task = some ⟨log, .call (.apply .serviceAccount object) next⟩ ∧ c.world.run.spec.attempt = 1 ∧
    ∃ k, ChildOf c.world.run .serviceAccount object k ∧ k = 2 ∧
      (k = c.world.run.spec.attempt ∨ ∃ run ∈ c.world.versions, run.status.attempt = k) := by
  have executed : (execute clusterServer (controller sampleReconciler) (fun _ _ => true)
      (createAndFail ++ retryLater ++ served 1 ++ [.stop, .start] ++ served 3 ++ shown (.error .notFound) [] 1)
      ⟨sampleCluster .delete, none⟩).any appliesSecond = true := by decide +kernel
  obtain ⟨c, reached, holds⟩ := exists_reaches_any executed
  unfold appliesSecond at holds
  split at holds
  · next log object next task =>
    simp only [Bool.and_eq_true, beq_iff_eq] at holds
    exact ⟨c, log, object, next, reached, task, holds.1, 2, holds.2, rfl,
      (persisted_before_apply (sampleCluster_created .delete) reached task).2 2 holds.2⟩
  · cases holds

end Children

end AgentForge.Operator
