import AgentForge.Operator.Cluster
import AgentForge.Operator.ReconcileUsage

/-!
# Histories of the persisted status

A write that a reconcile makes over a persisted run gives a run that may be persisted again (`Storable`). So every version
in the history of a run is `Persisted`, whatever the other objects show and however stale the reads are.
-/

set_option autoImplicit false

namespace AgentForge.Operator

open Lib

/-! ## Storing a run -/

/-- What a run in memory needs so that it may be persisted. -/
structure Storable (r : Reconciler) (tidy : Prop) (run : AgentRun) : Prop where
  attempt : (run.status.attempt = 0 ∧ run.status.phase = none ∧ run.status.jobName = "" ∧ run.status.attempts = []) ∨
    run.spec.attempt ≤ run.status.attempt ∧ run.status.attempt ≤ run.spec.retryPolicy.maxAttempts
  jobName : run.status.jobName = "" ∨ run.status.jobName = currentJobName run
  ordered : Ordered run.status.attempts
  range : ∀ entry ∈ run.status.attempts, run.spec.attempt ≤ entry.attempt ∧ entry.attempt ≤ run.status.attempt
  earlier : r.resourceBuilder.isSome = true → ∀ k, run.spec.attempt ≤ k → k < run.status.attempt →
    ∃ entry ∈ run.status.attempts, entry.attempt = k ∧ entry.phase = some .failed
  settles : ∀ entry ∈ run.status.attempts, entry.phase ≠ some .cancelled → entry.Settles
  timed : run.status.phase ≠ some .cancelled → Settling run.status.startTime ∧ Settling run.status.completionTime
  terminal : run.status.terminal = true →
    Mirrored run ∨ ¬ tidy ∧ (r.resourceBuilder.isSome = true → retryAllowed run = false)

theorem ordered_stored {attempts : List AttemptStatus} (ordered : Ordered attempts) :
    Ordered (attempts.map AttemptStatus.stored) := List.pairwise_map.mpr ordered

section Storing

variable {r : Reconciler} {tidy : Prop} {before run run' : AgentRun} {log : Log}

theorem Persisted.storable (persisted : Persisted r tidy run) : Storable r tidy run where
  attempt := persisted.attempt
  jobName := persisted.jobName
  ordered := persisted.ordered
  range := persisted.range
  earlier := persisted.earlier
  settles := fun entry member phase => AttemptStatus.settles_of_stored (persisted.settled entry member phase)
  timed := persisted.timed
  terminal := persisted.terminal

/-- The API server stores what may be persisted. -/
theorem Storable.persisted (storable : Storable r tidy run) : Persisted r tidy (run.withStatus run.status.stored) where
  attempt := by
    refine storable.attempt.imp (fun h => ⟨h.1, h.2.1, h.2.2.1, ?_⟩) id
    simp [AgentRun.withStatus, AgentRunStatus.stored, h.2.2.2]
  jobName := storable.jobName
  ordered := ordered_stored storable.ordered
  range := by
    intro entry member
    obtain ⟨original, inside, rfl⟩ := List.mem_map.mp member
    exact storable.range original inside
  earlier := by
    intro configured k low high
    obtain ⟨entry, member, facts⟩ := storable.earlier configured k low high
    exact ⟨entry.stored, List.mem_map_of_mem member, facts⟩
  settled := by
    intro entry member phase
    obtain ⟨original, inside, rfl⟩ := List.mem_map.mp member
    exact (storable.settles original inside phase).stored
  timed := fun phase => (storable.timed phase).imp Settling.of_stored Settling.of_stored
  terminal := by
    intro ended
    refine (storable.terminal ended).imp ?_ id
    rintro ⟨entry, member, facts⟩
    exact ⟨entry.stored, List.mem_map_of_mem member, facts⟩

/-- Only the status and the immutable spec decide what is persisted. -/
theorem Persisted.congr (persisted : Persisted r tidy run)
    (spec : run'.spec = { run.spec with desiredState := run'.spec.desiredState }) (status : run'.status = run.status) :
    Persisted r tidy run' := by
  obtain ⟨metadata, spec', status'⟩ := run'
  obtain ⟨metadata₀, spec₀, status₀⟩ := run
  dsimp only at spec status
  generalize spec'.desiredState = state at spec
  subst spec status
  exact ⟨persisted.attempt, persisted.jobName, persisted.ordered, persisted.range, persisted.earlier, persisted.settled,
    persisted.timed, persisted.terminal⟩

theorem Storable.notes (storable : Storable r tidy run) (conditions : List Condition) (observedGeneration : Int) :
    Storable r tidy (run.withStatus { run.status with conditions, observedGeneration }) :=
  ⟨storable.attempt, storable.jobName, storable.ordered, storable.range, storable.earlier, storable.settles,
    storable.timed, storable.terminal⟩

/-- The current attempt of a persisted run that is accepted is within the policy. -/
theorem Persisted.currentAttempt_le (persisted : Persisted r tidy before) (accepted : Accepted r.ext before) :
    currentAttempt before ≤ before.spec.retryPolicy.maxAttempts := by
  obtain ⟨-, positive, -, within⟩ := validateSpec_attempt accepted.2
  rcases persisted.attempt with ⟨zero, -⟩ | ⟨started, bounded⟩
  · unfold currentAttempt
    split <;> omega
  · rwa [currentAttempt_of_ge started]

/-- A draft whose work has ended in one of the three ways may be stored. -/
theorem Draft.storable (draft : Draft before run) (persisted : Persisted r tidy before) (accepted : Accepted r.ext before)
    (ended : run.status.terminal = true →
      Mirrored run ∨ ¬ tidy ∧ (r.resourceBuilder.isSome = true → retryAllowed run = false)) : Storable r tidy run where
  attempt := by
    rw [draft.attempt, draft.spec]
    exact .inr ⟨currentAttempt_ge before, persisted.currentAttempt_le accepted⟩
  jobName := by
    refine draft.jobName.imp id fun named => named.trans ?_
    rw [currentJobName, currentJobName, jobNameOf, jobNameOf, draft.currentAttempt, draft.spec]
  ordered := draft.ordered
  range := by
    intro entry member
    rw [draft.attempt, draft.spec]
    by_cases current : entry.attempt = Operator.currentAttempt before
    · have := currentAttempt_ge before
      omega
    · obtain ⟨low, high⟩ := persisted.range entry ((draft.others entry current).mp member)
      refine ⟨low, high.trans ?_⟩
      rcases persisted.attempt with ⟨zero, -, -, empty⟩ | ⟨started, -⟩
      · rw [(draft.others entry current), empty] at member
        cases member
      · rw [currentAttempt_of_ge started]
  earlier := by
    intro configured k low high
    rw [draft.attempt] at high
    rw [draft.spec] at low
    have started : k < before.status.attempt := by
      unfold Operator.currentAttempt at high
      split at high <;> omega
    obtain ⟨entry, member, rfl, failed⟩ := persisted.earlier configured k low started
    exact ⟨entry, (draft.others entry high.ne).mpr member, rfl, failed⟩
  settles := draft.settles
  timed := draft.timed
  terminal := ended

theorem Concluded.ended {error : Option ReconcileError} (concluded : Concluded r tidy log before run error)
    (terminal : run.status.terminal = true) :
    Mirrored run ∨ ¬ tidy ∧ (r.resourceBuilder.isSome = true → retryAllowed run = false) := by
  cases concluded with
  | ongoing ongoing =>
    rw [ongoing] at terminal
    cases terminal
  | projected mirrored _ => exact .inl mirrored
  | refused _ _ untidy final => exact .inr ⟨untidy, final⟩

/-- The facts that allow a retry. -/
theorem retryAllowed_within {run : AgentRun} (allowed : retryAllowed run = true) :
    run.status.attempt < run.spec.retryPolicy.maxAttempts := by
  simp only [retryAllowed, Bool.and_eq_true, decide_eq_true_eq] at allowed
  exact allowed.1.2

/-- What the next attempt starts with. -/
structure Advanced (mid run : AgentRun) : Prop where
  spec : run.spec = mid.spec
  attempt : run.status.attempt = currentAttempt mid + 1
  attempts : run.status.attempts = mid.status.attempts
  jobName : run.status.jobName = ""
  phase : run.status.phase = some .pending
  start : run.status.startTime = none
  completion : run.status.completionTime = none

theorem Annotated.advanced {mid : AgentRun} (next : Annotated (advanceAttempt mid) run) : Advanced mid run := by
  obtain ⟨⟨_, _, rfl⟩, -⟩ := next
  exact ⟨rfl, rfl, rfl, rfl, rfl, rfl, rfl⟩

theorem Advanced.currentAttempt {mid : AgentRun} (next : Advanced mid run) :
    currentAttempt run = Operator.currentAttempt mid + 1 := by
  have started := currentAttempt_ge mid
  rw [currentAttempt_of_ge, next.attempt]
  rw [next.spec, next.attempt]
  omega

/-- The records of the next attempt: those of the failed one, and its own. -/
theorem Advanced.mem_attempts {mid : AgentRun} (next : Advanced mid run) (ordered : Ordered mid.status.attempts)
    {entry : AttemptStatus} :
    entry ∈ (upsertAttemptStatus run).status.attempts ↔
      entry = attemptRecord run ∨ entry ∈ mid.status.attempts ∧ entry.attempt ≠ Operator.currentAttempt mid + 1 := by
  rw [← next.attempts] at ordered ⊢
  rw [← next.currentAttempt]
  exact mem_recorded ordered

/-- The next attempt may be stored once the failed one is recorded. -/
theorem Storable.advance {mid : AgentRun} (storable : Storable r tidy mid) (allowed : retryAllowed mid = true)
    (mirrored : r.resourceBuilder.isSome = true → Mirrored mid) (next : Advanced mid run) :
    Storable r tidy (upsertAttemptStatus run) := by
  have current := retryAllowed_current allowed
  have within := retryAllowed_within allowed
  have started := currentAttempt_ge mid
  have attempt : (upsertAttemptStatus run).status.attempt = mid.status.attempt + 1 := by
    rw [current]
    exact next.attempt
  have spec : (upsertAttemptStatus run).spec = mid.spec := next.spec
  have mem_attempts : ∀ {entry : AttemptStatus}, entry ∈ (upsertAttemptStatus run).status.attempts ↔
      entry = attemptRecord run ∨ entry ∈ mid.status.attempts ∧ entry.attempt ≠ mid.status.attempt + 1 := by
    rw [current]
    exact next.mem_attempts storable.ordered
  have record : (attemptRecord run).attempt = mid.status.attempt + 1 := by
    rw [current]
    exact next.currentAttempt
  have timed : Settling run.status.startTime ∧ Settling run.status.completionTime := by
    rw [next.start, next.completion]
    exact ⟨rfl, rfl⟩
  refine ⟨.inr ?_, .inl next.jobName, ordered_recorded (next.attempts ▸ storable.ordered), ?_, ?_, ?_, fun _ => timed, ?_⟩
  · rw [attempt, spec]
    omega
  · intro entry member
    rw [attempt, spec]
    rcases mem_attempts.mp member with rfl | ⟨member, -⟩
    · omega
    · have := storable.range entry member
      omega
  · intro configured k low high
    rw [attempt] at high
    rw [spec] at low
    have recorded : ∀ entry ∈ mid.status.attempts, entry.attempt = k → entry.phase = some .failed →
        ∃ entry ∈ (upsertAttemptStatus run).status.attempts, entry.attempt = k ∧ entry.phase = some .failed := by
      intro entry member at_ failed
      exact ⟨entry, mem_attempts.mpr (.inr ⟨member, by omega⟩), at_, failed⟩
    rcases (Int.lt_add_one_iff.mp high).lt_or_eq with earlier | rfl
    · obtain ⟨entry, member, at_, failed⟩ := storable.earlier configured k low earlier
      exact recorded entry member at_ failed
    · obtain ⟨entry, member, at_, phase, -⟩ := mirrored configured
      exact recorded entry member at_ (phase.trans (retryAllowed_phase allowed))
  · intro entry member phase
    rcases mem_attempts.mp member with rfl | ⟨member, -⟩
    · exact timed
    · exact storable.settles entry member phase
  · intro terminal
    have phase : (upsertAttemptStatus run).status.phase = some .pending := next.phase
    simp [AgentRunStatus.terminal, phase, AgentRunPhase.terminal] at terminal

/-- With a configured builder, an attempt that is left behind has been recorded. -/
theorem Persisted.mirrored_of_source (persisted : Persisted r tidy before) (configured : r.resourceBuilder.isSome = true)
    {mid : AgentRun} (source : mid = before ∨ before.status.terminal = false ∧ Draft before mid ∧ Mirrored mid)
    (allowed : retryAllowed mid = true) : Mirrored mid := by
  rcases source with rfl | ⟨-, -, mirrored⟩
  · refine (persisted.terminal (terminal_of_failed (retryAllowed_phase allowed))).resolve_right fun h => ?_
    rw [h.2 configured] at allowed
    cases allowed
  · exact mirrored

/-- What a reconcile writes over a persisted run may be persisted. -/
theorem Written.persisted {status : AgentRunStatus} (written : Written r tidy log before status)
    (persisted : Persisted r tidy before) (accepted : Accepted r.ext before) :
    Persisted r tidy (before.withStatus status.stored) := by
  cases written with
  | noted conditions generation => exact (persisted.storable.notes conditions generation).persisted
  | @worked run error started draft concluded =>
    refine (draft.storable persisted accepted concluded.ended).persisted.congr ?_ rfl
    simp only [AgentRun.withStatus, draft.spec]
  | @advanced mid run running source failed allowed next =>
    have spec : mid.spec = before.spec := by
      rcases source with rfl | ⟨-, draft, -⟩
      · rfl
      · exact draft.spec
    have mirrored : r.resourceBuilder.isSome = true → Mirrored mid :=
      fun configured => persisted.mirrored_of_source configured source allowed
    have storable : Storable r tidy mid := by
      rcases source with rfl | ⟨-, draft, mirrored⟩
      · exact persisted.storable
      · exact draft.storable persisted accepted fun _ => .inl mirrored
    refine (storable.advance allowed mirrored next.advanced).persisted.congr ?_ rfl
    have same : (upsertAttemptStatus run).spec = before.spec := next.advanced.spec.trans spec
    simp only [AgentRun.withStatus, same]

end Storing

/-! ## The invariant of the history -/

/-- A run as it is created: nothing is recorded yet. The schema bounds the retries. -/
structure Created (c : Cluster) : Prop where
  status : c.run.status = {}
  earlier : c.earlier = []
  generation : 1 ≤ c.run.metadata.generation
  ceiling : c.run.spec.retryPolicy.maxAttempts ≤ 10
  version : c.run.metadata.resourceVersion ≤ c.counter
  claims : ∀ name claim, c.claims name = some claim →
    claim.byOperator = false ∧ claim.object.metadata.resourceVersion ≤ c.counter

/-- What holds of the versions of the run. -/
structure VersionsInv (r : Reconciler) (tidy : Prop) (c : Cluster) : Prop where
  sorted : c.versions.Pairwise fun newer older => older.metadata.resourceVersion < newer.metadata.resourceVersion
  counter : ∀ run ∈ c.versions, run.metadata.resourceVersion ≤ c.counter
  intent : ∀ run ∈ c.versions, SameIntent run c.run
  ceiling : ∀ run ∈ c.versions, run.spec.retryPolicy.maxAttempts ≤ 10
  generation : ∀ run ∈ c.versions, 1 ≤ run.metadata.generation
  persisted : ∀ run ∈ c.versions, Accepted r.ext run → Persisted r tidy run

/-- The invariant of a configuration. -/
structure HistoryInv (r : Reconciler) (tidy : Prop) (c : Config clusterServer) : Prop where
  versions : VersionsInv r tidy c.world
  read : ∀ run, ReadIn c.log run → run ∈ c.world.versions
  safe : (statusUsage r tidy).Safe c.task

/-- A call on a child is answered tidily, and a run that is read can be built. -/
def TidyStep (r : Reconciler) (c : Config clusterServer) (l : Label clusterServer) : Prop :=
  ∀ answering log op next res w, l = .answer answering → c.task = some ⟨log, .call op next⟩ →
    c.world.respond op answering = some (res, w) →
    Tidy log op res ∧ ∀ run, op.answeredRun res = some run → Buildable r run

section Invariant

variable {r : Reconciler} {tidy : Prop} {c c' : Cluster}

/-- A version that was read under the current version number is the current run. -/
theorem VersionsInv.eq_run (inv : VersionsInv r tidy c) {run : AgentRun} (member : run ∈ c.versions)
    (same : run.metadata.resourceVersion = c.run.metadata.resourceVersion) : run = c.run := by
  rcases List.mem_cons.mp member with rfl | older
  · rfl
  · exact absurd same (List.rel_of_pairwise_cons inv.sorted older).ne

/-- The same versions under a counter that has not fallen. -/
theorem VersionsInv.mono (inv : VersionsInv r tidy c) (run : c'.run = c.run) (earlier : c'.earlier = c.earlier)
    (counter : c.counter ≤ c'.counter) : VersionsInv r tidy c' := by
  have versions : c'.versions = c.versions := by rw [Cluster.versions, run, earlier]; rfl
  refine ⟨versions ▸ inv.sorted, fun v member => ?_, ?_, versions ▸ inv.ceiling, versions ▸ inv.generation,
    versions ▸ inv.persisted⟩
  · exact (inv.counter v (versions ▸ member)).trans counter
  · rw [versions, run]
    exact inv.intent

/-- A new version that keeps the intent and may be persisted. -/
theorem VersionsInv.extend (inv : VersionsInv r tidy c) {new : AgentRun} (run : c'.run = c.version new)
    (earlier : c'.earlier = c.run :: c.earlier) (counter : c'.counter = c.counter + 1) (intent : SameIntent c.run new)
    (persisted : Accepted r.ext c.run → Persisted r tidy c.run → Persisted r tidy new) : VersionsInv r tidy c' := by
  have versions : c'.versions = c.version new :: c.versions := by rw [Cluster.versions, run, earlier]; rfl
  have current : c.run ∈ c.versions := List.mem_cons_self
  have kept : SameIntent c.run (c.version new) :=
    ⟨intent.name, intent.ns, intent.uid, intent.generation, intent.spec, intent.cancelled⟩
  refine ⟨?_, ?_, ?_, ?_, ?_, ?_⟩
  · rw [versions]
    exact List.pairwise_cons.mpr ⟨fun v member => Nat.lt_succ_of_le (inv.counter v member), inv.sorted⟩
  · rw [versions, counter]
    exact List.forall_mem_cons.mpr ⟨le_refl _, fun v member => (inv.counter v member).trans (Nat.le_succ _)⟩
  · rw [versions, run]
    exact List.forall_mem_cons.mpr ⟨.refl _, fun v member => (inv.intent v member).trans kept⟩
  · rw [versions]
    refine List.forall_mem_cons.mpr ⟨?_, inv.ceiling⟩
    rw [kept.spec]
    exact inv.ceiling c.run current
  · rw [versions]
    exact List.forall_mem_cons.mpr ⟨(inv.generation c.run current).trans kept.generation, inv.generation⟩
  · rw [versions]
    refine List.forall_mem_cons.mpr ⟨fun accepted => ?_, inv.persisted⟩
    have before : Accepted r.ext c.run := by
      refine ⟨inv.generation c.run current, ?_⟩
      have same := accepted.2
      rw [kept.spec] at same
      exact same
    exact (persisted before (inv.persisted c.run current before)).congr rfl rfl

/-- How the run changes in a transition: not at all, by a status that the reconcile writes, or in what its status does not
depend on. -/
inductive Transition (r : Reconciler) (tidy : Prop) (log : Log) (c c' : Cluster) : Prop
  | kept (run : c'.run = c.run) (earlier : c'.earlier = c.earlier) (counter : c.counter ≤ c'.counter)
  | written (status : AgentRunStatus) (writes : Writes r tidy log c.run status)
    (run : c'.run = c.version (c.run.withStatus status.stored)) (earlier : c'.earlier = c.run :: c.earlier)
    (counter : c'.counter = c.counter + 1)
  | edited (new : AgentRun) (run : c'.run = c.version new) (earlier : c'.earlier = c.run :: c.earlier)
    (counter : c'.counter = c.counter + 1) (intent : SameIntent c.run new) (status : new.status = c.run.status)

theorem Transition.versions {log : Log} (transition : Transition r tidy log c c') (inv : VersionsInv r tidy c) :
    VersionsInv r tidy c' := by
  cases transition with
  | kept run earlier counter => exact inv.mono run earlier counter
  | written status writes run earlier counter =>
    exact inv.extend run earlier counter ⟨rfl, rfl, rfl, le_refl _, rfl, id⟩ fun accepted persisted =>
      (writes.written accepted).persisted persisted accepted
  | edited new run earlier counter intent status =>
    exact inv.extend run earlier counter intent fun _ persisted => persisted.congr intent.spec status

/-- A move of another client does not write the status. -/
theorem move_transition {m : ClusterMove} (moved : c.move m = some c') (log : Log) : Transition r tidy log c c' := by
  have claimed : ∀ name claim, Transition r tidy log c (c.setClaim name claim) :=
    fun _ _ => .kept rfl rfl (Nat.le_succ _)
  cases m with
  | requestCancellation =>
    simp only [Cluster.move, Option.ite_none_right_eq_some, Option.some.injEq] at moved
    obtain ⟨-, rfl⟩ := moved
    exact .edited _ rfl rfl rfl ⟨rfl, rfl, rfl, Int.le_add_one (le_refl _), rfl, fun _ => rfl⟩ rfl
  | deleteRun =>
    simp only [Cluster.move, Option.ite_none_right_eq_some, Option.some.injEq] at moved
    obtain ⟨-, rfl⟩ := moved
    exact .edited _ rfl rfl rfl ⟨rfl, rfl, rfl, le_refl _, rfl, id⟩ rfl
  | editRun labels annotations =>
    simp only [Cluster.move, Option.ite_none_right_eq_some, Option.some.injEq] at moved
    obtain ⟨-, rfl⟩ := moved
    exact .edited _ rfl rfl rfl ⟨rfl, rfl, rfl, le_refl _, rfl, id⟩ rfl
  | createClaim name object =>
    simp only [Cluster.move, Option.ite_none_right_eq_some, Option.some.injEq] at moved
    obtain ⟨-, rfl⟩ := moved
    exact claimed _ _
  | editClaim name object =>
    simp only [Cluster.move] at moved
    split at moved
    · simp only [Option.ite_none_left_eq_some, Option.some.injEq] at moved
      obtain ⟨-, rfl⟩ := moved
      exact claimed _ _
    · cases moved
  | removeClaim name =>
    cases moved
    exact claimed _ _
  | setClock clock =>
    cases moved
    exact .kept rfl rfl (le_refl _)

/-- An answered call writes the status only as the usage allows. -/
theorem RunEffect.transition {op : Op} {res : op.Res} (effect : RunEffect c op res c') {log : Log}
    (inv : VersionsInv r tidy c) (read : ∀ run, ReadIn log run → run ∈ c.versions) (called : Calls r tidy log op) :
    Transition r tidy log c c' := by
  cases effect with
  | kept run earlier counter _ => exact .kept run earlier counter
  | status status sameOp run earlier counter _ =>
    subst sameOp
    obtain ⟨before, wasRead, version, writes⟩ := called
    obtain rfl := inv.eq_run (read before wasRead) version
    exact .written status writes run earlier counter
  | finalizers finalizers sameOp run earlier counter _ =>
    exact .edited _ run earlier counter ⟨rfl, rfl, rfl, le_refl _, rfl, id⟩ rfl

/-- The runs that answers carry are persisted versions. -/
theorem RunEffect.answered {op : Op} {res : op.Res} (effect : RunEffect c op res c') {run : AgentRun}
    (carried : op.answeredRun res = some run) : run ∈ c'.versions := by
  cases effect with
  | kept same earlier _ read =>
    have member := (read run carried).2
    rwa [Cluster.versions, same, earlier]
  | status _ _ _ _ _ answer => exact answer run carried ▸ List.mem_cons_self
  | finalizers _ _ _ _ _ answer => exact answer run carried ▸ List.mem_cons_self

/-- Jobs and Pods are decoded with times of whole seconds. -/
theorem respond_whole {op : Op} {answering : Answering} {res : op.Res} (answered : c.respond op answering = some (res, c')) :
    (∀ name job, (⟨op, res⟩ : Event Op Op.Res) = ⟨.get .job name, .ok job⟩ → job.WholeTimes) ∧
      ∀ name pods, (⟨op, res⟩ : Event Op Op.Res) = ⟨.listPods name, .ok pods⟩ → ∀ pod ∈ pods, pod.WholeTimes := by
  refine ⟨?_, ?_⟩
  · rintro name job ⟨⟩
    cases answering with
    | observed answer =>
      have decoded : Op.decoded (.get .job name) (answer (.get .job name)) = .ok job :=
        congrArg Prod.fst (Option.some.inj answered)
      cases shown : answer (.get .job name) with
      | error e =>
        rw [shown] at decoded
        cases decoded
      | ok original =>
        rw [shown] at decoded
        cases decoded
        exact original.decoded_whole
    | _ => cases answered
  · rintro name pods ⟨⟩ pod member
    cases answering with
    | observed answer =>
      have decoded : Op.decoded (.listPods name) (answer (.listPods name)) = .ok pods :=
        congrArg Prod.fst (Option.some.inj answered)
      cases shown : answer (.listPods name) with
      | error e =>
        rw [shown] at decoded
        cases decoded
      | ok originals =>
        rw [shown] at decoded
        cases decoded
        obtain ⟨original, -, rfl⟩ := List.mem_map.mp member
        exact original.decoded_whole
    | _ => cases answered

/-- The answers of the server may be counted on. -/
theorem given_of_answer {log : Log} {op : Op} {answering : Answering} {res : op.Res} (inv : VersionsInv r tidy c)
    (inv' : VersionsInv r tidy c') (read : ∀ run, ReadIn log run → run ∈ c.versions)
    (answered : c.respond op answering = some (res, c'))
    (orderly : tidy → Tidy log op res ∧ ∀ run, op.answeredRun res = some run → Buildable r run) :
    Given r tidy log op res := by
  have effect := respond_effect answered
  have current : ∀ before, ReadIn log before →
      before.metadata.resourceVersion = c.run.metadata.resourceVersion → before = c.run :=
    fun before wasRead version => inv.eq_run (read before wasRead) version
  refine ⟨fun run carried => inv'.ceiling run (effect.answered carried),
    fun run carried => inv'.persisted run (effect.answered carried), ?_, ?_, (respond_whole answered).1,
    (respond_whole answered).2, fun h => (orderly h).1, fun h => (orderly h).2⟩
  · rintro version status run ⟨⟩
    cases effect with
    | kept _ _ _ kept => cases (kept run rfl).1
    | status _ sameOp sameRun _ _ answer =>
      cases sameOp
      obtain rfl := answer run rfl
      rw [sameRun]
      refine ⟨rfl, fun before wasRead version => ?_⟩
      obtain rfl := current before wasRead version
      exact ⟨rfl, rfl⟩
    | finalizers _ sameOp => cases sameOp
  · rintro version finalizers run ⟨⟩ before wasRead same
    cases effect with
    | kept _ _ _ kept => cases (kept run rfl).1
    | status _ sameOp => cases sameOp
    | finalizers _ sameOp sameRun _ _ answer =>
      cases sameOp
      obtain rfl := answer run rfl
      rw [sameRun]
      obtain rfl := current before wasRead same
      exact ⟨rfl, rfl⟩

variable {c d : Config clusterServer}

/-- One transition of the system, with the events of the activation before it. -/
theorem HistoryInv.transition (inv : HistoryInv r tidy c) {l : Label clusterServer}
    (stepped : Stepped clusterServer (controller r) c l d) : Transition r tidy c.log c.world d.world := by
  cases stepped with
  | start | stop => exact .kept rfl rfl (le_refl _)
  | @answer answering log op next res w task answered =>
    have sameLog : c.log = log := by simp [Config.log, task]
    have safe := inv.safe
    rw [task] at safe
    rw [sameLog]
    exact (respond_effect answered).transition inv.versions (sameLog ▸ inv.read) safe.calls
  | move moved => exact move_transition moved _

theorem Transition.mem_versions {c : Cluster} {log : Log} (transition : Transition r tidy log c c') {run : AgentRun}
    (member : run ∈ c.versions) : run ∈ c'.versions := by
  cases transition with
  | kept same earlier => rwa [Cluster.versions, same, earlier]
  | written _ _ _ earlier => exact List.mem_cons_of_mem _ (earlier ▸ member)
  | edited _ _ earlier => exact List.mem_cons_of_mem _ (earlier ▸ member)

theorem HistoryInv.step (inv : HistoryInv r tidy c) {l : Label clusterServer} (tidily : tidy → TidyStep r c l)
    (stepped : Stepped clusterServer (controller r) c l d) : HistoryInv r tidy d := by
  have transition := inv.transition stepped
  have versions := transition.versions inv.versions
  refine ⟨versions, ?_, inv.safe.step (controller_usage r tidy) stepped ?_⟩
  · cases stepped with
    | start | stop =>
      rintro run ⟨e, ⟨⟩, -⟩
    | @answer answering log op next res w task answered =>
      rintro run ⟨e, member, carried⟩
      rcases List.mem_cons.mp member with rfl | member
      · exact (respond_effect answered).answered carried
      · refine transition.mem_versions (inv.read run ⟨e, ?_, carried⟩)
        simpa [Config.log, task] using member
    | move moved => exact fun run read => transition.mem_versions (inv.read run read)
  · rintro answering log op next res w rfl task answered
    cases stepped with
    | @answer _ log' op' next' res' w' task' answered' =>
      rw [task] at task'
      cases task'
      rw [answered] at answered'
      cases answered'
      have sameLog : c.log = log := by simp [Config.log, task]
      exact given_of_answer inv.versions versions (sameLog ▸ inv.read) answered fun h =>
        tidily h answering log op next res w rfl task answered

theorem Created.historyInv {c : Cluster} (created : Created c) : HistoryInv r tidy ⟨c, none⟩ := by
  have only : ∀ run ∈ c.versions, run = c.run := by
    simp [Cluster.versions, created.earlier]
  refine ⟨⟨?_, ?_, ?_, ?_, ?_, ?_⟩, by rintro run ⟨e, ⟨⟩, -⟩, trivial⟩
  · simp [Cluster.versions, created.earlier]
  all_goals
    intro run member
    obtain rfl := only run member
  · exact created.version
  · exact .refl _
  · exact created.ceiling
  · exact created.generation
  · intro accepted
    have status := created.status
    refine ⟨.inl ?_, .inl ?_, ?_, ?_, ?_, ?_, ?_, ?_⟩ <;> rw [status]
    · exact ⟨rfl, rfl, rfl, rfl⟩
    · exact List.Pairwise.nil
    · simp
    · have := (validateSpec_attempt accepted.2).2.1
      intro _ k low high
      simp at high
      omega
    · simp
    · exact fun _ => ⟨rfl, rfl⟩
    · intro terminal
      cases terminal

/-- The transitions that a history may take. -/
def Allowed (r : Reconciler) (tidy : Prop) (c : Config clusterServer) (l : Label clusterServer) : Prop :=
  tidy → TidyStep r c l

/-- Every history keeps the invariant. -/
theorem historyInv_of_reaches {w₀ : Cluster} (created : Created w₀)
    (reached : Reaches clusterServer (controller r) (Allowed r tidy) ⟨w₀, none⟩ c) : HistoryInv r tidy c := by
  induction reached with
  | refl => exact created.historyInv
  | step _ l allowed next ih => exact ih.step allowed (stepped_of_step next)

/-- The intent of the run that was created is the intent of every later version. -/
theorem sameIntent_of_reaches {w₀ : Cluster} (created : Created w₀)
    (reached : Reaches clusterServer (controller r) (Allowed r tidy) ⟨w₀, none⟩ c) :
    SameIntent w₀.run c.world.run := by
  have member : w₀.run ∈ c.world.versions := by
    induction reached with
    | refl => exact List.mem_cons_self
    | step reached l allowed next ih =>
      exact ((historyInv_of_reaches created reached).transition (stepped_of_step next)).mem_versions ih
  exact (historyInv_of_reaches created reached).versions.intent _ member

end Invariant

end AgentForge.Operator
