import AgentForge.Operator.Calls

/-!
# A reconcile keeps to its usage

The rules of the reconcile program, function by function. Inside, the run in memory is a draft of the one that was read
(`Begun`); each branch ends with an outcome that may be written (`Finished`).
-/

set_option autoImplicit false

namespace AgentForge.Operator

open Lib

/-! ## The run in memory -/

/-- The current attempt of the run that was read is being worked on, with this Job name in memory. -/
structure Begun (before : AgentRun) (known : String) (run : AgentRun) (log : Log) : Prop where
  read : Opened false log before
  draft : Draft before run
  named : run.status.jobName = known
  ongoing : run.status.terminal = false

/-- The outcome may be written over the run that was read. -/
structure Finished (r : Reconciler) (tidy : Prop) (before : AgentRun) (outcome : Outcome) (log : Log) : Prop where
  read : Opened false log before
  draft : Draft before outcome.run
  concluded : Concluded r tidy log before outcome.run outcome.error

variable {run run' : AgentRun}

theorem retryAllowed_category (allowed : retryAllowed run = true) :
    run.status.failureCategory = some .transientDependency ∨ run.status.failureCategory = some .internal := by
  simp only [retryAllowed, Bool.and_eq_true] at allowed
  have listed := allowed.2
  split at listed
  · next same => exact .inl same
  · next same => exact .inr same
  · cases listed

theorem retryAllowed_phase (allowed : retryAllowed run = true) : run.status.phase = some .failed := by
  simp only [retryAllowed, Bool.and_eq_true, beq_iff_eq] at allowed
  exact allowed.1.1.1

theorem terminal_of_failed {status : AgentRunStatus} (failed : status.phase = some .failed) : status.terminal = true := by
  simp [AgentRunStatus.terminal, failed, AgentRunPhase.terminal]

theorem not_cancelled_of_ongoing {status : AgentRunStatus} (ongoing : status.terminal = false) :
    status.phase ≠ some .cancelled := by
  intro cancelled
  simp [AgentRunStatus.terminal, cancelled, AgentRunPhase.terminal] at ongoing

theorem Annotated.terminal (noted : Annotated run run') : run'.status.terminal = run.status.terminal := by
  obtain ⟨⟨_, _, rfl⟩, -⟩ := noted
  rfl

theorem Annotated.jobName (noted : Annotated run run') : run'.status.jobName = run.status.jobName := by
  obtain ⟨⟨_, _, rfl⟩, -⟩ := noted
  rfl

namespace Begun

variable {r : Reconciler} {tidy : Prop} {before : AgentRun} {known : String} {log : Log}

theorem lasting (before : AgentRun) (known : String) (run : AgentRun) : Usage.Lasting (Begun before known run) :=
  fun _ e begun => { begun with read := begun.read.cons e }

theorem timed (begun : Begun before known run log) : Settling run.status.startTime ∧ Settling run.status.completionTime :=
  begun.draft.timed (not_cancelled_of_ongoing begun.ongoing)

theorem annotated (begun : Begun before known run log) (noted : Annotated run run') : Begun before known run' log where
  read := begun.read
  draft := begun.draft.annotated noted
  named := noted.jobName.trans begun.named
  ongoing := noted.terminal.trans begun.ongoing

theorem withPhase (begun : Begun before known run log) (phase : AgentRunPhase) (ongoing : phase.terminal = false) :
    Begun before known (run.withPhase phase) log where
  read := begun.read
  draft := begun.draft.edit rfl begun.draft.jobName rfl rfl fun _ => begun.timed
  named := begun.named
  ongoing := ongoing

theorem withJobName (begun : Begun before known run log) {name : String} (current : name = currentJobName before) :
    Begun before name (run.withJobName name) log where
  read := begun.read
  draft := begun.draft.edit rfl (.inr current) rfl rfl fun _ => begun.timed
  named := rfl
  ongoing := begun.ongoing

theorem finished (begun : Begun before known run log) (result : Result) (error : Option ReconcileError) :
    Finished r tidy before { run, result, error } log :=
  ⟨begun.read, begun.draft, .ongoing begun.ongoing⟩

/-- A failed prerequisite goes on, or is final after an untidy answer. -/
theorem failure (begun : Begun before known run log) {e : ReconcileError} {category : FailureCategory} {failureReason : String}
    (final : e.errorClass = .permanent →
      ¬ tidy ∧ (r.resourceBuilder.isSome = true → category ≠ .transientDependency ∧ category ≠ .internal))
    (noted : Annotated (run.withStatus { run.status with
      phase := some (if e.errorClass = .permanent then .failed else .provisioning)
      failureCategory := some category, failureReason }) run') :
    Finished r tidy before { run := run', error := some e } log := by
  refine ⟨begun.read, (begun.draft.edit ?_ ?_ ?_ ?_ ?_).annotated noted, ?_⟩
  · rfl
  · exact begun.draft.jobName
  · rfl
  · rfl
  · exact fun _ => begun.timed
  · obtain ⟨⟨_, _, rfl⟩, -⟩ := noted
    by_cases permanent : e.errorClass = .permanent
    · obtain ⟨untidy, others⟩ := final permanent
      refine .refused (by simp [AgentRun.withStatus, permanent]) rfl untidy fun configured => ?_
      obtain ⟨notTransient, notInternal⟩ := others configured
      by_contra allowed
      rcases retryAllowed_category (Bool.of_not_eq_false allowed) with same | same <;>
        simp only [AgentRun.withStatus, Option.some.injEq] at same
      · exact notTransient same
      · exact notInternal same
    · exact .ongoing (by simp [AgentRun.withStatus, AgentRunStatus.terminal, permanent, AgentRunPhase.terminal])

/-- A projected observation is recorded. -/
theorem projected (begun : Begun before known run log) {observation : LifecycleObservation}
    (timed : Settling observation.startTime ∧ Settling observation.completionTime)
    (failed : observation.phase = .failed →
      FailedIn r log before observation.failureCategory observation.failureReason)
    (recorded : RecordedAs (run.observe observation) run') (result : Result) :
    Finished r tidy before { run := run', result } log := by
  obtain ⟨mid, noted, rfl⟩ := recorded
  have observed : Draft before (run.observe observation) :=
    begun.draft.edit rfl begun.draft.jobName rfl rfl fun _ => timed
  have draft := observed.annotated noted
  refine ⟨begun.read, draft.record, .projected draft.mirrored fun phase => ?_⟩
  obtain ⟨⟨_, _, rfl⟩, -⟩ := noted
  exact failed (Option.some.inj phase)

/-- A recorded edit to a phase that is not `Failed`. -/
theorem recorded (begun : Begun before known run log) {status : AgentRunStatus} (recorded : RecordedAs (run.withStatus status) run')
    (attempt : status.attempt = run.status.attempt) (jobName : status.jobName = run.status.jobName) (attempts : status.attempts = run.status.attempts)
    (conditions : status.conditions = run.status.conditions)
    (timed : status.phase ≠ some .cancelled → Settling status.startTime ∧ Settling status.completionTime)
    (phase : status.phase ≠ some .failed) (result : Result) (error : Option ReconcileError) : Finished r tidy before { run := run', result, error } log := by
  obtain ⟨mid, noted, rfl⟩ := recorded
  have draft : Draft before mid :=
    (begun.draft.edit attempt (jobName ▸ begun.draft.jobName) attempts conditions timed).annotated noted
  refine ⟨begun.read, draft.record, .projected draft.mirrored fun failed => absurd ?_ phase⟩
  obtain ⟨⟨_, _, rfl⟩, -⟩ := noted
  exact failed

end Begun

/-! ## Prerequisites -/

section Prerequisites

variable {r : Reconciler} {tidy : Prop} {before : AgentRun} {known : String} {type : ConditionType}

/-- A call that is always allowed, or allowed by `P`, under an assertion that lasts. -/
theorem ask {P : Log → Prop} (lasting : Usage.Lasting P) (op : Op) (allowed : ∀ log, P log → Calls r tidy log op) :
    (statusUsage r tidy).Triple P (call op) fun res log =>
      P log ∧ ∃ log₀, log = ⟨op, res⟩ :: log₀ ∧ P log₀ ∧ Given r tidy log₀ op res :=
  Usage.Triple.perform allowed fun log _ pre given => ⟨lasting log _ pre, log, rfl, pre, given⟩

theorem handlePrerequisiteError_usage (run : AgentRun) (other : type ≠ .cleanupPending) (reason : String)
    (e : PrerequisiteError) :
    (statusUsage r tidy).Triple (fun log => Begun before known run log ∧ (e.permanent = true → ¬ tidy))
      (handlePrerequisiteError run type reason e) (Finished r tidy before) := by
  have lasting : Usage.Lasting fun log => Begun before known run log ∧ (e.permanent = true → ¬ tidy) :=
    fun log event h => ⟨Begun.lasting before known run log event h.1, h.2⟩
  refine (returns_recordPrerequisiteFailure run other _ _ _ lasting).bind fun run' => Usage.Triple.pure fun log h => ?_
  obtain ⟨⟨begun, final⟩, noted⟩ := h
  refine begun.failure (fun permanent => ⟨final ((e.classify_permanent reason).mp permanent), fun _ => ?_⟩) noted
  have final := (e.classify_permanent reason).mp permanent
  cases e with
  | resourceConflict => simp
  | api e =>
    have refused : e.errorClass = .permanent := by simpa [PrerequisiteError.permanent] using final
    simp [refused]

/-- The result of ensuring a child: working goes on, or fails for good after an untidy answer. -/
abbrev EnsuredIn (tidy : Prop) (before : AgentRun) (known : String) (run : AgentRun) (res : Except PrerequisiteError Unit) (log : Log) : Prop :=
  Begun before known run log ∧ ∀ e, res = .error e → e.permanent = true → ¬ tidy

theorem ensureObject_usage (run : AgentRun) (kind : Kind) (desired : kind.Object) (applies : Applies r before kind desired)
    (owned : ∀ metadata, ownChild before kind metadata = true →
      validateExistingOwnership before (kind.metadata desired) metadata = .ok ()) :
    (statusUsage r tidy).Triple (Begun before known run) (ensureObject r run kind desired) (EnsuredIn tidy before known run) := by
  have apply : (statusUsage r tidy).Triple (Begun before known run) (ensureObject.apply kind desired (kind.metadata desired))
      (EnsuredIn tidy before known run) := by
    refine (ask (Begun.lasting before known run) (.apply kind desired) fun log begun => ⟨before, begun.read, applies⟩).bind
      fun res => ?_
    split
    · exact Usage.Triple.pure fun log h => ⟨h.1, by rintro e ⟨⟩⟩
    · refine Usage.Triple.pure fun log h => ⟨h.1, fun _ _ _ orderly => ?_⟩
      obtain ⟨-, log₀, -, -, given⟩ := h
      exact ((given.orderly orderly).failure _ rfl).2 rfl rfl
    · next e _ =>
      refine Usage.Triple.pure fun log h => ⟨h.1, fun _ failed permanent orderly => ?_⟩
      obtain ⟨-, log₀, -, -, given⟩ := h
      cases failed
      exact ((given.orderly orderly).failure e rfl).1 (by simpa [PrerequisiteError.permanent] using permanent)
  refine (ask (Begun.lasting before known run) (.get kind _) fun _ _ => trivial).bind fun res => ?_
  split
  · next existing =>
    split
    · next foreign =>
      refine Usage.Triple.pure fun log h => ⟨h.1, fun _ _ _ orderly => ?_⟩
      obtain ⟨-, log₀, -, begun, given⟩ := h
      have own : ownChild before kind (kind.metadata existing) = true :=
        (given.orderly orderly).owner before kind existing begun.read.read (by rw [applies.name])
      have same : validateExistingOwnership run (kind.metadata desired) (kind.metadata existing) =
          validateExistingOwnership before (kind.metadata desired) (kind.metadata existing) := by
        simp only [validateExistingOwnership, validateExistingOwnership.annotated, begun.draft.metadata]
      rw [same, owned _ own] at foreign
      cases foreign
    · split
      · exact Usage.Triple.pure fun log h => ⟨h.1, by rintro e ⟨⟩⟩
      · exact apply.consequence (fun _ h => h.1) fun _ _ => id
  · exact apply.consequence (fun _ h => h.1) fun _ _ => id
  · next e _ =>
    refine Usage.Triple.pure fun log h => ⟨h.1, fun _ failed permanent orderly => ?_⟩
    obtain ⟨-, log₀, -, -, given⟩ := h
    cases failed
    exact ((given.orderly orderly).failure e rfl).1 (by simpa [PrerequisiteError.permanent] using permanent)

/-- No built child mentions the retention state. -/
theorem state_of_buildAll {builder : Builder} {desired : ExecutionResources}
    (built : builder.buildAll r.ext before = .ok desired) (kind : Kind) :
    (kind.metadata (desired.object kind)).annotations.lookup retentionStateAnnotationKey = none := by
  obtain ⟨selected, -, rfl, -⟩ := Builder.buildAll_names built
  have plain : (annotationsForRun before).lookup retentionStateAnnotationKey = none := by
    simp [annotationsForRun, retentionStateAnnotationKey, ownerUIDAnnotationKey, List.lookup]
  cases kind with
  | persistentVolumeClaim =>
    simp only [Kind.metadata, ExecutionResources.object, buildSelected, buildResources, buildPVC]
    split
    · exact plain
    · simp [annotationsForRun, BuildContext.metadata, retentionStateAnnotationKey, ownerUIDAnnotationKey,
        retentionAnnotationKey, List.lookup]
  | _ => exact plain

/-- What the chain knows of the objects it ensures. -/
structure Wanted (r : Reconciler) (before : AgentRun) (desired : ExecutionResources) : Prop where
  applies : ∀ kind, Applies r before kind (desired.object kind)
  owned : ∀ kind metadata, ownChild before kind metadata = true →
    validateExistingOwnership before (kind.metadata (desired.object kind)) metadata = .ok ()

theorem wanted_of_buildAll {builder : Builder} {desired : ExecutionResources} (accepted : Accepted r.ext before)
    (configured : r.resourceBuilder = some builder) (built : builder.buildAll r.ext before = .ok desired) :
    Wanted r before desired where
  applies := fun kind =>
    ⟨accepted, (desired_of_buildAll configured built).name kind, state_of_buildAll built kind⟩
  owned := (desired_of_buildAll configured built).owned

variable {desired : ExecutionResources} (wanted : Wanted r before desired)

include wanted

theorem Wanted.ensure (run : AgentRun) (kind : Kind) :
    (statusUsage r tidy).Triple (Begun before known run) (ensureObject r run kind (desired.object kind))
      (EnsuredIn tidy before known run) :=
  ensureObject_usage run kind (desired.object kind) (wanted.applies kind) (wanted.owned kind)

theorem Wanted.jobName : desired.job.metadata.name = currentJobName before := (wanted.applies .job).name

omit wanted

/-- A failed read of a child is reported. -/
theorem handleRead_usage (run : AgentRun) (other : type ≠ .cleanupPending) (reason : String) (op : Op)
    (res : op.Res) {e : ApiError} (failed : op.childFailure res = some e) :
    (statusUsage r tidy).Triple
      (fun log => Begun before known run log ∧
        ∃ log₀, log = ⟨op, res⟩ :: log₀ ∧ Begun before known run log₀ ∧ Given r tidy log₀ op res)
      (handlePrerequisiteError run type reason (.api e)) (Finished r tidy before) := by
  refine (handlePrerequisiteError_usage run other reason (.api e)).consequence (fun log h => ⟨h.1, ?_⟩) fun _ _ => id
  obtain ⟨-, log₀, -, -, given⟩ := h
  intro permanent orderly
  exact ((given.orderly orderly).failure e failed).1 (by simpa [PrerequisiteError.permanent] using permanent)

/-- The prerequisite is noted as ready. -/
theorem ready_usage (run : AgentRun) (other : type ≠ .cleanupPending) (reason message : String) :
    (statusUsage r tidy).Triple (Begun before known run) (recordPrerequisiteReady run type reason message)
      (Begun before known) :=
  (returns_setCondition run other _ _ _ _ (Begun.lasting before known run)).consequence (fun _ => id)
    fun _ _ h => h.1.annotated h.2

/-- The Job of the current attempt was read, and its Pods were listed. -/
structure Seen (before : AgentRun) (known : String) (run : AgentRun) (job : Job) (pods : List Pod) (log : Log) : Prop where
  begun : Begun before known run log
  read : (⟨.get .job (currentJobName before), .ok job⟩ : Event Op Op.Res) ∈ log
  listed : (⟨.listPods job.metadata.name, .ok pods⟩ : Event Op Op.Res) ∈ log
  whole : ∀ pod ∈ pods, pod.WholeTimes

theorem project_usage (run : AgentRun) {job : Job} (whole : job.WholeTimes) (pods : List Pod) :
    (statusUsage r tidy).Triple (Seen before known run job pods) (projectLifecycle run (observeLifecycle r.ext job pods))
      fun run' log => ∀ result, Finished r tidy before { run := run', result } log := by
  have lasting : Usage.Lasting (Seen before known run job pods) := fun log e seen =>
    ⟨Begun.lasting before known run log e seen.begun, List.mem_cons_of_mem _ seen.read, List.mem_cons_of_mem _ seen.listed,
      seen.whole⟩
  refine (returns_projectLifecycle run _ _ lasting).consequence (fun _ => id) fun run' log h result => ?_
  obtain ⟨seen, recorded⟩ := h
  have times : (observeLifecycle r.ext job pods).WholeTimes := whole_observeLifecycle whole seen.whole
  exact seen.begun.projected ⟨times.1.settling, times.2.settling⟩
    (fun failed => .observed seen.read seen.listed failed) recorded result

/-- The Job of the current attempt was read. -/
abbrev JobSeen (before : AgentRun) (known : String) (run : AgentRun) (job : Job) (log : Log) : Prop :=
  Begun before known run log ∧ (⟨.get .job (currentJobName before), .ok job⟩ : Event Op Op.Res) ∈ log

theorem lasting_jobSeen (before : AgentRun) (known : String) (run : AgentRun) (job : Job) : Usage.Lasting (JobSeen before known run job) :=
  fun log e h => ⟨Begun.lasting before known run log e h.1, List.mem_cons_of_mem _ h.2⟩

theorem listPods_usage (run : AgentRun) (job : Job) :
    (statusUsage r tidy).Triple (JobSeen before known run job) (call (.listPods job.metadata.name)) fun res log =>
      (∀ e, res = .error e → Begun before known run log ∧ (e.errorClass = .permanent → ¬ tidy)) ∧
        ∀ pods, res = .ok pods → Seen before known run job pods log := by
  refine (ask (lasting_jobSeen before known run job) (.listPods job.metadata.name) fun _ _ => trivial).consequence (fun _ => id)
    fun res log h => ?_
  obtain ⟨⟨begun, read⟩, log₀, rfl, -, given⟩ := h
  refine ⟨?_, ?_⟩
  · rintro e rfl
    exact ⟨begun, fun permanent orderly => ((given.orderly orderly).failure e rfl).1 permanent⟩
  · rintro pods rfl
    exact ⟨begun, read, List.mem_cons_self, given.wholePods _ pods rfl⟩

theorem observeJob_usage (run : AgentRun) {job : Job} (whole : job.WholeTimes) :
    (statusUsage r tidy).Triple (JobSeen before known run job) (observeJob r run job) (Finished r tidy before) := by
  refine (listPods_usage run job).bind fun res => ?_
  split
  · next e =>
    exact (handlePrerequisiteError_usage run (by decide) _ (.api e)).consequence (fun _ h => ⟨(h.1 e rfl).1,
      fun permanent => (h.1 e rfl).2 (by simpa [PrerequisiteError.permanent] using permanent)⟩) fun _ _ => id
  · next pods =>
    refine Usage.Triple.bind ((project_usage run whole pods).consequence (fun _ h => h.2 pods rfl) fun _ _ => id)
      fun run' => ?_
    split <;> exact Usage.Triple.pure fun _ h => h _

include wanted

theorem Wanted.ensureJob (run : AgentRun) :
    (statusUsage r tidy).Triple (Begun before known run) (ensureJob r run desired.job) (Finished r tidy before) := by
  refine (wanted.ensure run .job).bind fun res => ?_
  split
  · next e =>
    exact (handlePrerequisiteError_usage run (by decide) _ e).consequence (fun _ h => ⟨h.1, h.2 e rfl⟩) fun _ _ => id
  · refine Usage.Triple.bind ((ready_usage (run.withJobName desired.job.metadata.name) (by decide) _ _).consequence
      (fun log h => h.1.withJobName wanted.jobName) fun _ _ => id) fun run' => ?_
    refine (ask (Begun.lasting before _ run') (.get .job desired.job.metadata.name) fun _ _ => trivial).bind fun res => ?_
    split
    · next e => exact handleRead_usage run' (by decide) _ (.get .job desired.job.metadata.name) (.error _) rfl
    · next job =>
      intro log h
      obtain ⟨begun, log₀, rfl, -, given⟩ := h
      refine observeJob_usage run' (given.wholeJob _ job rfl) _ ⟨begun, ?_⟩
      rw [wanted.jobName]
      exact List.mem_cons_self

theorem Wanted.recordMissingJob (run : AgentRun) :
    (statusUsage r tidy).Triple
      (fun log => Begun before before.status.jobName run log ∧ run.status.jobName ≠ "" ∧
        ((⟨.get .job (currentJobName before), .error .notFound⟩ : Event Op Op.Res) ∈ log ∨
          ∃ job : Job, (⟨.get .job (currentJobName before), .ok job⟩ : Event Op Op.Res) ∈ log ∧ job.metadata.deleting = true))
      (do return ({ run := ← recordMissingJob run desired.job.metadata.name } : Outcome)) (Finished r tidy before) := by
  have lasting : Usage.Lasting fun log : Log => Begun before before.status.jobName run log ∧ run.status.jobName ≠ "" ∧
      ((⟨.get .job (currentJobName before), .error .notFound⟩ : Event Op Op.Res) ∈ log ∨
        ∃ job : Job, (⟨.get .job (currentJobName before), .ok job⟩ : Event Op Op.Res) ∈ log ∧ job.metadata.deleting = true) := by
    rintro log e ⟨begun, named, gone⟩
    refine ⟨Begun.lasting before _ run log e begun, named, gone.imp (List.mem_cons_of_mem _) ?_⟩
    rintro ⟨job, read, deleting⟩
    exact ⟨job, List.mem_cons_of_mem _ read, deleting⟩
  refine (returns_projectLifecycle (run.withJobName desired.job.metadata.name) _ _ lasting).bind fun run' =>
    Usage.Triple.pure fun log h => ?_
  obtain ⟨⟨begun, named, gone⟩, recorded⟩ := h
  have name : before.status.jobName = currentJobName before :=
    begun.named.symm.trans (begun.draft.jobName.resolve_left named)
  exact (begun.withJobName wanted.jobName).projected begun.timed (fun _ => .missing name gone) recorded {}

theorem Wanted.reconcileJob (run : AgentRun) :
    (statusUsage r tidy).Triple (Begun before before.status.jobName run) (reconcileJob r run desired.job) (Finished r tidy before) := by
  unfold Operator.reconcileJob
  split
  · exact wanted.ensureJob run
  · next named =>
    split
    · next differs =>
      -- a recorded name is the name of the current attempt's Job
      intro log begun
      exact absurd ((begun.draft.jobName.resolve_left named).trans wanted.jobName.symm) differs
    · refine (ask (Begun.lasting before _ run) (.get .job desired.job.metadata.name) fun _ _ => trivial).bind fun res => ?_
      split
      · refine (wanted.recordMissingJob run).consequence (fun log h => ⟨h.1, named, .inl ?_⟩) fun _ _ => id
        obtain ⟨-, log₀, rfl, -⟩ := h
        rw [wanted.jobName]
        exact List.mem_cons_self
      · exact handleRead_usage run (by decide) _ (.get .job desired.job.metadata.name) (.error _) rfl
      · next existing =>
        split
        · next deleting =>
          refine (wanted.recordMissingJob run).consequence (fun log h => ⟨h.1, named, .inr ⟨existing, ?_, deleting⟩⟩) fun _ _ => id
          obtain ⟨-, log₀, rfl, -⟩ := h
          rw [wanted.jobName]
          exact List.mem_cons_self
        · exact (wanted.ensureJob run).consequence (fun _ h => h.1) fun _ _ => id

theorem Wanted.reconcileNetworkPolicy (run : AgentRun) :
    (statusUsage r tidy).Triple (Begun before before.status.jobName run) (reconcileNetworkPolicy r run desired) (Finished r tidy before) := by
  refine (wanted.ensure run .networkPolicy).bind fun res => ?_
  split
  · next e =>
    exact (handlePrerequisiteError_usage run (by decide) _ e).consequence (fun _ h => ⟨h.1, h.2 e rfl⟩) fun _ _ => id
  · exact Usage.Triple.bind ((ready_usage run (by decide) _ _).consequence (fun _ h => h.1) fun _ _ => id)
      fun run' => wanted.reconcileJob run'

omit wanted in
/-- A permanent error comes of an untidy answer. -/
theorem workspaceWaitsForFirstConsumer_usage (run : AgentRun) (workspace : PersistentVolumeClaim) :
    (statusUsage r tidy).Triple (Begun before known run) (workspaceWaitsForFirstConsumer workspace) fun res log =>
      Begun before known run log ∧ ∀ e, res = .error e → e.errorClass = .permanent → ¬ tidy := by
  unfold workspaceWaitsForFirstConsumer
  split
  · exact Usage.Triple.pure fun log h => ⟨h, by rintro e ⟨⟩⟩
  · next name _ =>
    split
    · exact Usage.Triple.pure fun log h => ⟨h, by rintro e ⟨⟩⟩
    · refine (ask (Begun.lasting before known run) (.getStorageClass name) fun _ _ => trivial).bind fun res => ?_
      split
      · exact Usage.Triple.pure fun log h => ⟨h.1, by rintro e ⟨⟩⟩
      · exact Usage.Triple.pure fun log h => ⟨h.1, by rintro e ⟨⟩⟩
      · next e _ =>
        refine Usage.Triple.pure fun log h => ⟨h.1, fun e' failed permanent orderly => ?_⟩
        obtain ⟨-, log₀, -, -, given⟩ := h
        cases failed
        exact ((given.orderly orderly).failure e rfl).1 permanent

theorem Wanted.awaitWorkspace (run : AgentRun) (workspace : PersistentVolumeClaim) :
    (statusUsage r tidy).Triple (Begun before before.status.jobName run) (awaitWorkspace r run desired workspace) (Finished r tidy before) := by
  unfold Operator.awaitWorkspace
  split
  · exact Usage.Triple.bind (ready_usage run (by decide) _ _) fun run' => wanted.reconcileNetworkPolicy run'
  · refine Usage.Triple.bind ((workspaceWaitsForFirstConsumer_usage (run.withPhase .provisioning) workspace).consequence
      (fun log h => h.withPhase _ rfl) fun _ _ => id) fun res => ?_
    split
    · next e =>
      refine (handlePrerequisiteError_usage (run.withPhase .provisioning) (by decide) _ (.api e)).consequence
        (fun log h => ⟨h.1, fun permanent => h.2 e rfl ?_⟩) fun _ _ => id
      simpa [PrerequisiteError.permanent] using permanent
    · refine Usage.Triple.bind ((returns_setConditions (run.withPhase .provisioning) (by decide) _
        (Begun.lasting before _ _)).consequence (fun _ h => h.1) fun _ _ => id) fun run' => ?_
      exact Usage.Triple.pure fun log h => (h.1.annotated h.2).finished _ _
    · refine Usage.Triple.bind ((returns_setCondition (run.withPhase .provisioning) (by decide) _ _ _ _
        (Begun.lasting before _ _)).consequence (fun _ h => h.1) fun _ _ => id) fun run' => ?_
      exact (wanted.reconcileNetworkPolicy run').consequence (fun log h => h.1.annotated h.2) fun _ _ => id

theorem Wanted.reconcileWorkspace (run : AgentRun) :
    (statusUsage r tidy).Triple (Begun before before.status.jobName run) (reconcileWorkspace r run desired) (Finished r tidy before) := by
  refine (wanted.ensure run .persistentVolumeClaim).bind fun res => ?_
  split
  · next e =>
    exact (handlePrerequisiteError_usage run (by decide) _ e).consequence (fun _ h => ⟨h.1, h.2 e rfl⟩) fun _ _ => id
  · refine Usage.Triple.bind ((ask (Begun.lasting before _ run)
      (.get .persistentVolumeClaim desired.workspace.metadata.name) fun _ _ => trivial).consequence
      (fun _ h => h.1) fun _ _ => id) fun res => ?_
    split
    · next e =>
      exact handleRead_usage run (by decide) _ (.get .persistentVolumeClaim desired.workspace.metadata.name) (.error e) rfl
    · next workspace => exact (wanted.awaitWorkspace run workspace).consequence (fun _ h => h.1) fun _ _ => id

omit wanted in
theorem read_usage (run : AgentRun) (reference : Reference) :
    (statusUsage r tidy).Triple (Begun before known run) reference.read fun res log =>
      Begun before known run log ∧ ∀ e, res = .error e → e.errorClass = .permanent → ¬ tidy := by
  cases reference with
  | configMap name =>
    refine (ask (Begun.lasting before known run) (.get .configMap name) fun _ _ => trivial).bind fun res => ?_
    split
    · exact Usage.Triple.pure fun log h => ⟨h.1, by rintro e ⟨⟩⟩
    · next e =>
      refine Usage.Triple.pure fun log h => ⟨h.1, fun e' failed permanent orderly => ?_⟩
      obtain ⟨-, log₀, -, -, given⟩ := h
      cases failed
      exact ((given.orderly orderly).failure e rfl).1 permanent
  | secret name =>
    refine (ask (Begun.lasting before known run) (.getSecret name) fun _ _ => trivial).consequence (fun _ => id)
      fun res log h => ⟨h.1, fun e failed permanent orderly => ?_⟩
    obtain ⟨-, log₀, -, -, given⟩ := h
    subst failed
    exact ((given.orderly orderly).failure e rfl).1 permanent

omit wanted in
theorem configurationReferencesReady_usage (run : AgentRun) (references : List Reference) :
    (statusUsage r tidy).Triple (Begun before known run) (configurationReferencesReady run references) fun res log =>
      (∀ e, res = .error e → Begun before known run log ∧ (e.errorClass = .permanent → ¬ tidy)) ∧
        ∀ ready run', res = .ok (ready, run') → Begun before known run' log := by
  induction references with
  | nil =>
    refine Usage.Triple.pure fun log h => ⟨by rintro e ⟨⟩, ?_⟩
    rintro ready run' ⟨⟩
    exact h
  | cons reference rest ih =>
    refine (read_usage run reference).bind fun res => ?_
    split
    · exact ih.consequence (fun _ h => h.1) fun _ _ => id
    · refine Usage.Triple.bind ((returns_setConditions run (by simp) _ (Begun.lasting before known run)).consequence
        (fun _ h => h.1) fun _ _ => id) fun run' => Usage.Triple.pure fun log h => ⟨by rintro e ⟨⟩, ?_⟩
      rintro ready run'' ⟨⟩
      exact h.1.annotated h.2
    · next e _ =>
      refine Usage.Triple.pure fun log h => ⟨?_, by rintro ready run' ⟨⟩⟩
      rintro e' ⟨⟩
      exact ⟨h.1, h.2 e rfl⟩

theorem Wanted.reconcileConfiguration (run : AgentRun) :
    (statusUsage r tidy).Triple (Begun before before.status.jobName run) (reconcileConfiguration r run desired) (Finished r tidy before) := by
  refine (configurationReferencesReady_usage run _).bind fun res => ?_
  split
  · next e =>
    exact (handlePrerequisiteError_usage run (by decide) _ (.api e)).consequence (fun _ h => ⟨(h.1 e rfl).1,
      fun permanent => (h.1 e rfl).2 (by simpa [PrerequisiteError.permanent] using permanent)⟩) fun _ _ => id
  · next run' =>
    exact Usage.Triple.pure fun log h => ((h.2 false run' rfl).withPhase .provisioning rfl).finished _ _
  · next run' =>
    refine Usage.Triple.bind ((wanted.ensure run' .configMap).consequence (fun _ h => h.2 true run' rfl) fun _ _ => id)
      fun res => ?_
    split
    · next e =>
      exact (handlePrerequisiteError_usage run' (by decide) _ e).consequence (fun _ h => ⟨h.1, h.2 e rfl⟩) fun _ _ => id
    · exact Usage.Triple.bind ((ready_usage run' (by decide) _ _).consequence (fun _ h => h.1) fun _ _ => id)
        fun run'' => wanted.reconcileWorkspace run''

omit wanted in
theorem failPrerequisites_usage (run : AgentRun) (reason : String) {category : FailureCategory} (untidy : ¬ tidy)
    (final : r.resourceBuilder.isSome = true → category ≠ .transientDependency ∧ category ≠ .internal) :
    (statusUsage r tidy).Triple (Begun before known run) (failPrerequisites run reason category) (Finished r tidy before) :=
  (returns_recordPrerequisiteFailure run (by decide) _ _ _ (Begun.lasting before known run)).bind fun _ =>
    Usage.Triple.pure fun _ h => h.1.failure (fun _ => ⟨untidy, final⟩) h.2

omit wanted in
/-- The prerequisites of an accepted run; tidy answers are of runs that can be built. -/
theorem reconcilePrerequisites_usage (run : AgentRun) (accepted : Accepted r.ext before)
    (buildable : tidy → Buildable r before) :
    (statusUsage r tidy).Triple (Begun before before.status.jobName run) (reconcilePrerequisites r run) (Finished r tidy before) := by
  intro log begun
  have same : SameBuild before run := by
    refine ⟨?_, ?_, ?_, ?_, begun.draft.currentAttempt⟩
    all_goals first | rw [begun.draft.metadata] | rw [begun.draft.spec]
  revert log
  change (statusUsage r tidy).Triple _ _ _
  unfold reconcilePrerequisites
  split
  · next missing =>
    refine failPrerequisites_usage run _ (fun orderly => ?_) fun configured => ?_
    · obtain ⟨builder, built, configured, -⟩ := buildable orderly
      rw [missing] at configured
      cases configured
    · rw [missing] at configured
      cases configured
  · next builder configured =>
    rw [same.buildAll]
    split
    · next reason failed =>
      refine failPrerequisites_usage run _ (fun orderly => ?_) fun _ => by decide
      obtain ⟨builder', built, configured', success⟩ := buildable orderly
      rw [configured] at configured'
      cases configured'
      rw [failed] at success
      cases success
    · next desired built =>
      have wanted := wanted_of_buildAll accepted configured built
      refine (wanted.ensure run .serviceAccount).bind fun res => ?_
      split
      · next e =>
        exact (handlePrerequisiteError_usage run (by decide) _ e).consequence (fun _ h => ⟨h.1, h.2 e rfl⟩) fun _ _ => id
      · exact Usage.Triple.bind ((ready_usage run (by decide) _ _).consequence (fun _ h => h.1) fun _ _ => id)
          fun run' => wanted.reconcileConfiguration run'

end Prerequisites

/-! ## Cancellation -/

section Cancellation

variable {r : Reconciler} {tidy : Prop} {before : AgentRun} {known : String}

theorem recordCancellationError_usage (run : AgentRun) (reason : String) (e : ReconcileError) :
    (statusUsage r tidy).Triple (Begun before known run) (recordCancellationError run reason e) (Finished r tidy before) := by
  refine (returns_recordCancellationError run reason e _ (Begun.lasting before known run)).consequence (fun _ => id)
    fun outcome log h => ?_
  obtain ⟨begun, category, recorded⟩ := h
  exact begun.recorded recorded rfl rfl rfl rfl (fun _ => begun.timed) (by simp) _ _

theorem projectCancelling_usage (run : AgentRun) (forced : Bool) :
    (statusUsage r tidy).Triple (Begun before known run) (projectCancelling run forced) (Begun before known) := by
  refine (returns_projectCancelling run forced _ (Begun.lasting before known run)).consequence (fun _ => id)
    fun run' log h => ?_
  obtain ⟨begun, mid, noted, rfl⟩ := h
  have cancelling := (begun.withPhase .cancelling rfl).annotated noted
  exact ⟨cancelling.read, cancelling.draft.record, cancelling.named, cancelling.ongoing⟩

theorem completeCancellation_usage (run : AgentRun) (forced : Bool) :
    (statusUsage r tidy).Triple (Begun before known run) (do return ({ run := ← completeCancellation run forced } : Outcome))
      (Finished r tidy before) := by
  refine (returns_completeCancellation run forced _ (Begun.lasting before known run)).bind fun run' =>
    Usage.Triple.pure fun log h => ?_
  obtain ⟨begun, completion, recorded⟩ := h
  exact begun.recorded recorded rfl rfl rfl rfl (fun other => absurd rfl other) (by simp) _ _

theorem returns_deletePods (job : Job) (pods : List Pod) :
    (statusUsage r tidy).Returns (deletePods job pods) fun _ => True := by
  induction pods with
  | nil => exact .pure trivial
  | cons pod rest ih =>
    unfold deletePods
    split
    · refine Usage.Returns.bind (Usage.Returns.perform fun _ => trivial) fun res _ => ?_
      split
      · exact ih
      · exact ih
      · exact .pure trivial
    · exact ih

theorem returns_deleteJob (job : Job) (zeroGrace : Bool) :
    (statusUsage r tidy).Returns (deleteJob job zeroGrace) fun _ => True := by
  refine Usage.Returns.bind (Usage.Returns.perform fun _ => trivial) fun res _ => ?_
  split <;> exact .pure trivial

theorem returns_forceDeleteExecution (job : Job) :
    (statusUsage r tidy).Returns (forceDeleteExecution job) fun _ => True := by
  refine Usage.Returns.bind (Usage.Returns.perform fun _ => trivial) fun res _ => ?_
  split
  · exact .pure trivial
  · next pods =>
    refine (returns_deletePods job pods).bind fun res _ => ?_
    split
    · exact .pure trivial
    · exact returns_deleteJob job true

theorem terminateJob_usage (run : AgentRun) (job : Job) :
    (statusUsage r tidy).Triple (Begun before known run) (terminateJob run job) (Finished r tidy before) := by
  have lasting := Begun.lasting before known
  refine Usage.Triple.bind (returns_orNow _ _ (lasting run)) fun started => ?_
  refine Usage.Triple.bind ((returns_now _ (lasting run)).consequence (fun _ h => h.1) fun _ _ => id) fun time => ?_
  refine Usage.Triple.bind ((projectCancelling_usage run _).consequence (fun _ h => h.1) fun _ _ => id) fun run' => ?_
  split
  · refine (returns_forceDeleteExecution job _ (lasting run')).bind fun res => ?_
    split
    · exact (recordCancellationError_usage run' _ _).consequence (fun _ h => h.1) fun _ _ => id
    · exact Usage.Triple.pure fun _ h => h.1.finished _ _
  · split
    · exact Usage.Triple.pure fun _ h => h.finished _ _
    · refine (returns_deleteJob job _ _ (lasting run')).bind fun res => ?_
      split
      · exact (recordCancellationError_usage run' _ _).consequence (fun _ h => h.1) fun _ _ => id
      · exact Usage.Triple.pure fun _ h => h.1.finished _ _

theorem cancelJob_usage (run : AgentRun) {job : Job} (whole : job.WholeTimes) :
    (statusUsage r tidy).Triple (JobSeen before known run job) (cancelJob r run job) (Finished r tidy before) := by
  unfold cancelJob
  split
  · exact (terminateJob_usage run job).consequence (fun _ h => h.1) fun _ _ => id
  · refine (listPods_usage run job).bind fun res => ?_
    split
    · next e => exact (recordCancellationError_usage run _ _).consequence (fun _ h => (h.1 e rfl).1) fun _ _ => id
    · next pods =>
      dsimp only
      split
      · exact Usage.Triple.bind ((project_usage run whole pods).consequence (fun _ h => h.2 pods rfl) fun _ _ => id)
          fun run' => Usage.Triple.pure fun _ h => h _
      · exact (terminateJob_usage run job).consequence (fun _ h => (h.2 pods rfl).begun) fun _ _ => id

theorem reconcileCancellation_usage (run : AgentRun) :
    (statusUsage r tidy).Triple (Begun before known run) (reconcileCancellation r run) (Finished r tidy before) := by
  unfold reconcileCancellation
  split
  · exact completeCancellation_usage run false
  · next named =>
    split
    · exact recordCancellationError_usage run _ _
    · next names identified =>
      split
      · exact recordCancellationError_usage run _ _
      · refine (ask (Begun.lasting before known run) (.get .job run.status.jobName) fun _ _ => trivial).bind fun res => ?_
        split
        · refine Usage.Triple.bind ((returns_now _ (Begun.lasting before known run)).consequence (fun _ h => h.1) fun _ _ => id)
            fun time => ?_
          exact (completeCancellation_usage run _).consequence (fun _ h => h.1) fun _ _ => id
        · exact (recordCancellationError_usage run _ _).consequence (fun _ h => h.1) fun _ _ => id
        · next job =>
          intro log h
          obtain ⟨begun, log₀, rfl, -, given⟩ := h
          refine cancelJob_usage run (given.wholeJob _ job rfl) _ ⟨begun, ?_⟩
          rw [← begun.draft.jobName.resolve_left named]
          exact List.mem_cons_self

end Cancellation

end AgentForge.Operator
