import AgentForge.Lib.Usage
import AgentForge.Operator.Drafts
import AgentForge.Operator.PrerequisiteRules

/-!
# What a reconcile calls

The usage of the API server by one reconcile, from the answers it has had. A status is written over a run that was read,
under its version, and only in one of a few ways (`Written`). Children are applied for the current attempt of a run that
was read. The finalizer goes after every workspace was seen released, or after the escalation of the cleanup. Nothing is
assumed of the other objects of the cluster: the answers about them are arbitrary.
-/

set_option autoImplicit false

namespace AgentForge.Operator

open Lib

/-- What one activation has called so far, with the answers. The newest comes first. -/
abbrev Log := List (Event Op Op.Res)

/-- The run that an answer carries. -/
def Op.answeredRun : (op : Op) → op.Res → Option AgentRun
  | .getRun, .ok run => some run
  | .patchRunStatus _ _, .ok run => some run
  | .patchRunFinalizers _ _, .ok run => some run
  | _, _ => none

/-- The error that answers a call on a child. -/
def Op.childFailure : (op : Op) → op.Res → Option ApiError
  | .get _ _, .error e => some e
  | .apply _ _, .error e => some e
  | .getSecret _, .error e => some e
  | .getStorageClass _, .error e => some e
  | .listPods _, .error e => some e
  | _, _ => none

/-- Some answer carried this run. -/
def ReadIn (log : Log) (run : AgentRun) : Prop := ∃ e ∈ log, e.1.answeredRun e.2 = some run

theorem ReadIn.cons {log : Log} {run : AgentRun} (read : ReadIn log run) (e : Event Op Op.Res) : ReadIn (e :: log) run := by
  obtain ⟨event, member, carried⟩ := read
  exact ⟨event, List.mem_cons_of_mem _ member, carried⟩

theorem ReadIn.head {op : Op} {res : op.Res} {log : Log} {run : AgentRun} (carried : op.answeredRun res = some run) :
    ReadIn (⟨op, res⟩ :: log) run := ⟨_, List.mem_cons_self, carried⟩

/-- The activation began by reading a run that is being deleted, or one that is not. -/
def OpensWith (log : Log) (deleting : Bool) : Prop :=
  ∃ run, log.getLast? = some ⟨.getRun, .ok run⟩ ∧ run.metadata.deleting = deleting

theorem OpensWith.cons {log : Log} {deleting : Bool} (opens : OpensWith log deleting) (e : Event Op Op.Res) :
    OpensWith (e :: log) deleting := by
  obtain ⟨run, last, same⟩ := opens
  exact ⟨run, by rw [List.getLast?_cons, last]; rfl, same⟩

/-- The run was read in an activation that began so. -/
structure Opened (deleting : Bool) (log : Log) (run : AgentRun) : Prop where
  read : ReadIn log run
  opens : OpensWith log deleting

theorem Opened.cons {deleting : Bool} {log : Log} {run : AgentRun} (opened : Opened deleting log run)
    (e : Event Op Op.Res) : Opened deleting (e :: log) run := ⟨opened.read.cons e, opened.opens.cons e⟩

/-! ## The answers -/

section Answers

variable (r : Reconciler) (tidy : Prop)

/-- What every persisted version of an accepted run satisfies. -/
structure Persisted (run : AgentRun) : Prop where
  /-- Nothing is recorded yet, or the attempt is within the policy. -/
  attempt : (run.status.attempt = 0 ∧ run.status.phase = none ∧ run.status.jobName = "" ∧ run.status.attempts = []) ∨
    run.spec.attempt ≤ run.status.attempt ∧ run.status.attempt ≤ run.spec.retryPolicy.maxAttempts
  jobName : run.status.jobName = "" ∨ run.status.jobName = currentJobName run
  ordered : Ordered run.status.attempts
  range : ∀ entry ∈ run.status.attempts, run.spec.attempt ≤ entry.attempt ∧ entry.attempt ≤ run.status.attempt
  earlier : r.resourceBuilder.isSome = true → ∀ k, run.spec.attempt ≤ k → k < run.status.attempt →
    ∃ entry ∈ run.status.attempts, entry.attempt = k ∧ entry.phase = some .failed
  settled : ∀ entry ∈ run.status.attempts, entry.phase ≠ some .cancelled → entry.stored = entry
  timed : run.status.phase ≠ some .cancelled → Settling run.status.startTime ∧ Settling run.status.completionTime
  terminal : run.status.terminal = true →
    Mirrored run ∨ ¬ tidy ∧ (r.resourceBuilder.isSome = true → retryAllowed run = false)

/-- No call on a child is refused for good, and every child of the current attempt that is found is the run's own. -/
structure Tidy (log : Log) (op : Op) (res : op.Res) : Prop where
  failure : ∀ e, op.childFailure res = some e → e.errorClass ≠ .permanent ∧ (op.isApply = true → e ≠ .conflict)
  owner : ∀ before kind object, ReadIn log before →
    (⟨op, res⟩ : Event Op Op.Res) =
      ⟨.get kind ((namesOf before.spec.runID (currentAttempt before)).of kind), .ok object⟩ →
    ownChild before kind (kind.metadata object) = true

/-- The answers a reconcile counts on: persisted runs, patches of what was read, times of whole seconds. -/
structure Given (log : Log) (op : Op) (res : op.Res) : Prop where
  ceiling : ∀ run, op.answeredRun res = some run → run.spec.retryPolicy.maxAttempts ≤ 10
  persisted : ∀ run, op.answeredRun res = some run → Accepted r.ext run → Persisted r tidy run
  patched : ∀ version status run, (⟨op, res⟩ : Event Op Op.Res) = ⟨.patchRunStatus version status, .ok run⟩ →
    run.status = status.stored ∧ ∀ before, ReadIn log before → before.metadata.resourceVersion = version →
      run.spec = before.spec ∧ run.metadata = { before.metadata with resourceVersion := run.metadata.resourceVersion }
  finalized : ∀ version finalizers run, (⟨op, res⟩ : Event Op Op.Res) = ⟨.patchRunFinalizers version finalizers, .ok run⟩ →
    ∀ before, ReadIn log before → before.metadata.resourceVersion = version →
      run.spec = before.spec ∧
        run.metadata = { before.metadata with finalizers, resourceVersion := run.metadata.resourceVersion }
  wholeJob : ∀ name job, (⟨op, res⟩ : Event Op Op.Res) = ⟨.get .job name, .ok job⟩ → job.WholeTimes
  wholePods : ∀ name pods, (⟨op, res⟩ : Event Op Op.Res) = ⟨.listPods name, .ok pods⟩ → ∀ pod ∈ pods, pod.WholeTimes
  orderly : tidy → Tidy log op res
  buildable : tidy → ∀ run, op.answeredRun res = some run → Buildable r run

end Answers

/-! ## The writes -/

section Writes

variable (r : Reconciler) (tidy : Prop) (log : Log) (before : AgentRun)

/-- How a reconcile learns that the current attempt has failed, with category and reason. -/
inductive FailedIn : Option FailureCategory → String → Prop
  /-- The run was read as failed. -/
  | found (current : before.status.attempt = currentAttempt before) (failed : before.status.phase = some .failed) :
    FailedIn before.status.failureCategory before.status.failureReason
  /-- Its Job and Pods show it. -/
  | observed {job : Job} {pods : List Pod} (read : (⟨.get .job (currentJobName before), .ok job⟩ : Event Op Op.Res) ∈ log)
    (listed : (⟨.listPods job.metadata.name, .ok pods⟩ : Event Op Op.Res) ∈ log)
    (failed : (observeLifecycle r.ext job pods).phase = .failed) :
    FailedIn (observeLifecycle r.ext job pods).failureCategory (observeLifecycle r.ext job pods).failureReason
  /-- The Job that the status names is gone, or going. -/
  | missing (recorded : before.status.jobName = currentJobName before)
    (read : (⟨.get .job (currentJobName before), .error .notFound⟩ : Event Op Op.Res) ∈ log ∨
      ∃ job : Job, (⟨.get .job (currentJobName before), .ok job⟩ : Event Op Op.Res) ∈ log ∧ job.metadata.deleting = true) :
    FailedIn (some .internal) "Previously observed execution Job was deleted"

/-- How working on an attempt ends: it goes on, its end is projected, or it is refused for good. -/
inductive Concluded (run : AgentRun) (error : Option ReconcileError) : Prop
  | ongoing (ongoing : run.status.terminal = false)
  | projected (mirrored : Mirrored run)
    (failed : run.status.phase = some .failed →
      FailedIn r log before run.status.failureCategory run.status.failureReason)
  | refused (failed : run.status.phase = some .failed) (reported : error.isSome = true) (untidy : ¬ tidy)
    (final : r.resourceBuilder.isSome = true → retryAllowed run = false)

/-- The statuses that a reconcile writes over the run that it read. -/
inductive Written : AgentRunStatus → Prop
  /-- Only conditions and the observed generation change. -/
  | noted (conditions : List Condition) (observedGeneration : Int) :
    Written { before.status with conditions, observedGeneration }
  /-- The current attempt was worked on. -/
  | worked {run : AgentRun} {error : Option ReconcileError} (started : before.status.terminal = false)
    (draft : Draft before run) (concluded : Concluded r tidy log before run error) : Written run.status
  /-- The current attempt failed, and the next one begins. -/
  | advanced {mid run : AgentRun} (running : before.spec.desiredState = .running)
    (source : mid = before ∨ before.status.terminal = false ∧ Draft before mid ∧ Mirrored mid)
    (failed : FailedIn r log before mid.status.failureCategory mid.status.failureReason)
    (allowed : retryAllowed mid = true) (next : Annotated (advanceAttempt mid) run) :
    Written (upsertAttemptStatus run).status

/-- The clock was read ten minutes or more after the deletion. -/
def DeadlineElapsed : Prop :=
  ∃ deleted time, before.metadata.deletionTimestamp = some deleted ∧ (⟨.now, time⟩ : Event Op Op.Res) ∈ log ∧
    deleted + cleanupDeadline ≤ time

/-- The status may be written over the run that was read. -/
structure Writes (status : AgentRunStatus) : Prop where
  written : Accepted r.ext before → Written r tidy log before status
  cleanup : cleanupReason status = cleanupReason before.status ∨
    before.metadata.deleting = true ∧ (cleanupReason status = some "CleanupEscalated" → DeadlineElapsed log before)

/-- The workspace of this name was seen absent or released. -/
inductive ReleasedIn (name : String) : Prop
  | absent (read : (⟨.get .persistentVolumeClaim name, .error .notFound⟩ : Event Op Op.Res) ∈ log)
  | marked {claim : PersistentVolumeClaim}
    (read : (⟨.get .persistentVolumeClaim name, .ok claim⟩ : Event Op Op.Res) ∈ log)
    (released : claim.metadata.annotations.at retentionStateAnnotationKey = "Released")
  | patched {version : Nat} {annotations : StringMap}
    (written : (⟨.patchWorkspace version name annotations, .ok ()⟩ : Event Op Op.Res) ∈ log)
    (released : annotations.at retentionStateAnnotationKey = "Released")

/-- The finalizer is added to a run that is not deleted, and removed when the cleanup has ended. -/
inductive Finalizes : List String → Prop
  | adds (present : before.metadata.deleting = false) :
    Finalizes (before.metadata.finalizers ++ [retainedResourcesFinalizer])
  | removes (opens : OpensWith log true) (deleting : before.metadata.deleting = true)
    (ended : before.spec.workspace.retentionPolicy = .retain →
      cleanupReason before.status = some "CleanupEscalated" ∨
        ∀ k, before.spec.attempt ≤ k → k ≤ currentAttempt before →
          ReleasedIn log (namesOf before.spec.runID k).workspace) :
    Finalizes (before.metadata.finalizers.filter (· != retainedResourcesFinalizer))

/-- The child is one of the current attempt and does not touch the retention state. -/
structure Applies (kind : Kind) (object : kind.Object) : Prop where
  accepted : Accepted r.ext before
  name : (kind.metadata object).name = (namesOf before.spec.runID (currentAttempt before)).of kind
  state : (kind.metadata object).annotations.lookup retentionStateAnnotationKey = none

end Writes

/-- The calls of a reconcile. -/
def Calls (r : Reconciler) (tidy : Prop) (log : Log) : Op → Prop
  | .patchRunStatus version status =>
    ∃ before, ReadIn log before ∧ before.metadata.resourceVersion = version ∧ Writes r tidy log before status
  | .patchRunFinalizers version finalizers =>
    ∃ before, ReadIn log before ∧ before.metadata.resourceVersion = version ∧ Finalizes log before finalizers
  | .apply kind object => ∃ before, Opened false log before ∧ Applies r before kind object
  | .patchWorkspace version name annotations =>
    ∃ (before : AgentRun) (claim : PersistentVolumeClaim), ReadIn log before ∧
      (⟨.get .persistentVolumeClaim name, .ok claim⟩ : Event Op Op.Res) ∈ log ∧ claim.metadata.resourceVersion = version ∧
      validateRetainedWorkspace before claim = .ok () ∧
      annotations = mergeMap claim.metadata.annotations [(retentionStateAnnotationKey, "Released")]
  | _ => True

/-- The usage of the API server by a reconcile. -/
def statusUsage (r : Reconciler) (tidy : Prop) : Usage Op Op.Res where
  calls := Calls r tidy
  answers := Given r tidy

theorem FailedIn.cons {r : Reconciler} {log : Log} {before : AgentRun} {category : Option FailureCategory} {reason : String}
    (failed : FailedIn r log before category reason) (e : Event Op Op.Res) : FailedIn r (e :: log) before category reason := by
  cases failed with
  | found current failed => exact .found current failed
  | observed read listed failed => exact .observed (List.mem_cons_of_mem _ read) (List.mem_cons_of_mem _ listed) failed
  | missing recorded read =>
    refine .missing recorded (read.imp (List.mem_cons_of_mem _) ?_)
    rintro ⟨job, read, deleting⟩
    exact ⟨job, List.mem_cons_of_mem _ read, deleting⟩

theorem ReleasedIn.cons {log : Log} {name : String} (released : ReleasedIn log name) (e : Event Op Op.Res) :
    ReleasedIn (e :: log) name := by
  cases released with
  | absent read => exact .absent (List.mem_cons_of_mem _ read)
  | marked read released => exact .marked (List.mem_cons_of_mem _ read) released
  | patched written released => exact .patched (List.mem_cons_of_mem _ written) released

/-! ## Programs that read the clock -/

section Clock

variable {r : Reconciler} {tidy : Prop}

theorem returns_now : (statusUsage r tidy).Returns now fun _ => True := Usage.Returns.perform fun _ => trivial

theorem returns_orNow (time : Time) : (statusUsage r tidy).Returns (orNow time) fun _ => True := by
  unfold orNow
  split
  · exact returns_now
  · exact .pure trivial

theorem annotated_condition (run : AgentRun) {condition : Condition} (other : condition.type ≠ .cleanupPending) :
    Annotated run (run.withStatus
      { run.status with conditions := setStatusCondition run.status.conditions condition }) := by
  refine ⟨⟨_, _, rfl⟩, ?_⟩
  simp only [cleanupReason, AgentRun.withStatus, find_setStatusCondition_other other]

theorem returns_setCondition (run : AgentRun) {type : ConditionType} (other : type ≠ .cleanupPending)
    (status : ConditionStatus) (reason message : String) :
    (statusUsage r tidy).Returns (setCondition run type status reason message) (Annotated run) :=
  returns_now.bind fun _ _ => .pure (annotated_condition run other)

theorem returns_setConditions (run : AgentRun) {changes : List (ConditionType × ConditionStatus × String × String)}
    (others : ∀ change ∈ changes, change.1 ≠ .cleanupPending) :
    (statusUsage r tidy).Returns (setConditions run changes) (Annotated run) := by
  induction changes generalizing run with
  | nil => exact .pure (.refl run)
  | cons change rest ih =>
    obtain ⟨type, status, reason, message⟩ := change
    obtain ⟨other, others⟩ := List.forall_mem_cons.mp others
    exact (returns_setCondition run other status reason message).bind fun run' noted =>
      (ih run' others).mono fun _ => noted.trans

theorem returns_initializeMissing (run : AgentRun) {types : List ConditionType}
    (others : ∀ type ∈ types, type ≠ .cleanupPending) :
    (statusUsage r tidy).Returns (initializeMissing run types) (Annotated run) := by
  induction types generalizing run with
  | nil => exact .pure (.refl run)
  | cons type rest ih =>
    obtain ⟨other, others⟩ := List.forall_mem_cons.mp others
    unfold initializeMissing
    split
    · exact (returns_setCondition run other _ _ _).bind fun run' noted => (ih run' others).mono fun _ => noted.trans
    · exact ih run others

/-- The run in memory after its initialisation, but for the conditions. -/
def acceptedStart (run : AgentRun) : AgentRun :=
  (initializeIdentity run).withStatus
    { (initializeIdentity run).status with failureCategory := none, failureReason := "" }

theorem returns_initializeAcceptedStatus (run : AgentRun) :
    (statusUsage r tidy).Returns (initializeAcceptedStatus run) (Annotated (acceptedStart run)) :=
  (returns_setConditions _ (by decide)).bind fun run' noted =>
    (returns_initializeMissing run' (by decide)).mono fun _ => noted.trans

theorem returns_initializeCancellationStatus (run : AgentRun) :
    (statusUsage r tidy).Returns (initializeCancellationStatus run) (Annotated (initializeIdentity run)) :=
  returns_setCondition _ (by decide) _ _ _

/-- The run with what was observed in its top-level status. -/
def AgentRun.observe (run : AgentRun) (observation : LifecycleObservation) : AgentRun :=
  run.withStatus { run.status with
    phase := some observation.phase, podName := observation.podName, startTime := observation.startTime
    completionTime := observation.completionTime, failureCategory := observation.failureCategory
    failureReason := observation.failureReason, artifactManifestRef := observation.artifactManifestRef }

/-- The run was edited, noted and recorded. -/
def RecordedAs (edited run : AgentRun) : Prop := ∃ mid, Annotated edited mid ∧ run = upsertAttemptStatus mid

theorem returns_projectLifecycle (run : AgentRun) (observation : LifecycleObservation) :
    (statusUsage r tidy).Returns (projectLifecycle run observation) (RecordedAs (run.observe observation)) :=
  (returns_setCondition _ (by decide) _ _ _).bind fun mid noted => .pure ⟨mid, noted, rfl⟩

theorem returns_recordPrerequisiteFailure (run : AgentRun) {type : ConditionType} (other : type ≠ .cleanupPending)
    (e : ReconcileError) (category : FailureCategory) :
    (statusUsage r tidy).Returns (recordPrerequisiteFailure run type e category)
      (Annotated (run.withStatus { run.status with
        phase := some (if e.errorClass = .permanent then .failed else .provisioning)
        failureCategory := some category, failureReason := type.text ++ " could not be reconciled" })) :=
  returns_setConditions _ (by simpa using other)

theorem returns_reconcileRetry (ext : Externals) (run : AgentRun) :
    (statusUsage r tidy).Returns (reconcileRetry ext run) fun a =>
      Annotated run a.1 ∨ RecordedAs (advanceAttempt run) a.1 := by
  refine (returns_orNow _).bind fun anchor _ => returns_now.bind fun time _ => ?_
  split
  · exact (returns_setConditions _ (by simp)).bind fun run' noted => .pure (.inl noted)
  · exact (returns_setConditions _ (by simp)).bind fun run' noted => .pure (.inr ⟨run', noted, rfl⟩)

theorem returns_projectCancelling (run : AgentRun) (forced : Bool) :
    (statusUsage r tidy).Returns (projectCancelling run forced)
      (RecordedAs (run.withStatus { run.status with phase := some .cancelling })) :=
  (returns_setConditions _ (by simp)).bind fun mid noted => .pure ⟨mid, noted, rfl⟩

theorem returns_completeCancellation (run : AgentRun) (forced : Bool) :
    (statusUsage r tidy).Returns (completeCancellation run forced) fun run' => ∃ completion,
      RecordedAs (run.withStatus { run.status with phase := some .cancelled, completionTime := some completion }) run' := by
  have clock : (statusUsage r tidy).Returns (completionTimeOrNow run) fun _ => True := by
    unfold completionTimeOrNow
    split
    · exact .pure trivial
    · exact returns_now
  exact clock.bind fun completion _ =>
    (returns_setConditions _ (by simp)).bind fun mid noted => .pure ⟨completion, mid, noted, rfl⟩

theorem returns_recordCancellationError (run : AgentRun) (reason : String) (e : ReconcileError) :
    (statusUsage r tidy).Returns (recordCancellationError run reason e) fun outcome => ∃ category,
      RecordedAs (run.withStatus { run.status with
        phase := some .cancelling, failureCategory := some category
        failureReason := "Cancellation reconciliation could not make progress" }) outcome.run :=
  (returns_setConditions _ (by simp)).bind fun mid noted => .pure ⟨_, mid, noted, rfl⟩

end Clock

end AgentForge.Operator
