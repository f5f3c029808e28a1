import AgentForge.Operator.JobInvariant

/-!
# The contract of Job safety

Three laws about Jobs. A persisted terminal phase means that the Job of the current attempt is over, a
Job is created only when the Jobs of all earlier attempts are over, and a Job that the status has named
is not created again. The code keeps the first two in runs whose answers are *orderly*: the signs from
which it concludes that an attempt has ended are shown only by Jobs that have ended. It keeps the third
when no Job is removed right after it was read. All three need reads of the run and of its Jobs that are
current; other reads may be answered from the cache. All are one contract for the reconcile program. This
module states it together with the assertions that the proof carries through a reconcile.
-/

set_option autoImplicit false

namespace AgentForge.Operator

open Lib

/-! ## Orderly answers -/

/-- The name of the child of a kind. -/
def ResourceNames.of (names : ResourceNames) : Kind → String
  | .serviceAccount => names.serviceAccount
  | .configMap => names.configuration
  | .persistentVolumeClaim => names.workspace
  | .networkPolicy => names.networkPolicy
  | .job => names.job

/-- The child is this run's own: its controller is the run, except that a retained workspace has
none, and the owner annotation names the run. -/
def ownChild (run : AgentRun) (kind : Kind) (metadata : ObjectMeta) : Bool :=
  (if kind = .persistentVolumeClaim ∧ run.spec.workspace.retentionPolicy = .retain then
    metadata.controllerOf.isNone
  else metadata.controllerOf.any fun owner =>
    owner.uid == run.metadata.uid && owner.name == run.metadata.name && owner.kind == "AgentRun" &&
      owner.apiVersion == groupVersion) &&
    metadata.annotations.at ownerUIDAnnotationKey == run.metadata.uid

/-- The calls by which the prerequisites read and write children. -/
def Op.onChild : Op → Bool
  | get .. | apply .. | getSecret _ | getStorageClass _ | listPods _ => true
  | _ => false

def Op.isApply : Op → Bool
  | apply .. => true
  | _ => false

/-- The assumption on one answer: the run has an unfinished Job of its current attempt only where the
code does not conclude from the answer that the attempt is over. -/
structure OrderlyAnswer (strict : Prop) (ext : Externals) (w : World) (log : List (Event Op Op.Res)) (op : Op)
    (fault : Fault) : Prop where
  /-- A cancelled run is read without a Job name only if it has no live Job. -/
  unrecorded : strict → op = .getRun → w.run.spec.desiredState = .cancelled → w.run.status.jobName = "" →
    w.live (currentJobName w.run) = false
  /-- Pods listed for the Job just read end the attempt only if that Job has finished. -/
  evidence : ∀ listed name job pods, op = .listPods listed → log.head? = some ⟨.get .job name, .ok job⟩ →
    respond w (.listPods listed) fault = some (.ok pods, w) →
    (observeLifecycle ext job pods).phase.terminal = true → job.finished = true
  /-- While the run is to be running, a Job read during its deletion has finished. -/
  terminating : w.run.spec.desiredState = .running → ∀ name job, op = .get .job name → w.job name = some job →
    job.metadata.deleting = true → job.finished = true
  /-- While the run is to be running, a child call is refused for good only if there is no live Job. -/
  refusal : w.run.spec.desiredState = .running → op.onChild = true → ∀ e, fault = .refused e →
    (e.errorClass = .permanent ∨ (e = .conflict ∧ op.isApply = true)) → w.live (currentJobName w.run) = false
  /-- While the run is to be running, a child of another owner is met only if there is no live Job. -/
  ownership : w.run.spec.desiredState = .running → ∀ kind object,
    op = .get kind ((namesOf w.run.spec.runID (currentAttempt w.run)).of kind) →
    respond w (.get kind ((namesOf w.run.spec.runID (currentAttempt w.run)).of kind)) fault = some (.ok object, w) →
    ownChild w.run kind (kind.metadata object) = false → w.live (currentJobName w.run) = false

/-- The last call found the Job of this name. -/
def JustRead (log : List (Event Op Op.Res)) (name : String) : Prop :=
  ∃ job, log.head? = some ⟨.get .job name, .ok job⟩

/-- What a call keeps: the invariant, and what has been recorded. Only the Job of the current attempt is
applied, and it is created only while the status names none. -/
structure Kept (mode : Mode) (r : Reconciler) (w : World) (op : Op) (w' : World) : Prop where
  inv : Inv mode r w'
  intent : SameIntent w.run w'.run
  recorded : ∀ k, Recorded k w.run → Recorded k w'.run
  current : ∀ desired : Job, op = .apply .job desired → desired.metadata.name = currentJobName w.run
  once : mode.guarded → ∀ desired : Job, op = .apply .job desired → w.job desired.metadata.name = none →
    w.run.status.jobName = ""

/-- A read whose answer has to be current: of the run or of a Job. -/
def Op.tracked : Op → Bool
  | getRun | get .job _ => true
  | _ => false

/-- The assumption on an answer under a mode. -/
structure Assumed (mode : Mode) (r : Reconciler) (w : World) (log : List (Event Op Op.Res)) (op : Op)
    (fault : Fault) : Prop where
  current : op.tracked = true → fault.current = true
  orderly : mode.orderly → OrderlyAnswer mode.strict r.ext w log op fault

/-- The contract of the reconcile program under the assumptions of the mode. -/
def jobSafety (mode : Mode) (r : Reconciler) : Contract apiServer where
  answers := Assumed mode r
  moves := fun _ log m => mode.guarded → ∀ name, m = .removeJob name → ¬ JustRead log name
  keeps := fun w op _ w' => Kept mode r w op w'

/-! ## The run in memory -/

section Assertions

variable (mode : Mode) (r : Reconciler) (before : AgentRun)

/-- The persisted run is still the one that was read, or has changed under a newer version. -/
structure Held (w : World) : Prop where
  inv : Inv mode r w
  status : w.run.status = before.status
  intent : SameIntent before w.run
  version : w.run = before ∨ before.metadata.resourceVersion < w.run.metadata.resourceVersion

/-- The run in memory may be persisted over the one that was read. -/
structure Ready (run : AgentRun) (w : World) : Prop where
  held : Held mode r before w
  metadata : run.metadata = before.metadata
  spec : run.spec = before.spec
  inv : w.run = before → RunInv mode r run w
  recorded : w.run = before → ∀ k, Recorded k before → Recorded k run

/-- The attempt that was read is still being worked on. -/
structure Working (run : AgentRun) (w : World) : Prop where
  ready : Ready mode r before run w
  accepted : Accepted r.ext before
  started : before.status.terminal = false
  ongoing : run.status.terminal = false
  attempt : run.status.attempt = currentAttempt before
  phase : run.status.phase ≠ none
  named : before.status.jobName ≠ "" → run.status.jobName ≠ ""
  /-- A cancelled run without a recorded Job has no live one. -/
  unrecorded : mode.orderly → mode.strict → before.spec.desiredState = .cancelled → run.status.jobName = "" →
    w.live (currentJobName before) = false

end Assertions

section Stability

variable {mode : Mode} {r : Reconciler} {before run : AgentRun} {w w' : World}

theorem Held.fresh_of_untouched (held : Held mode r before w) (untouched : Untouched w w')
    (fresh : w'.run = before) : w.run = before := by
  rcases held.version with same | newer
  · exact same
  · rcases untouched.version with same | seen
    · rw [← same, fresh]
    · have bound := held.inv.version
      rw [fresh] at seen
      omega

theorem Held.untouched (held : Held mode r before w) (untouched : Untouched w w') : Held mode r before w' where
  inv := held.inv.untouched untouched
  status := untouched.status.trans held.status
  intent := held.intent.trans untouched.intent
  version := by
    have bound := held.inv.version
    rcases untouched.version with same | seen
    · rw [same]; exact held.version
    · rcases held.version with fresh | newer
      · exact .inr (by rw [← fresh]; omega)
      · exact .inr (by omega)

theorem Held.jobName_eq (held : Held mode r before w) :
    currentJobName w.run = currentJobName before := by
  rw [currentJobName, held.intent.currentAttempt held.status, held.intent.jobNameOf]
  rfl

theorem Ready.untouched (ready : Ready mode r before run w) (untouched : Untouched w w') :
    Ready mode r before run w' where
  held := ready.held.untouched untouched
  metadata := ready.metadata
  spec := ready.spec
  inv := fun fresh =>
    (ready.inv (ready.held.fresh_of_untouched untouched fresh)).untouched untouched.quiet
  recorded := fun fresh => ready.recorded (ready.held.fresh_of_untouched untouched fresh)

theorem not_live_of_quiet {name : String} (quiet : ∀ name, w'.live name = true → w.live name = true)
    (ended : w.live name = false) : w'.live name = false := by
  cases live : w'.live name with
  | false => rfl
  | true => rw [quiet name live] at ended; cases ended

theorem Working.untouched (working : Working mode r before run w) (untouched : Untouched w w') :
    Working mode r before run w' :=
  { working with
    ready := working.ready.untouched untouched
    unrecorded := fun orderly strict cancelled unnamed =>
      not_live_of_quiet untouched.quiet (working.unrecorded orderly strict cancelled unnamed) }

theorem keeps_of_untouched {op : Op} {res : op.Res} (inv : Inv mode r w) (quiet : op.quiet = true)
    (untouched : Untouched w w') : (jobSafety mode r).keeps w op res w' where
  inv := inv.untouched untouched
  intent := untouched.intent
  recorded := fun _ recorded => recorded.intent untouched.intent untouched.status
  current := by rintro desired rfl; cases quiet
  once := by rintro _ desired rfl; cases quiet

theorem Ready.core (ready : Ready mode r before run w) {run' : AgentRun} (same : SameCore run run') :
    Ready mode r before run' w where
  held := ready.held
  metadata := same.metadata.trans ready.metadata
  spec := same.spec.trans ready.spec
  inv := fun fresh => (ready.inv fresh).core same
  recorded := fun fresh k recorded => (ready.recorded fresh k recorded).congr same.spec same.attempt same.jobName

theorem AgentRunStatus.terminal_congr {s s' : AgentRunStatus} (phase : s'.phase = s.phase) :
    s'.terminal = s.terminal := by
  simp only [AgentRunStatus.terminal, phase]

theorem carried_ready (mode : Mode) (r : Reconciler) (before : AgentRun) :
    Carried (jobSafety mode r) (Ready mode r before) where
  untouched := fun untouched ready => ready.untouched untouched
  keeps := fun quiet untouched ready => keeps_of_untouched ready.held.inv quiet untouched
  core := fun ready _ same => ready.core same

theorem carried_working (mode : Mode) (r : Reconciler) (before : AgentRun) :
    Carried (jobSafety mode r) (Working mode r before) where
  untouched := fun untouched working => working.untouched untouched
  keeps := fun quiet untouched working => keeps_of_untouched working.ready.held.inv quiet untouched
  core := fun working _ same =>
    { working with
      ready := working.ready.core same
      ongoing := (AgentRunStatus.terminal_congr same.phase).trans working.ongoing
      attempt := same.attempt.trans working.attempt
      phase := same.phase ▸ working.phase
      named := same.jobName ▸ working.named
      unrecorded := same.jobName ▸ working.unrecorded }

end Stability

/-! ## Edits of the run in memory -/

section Edits

variable {mode : Mode} {r : Reconciler} {before run : AgentRun} {w : World}

theorem Working.attempt_eq (working : Working mode r before run w) :
    currentAttempt run = currentAttempt before := by
  have ge := currentAttempt_ge before
  have spec := working.ready.spec
  simp only [currentAttempt, spec, working.attempt] at ge ⊢
  split <;> simp_all

theorem Working.jobName_eq (working : Working mode r before run w) :
    currentJobName run = currentJobName before := by
  simp only [currentJobName, jobNameOf, working.attempt_eq, working.ready.spec]

theorem Working.attempt_ge (working : Working mode r before run w) : run.spec.attempt ≤ run.status.attempt := by
  rw [working.attempt, ← working.attempt_eq]
  exact currentAttempt_ge run

theorem Working.sameBuild (working : Working mode r before run w) : SameBuild before run := by
  have metadata := working.ready.metadata
  exact ⟨by rw [metadata], by rw [metadata], by rw [metadata], by rw [working.ready.spec], working.attempt_eq⟩

/-- An edit of the status that stays in the attempt has to justify its phase and its Job name. -/
theorem RunInv.edit (inv : RunInv mode r run w) {status : AgentRunStatus}
    (attempt : status.attempt = run.status.attempt) (observed : run.spec.attempt ≤ run.status.attempt)
    (named : status.jobName = "" ∨ (status.jobName = currentJobName run ∧ Accepted r.ext run))
    (settled : ∀ phase, status.phase = some phase → phase.terminal = true → mode.counts phase →
      w.live (currentJobName run) = false) :
    RunInv mode r (run.withStatus status) w := by
  have current : currentAttempt (run.withStatus status) = currentAttempt run := by
    simp only [currentAttempt, AgentRun.withStatus, attempt]
  have name : currentJobName (run.withStatus status) = currentJobName run := by
    simp only [currentJobName, current]; rfl
  refine ⟨current ▸ inv.bounded, .inr (attempt ▸ observed), name ▸ named, attempt ▸ inv.advanced,
    fun orderly k live => ?_, name ▸ settled⟩
  obtain ⟨here, accepted, buildable⟩ := inv.only orderly k live
  exact ⟨here.trans current.symm, accepted, buildable.congr ⟨rfl, rfl, rfl, rfl, current⟩⟩

theorem Working.readyPhase (working : Working mode r before run w) (phase : AgentRunPhase)
    (ended : phase.terminal = true → mode.counts phase → w.run = before →
      w.live (currentJobName before) = false) : Ready mode r before (run.withPhase phase) w where
  held := working.ready.held
  metadata := working.ready.metadata
  spec := working.ready.spec
  inv := fun fresh => by
    have inv := working.ready.inv fresh
    refine inv.edit rfl working.attempt_ge inv.named fun phase' at_phase terminal counted => ?_
    cases at_phase
    exact working.jobName_eq ▸ ended terminal counted fresh
  recorded := fun fresh k recorded => (working.ready.recorded fresh k recorded).congr rfl rfl rfl

theorem Working.withPhase (working : Working mode r before run w) (phase : AgentRunPhase)
    (ongoing : phase.terminal = false) : Working mode r before (run.withPhase phase) w :=
  { working with
    ready := working.readyPhase phase fun terminal => by rw [ongoing] at terminal; cases terminal
    ongoing := ongoing
    phase := by simp [AgentRun.withPhase, AgentRun.withStatus] }

/-- The Job of the current attempt may be recorded. -/
theorem Working.withJobName (working : Working mode r before run w) {name : String}
    (current : name = currentJobName before) : Working mode r before (run.withJobName name) w := by
  have nonempty : name ≠ "" := current ▸ jobNameOf_ne_empty before _
  refine { working with
    ready := ⟨working.ready.held, working.ready.metadata, working.ready.spec, fun fresh => ?_, fun fresh k recorded => ?_⟩
    named := fun _ => nonempty
    unrecorded := fun _ _ _ unnamed => absurd unnamed nonempty }
  · have inv := working.ready.inv fresh
    have accepted : Accepted r.ext run := by
      unfold Accepted
      rw [working.ready.metadata, working.ready.spec]
      exact working.accepted
    exact inv.edit rfl working.attempt_ge (.inr ⟨current.trans working.jobName_eq.symm, accepted⟩) inv.settled
  · rcases working.ready.recorded fresh k recorded with later | ⟨here, -⟩
    · exact .inl later
    · refine .inr ⟨here, ?_⟩
      subst here
      exact current.trans working.jobName_eq.symm

end Edits

end AgentForge.Operator
