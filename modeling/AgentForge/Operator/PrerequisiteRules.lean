import AgentForge.Operator.JobContract

/-!
# The prerequisites keep the contract

From a run whose attempt is being worked on, the chain from the service account to the Job ends with
a run that may be persisted. The chain fails an attempt for good only after an answer that orderly
runs give when the Job has ended.
-/

set_option autoImplicit false

namespace AgentForge.Operator

open Lib

/-! ## Failures -/

/-- A failure that the controller records as final. -/
def PrerequisiteError.permanent : PrerequisiteError → Bool
  | resourceConflict _ _ => true
  | api e => e.errorClass == .permanent

theorem PrerequisiteError.classify_permanent (e : PrerequisiteError) (reason : String) :
    (e.classify reason).1.errorClass = .permanent ↔ e.permanent = true := by
  cases e <;> simp [classify, permanent, classifyAPIError]

theorem ApiError.transient_of_indefinite {e : ApiError} (indefinite : e.indefinite = true) :
    e.errorClass = .transient := by
  cases e <;> simp_all [ApiError.indefinite, ApiError.errorClass]

/-- Unless the run has changed, its Job is not live. -/
def Ended (mode : Mode) (before : AgentRun) (w : World) : Prop :=
  mode.orderly → w.run = before → w.live (currentJobName before) = false

section Prerequisites

variable {mode : Mode} {r : Reconciler} {before : AgentRun} {w w' : World} {log : List (Event Op Op.Res)}
  {fault : Fault} {e : ApiError} {run : AgentRun} {desired : ExecutionResources}

/-- A child call refused for good means that the Job has ended. -/
theorem ended_of_refused {op : Op} (assumed : Assumed mode r w log op fault)
    (running : before.spec.desiredState = .running) (child : op.onChild = true) (refused : fault = .refused e)
    (final : e.errorClass = .permanent ∨ (e = .conflict ∧ op.isApply = true)) : Ended mode before w := by
  intro orderly fresh
  have ended := (assumed.orderly orderly).refusal (by rw [fresh]; exact running) child e refused final
  rwa [fresh] at ended

/-- A failed child read is final only if the Job has ended. -/
theorem ended_of_read {op : Op} (assumed : Assumed mode r w log op fault)
    (running : before.spec.desiredState = .running) (child : op.onChild = true)
    (cause : fault = .refused e ∨ e.indefinite = true) (permanent : e.errorClass = .permanent) :
    Ended mode before w := by
  rcases cause with refused | indefinite
  · exact ended_of_refused assumed running child refused (.inl permanent)
  · rw [ApiError.transient_of_indefinite indefinite] at permanent
    cases permanent

theorem handlePrerequisiteError_rule (run : AgentRun) (type : ConditionType) (reason : String) (e : PrerequisiteError) :
    (jobSafety mode r).Triple
      (fun _ w => Working mode r before run w ∧ (e.permanent = true → Ended mode before w))
      (handlePrerequisiteError run type reason e) fun outcome _ w => Ready mode r before outcome.run w := by
  refine ((carried_ready mode r before).handlePrerequisiteError run type reason e).consequence
    (fun _ w h => ?_) fun _ _ _ => id
  refine h.1.readyPhase _ fun terminal counted => h.2 ?_ counted.1
  rw [← e.classify_permanent reason]
  by_contra transient
  simp [transient, AgentRunPhase.terminal] at terminal

/-! ## Children -/

/-- The outcome of ensuring a child: the attempt goes on, or it fails for good after its Job ended. -/
abbrev Ensured (mode : Mode) (r : Reconciler) (before run : AgentRun) (res : Except PrerequisiteError Unit)
    (w : World) : Prop :=
  Working mode r before run w ∧ ∀ e, res = .error e → e.permanent = true → Ended mode before w

/-- The attempt is being worked on after a call that was answered. -/
abbrev Answered (mode : Mode) (r : Reconciler) (before run : AgentRun) {op : Op} (res : op.Res) (w : World) : Prop :=
  Working mode r before run w ∧ ∃ log₀ w₀ fault,
    Assumed mode r w₀ log₀ op fault ∧ respond w₀ op fault = some (res, w)

theorem answered_rule (run : AgentRun) {op : Op} (quiet : op.quiet = true) :
    (jobSafety mode r).Triple (fun _ w => Working mode r before run w) (call op)
      fun res _ w => Answered mode r before run res w := by
  refine ((carried_working mode r before).call run quiet).consequence (fun _ _ => id) fun res log w h => ?_
  obtain ⟨working, log₀, w₀, fault, -, assumed, answered, -⟩ := h
  exact ⟨working, log₀, w₀, fault, assumed, answered⟩

/-- `A` is what the apply needs of the read before it. -/
theorem ensureObject_rule (run : AgentRun) (running : before.spec.desiredState = .running) (kind : Kind)
    (desired : kind.Object) {A : Contract.Assertion apiServer}
    (name : (kind.metadata desired).name = (namesOf before.spec.runID (currentAttempt before)).of kind)
    (owned : ∀ metadata, ownChild before kind metadata = true →
      validateExistingOwnership before (kind.metadata desired) metadata = .ok ())
    (get : (jobSafety mode r).Triple A (call (.get kind (kind.metadata desired).name)) fun res log w =>
      Answered mode r before run res w ∧ ((∀ e, res = .error e → e = .notFound) → A log w))
    (apply : (jobSafety mode r).Triple A (ensureObject.apply kind desired (kind.metadata desired))
      fun res _ w => Ensured mode r before run res w) :
    (jobSafety mode r).Triple A (ensureObject r run kind desired) fun res _ w => Ensured mode r before run res w := by
  refine get.bind fun res => ?_
  split
  · next existing =>
    have applicable : ∀ e, (.ok existing : Except ApiError kind.Object) = .error e → e = .notFound := by rintro e ⟨⟩
    split
    · next foreign =>
      -- another owner's object: the answer was orderly, so the Job has ended
      refine Contract.Triple.pure fun log w h => ⟨h.1.1, fun e _ _ orderly fresh => ?_⟩
      obtain ⟨⟨working, log₀, w₀, fault, assumed, answered⟩, -⟩ := h
      obtain ⟨rfl, -⟩ := faulty_read answered
      have other : ownChild before kind (kind.metadata existing) = false := by
        by_contra own
        have accepted := owned _ (by simpa using own)
        have same : validateExistingOwnership run (kind.metadata desired) (kind.metadata existing) =
            validateExistingOwnership before (kind.metadata desired) (kind.metadata existing) := by
          simp only [validateExistingOwnership, validateExistingOwnership.annotated, working.ready.metadata]
        rw [same, accepted] at foreign
        cases foreign
      have ended := (assumed.orderly orderly).ownership (by rw [fresh]; exact running) kind existing
        (by rw [fresh, name]) (by rw [fresh, ← name]; exact answered) (by rw [fresh]; exact other)
      rwa [fresh] at ended
    · split
      · exact Contract.Triple.pure fun log w h => ⟨h.1.1, by rintro e ⟨⟩⟩
      · exact apply.consequence (fun _ _ h => h.2 applicable) fun _ _ _ => id
  · exact apply.consequence (fun _ _ h => h.2 (by rintro e ⟨⟩; rfl)) fun _ _ _ => id
  · next e absent =>
    refine Contract.Triple.pure fun log w h => ⟨h.1.1, fun e' failed permanent => ?_⟩
    cases failed
    obtain ⟨⟨working, log₀, w₀, fault, assumed, answered⟩, -⟩ := h
    obtain ⟨rfl, ⟨missing, -⟩ | ⟨-, cause⟩⟩ := get_error answered
    · exact absurd missing absent
    · exact ended_of_read assumed running rfl cause (by simpa [PrerequisiteError.permanent] using permanent)

/-- An apply that fails for good means that the Job has ended. -/
theorem ended_of_apply (running : before.spec.desiredState = .running) {kind : Kind} {desired : kind.Object}
    (assumed : Assumed mode r w log (.apply kind desired) fault)
    (answered : respond w (.apply kind desired) fault = some (.error e, w'))
    (final : e.errorClass = .permanent ∨ e = .conflict) : Ended mode before w' := by
  rcases apply_error answered with ⟨refused, rfl⟩ | indefinite
  · exact ended_of_refused assumed running rfl refused (final.imp id fun conflict => ⟨conflict, rfl⟩)
  · cases e <;> simp_all [ApiError.indefinite, ApiError.errorClass]

/-- After an answered apply the attempt goes on, or fails for good after its Job ended. -/
theorem apply_rule (run : AgentRun) (running : before.spec.desiredState = .running) (kind : Kind) (desired : kind.Object)
    {A : Contract.Assertion apiServer}
    (applied : (jobSafety mode r).Triple A (call (.apply kind desired)) fun res _ w => Answered mode r before run res w) :
    (jobSafety mode r).Triple A (ensureObject.apply kind desired (kind.metadata desired))
      fun res _ w => Ensured mode r before run res w := by
  refine applied.bind fun res => ?_
  split
  · exact Contract.Triple.pure fun log w h => ⟨h.1, by rintro e ⟨⟩⟩
  · refine Contract.Triple.pure fun log w h => ⟨h.1, fun e _ _ => ?_⟩
    obtain ⟨working, log₀, w₀, fault, assumed, answered⟩ := h
    exact ended_of_apply running assumed answered (.inr rfl)
  · refine Contract.Triple.pure fun log w h => ⟨h.1, fun e failed permanent => ?_⟩
    cases failed
    obtain ⟨working, log₀, w₀, fault, assumed, answered⟩ := h
    exact ended_of_apply running assumed answered (.inl (by simpa [PrerequisiteError.permanent] using permanent))

/-- A new Job of the current attempt keeps the invariant of a run whose phase is not terminal. -/
theorem RunInv.created (inv : RunInv mode r run w)
    (others : ∀ name, name ≠ currentJobName run → w'.live name = true → w.live name = true)
    (ongoing : run.status.terminal = false) (accepted : Accepted r.ext run) (buildable : Buildable r run) :
    RunInv mode r run w' where
  bounded := inv.bounded
  initialised := inv.initialised
  named := inv.named
  advanced := inv.advanced
  only := fun orderly attempt live => by
    by_cases same : jobNameOf run attempt = currentJobName run
    · exact ⟨jobNameOf_injective run same, accepted, buildable⟩
    · exact inv.only orderly attempt (others _ same live)
  settled := fun phase at_phase terminal _ => by
    simp only [AgentRunStatus.terminal, at_phase] at ongoing
    rw [terminal] at ongoing
    cases ongoing

theorem Working.created (working : Working mode r before run w) (running : before.spec.desiredState = .running)
    {desired : Job} (name : desired.metadata.name = currentJobName before) (buildable : Buildable r before) :
    Inv mode r (applyObject w .job desired) ∧ Working mode r before run (applyObject w .job desired) := by
  obtain ⟨sameRun, counter, others⟩ := applyObject_job w desired
  have held := working.ready.held
  have quiet : ∀ other, other ≠ currentJobName before →
      (applyObject w .job desired).live other = true → w.live other = true := by
    intro other differs live
    rwa [World.live, others other (name ▸ differs)] at live
  have inv : Inv mode r (applyObject w .job desired) := by
    refine ⟨sameRun ▸ held.inv.version.trans counter, sameRun ▸ held.inv.ceiling, ?_⟩
    rw [sameRun]
    refine held.inv.run.created (held.jobName_eq ▸ quiet) ?_ (working.accepted.mono held.intent)
      (buildable.congr (held.intent.sameBuild held.status))
    rw [held.status]
    exact working.started
  refine ⟨inv, { working with
    ready := ⟨⟨inv, ?_, ?_, ?_⟩, working.ready.metadata, working.ready.spec, fun fresh => ?_, working.ready.recorded⟩
    unrecorded := ?_ }⟩
  · rw [sameRun]; exact held.status
  · rw [sameRun]; exact held.intent
  · rw [sameRun]; exact held.version
  · refine (working.ready.inv (sameRun ▸ fresh)).created (working.jobName_eq ▸ quiet) working.ongoing ?_
      (buildable.congr working.sameBuild)
    unfold Accepted
    rw [working.ready.metadata, working.ready.spec]
    exact working.accepted
  · intro _ _ cancelled
    rw [running] at cancelled
    cases cancelled

/-! ## The Job -/

/-- The last call read this Job; if it had finished, the Job of the current attempt is not live. -/
structure JobRead (mode : Mode) (r : Reconciler) (before run : AgentRun) (name : String) (job : Job)
    (log : List (Event Op Op.Res)) (w : World) : Prop where
  working : Working mode r before run w
  last : log.head? = some ⟨.get .job name, .ok job⟩
  finished : job.finished = true → w.live (currentJobName before) = false
  present : mode.guarded → w.job name ≠ none

theorem JobRead.stable (mode : Mode) (r : Reconciler) (before run : AgentRun) (name : String) (job : Job) :
    (jobSafety mode r).Stable (JobRead mode r before run name job) := by
  intro log w m w' read assumed moved
  have untouched := applyMove_untouched moved
  refine ⟨read.working.untouched untouched, read.last,
    fun finished => not_live_of_quiet untouched.quiet (read.finished finished), fun guarded => ?_⟩
  exact applyMove_job moved (fun removed => assumed guarded name removed ⟨job, read.last⟩) (read.present guarded)

/-- What reading the Job of the current attempt tells. -/
def JobAnswer (mode : Mode) (r : Reconciler) (before run : AgentRun) (name : String) :
    Except ApiError Job → List (Event Op Op.Res) → World → Prop
  | .ok job, log, w =>
    JobRead mode r before run name job log w ∧
      (before.spec.desiredState = .running → job.metadata.deleting = true → Ended mode before w)
  | .error e, _, w =>
    Working mode r before run w ∧ (e = .notFound → w.live (currentJobName before) = false) ∧
      (before.spec.desiredState = .running → e.errorClass = .permanent → Ended mode before w)

theorem getJob_rule (run : AgentRun) {name : String} (current : name = currentJobName before) :
    (jobSafety mode r).Triple (fun _ w => Working mode r before run w) (call (.get .job name))
      (JobAnswer mode r before run name) := by
  refine ((carried_working mode r before).call run rfl).consequence (fun _ _ => id) fun res log w h => ?_
  obtain ⟨working, log₀, w₀, fault, -, assumed, answered, rfl⟩ := h
  cases res with
  | ok job =>
    obtain ⟨rfl, present⟩ := get_ok (assumed.current rfl) answered
    have ended_of_finished : job.finished = true → w.live (currentJobName before) = false := by
      intro finished
      rw [← current]
      simp [World.live, World.job, present, finished]
    refine ⟨⟨working, rfl, ended_of_finished, fun _ => by simp [World.job, present]⟩,
      fun running deleting orderly fresh => ended_of_finished ?_⟩
    exact (assumed.orderly orderly).terminating (by rw [fresh]; exact running) name job rfl present deleting
  | error e =>
    obtain ⟨rfl, cause⟩ := get_error answered
    refine ⟨working, ?_, fun running permanent => ?_⟩
    · rintro rfl
      rcases cause with ⟨-, absent⟩ | ⟨present, -⟩
      · rw [← current]
        exact World.not_live_of_absent (absent (assumed.current rfl))
      · exact absurd rfl present
    · rcases cause with ⟨rfl, -⟩ | ⟨-, cause⟩
      · cases permanent
      · exact ended_of_read assumed running rfl cause permanent

theorem listPods_rule (run : AgentRun) (name listed : String) (job : Job) :
    (jobSafety mode r).Triple (JobRead mode r before run name job) (call (.listPods listed)) fun res _ w =>
      Working mode r before run w ∧
        (∀ e, res = .error e → before.spec.desiredState = .running → e.errorClass = .permanent → Ended mode before w) ∧
        ∀ pods, res = .ok pods → (observeLifecycle r.ext job pods).phase.terminal = true → mode.orderly →
          w.live (currentJobName before) = false := by
  refine Contract.Triple.perform (JobRead.stable mode r before run name job)
    fun log w fault res w' read assumed (answered : respond w (.listPods listed) fault = some (res, w')) => ?_
  have untouched := respond_untouched rfl answered
  refine ⟨keeps_of_untouched read.working.ready.held.inv rfl untouched, read.working.untouched untouched, ?_, ?_⟩
  · rintro e rfl running permanent
    obtain ⟨rfl, cause⟩ := listPods_error answered
    exact ended_of_read assumed running rfl cause permanent
  · rintro pods rfl terminal orderly
    obtain ⟨rfl, -⟩ := faulty_read answered
    exact read.finished ((assumed.orderly orderly).evidence listed name job pods rfl read.last answered terminal)

theorem observeJob_rule (run : AgentRun) (running : before.spec.desiredState = .running) (name : String) (job : Job) :
    (jobSafety mode r).Triple (JobRead mode r before run name job) (observeJob r run job)
      fun outcome _ w => Ready mode r before outcome.run w := by
  refine (listPods_rule run name job.metadata.name job).bind fun res => ?_
  split
  · next e =>
    refine (handlePrerequisiteError_rule run _ _ (.api e)).consequence (fun _ w h => ⟨h.1, fun permanent => ?_⟩)
      fun _ _ _ => id
    exact h.2.1 e rfl running (by simpa [PrerequisiteError.permanent] using permanent)
  · next pods =>
    refine Contract.Triple.bind (Q := fun run' _ w => Ready mode r before run' w) ?_ fun run' => ?_
    · refine ((carried_ready mode r before).projectLifecycle run _).consequence (fun _ w h => ?_) fun _ _ _ => id
      exact h.1.readyPhase _ fun terminal counted _ => h.2.2 pods rfl terminal counted.1
    · split <;> exact Contract.Triple.pure fun _ _ => id

/-! ## The chain -/

/-- The object of a kind. -/
def ExecutionResources.object (built : ExecutionResources) : (kind : Kind) → kind.Object
  | .serviceAccount => built.serviceAccount
  | .configMap => built.configuration
  | .persistentVolumeClaim => built.workspace
  | .networkPolicy => built.networkPolicy
  | .job => built.job

/-- What the chain uses of the objects it ensures. -/
structure Desired (r : Reconciler) (before : AgentRun) (desired : ExecutionResources) : Prop where
  buildable : Buildable r before
  name : ∀ kind, (kind.metadata (desired.object kind)).name =
    (namesOf before.spec.runID (currentAttempt before)).of kind
  owned : ∀ kind metadata, ownChild before kind metadata = true →
    validateExistingOwnership before (kind.metadata (desired.object kind)) metadata = .ok ()

/-- The ownership check accepts the run's own child. -/
theorem validateExistingOwnership_ownChild {kind : Kind} {desired metadata : ObjectMeta}
    (controlled : desired.controllerOf = none ↔
      kind = .persistentVolumeClaim ∧ before.spec.workspace.retentionPolicy = .retain)
    (own : ownChild before kind metadata = true) : validateExistingOwnership before desired metadata = .ok () := by
  obtain ⟨controller, annotated⟩ := Bool.and_eq_true_iff.mp own
  have annotation : validateExistingOwnership.annotated before metadata = .ok () := by
    simpa [validateExistingOwnership.annotated] using annotated
  unfold validateExistingOwnership
  split at controller
  · next retained =>
    rw [controlled.mpr retained, Option.isNone_iff_eq_none.mp controller]
    exact annotation
  · next owned =>
    obtain ⟨wanted, controlled⟩ := Option.ne_none_iff_exists'.mp (mt controlled.mp owned)
    obtain ⟨owner, found, same⟩ := (Option.any_eq_true _ _).mp controller
    simp only [Bool.and_eq_true, beq_iff_eq] at same
    obtain ⟨⟨⟨uid, name⟩, kindName⟩, apiVersion⟩ := same
    rw [controlled, found]
    simp [uid, name, kindName, apiVersion, annotation]

theorem desired_of_buildAll {builder : Builder} {desired : ExecutionResources} (configured : r.resourceBuilder = some builder)
    (built : builder.buildAll r.ext before = .ok desired) : Desired r before desired := by
  obtain ⟨selected, -, rfl, named⟩ := Builder.buildAll_names built
  obtain ⟨-, -, -, -, names⟩ := forAgentRun_eq_ok.mp named
  refine ⟨⟨builder, _, configured, built⟩, fun kind => ?_, fun kind metadata own => ?_⟩
  · rw [← names]
    cases kind with
    | persistentVolumeClaim =>
      simp only [Kind.metadata, ExecutionResources.object, buildSelected, buildResources, buildPVC]
      split <;> rfl
    | _ => rfl
  · refine validateExistingOwnership_ownChild ?_ own
    cases kind with
    | persistentVolumeClaim =>
      simp only [Kind.metadata, ExecutionResources.object, buildSelected, buildResources, buildPVC]
      cases before.spec.workspace.retentionPolicy <;> simp [ObjectMeta.controllerOf, BuildContext.metadata, ownerReference]
    | _ => simp [Kind.metadata, ExecutionResources.object, buildSelected, buildResources, buildServiceAccount,
        buildConfigMap, buildNetworkPolicy, buildJob, ObjectMeta.controllerOf, BuildContext.metadata, ownerReference]

/-- The Job may be applied: the status names none yet, or the Job was just found and is still there. -/
structure Applicable (mode : Mode) (r : Reconciler) (before run : AgentRun) (name : String)
    (log : List (Event Op Op.Res)) (w : World) : Prop where
  working : Working mode r before run w
  found : mode.guarded → run.status.jobName ≠ "" → JustRead log name ∧ w.job name ≠ none

theorem Applicable.stable (mode : Mode) (r : Reconciler) (before run : AgentRun) (name : String) :
    (jobSafety mode r).Stable (Applicable mode r before run name) := by
  intro log w m w' applicable assumed moved
  refine ⟨applicable.working.untouched (applyMove_untouched moved), fun guarded named => ?_⟩
  obtain ⟨read, present⟩ := applicable.found guarded named
  exact ⟨read, applyMove_job moved (fun removed => assumed guarded name removed read) present⟩

theorem JobRead.applicable {name : String} {job : Job} (read : JobRead mode r before run name job log w) :
    Applicable mode r before run name log w :=
  ⟨read.working, fun guarded _ => ⟨⟨job, read.last⟩, read.present guarded⟩⟩

/-- A Job that was just found is found again. -/
theorem getApplicable_rule (run : AgentRun) (name : String) :
    (jobSafety mode r).Triple (Applicable mode r before run name) (call (.get .job name)) fun res log w =>
      Answered mode r before run res w ∧
        ((∀ e, res = .error e → e = .notFound) → Applicable mode r before run name log w) := by
  refine Contract.Triple.perform (Applicable.stable mode r before run name)
    fun log w fault res w' applicable assumed (answered : respond w (.get .job name) fault = some (res, w')) => ?_
  have untouched := respond_untouched rfl answered
  have working := applicable.working.untouched untouched
  refine ⟨keeps_of_untouched applicable.working.ready.held.inv rfl untouched,
    ⟨working, log, w, fault, assumed, answered⟩, fun read => ⟨working, fun guarded named => ?_⟩⟩
  cases res with
  | ok job =>
    obtain ⟨rfl, present⟩ := get_ok (assumed.current rfl) answered
    exact ⟨⟨job, rfl⟩, by simp [World.job, present]⟩
  | error e =>
    obtain ⟨rfl, ⟨-, absent⟩ | ⟨present, -⟩⟩ := get_error answered
    · exact absurd (absent (assumed.current rfl)) (applicable.found guarded named).2
    · exact absurd (read e rfl) present

theorem applyJob_rule (run : AgentRun) (running : before.spec.desiredState = .running)
    (facts : Desired r before desired) :
    (jobSafety mode r).Triple (Applicable mode r before run desired.job.metadata.name)
      (call (.apply .job desired.job)) fun res _ w => Answered mode r before run res w := by
  refine Contract.Triple.perform (Applicable.stable mode r before run _) fun log w fault res w' applicable assumed
    (answered : respond w (.apply .job desired.job) fault = some (res, w')) => ?_
  have working := applicable.working
  have name : desired.job.metadata.name = currentJobName before := facts.name .job
  have after : w'.run = w.run ∧ Inv mode r w' ∧ Working mode r before run w' := by
    rcases faulty_world answered with rfl | rfl
    · exact ⟨rfl, working.ready.held.inv, working⟩
    · exact ⟨rfl, working.created running name facts.buildable⟩
  obtain ⟨sameRun, inv, working'⟩ := after
  refine ⟨⟨inv, sameRun ▸ .refl _, fun k recorded => sameRun ▸ recorded, ?_, ?_⟩, working', log, w, fault, assumed, answered⟩
  · rintro applied ⟨⟩
    exact name.trans working.ready.held.jobName_eq.symm
  · rintro guarded applied ⟨⟩ absent
    by_contra persisted
    rw [working.ready.held.status] at persisted
    exact (applicable.found guarded (working.named persisted)).2 absent

theorem ensureJobObject_rule (run : AgentRun) (running : before.spec.desiredState = .running)
    (facts : Desired r before desired) :
    (jobSafety mode r).Triple (Applicable mode r before run desired.job.metadata.name)
      (ensureObject r run .job desired.job) fun res _ w => Ensured mode r before run res w :=
  ensureObject_rule run running .job _ (facts.name .job) (facts.owned .job) (getApplicable_rule run _)
    (apply_rule run running .job _ (applyJob_rule run running facts))

/-- Each other child of the current attempt may be ensured. -/
theorem ensureChild_rule (run : AgentRun) (running : before.spec.desiredState = .running)
    (facts : Desired r before desired) (kind : Kind) (other : kind ≠ .job) :
    (jobSafety mode r).Triple (fun _ w => Working mode r before run w)
      (ensureObject r run kind (desired.object kind)) fun res _ w => Ensured mode r before run res w := by
  have quiet : (Op.apply kind (desired.object kind)).quiet = true := by cases kind <;> first | rfl | contradiction
  refine ensureObject_rule run running kind _ (facts.name kind) (facts.owned kind) ?_
    (apply_rule run running kind _ (answered_rule run quiet))
  exact (answered_rule run rfl).consequence (fun _ _ => id) fun _ _ _ h => ⟨h, fun _ => h.1⟩

/-- An error of a prerequisite that was ensured. -/
theorem handleEnsured_rule (run : AgentRun) (type : ConditionType) (reason : String) {res : Except PrerequisiteError Unit}
    {e : PrerequisiteError} (failed : res = .error e) :
    (jobSafety mode r).Triple (fun _ w => Ensured mode r before run res w)
      (handlePrerequisiteError run type reason e) fun outcome _ w => Ready mode r before outcome.run w :=
  (handlePrerequisiteError_rule run type reason e).consequence (fun _ _ h => ⟨h.1, h.2 e failed⟩) fun _ _ _ => id

theorem ensureJob_rule (run : AgentRun) (running : before.spec.desiredState = .running)
    (facts : Desired r before desired) :
    (jobSafety mode r).Triple (Applicable mode r before run desired.job.metadata.name) (ensureJob r run desired.job)
      fun outcome _ w => Ready mode r before outcome.run w := by
  have name : desired.job.metadata.name = currentJobName before := facts.name .job
  refine (ensureJobObject_rule run running facts).bind fun res => ?_
  split
  · next e => exact handleEnsured_rule run _ _ rfl
  · refine Contract.Triple.bind (Q := fun run' _ w => Working mode r before run' w) ?_ fun run' => ?_
    · exact ((carried_working mode r before).setCondition _ _ _ _ _).consequence
        (fun _ w h => h.1.withJobName name) fun _ _ _ => id
    · refine (getJob_rule run' name).bind fun res => ?_
      split
      · next e =>
        refine (handlePrerequisiteError_rule run' _ _ (.api e)).consequence (fun _ w h => ⟨h.1, fun permanent => ?_⟩)
          fun _ _ _ => id
        exact h.2.2 running (by simpa [PrerequisiteError.permanent] using permanent)
      · next job =>
        exact (observeJob_rule run' running desired.job.metadata.name job).consequence (fun _ _ h => h.1) fun _ _ _ => id

/-- A missing Job fails the attempt after it ended. -/
theorem recordMissingJob_rule (run : AgentRun) {name : String} (current : name = currentJobName before) :
    (jobSafety mode r).Triple (fun _ w => Working mode r before run w ∧ Ended mode before w)
      (do return ({ run := ← recordMissingJob run name } : Outcome))
      fun outcome _ w => Ready mode r before outcome.run w := by
  refine Contract.Triple.bind (Q := fun run' _ w => Ready mode r before run' w) ?_ fun run' =>
    Contract.Triple.pure fun _ _ => id
  refine ((carried_ready mode r before).recordMissingJob run name).consequence (fun _ w h => ?_) fun _ _ _ => id
  exact (h.1.withJobName current).readyPhase _ fun _ counted => h.2 counted.1

/-- The recorded Job name is the one of the current attempt, unless the run has changed. -/
theorem Working.recorded (working : Working mode r before run w) (fresh : w.run = before)
    (named : run.status.jobName ≠ "") : run.status.jobName = currentJobName before := by
  obtain unnamed | ⟨name, -⟩ := (working.ready.inv fresh).named
  · exact absurd unnamed named
  · exact name.trans working.jobName_eq

theorem reconcileJob_rule (run : AgentRun) (running : before.spec.desiredState = .running)
    (facts : Desired r before desired) :
    (jobSafety mode r).Triple (fun _ w => Working mode r before run w) (reconcileJob r run desired.job)
      fun outcome _ w => Ready mode r before outcome.run w := by
  have name : desired.job.metadata.name = currentJobName before := facts.name .job
  unfold reconcileJob
  split
  · next unnamed =>
    exact (ensureJob_rule run running facts).consequence (fun _ _ h => ⟨h, fun _ named => absurd unnamed named⟩)
      fun _ _ _ => id
  · next named =>
    split
    · next other =>
      -- the identity conflict cannot be persisted: the recorded name is the current one
      refine Contract.Triple.bind (Q := fun run' _ w => Ready mode r before run' w) ?_ fun run' =>
        Contract.Triple.pure fun _ _ => id
      refine ((carried_ready mode r before).recordPrerequisiteFailure run _ _ _).consequence (fun _ w h => ?_)
        fun _ _ _ => id
      exact h.readyPhase _ fun _ _ fresh => absurd ((h.recorded fresh named).trans name.symm) other
    · refine (getJob_rule run name).bind fun res => ?_
      split
      · exact (recordMissingJob_rule run name).consequence (fun _ w h => ⟨h.1, fun _ _ => h.2.1 rfl⟩) fun _ _ _ => id
      · next e _ =>
        refine (handlePrerequisiteError_rule run _ _ (.api e)).consequence (fun _ w h => ⟨h.1, fun permanent => ?_⟩)
          fun _ _ _ => id
        exact h.2.2 running (by simpa [PrerequisiteError.permanent] using permanent)
      · next existing =>
        split
        · next deleting =>
          exact (recordMissingJob_rule run name).consequence (fun _ w h => ⟨h.1.working, h.2 running deleting⟩)
            fun _ _ _ => id
        · exact (ensureJob_rule run running facts).consequence (fun _ _ h => h.1.applicable) fun _ _ _ => id

theorem reconcileNetworkPolicy_rule (run : AgentRun) (running : before.spec.desiredState = .running)
    (facts : Desired r before desired) :
    (jobSafety mode r).Triple (fun _ w => Working mode r before run w) (reconcileNetworkPolicy r run desired)
      fun outcome _ w => Ready mode r before outcome.run w := by
  refine (ensureChild_rule run running facts .networkPolicy (by decide)).bind fun res => ?_
  split
  · exact handleEnsured_rule run _ _ rfl
  · refine Contract.Triple.bind (Q := fun run' _ w => Working mode r before run' w) ?_ fun run' =>
      reconcileJob_rule run' running facts
    exact ((carried_working mode r before).setCondition _ _ _ _ _).consequence (fun _ _ h => h.1) fun _ _ _ => id

/-! ### Reads -/

/-- A read that failed for good. The truthful answers of a read fail only by absence. -/
theorem ended_of_answer {α : Type} {op : Op} {answer : World → Except ApiError α}
    (assumed : Assumed mode r w log op fault) (running : before.spec.desiredState = .running)
    (child : op.onChild = true) (truthful : ∀ seen e, answer seen = .error e → e = .notFound)
    (answered : faultyRead w answer fault = some (.error e, w')) (permanent : e.errorClass = .permanent) :
    Ended mode before w' := by
  obtain ⟨rfl, ⟨seen, -, same⟩ | ⟨e', same, -, cause⟩⟩ := faulty_read answered
  · rw [truthful seen e same.symm] at permanent
    cases permanent
  · cases same
    exact ended_of_read assumed running child cause permanent

/-- What the answer of a read leaves to show. -/
abbrev ReadAnswer (mode : Mode) (r : Reconciler) (before run : AgentRun) {α : Type} (res : Except ApiError α)
    (w : World) : Prop :=
  Working mode r before run w ∧ ∀ e, res = .error e → e.errorClass = .permanent → Ended mode before w

theorem get_rule (run : AgentRun) (running : before.spec.desiredState = .running) (kind : Kind) (name : String) :
    (jobSafety mode r).Triple (fun _ w => Working mode r before run w) (call (.get kind name))
      fun res _ w => ReadAnswer mode r before run res w := by
  refine (answered_rule run rfl).consequence (fun _ _ => id) fun res log w h => ⟨h.1, ?_⟩
  rintro e rfl
  obtain ⟨-, log₀, w₀, fault, assumed, answered⟩ := h
  exact ended_of_answer assumed running rfl (fun _ _ missing => (readObject_eq_error.mp missing).1) answered

theorem getSecret_rule (run : AgentRun) (running : before.spec.desiredState = .running) (name : String) :
    (jobSafety mode r).Triple (fun _ w => Working mode r before run w) (call (.getSecret name))
      fun res _ w => ReadAnswer mode r before run res w := by
  refine (answered_rule run rfl).consequence (fun _ _ => id) fun res log w h => ⟨h.1, ?_⟩
  rintro e rfl
  obtain ⟨-, log₀, w₀, fault, assumed, answered⟩ := h
  refine ended_of_answer assumed running rfl (fun seen e absent => ?_) answered
  unfold readSecret at absent
  split at absent <;> cases absent
  rfl

theorem getStorageClass_rule (run : AgentRun) (running : before.spec.desiredState = .running) (name : String) :
    (jobSafety mode r).Triple (fun _ w => Working mode r before run w) (call (.getStorageClass name))
      fun res _ w => ReadAnswer mode r before run res w := by
  refine (answered_rule run rfl).consequence (fun _ _ => id) fun res log w h => ⟨h.1, ?_⟩
  rintro e rfl
  obtain ⟨-, log₀, w₀, fault, assumed, answered⟩ := h
  refine ended_of_answer assumed running rfl (fun seen e absent => ?_) answered
  unfold readStorageClass at absent
  split at absent <;> cases absent
  rfl

/-- An error of a prerequisite that was read. -/
theorem handleRead_rule {α : Type} (run : AgentRun) (type : ConditionType) (reason : String)
    {res : Except ApiError α} (failed : res = .error e) :
    (jobSafety mode r).Triple (fun _ w => ReadAnswer mode r before run res w)
      (handlePrerequisiteError run type reason (.api e)) fun outcome _ w => Ready mode r before outcome.run w :=
  (handlePrerequisiteError_rule run type reason (.api e)).consequence
    (fun _ _ h => ⟨h.1, fun permanent => h.2 e failed (by simpa [PrerequisiteError.permanent] using permanent)⟩)
    fun _ _ _ => id

/-! ### The rest of the chain -/

theorem workspaceWaitsForFirstConsumer_rule (run : AgentRun) (running : before.spec.desiredState = .running)
    (workspace : PersistentVolumeClaim) :
    (jobSafety mode r).Triple (fun _ w => Working mode r before run w) (workspaceWaitsForFirstConsumer workspace)
      fun res _ w => ReadAnswer mode r before run res w := by
  have known : ∀ answer : Bool, (jobSafety mode r).Triple (fun _ w => Working mode r before run w)
      (pure (.ok answer) : Ctl (Except ApiError Bool)) fun res _ w => ReadAnswer mode r before run res w :=
    fun answer => Contract.Triple.pure fun _ _ h => ⟨h, by rintro e ⟨⟩⟩
  unfold workspaceWaitsForFirstConsumer
  split
  · exact known false
  · split
    · exact known false
    · refine (getStorageClass_rule run running _).bind fun res => ?_
      split
      · exact (known _).consequence (fun _ _ h => h.1) fun _ _ _ => id
      · exact (known _).consequence (fun _ _ h => h.1) fun _ _ _ => id
      · exact Contract.Triple.pure fun _ _ h => ⟨h.1, by rintro e ⟨⟩; exact h.2 _ rfl⟩

theorem awaitWorkspace_rule (run : AgentRun) (running : before.spec.desiredState = .running)
    (facts : Desired r before desired) (workspace : PersistentVolumeClaim) :
    (jobSafety mode r).Triple (fun _ w => Working mode r before run w) (awaitWorkspace r run desired workspace)
      fun outcome _ w => Ready mode r before outcome.run w := by
  unfold awaitWorkspace
  split
  · exact ((carried_working mode r before).setCondition _ _ _ _ _).bind fun run' =>
      reconcileNetworkPolicy_rule run' running facts
  · refine ((workspaceWaitsForFirstConsumer_rule (run.withPhase .provisioning) running workspace).bind fun res => ?_).consequence
      (fun _ _ h => h.withPhase .provisioning rfl) fun _ _ _ => id
    split
    · exact handleRead_rule _ _ _ rfl
    · refine Contract.Triple.bind (Q := fun run' _ w => Working mode r before run' w) ?_ fun run' =>
        Contract.Triple.pure fun _ _ h => h.ready
      exact ((carried_working mode r before).setConditions _ _).consequence (fun _ _ h => h.1) fun _ _ _ => id
    · refine Contract.Triple.bind (Q := fun run' _ w => Working mode r before run' w) ?_ fun run' =>
        reconcileNetworkPolicy_rule run' running facts
      exact ((carried_working mode r before).setCondition _ _ _ _ _).consequence (fun _ _ h => h.1) fun _ _ _ => id

theorem reconcileWorkspace_rule (run : AgentRun) (running : before.spec.desiredState = .running)
    (facts : Desired r before desired) :
    (jobSafety mode r).Triple (fun _ w => Working mode r before run w) (reconcileWorkspace r run desired)
      fun outcome _ w => Ready mode r before outcome.run w := by
  refine (ensureChild_rule run running facts .persistentVolumeClaim (by decide)).bind fun res => ?_
  split
  · exact handleEnsured_rule run _ _ rfl
  · refine Contract.Triple.bind (Q := fun res _ w => ReadAnswer mode r before run res w) ?_ fun res => ?_
    · exact (get_rule run running .persistentVolumeClaim _).consequence (fun _ _ h => h.1) fun _ _ _ => id
    · split
      · exact handleRead_rule run _ _ rfl
      · exact (awaitWorkspace_rule run running facts _).consequence (fun _ _ h => h.1) fun _ _ _ => id

theorem Reference.read_rule (run : AgentRun) (running : before.spec.desiredState = .running) (reference : Reference) :
    (jobSafety mode r).Triple (fun _ w => Working mode r before run w) reference.read
      fun res _ w => ReadAnswer mode r before run res w := by
  cases reference with
  | secret name => exact getSecret_rule run running name
  | configMap name =>
    refine (get_rule run running .configMap name).bind fun res => ?_
    split
    · exact Contract.Triple.pure fun _ _ h => ⟨h.1, by rintro e ⟨⟩⟩
    · exact Contract.Triple.pure fun _ _ h => ⟨h.1, by rintro e ⟨⟩; exact h.2 _ rfl⟩

/-- The references that were read: the run may carry new conditions, or a read failed. -/
abbrev ReferencesRead (mode : Mode) (r : Reconciler) (before run : AgentRun) :
    Except ApiError (Bool × AgentRun) → World → Prop
  | .ok (_, run'), w => Working mode r before run' w
  | .error e, w => ReadAnswer mode r before run (.error e : Except ApiError Unit) w

theorem configurationReferencesReady_rule (run : AgentRun) (running : before.spec.desiredState = .running)
    (references : List Reference) :
    (jobSafety mode r).Triple (fun _ w => Working mode r before run w) (configurationReferencesReady run references)
      fun res _ w => ReferencesRead mode r before run res w := by
  induction references with
  | nil => exact Contract.Triple.pure fun _ _ => id
  | cons reference rest ih =>
    refine (reference.read_rule run running).bind fun res => ?_
    split
    · exact ih.consequence (fun _ _ h => h.1) fun _ _ _ => id
    · refine Contract.Triple.bind (Q := fun run' _ w => Working mode r before run' w) ?_ fun run' =>
        Contract.Triple.pure fun _ _ => id
      exact ((carried_working mode r before).setConditions run _).consequence (fun _ _ h => h.1) fun _ _ _ => id
    · exact Contract.Triple.pure fun _ _ => id

theorem reconcileConfiguration_rule (run : AgentRun) (running : before.spec.desiredState = .running)
    (facts : Desired r before desired) :
    (jobSafety mode r).Triple (fun _ w => Working mode r before run w) (reconcileConfiguration r run desired)
      fun outcome _ w => Ready mode r before outcome.run w := by
  refine (configurationReferencesReady_rule run running _).bind fun res => ?_
  split
  · exact handleRead_rule run _ _ rfl
  · exact Contract.Triple.pure fun _ _ h => (Working.withPhase h .provisioning rfl).ready
  · next run' =>
    refine (ensureChild_rule run' running facts .configMap (by decide)).bind fun res => ?_
    split
    · exact handleEnsured_rule run' _ _ rfl
    · refine Contract.Triple.bind (Q := fun run' _ w => Working mode r before run' w) ?_ fun run' =>
        reconcileWorkspace_rule run' running facts
      exact ((carried_working mode r before).setCondition _ _ _ _ _).consequence (fun _ _ h => h.1) fun _ _ _ => id

/-- A run for which nothing can be built has no live Job. -/
theorem failPrerequisites_rule (run : AgentRun) (reason : String) (category : FailureCategory)
    (unbuildable : ¬ Buildable r run) :
    (jobSafety mode r).Triple (fun _ w => Working mode r before run w) (failPrerequisites run reason category)
      fun outcome _ w => Ready mode r before outcome.run w := by
  refine Contract.Triple.bind (Q := fun run' _ w => Ready mode r before run' w) ?_ fun run' =>
    Contract.Triple.pure fun _ _ => id
  refine ((carried_ready mode r before).recordPrerequisiteFailure run _ _ _).consequence (fun _ w h => ?_)
    fun _ _ _ => id
  refine h.readyPhase _ fun _ counted fresh => ?_
  by_contra live
  have alive : w.live (jobNameOf run (currentAttempt run)) = true := by
    have same : jobNameOf run (currentAttempt run) = currentJobName before := h.jobName_eq
    simpa [same] using live
  exact unbuildable ((h.ready.inv fresh).only counted.1 _ alive).2.2

theorem reconcilePrerequisites_rule (run : AgentRun) (running : before.spec.desiredState = .running) :
    (jobSafety mode r).Triple (fun _ w => Working mode r before run w) (reconcilePrerequisites r run)
      fun outcome _ w => Ready mode r before outcome.run w := by
  unfold reconcilePrerequisites
  split
  · next missing =>
    refine failPrerequisites_rule run _ _ ?_
    rintro ⟨builder, built, configured, -⟩
    rw [missing] at configured
    cases configured
  · next builder configured =>
    split
    · next failed =>
      refine failPrerequisites_rule run _ _ ?_
      rintro ⟨builder', built, configured', ok⟩
      cases configured.symm.trans configured'
      rw [failed] at ok
      cases ok
    · next desired built =>
      intro log w working
      have facts : Desired r before desired :=
        desired_of_buildAll configured (working.sameBuild.buildAll.symm.trans built)
      refine Contract.Triple.bind (ensureChild_rule run running facts .serviceAccount (by decide)) (fun res => ?_)
        log w working
      split
      · exact handleEnsured_rule run _ _ rfl
      · refine Contract.Triple.bind (Q := fun run' _ w => Working mode r before run' w) ?_ fun run' =>
          reconcileConfiguration_rule run' running facts
        exact ((carried_working mode r before).setCondition _ _ _ _ _).consequence (fun _ _ h => h.1) fun _ _ _ => id

end Prerequisites

end AgentForge.Operator
