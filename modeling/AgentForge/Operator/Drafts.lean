import AgentForge.Operator.JobInvariant

/-!
# The status of a run in memory

A reconcile edits the status of the run that it read and writes it once at its end. The edits keep to the current
attempt: the records of other attempts stay, and the record of the current one is a copy of the top-level status at the
moment it is made. A `Draft` is a run in memory that was made from the run that was read by such edits.
-/

set_option autoImplicit false

namespace AgentForge.Operator

/-! ## The records of the attempts -/

/-- The records are ordered by attempt, with one for each attempt at most. -/
def Ordered (attempts : List AttemptStatus) : Prop := attempts.Pairwise (·.attempt < ·.attempt)

/-- The record of the current attempt: a copy of the top-level status. -/
def attemptRecord (run : AgentRun) : AttemptStatus where
  attempt := currentAttempt run
  jobName := run.status.jobName
  podName := run.status.podName
  phase := run.status.phase
  startTime := run.status.startTime
  completionTime := run.status.completionTime
  failureCategory := run.status.failureCategory
  failureReason := run.status.failureReason
  artifactManifestRef := run.status.artifactManifestRef

theorem upsertAttemptStatus_eq (run : AgentRun) :
    upsertAttemptStatus run = run.withStatus
      { run.status with attempts := sortAttempts (replaceAttempt (attemptRecord run) run.status.attempts) } := rfl

variable {attempts : List AttemptStatus} {entry current : AttemptStatus}

theorem mem_sortAttempts : entry ∈ sortAttempts attempts ↔ entry ∈ attempts :=
  (List.perm_insertionSort _ attempts).mem_iff

/-- The attempts of a list with a record replaced: those it had, and the one of the record. -/
theorem attempt_mem_replaceAttempt (h : entry ∈ replaceAttempt current attempts) :
    entry = current ∨ entry ∈ attempts := by
  induction attempts with
  | nil => exact .inl (by simpa [replaceAttempt] using h)
  | cons first rest ih =>
    unfold replaceAttempt at h
    split at h <;> rcases List.mem_cons.mp h with rfl | h
    · exact .inl rfl
    · exact .inr (List.mem_cons_of_mem _ h)
    · exact .inr List.mem_cons_self
    · exact (ih h).imp id (List.mem_cons_of_mem _)

theorem mem_replaceAttempt (ordered : Ordered attempts) :
    entry ∈ replaceAttempt current attempts ↔ entry = current ∨ entry ∈ attempts ∧ entry.attempt ≠ current.attempt := by
  induction attempts with
  | nil => simp [replaceAttempt]
  | cons first rest ih =>
    obtain ⟨least, ordered⟩ := List.pairwise_cons.mp ordered
    unfold replaceAttempt
    split
    · next same =>
      have later : entry ∈ rest → entry.attempt ≠ current.attempt := fun member => by
        have := least entry member
        omega
      simp only [List.mem_cons]
      refine or_congr_right ⟨fun member => ⟨.inr member, later member⟩, fun h => h.1.resolve_left ?_⟩
      rintro rfl
      exact h.2 same
    · next other =>
      simp only [List.mem_cons, ih ordered]
      refine ⟨?_, ?_⟩
      · rintro (rfl | rfl | ⟨member, differs⟩)
        · exact .inr ⟨.inl rfl, other⟩
        · exact .inl rfl
        · exact .inr ⟨.inr member, differs⟩
      · rintro (rfl | ⟨rfl | member, differs⟩)
        · exact .inr (.inl rfl)
        · exact .inl rfl
        · exact .inr (.inr ⟨member, differs⟩)

theorem nodup_replaceAttempt (ordered : Ordered attempts) :
    (replaceAttempt current attempts).Pairwise (·.attempt ≠ ·.attempt) := by
  induction attempts with
  | nil => simp [replaceAttempt]
  | cons first rest ih =>
    obtain ⟨least, ordered⟩ := List.pairwise_cons.mp ordered
    unfold replaceAttempt
    split
    · next same =>
      refine List.pairwise_cons.mpr ⟨fun entry member => ?_, ordered.imp fun h => h.ne⟩
      rw [← same]
      exact (least entry member).ne
    · next other =>
      refine List.pairwise_cons.mpr ⟨fun entry member => ?_, ih ordered⟩
      rcases attempt_mem_replaceAttempt member with rfl | member
      · exact other
      · exact (least entry member).ne

/-- Recording an attempt replaces its record and no other. -/
theorem mem_recorded (ordered : Ordered attempts) :
    entry ∈ sortAttempts (replaceAttempt current attempts) ↔
      entry = current ∨ entry ∈ attempts ∧ entry.attempt ≠ current.attempt := by
  rw [mem_sortAttempts, mem_replaceAttempt ordered]

theorem ordered_recorded (ordered : Ordered attempts) : Ordered (sortAttempts (replaceAttempt current attempts)) := by
  have sorted : (sortAttempts (replaceAttempt current attempts)).Pairwise (·.attempt ≤ ·.attempt) :=
    List.pairwise_insertionSort _ _
  have distinct : (sortAttempts (replaceAttempt current attempts)).Pairwise (·.attempt ≠ ·.attempt) :=
    (List.perm_insertionSort _ _).symm.pairwise (nodup_replaceAttempt ordered) Ne.symm
  exact (sorted.and distinct).imp fun h => lt_of_le_of_ne h.1 h.2

theorem Ordered.unique (ordered : Ordered attempts) {left right : AttemptStatus} (leftMember : left ∈ attempts)
    (rightMember : right ∈ attempts) (same : left.attempt = right.attempt) : left = right := by
  induction attempts with
  | nil => cases leftMember
  | cons first rest ih =>
    obtain ⟨least, ordered⟩ := List.pairwise_cons.mp ordered
    rcases List.mem_cons.mp leftMember with rfl | inLeft <;> rcases List.mem_cons.mp rightMember with rfl | inRight
    · rfl
    · exact absurd same (least right inRight).ne
    · exact absurd same (least left inLeft).ne'
    · exact ih ordered inLeft inRight

/-! ## Times that persistence keeps -/

/-- A second round trip through the API server changes nothing more. -/
def Settling (time : Option Time) : Prop := storedTime (storedTime time) = storedTime time

/-- The times of the record settle. -/
def AttemptStatus.Settles (entry : AttemptStatus) : Prop := Settling entry.startTime ∧ Settling entry.completionTime

theorem AttemptStatus.Settles.stored (settles : entry.Settles) : entry.stored.stored = entry.stored := by
  simp only [AttemptStatus.stored]
  rw [settles.1, settles.2]

theorem Settling.of_stored {time : Option Time} (settling : Settling time) : Settling (storedTime time) := by
  unfold Settling at settling ⊢
  rw [settling, settling]

@[simp]
theorem Time.stored_stored (time : Time) : time.stored.stored = time.stored := by
  simp [Time.stored, second]

/-- The time, if any, is one of whole seconds, as every time is that was read from the API server. -/
def Whole (time : Option Time) : Prop := ∀ value, time = some value → value.stored = value

theorem Whole.none : Whole none := by rintro value ⟨⟩

theorem Whole.some {time : Time} (whole : time.stored = time) : Whole (some time) := by
  rintro value ⟨⟩
  exact whole

theorem Whole.or {left right : Option Time} (first : Whole left) (second : Whole right) : Whole (left.or right) := by
  cases left with
  | none => exact second
  | some time => exact first

/-- A time of whole seconds settles. -/
theorem Whole.settling {time : Option Time} (whole : Whole time) : Settling time := by
  cases time with
  | none => rfl
  | some value =>
    have stays := whole value rfl
    by_cases zero : value.isZero = true <;> simp [Settling, storedTime, zero, stays]

structure Job.WholeTimes (job : Job) : Prop where
  start : Whole job.status.startTime
  completion : Whole job.status.completionTime
  conditions : ∀ condition ∈ job.status.conditions, condition.lastTransitionTime.stored = condition.lastTransitionTime

structure Pod.WholeTimes (pod : Pod) : Prop where
  start : Whole pod.startTime
  running : ∀ container ∈ pod.containerStatuses, Whole container.running
  terminated : ∀ container ∈ pod.containerStatuses, ∀ state, container.terminated = some state →
    state.finishedAt.stored = state.finishedAt

theorem whole_firstTime {values : List (Option Time)} (whole : ∀ value ∈ values, Whole value) :
    Whole (firstTime values) := by
  intro time found
  simp only [firstTime, Option.join_eq_some_iff] at found
  exact whole _ (List.mem_of_find?_eq_some found) time rfl

section Observation

variable {ext : Externals} {job : Job} {pod : Pod} {observation : LifecycleObservation}

theorem Job.WholeTimes.condition (whole : job.WholeTimes) {type : JobConditionType} {condition : JobCondition}
    (found : findJobCondition job type = some condition) :
    condition.lastTransitionTime.stored = condition.lastTransitionTime :=
  whole.conditions condition (List.mem_of_find?_eq_some found)

theorem Job.WholeTimes.jobCompletionTime (whole : job.WholeTimes) : Whole (jobCompletionTime job) := by
  unfold Operator.jobCompletionTime
  split
  · next time completed => exact completed ▸ whole.completion
  · split
    · next condition found => exact .some (whole.condition found)
    · intro time found
      obtain ⟨condition, target, rfl⟩ := Option.map_eq_some_iff.mp found
      exact whole.condition target

theorem Pod.WholeTimes.container (whole : pod.WholeTimes) {container : ContainerStatus}
    (found : runnerContainerStatus pod = some container) : Whole container.running :=
  whole.running container (List.mem_of_find?_eq_some found)

theorem Pod.WholeTimes.termination (whole : pod.WholeTimes) {state : ContainerStateTerminated}
    (found : runnerTermination pod = some state) : state.finishedAt.stored = state.finishedAt := by
  obtain ⟨container, listed, terminated⟩ := Option.bind_eq_some_iff.mp found
  exact whole.terminated container (List.mem_of_find?_eq_some listed) state terminated

/-- Both times of an observation are whole. -/
abbrev LifecycleObservation.WholeTimes (observation : LifecycleObservation) : Prop :=
  Whole observation.startTime ∧ Whole observation.completionTime

theorem whole_failedObservation (whole : pod.WholeTimes) (reason message : String) (category : FailureCategory) :
    (failedObservation reason message category pod).WholeTimes := by
  refine ⟨whole.start, ?_⟩
  simp only [failedObservation]
  split
  · next state found =>
    split
    · exact .none
    · exact .some (whole.termination found)
  · exact .none

theorem whole_observeNonTerminalPod (observed : observation.WholeTimes) (whole : pod.WholeTimes) :
    (observeNonTerminalPod observation pod).WholeTimes := by
  have conditions : (observePodConditions observation pod).WholeTimes := by
    unfold observePodConditions
    simp only
    split_ifs <;> split <;> try split_ifs
    all_goals exact observed
  unfold observeNonTerminalPod
  split
  · exact conditions
  · next container found =>
    split
    · next started running =>
      refine ⟨?_, observed.2⟩
      dsimp only
      split
      · exact observed.1
      · exact running ▸ whole.container found
    · split
      · split <;> exact observed
      · split
        · exact observed
        · exact conditions

theorem whole_observeCompletion (observed : observation.WholeTimes) (job_whole : job.WholeTimes) {pod : Option Pod}
    (whole : ∀ p, pod = some p → p.WholeTimes) : (observeCompletion ext job observation pod).WholeTimes := by
  unfold observeCompletion
  split
  · exact observed
  · next pod =>
    split
    · exact observed
    · next state found =>
      have completion : Whole (firstTime [job.status.completionTime, some state.finishedAt]) := by
        refine whole_firstTime fun value member => ?_
        simp only [List.mem_cons, List.not_mem_nil, or_false] at member
        rcases member with rfl | rfl
        · exact job_whole.completion
        · exact .some ((whole pod rfl).termination found)
      dsimp only
      split <;> exact ⟨observed.1, completion⟩

theorem whole_observeJobStatus (observed : observation.WholeTimes) (job_whole : job.WholeTimes) {pod : Option Pod}
    (whole : ∀ p, pod = some p → p.WholeTimes) : (observeJobStatus ext job pod observation).WholeTimes := by
  unfold observeJobStatus
  split
  · next condition found =>
    refine ⟨observed.1, whole_firstTime fun value member => ?_⟩
    simp only [List.mem_cons, List.not_mem_nil, or_false] at member
    rcases member with rfl | rfl
    · exact job_whole.completion
    · rcases Option.or_eq_some_iff.mp found with failed | ⟨-, target⟩
      · exact .some (job_whole.condition failed)
      · exact .some (job_whole.condition target)
  · split
    · exact ⟨observed.1, job_whole.jobCompletionTime⟩
    · split
      · exact whole_observeCompletion observed job_whole whole
      · split
        · split <;> exact observed
        · exact whole_observeNonTerminalPod observed (whole _ rfl)

theorem mem_of_selectLifecyclePod {pods : List Pod} (selected : selectLifecyclePod job pods = some pod) : pod ∈ pods := by
  have member := List.mem_of_getLast? selected
  exact List.mem_of_mem_filter ((List.perm_insertionSort _ _).mem_iff.mp member)

/-- What is observed of whole times has whole times. -/
theorem whole_observeLifecycle (job_whole : job.WholeTimes) {pods : List Pod} (whole : ∀ p ∈ pods, p.WholeTimes) :
    (observeLifecycle ext job pods).WholeTimes := by
  have selected : ∀ p, selectLifecyclePod job pods = some p → p.WholeTimes :=
    fun p found => whole p (mem_of_selectLifecyclePod found)
  have initial : (initialObservation job (selectLifecyclePod job pods)).WholeTimes := by
    refine ⟨job_whole.start.or fun time found => ?_, .none⟩
    obtain ⟨p, listed, start⟩ := Option.bind_eq_some_iff.mp found
    exact (selected p listed).start time start
  unfold observeLifecycle
  dsimp only
  split
  · next p observation chosen failed =>
    rw [chosen, Option.bind_some] at failed
    obtain ⟨⟨reason, message, category⟩, -, rfl⟩ := Option.map_eq_some_iff.mp failed
    have failure := whole_failedObservation (selected p chosen) reason message category
    exact ⟨failure.1.or initial.1, failure.2.or job_whole.jobCompletionTime⟩
  · exact whole_observeJobStatus initial job_whole selected

end Observation

/-! ## Edits that are only notes -/

/-- The reason of the cleanup condition. -/
def cleanupReason (status : AgentRunStatus) : Option String :=
  (findStatusCondition status.conditions .cleanupPending).map (·.reason)

theorem find_setStatusCondition_other {conditions : List Condition} {new : Condition} {type : ConditionType}
    (other : new.type ≠ type) :
    findStatusCondition (setStatusCondition conditions new) type = findStatusCondition conditions type := by
  induction conditions with
  | nil => simp [setStatusCondition, findStatusCondition, other]
  | cons first rest ih =>
    unfold setStatusCondition
    split
    · next same =>
      have first_other : first.type ≠ type := same ▸ other
      simp [findStatusCondition, other, first_other]
    · simp only [findStatusCondition, List.find?_cons] at ih ⊢
      split
      · rfl
      · exact ih

theorem find_setStatusCondition_self {conditions : List Condition} (new : Condition) :
    (findStatusCondition (setStatusCondition conditions new) new.type).map (·.reason) = some new.reason := by
  induction conditions with
  | nil => simp [setStatusCondition, findStatusCondition]
  | cons first rest ih =>
    unfold setStatusCondition
    split
    · simp [findStatusCondition]
    · next other =>
      have skipped : (first.type == new.type) = false := by simpa using other
      simp only [findStatusCondition, List.find?_cons, skipped] at ih ⊢
      exact ih

/-- An edit that leaves type and reason of every condition leaves the cleanup reason. -/
theorem cleanupReason_map {conditions : List Condition} {edit : Condition → Condition}
    (type : ∀ c, (edit c).type = c.type) (reason : ∀ c, (edit c).reason = c.reason) :
    (findStatusCondition (conditions.map edit) .cleanupPending).map (·.reason) =
      (findStatusCondition conditions .cleanupPending).map (·.reason) := by
  have same : ((·.type == .cleanupPending) ∘ edit : Condition → Bool) = (·.type == .cleanupPending) := by
    funext c
    simp [type c]
  simp only [findStatusCondition, List.find?_map, same, Option.map_map]
  congr 1
  funext c
  exact reason c

@[simp]
theorem cleanupReason_stored (status : AgentRunStatus) : cleanupReason status.stored = cleanupReason status :=
  cleanupReason_map (fun _ => rfl) fun _ => rfl

/-- The two runs differ in their conditions and the observed generation only, and not in the cleanup reason. -/
structure Annotated (run run' : AgentRun) : Prop where
  edit : ∃ conditions observedGeneration, run' = run.withStatus { run.status with conditions, observedGeneration }
  cleanup : cleanupReason run'.status = cleanupReason run.status

theorem Annotated.refl (run : AgentRun) : Annotated run run := ⟨⟨_, _, rfl⟩, rfl⟩

theorem Annotated.trans {run run' run'' : AgentRun} (first : Annotated run run') (second : Annotated run' run'') :
    Annotated run run'' := by
  obtain ⟨⟨_, _, rfl⟩, kept⟩ := first
  obtain ⟨⟨_, _, rfl⟩, kept'⟩ := second
  exact ⟨⟨_, _, rfl⟩, kept'.trans kept⟩

/-! ## Drafts -/

/-- The record of the current attempt is a copy of the top-level status, but for Pod and times. -/
def Mirrored (run : AgentRun) : Prop :=
  ∃ entry ∈ run.status.attempts, entry.attempt = run.status.attempt ∧ entry.phase = run.status.phase ∧
    entry.failureCategory = run.status.failureCategory ∧ entry.failureReason = run.status.failureReason ∧
    entry.jobName = run.status.jobName ∧ entry.artifactManifestRef = run.status.artifactManifestRef

/-- A run in memory that works on the current attempt of the run that was read. -/
structure Draft (before run : AgentRun) : Prop where
  metadata : run.metadata = before.metadata
  spec : run.spec = before.spec
  attempt : run.status.attempt = currentAttempt before
  jobName : run.status.jobName = "" ∨ run.status.jobName = currentJobName before
  ordered : Ordered run.status.attempts
  others : ∀ entry : AttemptStatus, entry.attempt ≠ currentAttempt before →
    (entry ∈ run.status.attempts ↔ entry ∈ before.status.attempts)
  settles : ∀ entry ∈ run.status.attempts, entry.phase ≠ some .cancelled → entry.Settles
  timed : run.status.phase ≠ some .cancelled → Settling run.status.startTime ∧ Settling run.status.completionTime
  cleanup : cleanupReason run.status = cleanupReason before.status

namespace Draft

variable {before run run' : AgentRun}

theorem currentAttempt (draft : Draft before run) : currentAttempt run = Operator.currentAttempt before := by
  rw [currentAttempt_of_ge] <;> rw [draft.attempt]
  rw [draft.spec]
  exact currentAttempt_ge before

theorem annotated (draft : Draft before run) (note : Annotated run run') : Draft before run' := by
  obtain ⟨⟨_, _, rfl⟩, cleanup⟩ := note
  exact { draft with cleanup := cleanup.trans draft.cleanup }

/-- An edit of the top-level status that keeps to the attempt. -/
theorem edit (draft : Draft before run) {status : AgentRunStatus} (attempt : status.attempt = run.status.attempt)
    (jobName : status.jobName = "" ∨ status.jobName = currentJobName before)
    (attempts : status.attempts = run.status.attempts) (conditions : status.conditions = run.status.conditions)
    (timed : status.phase ≠ some .cancelled → Settling status.startTime ∧ Settling status.completionTime) :
    Draft before (run.withStatus status) where
  metadata := draft.metadata
  spec := draft.spec
  attempt := attempt.trans draft.attempt
  jobName := jobName
  ordered := by
    change Ordered status.attempts
    rw [attempts]
    exact draft.ordered
  others := by
    change ∀ entry : AttemptStatus, _ → (entry ∈ status.attempts ↔ _)
    rw [attempts]
    exact draft.others
  settles := by
    change ∀ entry ∈ status.attempts, _
    rw [attempts]
    exact draft.settles
  timed := timed
  cleanup := by
    rw [← draft.cleanup]
    simp only [cleanupReason, AgentRun.withStatus, conditions]

/-- Recording the current attempt keeps to it. -/
theorem record (draft : Draft before run) : Draft before (upsertAttemptStatus run) where
  metadata := draft.metadata
  spec := draft.spec
  attempt := draft.attempt
  jobName := draft.jobName
  ordered := ordered_recorded draft.ordered
  others := by
    intro entry other
    have differs : entry.attempt ≠ (attemptRecord run).attempt := by
      rw [← draft.currentAttempt] at other
      exact other
    rw [upsertAttemptStatus_eq]
    simp only [AgentRun.withStatus, mem_recorded draft.ordered]
    rw [draft.others entry other]
    refine ⟨fun h => h.resolve_left (fun same => differs (congrArg _ same)) |>.1, fun h => .inr ⟨h, differs⟩⟩
  settles := by
    intro entry member phase
    rw [upsertAttemptStatus_eq] at member
    rcases (mem_recorded draft.ordered).mp member with rfl | ⟨member, -⟩
    · exact draft.timed phase
    · exact draft.settles entry member phase
  timed := draft.timed
  cleanup := draft.cleanup

/-- A recorded attempt is mirrored. -/
theorem mirrored (draft : Draft before run) : Mirrored (upsertAttemptStatus run) := by
  refine ⟨attemptRecord run, ?_, ?_, rfl, rfl, rfl, rfl, rfl⟩
  · rw [upsertAttemptStatus_eq]
    exact (mem_recorded draft.ordered).mpr (.inl rfl)
  · exact draft.currentAttempt.trans draft.attempt.symm

end Draft

end AgentForge.Operator
