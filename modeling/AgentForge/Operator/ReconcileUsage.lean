import AgentForge.Operator.CallRules

/-!
# A whole reconcile keeps to its usage

The cleanup of a deleted run, the terminal branch with its retry, and the branches of a valid run. Together they give
`controller_usage`: whatever the server answers, every call of a reconcile is one of `Calls`.
-/

set_option autoImplicit false

namespace AgentForge.Operator

open Lib

/-! ## Writing the status -/

section Writing

variable {r : Reconciler} {tidy : Prop} {before : AgentRun}

theorem finish_usage (reason : String) (outcome : Outcome) :
    (statusUsage r tidy).Triple (fun log => ReadIn log before ∧ Writes r tidy log before outcome.run.status)
      (finish before reason outcome) fun _ _ => True := by
  have patch : (statusUsage r tidy).Triple (fun log => ReadIn log before ∧ Writes r tidy log before outcome.run.status)
      (patchStatusIfChanged before outcome.run) fun _ _ => True := by
    unfold patchStatusIfChanged
    split
    · exact Usage.Triple.pure fun _ _ => trivial
    · refine Usage.Triple.bind (Q := fun _ _ => True)
        (Usage.Triple.perform (fun log h => ⟨before, h.1, rfl, h.2⟩) fun _ _ _ _ => trivial) fun res => ?_
      split <;> exact Usage.Triple.pure fun _ _ => trivial
  refine patch.bind fun res => ?_
  split <;> exact Usage.Triple.pure fun _ _ => trivial

theorem Annotated.writes {run : AgentRun} (noted : Annotated before run) (log : Log) :
    Writes r tidy log before run.status := by
  obtain ⟨⟨_, _, rfl⟩, cleanup⟩ := noted
  exact ⟨fun _ => .noted _ _, .inl cleanup⟩

theorem RecordedAs.cleanupReason {edited run : AgentRun} (recorded : RecordedAs edited run) :
    Operator.cleanupReason run.status = Operator.cleanupReason edited.status := by
  obtain ⟨mid, noted, rfl⟩ := recorded
  exact noted.cleanup

theorem Finished.writes {outcome : Outcome} {log : Log} (finished : Finished r tidy before outcome log)
    (started : before.status.terminal = false) : Writes r tidy log before outcome.run.status :=
  ⟨fun _ => .worked started finished.draft finished.concluded, .inl finished.draft.cleanup⟩

theorem retryAllowed_current {run : AgentRun} (allowed : retryAllowed run = true) :
    run.status.attempt = currentAttempt run := by
  simp only [retryAllowed, Bool.and_eq_true, beq_iff_eq] at allowed
  exact allowed.1.1.2

end Writing

/-! ## Cleanup -/

section Cleaning

variable {r : Reconciler} {tidy : Prop} {before : AgentRun}

/-- The run in memory differs from the deleted run that was read in conditions and observed generation only. -/
structure Cleaning (before run : AgentRun) (log : Log) : Prop where
  read : Opened true log before
  deleting : before.metadata.deleting = true
  edit : ∃ conditions observedGeneration, run = before.withStatus { before.status with conditions, observedGeneration }

theorem Cleaning.lasting (before run : AgentRun) : Usage.Lasting (Cleaning before run) :=
  fun _ e h => { h with read := h.read.cons e }

/-- Setting a condition leaves the rest, and gives the cleanup condition its reason. -/
theorem returns_condition (run : AgentRun) (type : ConditionType) (status : ConditionStatus) (reason message : String) :
    (statusUsage r tidy).Returns (setCondition run type status reason message) fun run' =>
      (∃ conditions, run' = run.withStatus { run.status with conditions }) ∧
        (type = .cleanupPending → cleanupReason run'.status = some reason) := by
  refine returns_now.bind fun time _ => .pure ⟨⟨_, rfl⟩, ?_⟩
  rintro rfl
  exact find_setStatusCondition_self { type := .cleanupPending, .. }

theorem setCondition_cleaning (run : AgentRun) (type : ConditionType) (status : ConditionStatus) (reason message : String)
    {P : Log → Prop} (lasting : Usage.Lasting P) :
    (statusUsage r tidy).Triple (fun log => Cleaning before run log ∧ P log) (setCondition run type status reason message)
      fun run' log => Cleaning before run' log ∧ P log ∧
        (type = .cleanupPending → cleanupReason run'.status = some reason) := by
  have kept : Usage.Lasting fun log => Cleaning before run log ∧ P log :=
    fun log e h => ⟨Cleaning.lasting before run log e h.1, lasting log e h.2⟩
  refine (returns_condition run type status reason message _ kept).consequence (fun _ => id) fun run' log h => ?_
  obtain ⟨⟨⟨read, deleting, conditions, generation, rfl⟩, held⟩, ⟨conditions', rfl⟩, set⟩ := h
  exact ⟨⟨read, deleting, _, _, rfl⟩, held, set⟩

theorem initializeDeletingStatus_usage (deleting : before.metadata.deleting = true) :
    (statusUsage r tidy).Triple (Opened true · before) (initializeDeletingStatus before) (Cleaning before) := by
  have always : Usage.Lasting fun _ : Log => True := fun _ _ => id
  refine Usage.Triple.bind ((setCondition_cleaning _ .ready _ _ _ always).consequence
    (fun log read => ⟨⟨read, deleting, _, _, rfl⟩, trivial⟩) fun _ _ => id) fun run => ?_
  split
  · exact (setCondition_cleaning run .cleanupPending _ _ _ always).consequence (fun _ h => ⟨h.1, trivial⟩)
      fun _ _ h => h.1
  · exact Usage.Triple.pure fun _ h => h.1

/-- How a cleanup ends. Nothing is complete before its workspaces are released, unless the deadline has elapsed. -/
structure CleanupEnd (before : AgentRun) (cleanup : Cleanup) (log : Log) : Prop where
  cleaning : Cleaning before cleanup.run log
  escalated : cleanupReason cleanup.run.status = some "CleanupEscalated" → DeadlineElapsed log before
  complete : cleanup.complete = true → before.spec.workspace.retentionPolicy = .retain →
    cleanupReason cleanup.run.status = some "CleanupEscalated" ∨
      ∀ k, before.spec.attempt ≤ k → k ≤ currentAttempt before → ReleasedIn log (namesOf before.spec.runID k).workspace

theorem cleanupDeadlineElapsed_usage (run : AgentRun) :
    (statusUsage r tidy).Triple (Cleaning before run) (cleanupDeadlineElapsed run) fun elapsed log =>
      Cleaning before run log ∧ (elapsed = true → DeadlineElapsed log before) := by
  unfold cleanupDeadlineElapsed
  split
  · exact Usage.Triple.pure fun log h => ⟨h, by simp⟩
  · refine (ask (Cleaning.lasting before run) .now fun _ _ => trivial).bind fun time => Usage.Triple.pure fun log h => ?_
    obtain ⟨cleaning, log₀, rfl, -⟩ := h
    refine ⟨cleaning, fun elapsed => ?_⟩
    obtain ⟨conditions, generation, rfl⟩ := cleaning.edit
    obtain ⟨deleted, stamped⟩ := Option.isSome_iff_exists.mp cleaning.deleting
    refine ⟨deleted, time, stamped, List.mem_cons_self, ?_⟩
    have start : cleanupStartedAt (before.withStatus
        { before.status with conditions := conditions, observedGeneration := generation }) = deleted := by
      simp [cleanupStartedAt, AgentRun.withStatus, stamped]
    simpa [start] using elapsed

theorem handleCleanupFailure_usage (run : AgentRun) {reason : String} (other : reason ≠ "CleanupEscalated")
    (e : ReconcileError) :
    (statusUsage r tidy).Triple (Cleaning before run) (handleCleanupFailure run reason e) (CleanupEnd before) := by
  refine (cleanupDeadlineElapsed_usage run).bind fun elapsed => ?_
  split
  · next late =>
    have lasting : Usage.Lasting fun log : Log => DeadlineElapsed log before := by
      rintro log event ⟨deleted, time, stamped, read, passed⟩
      exact ⟨deleted, time, stamped, List.mem_cons_of_mem _ read, passed⟩
    refine Usage.Triple.bind ((setCondition_cleaning run .cleanupPending _ _ _ lasting).consequence
      (fun log h => ⟨h.1, h.2 late⟩) fun _ _ => id) fun run' => Usage.Triple.pure fun log h => ?_
    exact ⟨h.1, fun _ => h.2.1, fun _ _ => .inl (h.2.2 rfl)⟩
  · refine Usage.Triple.bind ((setCondition_cleaning run .cleanupPending _ _ _ (P := fun _ => True) fun _ _ => id).consequence
      (fun log h => ⟨h.1, trivial⟩) fun _ _ => id) fun run' => Usage.Triple.pure fun log h => ?_
    refine ⟨h.1, fun escalated => ?_, by rintro ⟨⟩⟩
    rw [h.2.2 rfl] at escalated
    exact absurd (Option.some.inj escalated) other

theorem at_mergeMap (existing : StringMap) (key value : String) : (mergeMap existing [(key, value)]).at key = value := by
  have absent : (existing.filter fun entry => ([(key, value)].lookup entry.1).isNone).lookup key = none := by
    rw [List.lookup_eq_none_iff]
    intro entry member
    have dropped := (List.mem_filter.mp member).2
    by_contra same
    have same : key = entry.1 := by simpa using same
    simp [← same] at dropped
  rw [StringMap.at, mergeMap, List.lookup_append, absent]
  simp

/-- The workspace names of the observed attempts. -/
theorem workspaceName_of_ok {run : AgentRun} {attempt : Int} {name : String} (started : run.spec.attempt ≤ attempt)
    (named : workspaceNameForAttempt run attempt = .ok name) : name = (namesOf run.spec.runID attempt).workspace := by
  unfold workspaceNameForAttempt at named
  cases identified : forAgentRun (run.withStatus { run.status with attempt }) with
  | error reason =>
    rw [identified] at named
    cases named
  | ok names =>
    rw [identified] at named
    obtain ⟨-, -, -, -, rfl⟩ := forAgentRun_eq_ok.mp identified
    cases named
    have current : currentAttempt (run.withStatus { run.status with attempt }) = attempt := currentAttempt_of_ge started
    rw [current]
    rfl

/-- The loop over the attempts: those not yet visited are in the list. -/
theorem releaseWorkspaces_usage (run : AgentRun) (attempts : List Int) (started : ∀ k ∈ attempts, before.spec.attempt ≤ k) :
    (statusUsage r tidy).Triple
      (fun log => Cleaning before run log ∧ ∀ k, before.spec.attempt ≤ k → k ≤ currentAttempt before → k ∉ attempts →
        ReleasedIn log (namesOf before.spec.runID k).workspace)
      (releaseWorkspaces run attempts) (CleanupEnd before) := by
  have lasting : ∀ attempts : List Int, Usage.Lasting fun log : Log =>
      Cleaning before run log ∧ ∀ k, before.spec.attempt ≤ k → k ≤ currentAttempt before → k ∉ attempts →
        ReleasedIn log (namesOf before.spec.runID k).workspace :=
    fun attempts log e h =>
      ⟨Cleaning.lasting before run log e h.1, fun k low high visited => (h.2 k low high visited).cons e⟩
  induction attempts with
  | nil =>
    have released : Usage.Lasting fun log : Log => ∀ k, before.spec.attempt ≤ k → k ≤ currentAttempt before →
        ReleasedIn log (namesOf before.spec.runID k).workspace := fun log e h k low high => (h k low high).cons e
    refine Usage.Triple.bind ((setCondition_cleaning run .cleanupPending _ _ _ released).consequence
      (fun log h => ⟨h.1, fun k low high => h.2 k low high List.not_mem_nil⟩) fun _ _ => id)
      fun run' => Usage.Triple.pure fun log h => ?_
    refine ⟨h.1, fun escalated => ?_, fun _ _ => .inr h.2.1⟩
    rw [h.2.2 rfl] at escalated
    simp at escalated
  | cons attempt rest ih =>
    obtain ⟨first, started⟩ := List.forall_mem_cons.mp started
    have visit : ∀ {log : Log}, ReleasedIn log (namesOf before.spec.runID attempt).workspace →
        (∀ k, before.spec.attempt ≤ k → k ≤ currentAttempt before → k ∉ attempt :: rest →
          ReleasedIn log (namesOf before.spec.runID k).workspace) →
        ∀ k, before.spec.attempt ≤ k → k ≤ currentAttempt before → k ∉ rest →
          ReleasedIn log (namesOf before.spec.runID k).workspace := by
      intro log released others k low high visited
      by_cases same : k = attempt
      · exact same ▸ released
      · exact others k low high (by simp [same, visited])
    unfold releaseWorkspaces
    split
    · exact (handleCleanupFailure_usage run (by simp) _).consequence (fun _ h => h.1) fun _ _ => id
    · next name named =>
      have current : ∀ {log : Log}, Cleaning before run log → name = (namesOf before.spec.runID attempt).workspace := by
        intro log cleaning
        obtain ⟨conditions, generation, rfl⟩ := cleaning.edit
        exact workspaceName_of_ok first named
      refine (ask (lasting (attempt :: rest)) (.get .persistentVolumeClaim name) fun _ _ => trivial).bind fun res => ?_
      split
      · refine (ih started).consequence (fun log h => ⟨h.1.1, visit ?_ h.1.2⟩) fun _ _ => id
        obtain ⟨⟨cleaning, -⟩, log₀, rfl, -⟩ := h
        exact .absent (current cleaning ▸ List.mem_cons_self)
      · exact (handleCleanupFailure_usage run (by simp) _).consequence (fun _ h => h.1.1) fun _ _ => id
      · next workspace =>
        split
        · exact (handleCleanupFailure_usage run (by simp) _).consequence (fun _ h => h.1.1) fun _ _ => id
        · next owned =>
          dsimp only
          split
          · next released =>
            refine (ih started).consequence (fun log h => ⟨h.1.1, visit ?_ h.1.2⟩) fun _ _ => id
            obtain ⟨⟨cleaning, -⟩, log₀, rfl, -⟩ := h
            rw [← current cleaning]
            exact .marked List.mem_cons_self released
          · have found : Usage.Lasting fun log : Log =>
                (Cleaning before run log ∧ ∀ k, before.spec.attempt ≤ k → k ≤ currentAttempt before → k ∉ attempt :: rest →
                  ReleasedIn log (namesOf before.spec.runID k).workspace) ∧
                  (⟨.get .persistentVolumeClaim name, .ok workspace⟩ : Event Op Op.Res) ∈ log :=
              fun log e h => ⟨lasting (attempt :: rest) log e h.1, List.mem_cons_of_mem _ h.2⟩
            refine Usage.Triple.bind ((ask found (.patchWorkspace workspace.metadata.resourceVersion name
              (mergeMap workspace.metadata.annotations [(retentionStateAnnotationKey, "Released")])) fun log h => ?_).consequence
              (fun log h => ?_) fun _ _ => id) fun res => ?_
            · obtain ⟨⟨cleaning, -⟩, read⟩ := h
              obtain ⟨conditions, generation, rfl⟩ := cleaning.edit
              exact ⟨before, workspace, cleaning.read.read, read, rfl, owned, rfl⟩
            · obtain ⟨held, log₀, rfl, -⟩ := h
              exact ⟨held, List.mem_cons_self⟩
            · split
              · exact (handleCleanupFailure_usage run (by simp) _).consequence (fun _ h => h.1.1.1) fun _ _ => id
              · refine (ih started).consequence (fun log h => ⟨h.1.1.1, visit ?_ h.1.1.2⟩) fun _ _ => id
                obtain ⟨⟨⟨cleaning, -⟩, -⟩, log₀, rfl, -⟩ := h
                rw [← current cleaning]
                exact .patched List.mem_cons_self (at_mergeMap _ _ _)

theorem mem_observedAttempts {run : AgentRun} {k : Int} :
    k ∈ observedAttempts run ↔ run.spec.attempt ≤ k ∧ k ≤ currentAttempt run := by
  have started := currentAttempt_ge run
  have member : k ∈ observedAttempts run ↔
      ∃ offset : Nat, (offset : Int) ≤ currentAttempt run - run.spec.attempt ∧ run.spec.attempt + offset = k := by
    simp [observedAttempts]
  rw [member]
  refine ⟨?_, fun h => ⟨(k - run.spec.attempt).toNat, by omega, by omega⟩⟩
  rintro ⟨offset, bound, rfl⟩
  omega

theorem reconcileCleanup_usage (deleting : before.metadata.deleting = true) :
    (statusUsage r tidy).Triple (Opened true · before) (reconcileCleanup before) (CleanupEnd before) := by
  refine (initializeDeletingStatus_usage deleting).bind fun run log cleaning => ?_
  obtain ⟨conditions, generation, rfl⟩ := cleaning.edit
  split
  · next other =>
    refine Usage.Triple.bind (setCondition_cleaning _ .cleanupPending _ _ _ (P := fun _ => True) fun _ _ => id)
      (fun run' => Usage.Triple.pure fun log h => ?_) log ⟨cleaning, trivial⟩
    refine ⟨h.1, fun escalated => ?_, fun _ retained => absurd retained other⟩
    rw [h.2.2 rfl] at escalated
    simp at escalated
  · exact releaseWorkspaces_usage _ _ (fun k member => (mem_observedAttempts.mp member).1) log
      ⟨cleaning, fun k low high outside => absurd (mem_observedAttempts.mpr ⟨low, high⟩) outside⟩

/-- The status of a cleanup may be written. -/
theorem CleanupEnd.writes {cleanup : Cleanup} {log : Log} (ended : CleanupEnd before cleanup log) :
    Writes r tidy log before cleanup.run.status := by
  refine ⟨fun _ => ?_, .inr ⟨ended.cleaning.deleting, ended.escalated⟩⟩
  obtain ⟨conditions, generation, same⟩ := ended.cleaning.edit
  rw [same]
  exact .noted conditions generation

/-- After its status is written the run in memory is one that was read. -/
theorem patchCleanup_usage (cleanup : Cleanup) :
    (statusUsage r tidy).Triple (CleanupEnd before cleanup) (patchStatusIfChanged before cleanup.run) fun res log =>
      ∀ changed run, res = .ok (changed, run) → Opened true log run ∧ run.metadata.deleting = true ∧
        (cleanup.complete = true → run.spec.workspace.retentionPolicy = .retain →
          cleanupReason run.status = some "CleanupEscalated" ∨
            ∀ k, run.spec.attempt ≤ k → k ≤ currentAttempt run → ReleasedIn log (namesOf run.spec.runID k).workspace) := by
  unfold patchStatusIfChanged
  split
  · next same =>
    refine Usage.Triple.pure fun log ended => ?_
    rintro changed run ⟨⟩
    obtain ⟨read, deleting, conditions, generation, edited⟩ := ended.cleaning
    have unchanged : cleanup.run = before := calc
      cleanup.run = before.withStatus cleanup.run.status := by rw [edited]; rfl
      _ = before.withStatus before.status := by rw [← same]
    have ended := ended.complete
    rw [unchanged] at ended ⊢
    exact ⟨read, deleting, ended⟩
  · have lasting : Usage.Lasting (CleanupEnd before cleanup) := by
      intro log e ended
      refine ⟨Cleaning.lasting before _ log e ended.cleaning, fun escalated => ?_, fun complete retained => ?_⟩
      · obtain ⟨deleted, time, stamped, read, passed⟩ := ended.escalated escalated
        exact ⟨deleted, time, stamped, List.mem_cons_of_mem _ read, passed⟩
      · exact (ended.complete complete retained).imp id fun released k low high => (released k low high).cons e
    refine (ask lasting (.patchRunStatus before.metadata.resourceVersion cleanup.run.status) fun log ended =>
      ⟨before, ended.cleaning.read.read, rfl, ended.writes⟩).bind fun res => ?_
    split
    · next stored =>
      refine Usage.Triple.pure fun log h => ?_
      rintro changed run ⟨⟩
      obtain ⟨ended, log₀, rfl, ended₀, given⟩ := h
      obtain ⟨status, object⟩ := given.patched _ _ stored rfl
      obtain ⟨spec, metadata⟩ := object before ended₀.cleaning.read.read rfl
      obtain ⟨conditions, generation, edited⟩ := ended.cleaning.edit
      have attempt : currentAttempt stored = currentAttempt before := by
        simp only [currentAttempt, status, spec, edited, AgentRunStatus.stored, AgentRun.withStatus]
      refine ⟨⟨.head rfl, ended.cleaning.read.opens⟩, ?_, fun complete retained => ?_⟩
      · rw [metadata]
        exact ended.cleaning.deleting
      · rw [spec] at retained
        rw [status, cleanupReason_stored, spec, attempt]
        exact ended.complete complete retained
    · refine Usage.Triple.pure fun log h => ?_
      rintro changed run ⟨⟩

theorem reconcileDeletion_usage (deleting : before.metadata.deleting = true) :
    (statusUsage r tidy).Triple (Opened true · before) (reconcileDeletion before) fun _ _ => True := by
  unfold reconcileDeletion
  split
  · exact Usage.Triple.pure fun _ _ => trivial
  · refine (reconcileCleanup_usage deleting).bind fun cleanup => (patchCleanup_usage cleanup).bind fun res => ?_
    split
    · exact Usage.Triple.pure fun _ _ => trivial
    · next changed run =>
      split
      · exact Usage.Triple.pure fun _ _ => trivial
      · next done =>
        have complete : cleanup.complete = true := by
          simp only [Bool.or_eq_true, Bool.not_eq_true', not_or, Bool.not_eq_false] at done
          exact done.2
        have lasting : Usage.Lasting fun log : Log => Opened true log run ∧ run.metadata.deleting = true ∧
            (run.spec.workspace.retentionPolicy = .retain → cleanupReason run.status = some "CleanupEscalated" ∨
              ∀ k, run.spec.attempt ≤ k → k ≤ currentAttempt run → ReleasedIn log (namesOf run.spec.runID k).workspace) :=
          fun log e h => ⟨h.1.cons e, h.2.1, fun retained =>
            (h.2.2 retained).imp id fun released k low high => (released k low high).cons e⟩
        refine Usage.Triple.bind ((ask lasting (.patchRunFinalizers run.metadata.resourceVersion _) fun log h =>
          ⟨run, h.1.read, rfl, .removes h.1.opens h.2.1 h.2.2⟩).consequence
          (fun log h => ?_) fun _ _ => id) fun res => ?_
        · obtain ⟨read, deleted, ended⟩ := h changed run rfl
          exact ⟨read, deleted, ended complete⟩
        · split
          · exact Usage.Triple.pure fun _ _ => trivial
          · refine Usage.Triple.bind ((returns_condition _ .cleanupPending .true "FinalizerRemovalFailed" _ _
              lasting).consequence (fun _ h => h.1) fun _ _ => id) fun after => ?_
            refine Usage.Triple.bind (Q := fun _ _ => True) ?_ fun _ => Usage.Triple.pure fun _ _ => trivial
            unfold patchStatusIfChanged
            split
            · exact Usage.Triple.pure fun _ _ => trivial
            · refine Usage.Triple.bind (Q := fun _ _ => True) (Usage.Triple.perform (fun log h => ?_) fun _ _ _ _ => trivial)
                fun res => ?_
              · obtain ⟨⟨read, deleted, -⟩, ⟨conditions, rfl⟩, set⟩ := h
                refine ⟨run, read.read, rfl, fun _ => .noted _ _, .inr ⟨deleted, fun escalated => ?_⟩⟩
                rw [set rfl] at escalated
                simp at escalated
              · split <;> exact Usage.Triple.pure fun _ _ => trivial

end Cleaning

/-! ## The branches of a valid run -/

section Valid

variable {r : Reconciler} {tidy : Prop} {before : AgentRun}

theorem AttemptStatus.settles_of_stored {entry : AttemptStatus} (settled : entry.stored = entry) : entry.Settles := by
  have start : storedTime entry.startTime = entry.startTime := congrArg AttemptStatus.startTime settled
  have completion : storedTime entry.completionTime = entry.completionTime := congrArg AttemptStatus.completionTime settled
  exact ⟨congrArg storedTime start, congrArg storedTime completion⟩

/-- The attempt that the initialisation sets is the current one. -/
theorem Persisted.initial_attempt (persisted : Persisted r tidy before) (accepted : Accepted r.ext before) :
    (initializeIdentity before).status.attempt = currentAttempt before := by
  have first := (validateSpec_attempt accepted.2).2.1
  simp only [initializeIdentity, AgentRun.withStatus]
  rcases persisted.attempt with ⟨zero, -⟩ | ⟨started, -⟩
  · rw [if_pos zero, currentAttempt, if_neg (by omega)]
  · rw [if_neg (by omega), currentAttempt_of_ge started]

/-- An initialised run is a draft of the run that was read. -/
theorem Persisted.draft (persisted : Persisted r tidy before) (accepted : Accepted r.ext before) :
    Draft before (initializeIdentity before) where
  metadata := rfl
  spec := rfl
  attempt := persisted.initial_attempt accepted
  jobName := persisted.jobName
  ordered := persisted.ordered
  others := fun _ _ => Iff.rfl
  settles := fun entry member phase => AttemptStatus.settles_of_stored (persisted.settled entry member phase)
  timed := by
    intro phase
    refine persisted.timed fun cancelled => phase ?_
    simp [initializeIdentity, AgentRun.withStatus, cancelled]
  cleanup := rfl

/-- A run whose current attempt has not ended is not terminal. -/
theorem Persisted.started (persisted : Persisted r tidy before) (open_ : currentAttemptTerminal before = false) :
    before.status.terminal = false := by
  rcases persisted.attempt with ⟨-, phase, -⟩ | ⟨started, -⟩
  · simp [AgentRunStatus.terminal, phase]
  · simpa [currentAttemptTerminal, currentAttempt_of_ge started] using open_

theorem Persisted.begun (persisted : Persisted r tidy before) (accepted : Accepted r.ext before)
    (started : before.status.terminal = false) {log : Log} (read : Opened false log before) :
    Begun before before.status.jobName (initializeIdentity before) log :=
  ⟨read, persisted.draft accepted, rfl, (initializeIdentity_terminal before).trans started⟩

theorem Begun.acceptedStart {log : Log} {known : String} (begun : Begun before known (initializeIdentity before) log) :
    Begun before known (acceptedStart before) log :=
  ⟨begun.read, begun.draft.edit rfl begun.draft.jobName rfl rfl begun.draft.timed, begun.named, begun.ongoing⟩

theorem lasting_opened (deleting : Bool) (run : AgentRun) : Usage.Lasting (Opened deleting · run) := fun _ e h => h.cons e

theorem reconcileTerminal_usage :
    (statusUsage r tidy).Triple (Opened false · before) (reconcileTerminal r before) fun _ _ => True := by
  unfold reconcileTerminal
  split
  · next retry =>
    simp only [Bool.and_eq_true, decide_eq_true_eq] at retry
    obtain ⟨running, allowed⟩ := retry
    refine (returns_reconcileRetry r.ext before _ (lasting_opened false before)).bind fun a => ?_
    refine (finish_usage _ _).consequence (fun log h => ⟨h.1.read, ?_⟩) fun _ _ => id
    rcases h.2 with noted | recorded
    · exact noted.writes log
    · refine ⟨fun _ => ?_, .inl recorded.cleanupReason⟩
      obtain ⟨mid, noted, same⟩ := recorded
      dsimp only
      rw [same]
      exact .advanced running (.inl rfl) (.found (retryAllowed_current allowed) (retryAllowed_phase allowed)) allowed noted
  · refine (returns_setCondition _ (by decide) _ _ _ _ (lasting_opened false before)).bind fun run => ?_
    refine (finish_usage _ _).consequence (fun log h => ⟨h.1.read, (Annotated.trans ?_ h.2).writes log⟩) fun _ _ => id
    exact ⟨⟨_, _, rfl⟩, cleanupReason_map (fun _ => rfl) fun _ => rfl⟩

/-- A draft that may be retried has failed in this reconcile. -/
theorem Concluded.retry {log : Log} {run : AgentRun} {error : Option ReconcileError}
    (concluded : Concluded r tidy log before run error) (quiet : error.isNone = true) (allowed : retryAllowed run = true) :
    Mirrored run ∧ FailedIn r log before run.status.failureCategory run.status.failureReason := by
  have failed := retryAllowed_phase allowed
  cases concluded with
  | ongoing ongoing =>
    rw [terminal_of_failed failed] at ongoing
    cases ongoing
  | projected mirrored cause => exact ⟨mirrored, cause failed⟩
  | refused _ reported =>
    rw [Option.isNone_iff_eq_none.mp quiet] at reported
    cases reported

/-- Noting conditions does not change how the work on an attempt has ended. -/
theorem Concluded.annotated {log : Log} {run run' : AgentRun} {error : Option ReconcileError}
    (concluded : Concluded r tidy log before run error) (noted : Annotated run run') :
    Concluded r tidy log before run' error := by
  obtain ⟨⟨_, _, rfl⟩, -⟩ := noted
  cases concluded with
  | ongoing ongoing => exact .ongoing ongoing
  | projected mirrored cause => exact .projected mirrored cause
  | refused failed reported untidy final => exact .refused failed reported untidy final

theorem Finished.lasting (outcome : Outcome) : Usage.Lasting (Finished r tidy before outcome) := by
  intro log e finished
  refine ⟨finished.read.cons e, finished.draft, ?_⟩
  cases finished.concluded with
  | ongoing ongoing => exact .ongoing ongoing
  | projected mirrored cause => exact .projected mirrored fun failed => (cause failed).cons e
  | refused failed reported untidy final => exact .refused failed reported untidy final

theorem reconcileValid_usage (accepted : Accepted r.ext before) (persisted : Persisted r tidy before)
    (buildable : tidy → Buildable r before) :
    (statusUsage r tidy).Triple (Opened false · before) (reconcileValid r before) fun _ _ => True := by
  unfold reconcileValid
  split
  · exact reconcileTerminal_usage
  · next open_ =>
    have started := persisted.started (by simpa using open_)
    split
    · refine Usage.Triple.bind ((returns_initializeCancellationStatus before _ (Begun.lasting before _ _)).consequence
        (fun log read => persisted.begun accepted started read) fun _ _ => id) fun run => ?_
      refine Usage.Triple.bind ((reconcileCancellation_usage run).consequence (fun log h => h.1.annotated h.2)
        fun _ _ => id) fun outcome => ?_
      exact (finish_usage _ outcome).consequence (fun log h => ⟨h.read.read, h.writes started⟩) fun _ _ => id
    · next running =>
      have running : before.spec.desiredState = .running := by
        cases state : before.spec.desiredState with
        | running => rfl
        | cancelled => exact absurd state running
      refine Usage.Triple.bind ((returns_initializeAcceptedStatus before _ (Begun.lasting before _ _)).consequence
        (fun log read => (persisted.begun accepted started read).acceptedStart) fun _ _ => id) fun run => ?_
      refine Usage.Triple.bind ((reconcilePrerequisites_usage run accepted buildable).consequence
        (fun log h => h.1.annotated h.2) fun _ _ => id) fun outcome => ?_
      split
      · next retry =>
        simp only [Bool.and_eq_true] at retry
        refine (returns_reconcileRetry r.ext outcome.run _ (Finished.lasting outcome)).bind fun a => ?_
        refine (finish_usage _ _).consequence (fun log h => ⟨h.1.read.read, ?_⟩) fun _ _ => id
        obtain ⟨finished, noted | recorded⟩ := h
        · exact ⟨fun _ => .worked started (finished.draft.annotated noted) (finished.concluded.annotated noted),
            .inl (noted.cleanup.trans finished.draft.cleanup)⟩
        · obtain ⟨mirrored, failed⟩ := finished.concluded.retry retry.1 retry.2
          refine ⟨fun _ => ?_, .inl (recorded.cleanupReason.trans finished.draft.cleanup)⟩
          obtain ⟨mid, noted, same⟩ := recorded
          dsimp only
          rw [same]
          exact .advanced running (.inr ⟨started, finished.draft, mirrored⟩) failed retry.2 noted
      · exact (finish_usage _ outcome).consequence (fun log h => ⟨h.read.read, h.writes started⟩) fun _ _ => id

/-- The current attempt of a persisted run is within the limits of the child names. -/
theorem Persisted.validateAgentRun (persisted : Persisted r tidy before) (accepted : Accepted r.ext before)
    (ceiling : before.spec.retryPolicy.maxAttempts ≤ 10) : validateAgentRun r.ext before = .ok () := by
  refine accepted.validateAgentRun ceiling ?_
  rcases persisted.attempt with ⟨zero, -⟩ | ⟨started, within⟩
  · have first := (validateSpec_attempt accepted.2).2.1
    exact .inl (if_neg (by omega))
  · exact .inr (by rwa [currentAttempt_of_ge started])

/-- A run that fails validation is not accepted, so its writes need no justification. -/
theorem invalid_usage (rejected : ¬ Accepted r.ext before) :
    (statusUsage r tidy).Triple (Opened false · before)
      (do
        let invalid ← initializeInvalidStatus before
        finish before "InvalidSpecStatusWriteFailed" { run := invalid, error := some ⟨.permanent, "InvalidSpec"⟩ })
      fun _ _ => True := by
  refine (returns_setConditions _ (by decide) _ (lasting_opened false before)).bind fun invalid => ?_
  exact (finish_usage _ _).consequence (fun log h =>
    ⟨h.1.read, fun accepted => absurd accepted rejected, .inl h.2.cleanup⟩)
    fun _ _ => id

/-- A run that was answered is read, and carries what its answer promises. -/
structure Supplied (r : Reconciler) (tidy : Prop) (deleting : Bool) (run : AgentRun) (log : Log) : Prop where
  read : Opened deleting log run
  ceiling : run.spec.retryPolicy.maxAttempts ≤ 10
  persisted : Accepted r.ext run → Persisted r tidy run
  buildable : tidy → Buildable r run

theorem Given.supplied {log : Log} {op : Op} {res : op.Res} (given : Given r tidy log op res) {run : AgentRun}
    {deleting : Bool} (carried : op.answeredRun res = some run) (opens : OpensWith (⟨op, res⟩ :: log) deleting) :
    Supplied r tidy deleting run (⟨op, res⟩ :: log) :=
  ⟨⟨.head carried, opens⟩, given.ceiling run carried, given.persisted run carried, fun orderly => given.buildable orderly run carried⟩

/-- The finalizer is added before the first child is created. -/
theorem addFinalizer_usage (accepted : Accepted r.ext before) (present : before.metadata.deleting = false) :
    (statusUsage r tidy).Triple (Opened false · before)
      (call (.patchRunFinalizers before.metadata.resourceVersion
        (before.metadata.finalizers ++ [retainedResourcesFinalizer]))) fun res log =>
      ∀ run, res = .ok run → Accepted r.ext run ∧ Supplied r tidy false run log := by
  refine (ask (lasting_opened false before) (.patchRunFinalizers _ _) fun log read =>
    ⟨before, read.read, rfl, .adds present⟩).consequence (fun _ => id) fun res log h => ?_
  rintro run rfl
  obtain ⟨-, log₀, rfl, read, given⟩ := h
  obtain ⟨spec, metadata⟩ := given.finalized _ _ run rfl before read.read rfl
  refine ⟨?_, given.supplied rfl (read.opens.cons _)⟩
  unfold Accepted
  rw [spec, metadata]
  exact accepted

theorem reconcile_usage : (statusUsage r tidy).Triple (· = []) (reconcile r) fun _ _ => True := by
  have fetch : (statusUsage r tidy).Triple (· = []) (call .getRun) fun res log =>
      ∀ run, res = .ok run → Supplied r tidy run.metadata.deleting run log := by
    refine Usage.Triple.perform (fun _ _ => trivial) ?_
    rintro log res rfl given run rfl
    exact given.supplied rfl ⟨run, rfl, rfl⟩
  refine fetch.bind fun res => ?_
  split
  · exact Usage.Triple.pure fun _ _ => trivial
  · exact Usage.Triple.pure fun _ _ => trivial
  · next run =>
    intro log fetched
    obtain ⟨read, ceiling, persisted, buildable⟩ := fetched run rfl
    split
    · next deleting =>
      rw [deleting] at read
      exact reconcileDeletion_usage deleting log read
    · next present =>
      have present : run.metadata.deleting = false := by simpa using present
      rw [present] at read
      split
      · next reason rejected =>
        refine invalid_usage (fun accepted => ?_) log read
        rw [(persisted accepted).validateAgentRun accepted ceiling] at rejected
        cases rejected
      · next valid =>
        have accepted := (accepted_of_validateAgentRun valid).1
        split
        · refine Usage.Triple.bind (addFinalizer_usage accepted present) (fun res => ?_) log read
          split
          · exact Usage.Triple.pure fun _ _ => trivial
          · next run' =>
            intro log answered
            obtain ⟨accepted', read', -, persisted', buildable'⟩ := answered run' rfl
            exact reconcileValid_usage accepted' (persisted' accepted') buildable' log read'
        · exact reconcileValid_usage accepted (persisted accepted) buildable log read

/-- Every call of an activation is one of `Calls`. -/
theorem controller_usage (r : Reconciler) (tidy : Prop) : (statusUsage r tidy).wp (controller r) (fun _ _ => True) [] :=
  reconcile_usage.bind (fun _ => Usage.Triple.pure fun _ _ => trivial) [] rfl

end Valid

end AgentForge.Operator
