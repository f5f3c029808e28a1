import AgentForge.Operator.JobSafety

/-!
# The laws about Jobs

What the contract of the reconcile loop says about whole runs, from a newly created AgentRun on:
whether a terminal phase of a cancelled run means that its Job is over, whether two attempts can have
live Jobs at once, and whether a Job can be created twice. Each law fails in some run of the
controller; the theorem beside it says under which behaviour of the environment it holds.
-/

set_option autoImplicit false

namespace AgentForge.Operator

open Lib

/-! ## Runs of the controller -/

/-- A newly created AgentRun that the resource definition admits: nothing is recorded, and no Job has
one of its names. -/
structure Initial (w : World) : Prop where
  status : w.run.status = {}
  version : w.run.metadata.resourceVersion ≤ w.counter
  scheduled : 1 ≤ w.run.spec.attempt
  ceiling : w.run.spec.retryPolicy.maxAttempts ≤ 10
  jobless : ∀ attempt, w.job (jobNameOf w.run attempt) = none

theorem Initial.inv {w : World} (initial : Initial w) (mode : Mode) (r : Reconciler) : Inv mode r w := by
  have scheduled := initial.scheduled
  have attempt : w.run.status.attempt = 0 := by rw [initial.status]
  have current : currentAttempt w.run = w.run.spec.attempt := if_neg (by omega)
  refine ⟨initial.version, initial.ceiling, .inl current, .inl ⟨attempt, by rw [initial.status]⟩,
    .inl (by rw [initial.status]), fun retried => by omega, fun _ k live => ?_, fun _ at_phase => ?_⟩
  · rw [World.not_live_of_absent (initial.jobless k)] at live
    cases live
  · rw [initial.status] at at_phase
    cases at_phase

/-- The configurations that the controller reaches from a world under the assumptions of a mode. -/
abbrev Reachable (mode : Mode) (r : Reconciler) (w₀ : World) (c : Config apiServer) : Prop :=
  Reaches apiServer (controller r) (jobSafety mode r).ok ⟨w₀, none⟩ c

theorem Reachable.safe {mode : Mode} {r : Reconciler} {w₀ : World} {c : Config apiServer} (initial : Initial w₀)
    (reached : Reachable mode r w₀ c) : Inv mode r c.world ∧ (jobSafety mode r).Safe c :=
  (controller_carries mode r).reaches (initial.inv mode r) (Contract.safe_idle _ w₀) reached

/-- A transition in which the controller creates the Job of this name. -/
structure Creates (r : Reconciler) (c : Config apiServer) (fault : Fault) (d : Config apiServer) (name : String) : Prop where
  stepped : step apiServer (controller r) c (.answer fault) = some d
  absent : c.world.job name = none
  present : d.world.job name ≠ none

/-- What a safe activation that creates a Job keeps. -/
theorem Creates.kept {mode : Mode} {r : Reconciler} {c d : Config apiServer} {fault : Fault} {name : String}
    (creates : Creates r c fault d name) (safe : (jobSafety mode r).Safe c)
    (allowed : mode.orderly → (jobSafety mode r).ok c (.answer fault)) :
    name = currentJobName c.world.run ∧ (mode.guarded → c.world.run.status.jobName = "") := by
  obtain ⟨stepped, absent, present⟩ := creates
  cases task : c.task with
  | none => simp [step, task] at stepped
  | some t =>
    obtain ⟨log, rest⟩ := t
    cases rest with
    | pure _ => simp [step, task] at stepped
    | call op next =>
      have effect := stepped
      simp only [step, task] at effect
      split at effect
      · next answered =>
        cases effect
        obtain ⟨desired, rfl, rfl⟩ := respond_creates answered absent present
        -- an apply is no read, so a cache has no part in it
        obtain ⟨_, kept, -⟩ := safe.answer task
          ⟨fun read => (by cases read), fun o => (allowed o log _ next task).orderly o⟩ stepped
        exact ⟨kept.current desired rfl, fun guarded => kept.once guarded desired rfl absent⟩
      · cases effect

/-! ## A run to test the laws on -/

section Sample

/-- The functions outside this code, as far as the sample run needs them. -/
def sampleExternals : Externals where
  parseURL := fun _ => some ⟨"s3", "tasks", ""⟩
  sha256 := fun _ => 0
  marshalJSON := fun _ => ""
  parseIPPrefix := fun _ => none
  formatIPPrefix := fun _ => ""
  acceptsSelector := fun _ => true
  decodeEvidence := fun _ => .error "unexpected end of JSON input"

def sampleReconciler : Reconciler := ⟨sampleExternals, some newDefaultBuilder⟩

def sampleRunID : String := "019b0000-0000-7000-8000-000000000001"

def sampleSpec (desiredState : DesiredState) : AgentRunSpec where
  tenantID := "019b0000-0000-7000-8000-00000000000a"
  projectID := "019b0000-0000-7000-8000-00000000000b"
  runID := sampleRunID
  attemptID := "019b0000-0000-7000-8000-00000000000c"
  attempt := 1
  runnerImage := "runner@sha256:0123456789abcdef0123456789abcdef0123456789abcdef0123456789abcdef"
  runtime := "python"
  executionProfile := "standard"
  taskRef := "s3://tasks/1"
  timeoutSeconds := 600
  retryPolicy := ⟨3, 5, 300, some [.transientDependency]⟩
  resources := ⟨⟨100, 128⟩, ⟨200, 256⟩⟩
  workspace := ⟨1, "local", .delete⟩
  network := ⟨.isolated, none⟩
  artifactDestinationRef := ⟨"artifacts"⟩
  configurationRefs := none
  secretRefs := none
  deployOnSuccess := false
  desiredState := desiredState

/-- A new run whose artifact destination exists and whose workspace binds when a Pod uses it. -/
def sampleWorld (desiredState : DesiredState) : World where
  run :=
    { metadata := { name := "run-1", ns := "tenant-1", uid := "uid-1", resourceVersion := 1, generation := 1 }
      spec := sampleSpec desiredState }
  runPresent := true
  objects := fun kind name =>
    match kind with
    | .configMap => if name = "artifacts" then some { metadata := { name := "artifacts" } } else none
    | _ => none
  pods := []
  secrets := []
  storageClasses := [("local", ⟨some .waitForFirstConsumer⟩)]
  clock := 64000000000 * second
  counter := 1

theorem sampleWorld_initial (desiredState : DesiredState) : Initial (sampleWorld desiredState) :=
  ⟨rfl, le_refl _, le_refl _, (by decide : (3 : Int) ≤ 10), fun _ => rfl⟩

def sampleJob (attempt : Int) : String := (namesOf sampleRunID attempt).job

/-- A number of calls answered without a fault. -/
def answers (n : Nat) : List (Label apiServer) := List.replicate n (.answer .none)

/-- What the server shows at a call ends the attempt only if its Job has ended. -/
def showsOrder (w : World) (log : List (Event Op Op.Res)) : Op → Bool
  | .getRun =>
    w.run.spec.desiredState ≠ .cancelled || w.run.status.jobName ≠ "" || !w.live (currentJobName w.run)
  | .listPods listed =>
    match log.head? with
    | some ⟨.get .job _, .ok job⟩ =>
      !(observeLifecycle sampleReconciler.ext job (w.podsOf listed)).phase.terminal || job.finished
    | _ => true
  | .get kind name =>
    (w.run.spec.desiredState ≠ .running ||
      (w.job name).all fun job => kind ≠ .job || !job.metadata.deleting || job.finished) &&
    (w.objects kind name).all fun object =>
      name ≠ (namesOf w.run.spec.runID (currentAttempt w.run)).of kind || ownChild w.run kind (kind.metadata object) ||
        !w.live (currentJobName w.run)
  | _ => true

/-- Every call is answered by the server, in order. -/
def inOrder (c : Config apiServer) : Label apiServer → Bool
  | .answer .none =>
    match c.task with
    | some ⟨log, .call op _⟩ => showsOrder c.world log op
    | _ => true
  | .answer _ => false
  | _ => true

theorem inOrder_ok (mode : Mode) (unguarded : ¬ mode.guarded) (c : Config apiServer) (l : Label apiServer)
    (checked : inOrder c l = true) : (jobSafety mode sampleReconciler).ok c l := by
  cases l with
  | start => trivial
  | stop => trivial
  | move m => exact fun guarded => absurd guarded unguarded
  | answer fault =>
    cases fault with
    | none =>
      intro log op next task
      simp only [inOrder, task] at checked
      refine ⟨fun _ => rfl, fun _ => ⟨?_, ?_, ?_, ?_, ?_⟩⟩
      · rintro - rfl cancelled unnamed
        simpa [showsOrder, cancelled, unnamed] using checked
      · rintro listed name job pods rfl last ⟨⟩ terminal
        simpa [showsOrder, last, terminal] using checked
      · rintro running name job rfl present deleting
        simp only [showsOrder, Bool.and_eq_true] at checked
        simpa [running, present, deleting] using checked.1
      · rintro - - e ⟨⟩
      · rintro - kind object rfl shown foreign
        simp only [showsOrder, Bool.and_eq_true] at checked
        simpa [(get_ok rfl shown).2, foreign] using checked.2
    | _ => cases checked

end Sample

/-! ## Cancellation -/

/-- A persisted terminal phase of a cancelled run means that the Job of the current attempt is absent or
finished. -/
def CancelledRunEnded (w : World) : Prop :=
  w.run.spec.desiredState = .cancelled → w.run.status.terminal = true →
    ∀ job, w.job (currentJobName w.run) = some job → job.finished = true

/-- All answers are orderly, those to cancelled runs included. -/
def Mode.cancellation : Mode where
  orderly := True
  strict := True
  guarded := False

theorem cancelledRunEnded_of_reachable (r : Reconciler) {w₀ : World} {c : Config apiServer} (initial : Initial w₀)
    (reached : Reachable .cancellation r w₀ c) : CancelledRunEnded c.world := by
  intro _ terminal job present
  obtain ⟨inv, -⟩ := reached.safe initial
  simp only [AgentRunStatus.terminal] at terminal
  split at terminal
  · next phase at_phase =>
    have ended := inv.run.settled phase at_phase terminal ⟨trivial, fun _ => trivial⟩
    simpa [World.live, present] using ended
  · cases terminal

/-- A cancelled run with a terminal phase. -/
def cancelledTerminal (c : Config apiServer) : Bool :=
  c.world.run.spec.desiredState = .cancelled && c.world.run.status.terminal

/-- A run is cancelled while its Job is recorded. The controller deletes the Job, and completes the cancellation
when the Job is gone. -/
theorem cancelledRunEnded_of_removed_job :
    ∃ c c', Reachable .cancellation sampleReconciler (sampleWorld .running) c ∧
      c.world.live (currentJobName c.world.run) = true ∧ c.world.run.status.jobName = currentJobName c.world.run ∧
      Reaches apiServer (controller sampleReconciler) (jobSafety .cancellation sampleReconciler).ok c c' ∧
      cancelledTerminal c' = true ∧ c'.world.run.status.phase = some .cancelled ∧ CancelledRunEnded c'.world := by
  have executed : (execute apiServer (controller sampleReconciler) inOrder (Label.start :: answers 30)
      ⟨sampleWorld .running, none⟩).any (fun c => c.world.live (currentJobName c.world.run) &&
        c.world.run.status.jobName == currentJobName c.world.run &&
        (execute apiServer (controller sampleReconciler) inOrder
          ([Label.stop, Label.move (S := apiServer) .requestCancellation, Label.start] ++ answers 11 ++
            [Label.move (S := apiServer) (.removeJob (sampleJob 1)), Label.stop, Label.start] ++ answers 9) c).any
          fun c' => cancelledTerminal c' && c'.world.run.status.phase == some .cancelled) = true := by decide +kernel
  obtain ⟨c, reached, holds⟩ := exists_reaches (inOrder_ok .cancellation id) executed
  simp only [Bool.and_eq_true, beq_iff_eq] at holds
  obtain ⟨⟨live, recorded⟩, rest⟩ := holds
  obtain ⟨c', continued, ended⟩ := exists_reaches (inOrder_ok .cancellation id) rest
  simp only [Bool.and_eq_true, beq_iff_eq] at ended
  exact ⟨c, c', reached, live, recorded, continued, ended.1, ended.2,
    cancelledRunEnded_of_reachable _ (sampleWorld_initial _) (reached.trans continued)⟩

/-- Cancellation is requested after the Job was created and before the status that names it is written.
The write conflicts, the next reconcile finds no Job name and completes the cancellation, and the Job
stays. -/
theorem cancelledRunEnded_fails : Initial (sampleWorld .running) ∧
    ∃ c, Reaches apiServer (controller sampleReconciler) (fun _ _ => True) ⟨sampleWorld .running, none⟩ c ∧
      ¬ CancelledRunEnded c.world := by
  have executed : (execute apiServer (controller sampleReconciler) (fun _ _ => true)
      (Label.start :: answers 29 ++ [Label.move (S := apiServer) .requestCancellation] ++ answers 1 ++
        [Label.stop, Label.start] ++ answers 7)
      ⟨sampleWorld .running, none⟩).any
        (fun c => cancelledTerminal c && c.world.live (currentJobName c.world.run)) = true := by decide +kernel
  obtain ⟨c, reached, holds⟩ := exists_reaches_any executed
  simp only [cancelledTerminal, Bool.and_eq_true, decide_eq_true_eq] at holds
  obtain ⟨⟨cancelled, terminal⟩, live⟩ := holds
  refine ⟨sampleWorld_initial _, c, reached, fun ended => ?_⟩
  obtain ⟨job, present, unfinished⟩ := World.live_iff.mp live
  rw [ended cancelled terminal job present] at unfinished
  cases unfinished

/-! ## Retries -/

/-- At this creation of the Job of attempt `n`, the Jobs of all earlier attempts are absent or finished. -/
def EarlierJobsEnded (c : Config apiServer) (n : Int) : Prop :=
  ∀ k < n, ∀ job, c.world.job (jobNameOf c.world.run k) = some job → job.finished = true

/-- Answers are orderly, but for the completion of a cancellation without a recorded Job. -/
def Mode.retries : Mode where
  orderly := True
  strict := False
  guarded := False

theorem earlierJobsEnded_of_creates (r : Reconciler) {w₀ : World} {c d : Config apiServer} {fault : Fault} {n : Int}
    (initial : Initial w₀) (reached : Reachable .retries r w₀ c)
    (allowed : (jobSafety .retries r).ok c (.answer fault))
    (creates : Creates r c fault d (jobNameOf c.world.run n)) : EarlierJobsEnded c n := by
  intro k earlier job present
  obtain ⟨inv, safe⟩ := reached.safe initial
  have current : n = currentAttempt c.world.run := jobNameOf_injective _ (creates.kept safe fun _ => allowed).1
  by_contra unfinished
  have live : c.world.live (jobNameOf c.world.run k) = true :=
    World.live_iff.mpr ⟨job, present, by simpa using unfinished⟩
  have same := (inv.run.only trivial k live).1
  omega

/-- The next answer creates the Job of this attempt. -/
def createsNext (attempt : Int) (c : Config apiServer) : Bool :=
  (c.world.job (jobNameOf c.world.run attempt)).isNone &&
    (step apiServer (controller sampleReconciler) c (.answer .none)).any fun d =>
      (d.world.job (jobNameOf c.world.run attempt)).isSome

theorem createsNext_creates {attempt : Int} {c : Config apiServer} (h : createsNext attempt c = true) :
    ∃ d, Creates sampleReconciler c .none d (jobNameOf c.world.run attempt) := by
  simp only [createsNext, Bool.and_eq_true, Option.isNone_iff_eq_none, Option.any_eq_true] at h
  obtain ⟨absent, d, stepped, present⟩ := h
  exact ⟨d, stepped, absent, Option.isSome_iff_ne_none.mp present⟩

/-- A Pod of the first attempt. -/
def attemptPod : Pod where
  metadata :=
    { name := "pod-1", uid := "pod-1", labels := [(jobNameLabel, sampleJob 1)]
      ownerReferences :=
        [{ apiVersion := "batch/v1", kind := "Job", name := sampleJob 1, uid := "6", controller := true
           blockOwnerDeletion := true }] }

/-- The Pod of the first attempt is evicted, and its Job fails. -/
def eviction : List (Label apiServer) :=
  [.move (.setPods [{ attemptPod with reason := "Evicted" }]),
    .move (.jobStatus (sampleJob 1) { conditions := [{ type := .failed, status := .true }], failed := 1 })]

/-- The clock passes the backoff, and two reconciles begin the second attempt up to the read before its Job. -/
def secondAttempt : List (Label apiServer) :=
  [.stop, .move (.setClock (64000000600 * second)), .start] ++ answers 6 ++ [.stop, .start] ++ answers 19

/-- The second attempt gets its Job when the failed Job of the first is still there. -/
theorem earlierJobsEnded_second_attempt : ∃ c d, Reachable .retries sampleReconciler (sampleWorld .running) c ∧
    Creates sampleReconciler c .none d (jobNameOf c.world.run 2) ∧ (c.world.job (jobNameOf c.world.run 1)).isSome = true ∧
      EarlierJobsEnded c 2 := by
  have executed : (execute apiServer (controller sampleReconciler) inOrder
      (Label.start :: answers 30 ++ [.stop] ++ eviction ++ [.start] ++ answers 25 ++ secondAttempt)
      ⟨sampleWorld .running, none⟩).any (fun c => createsNext 2 c && inOrder c (.answer .none) &&
        (c.world.job (jobNameOf c.world.run 1)).isSome) = true := by decide +kernel
  obtain ⟨c, reached, holds⟩ := exists_reaches (inOrder_ok .retries id) executed
  simp only [Bool.and_eq_true] at holds
  obtain ⟨⟨next, orderly⟩, present⟩ := holds
  obtain ⟨d, creates⟩ := createsNext_creates next
  exact ⟨c, d, reached, creates, present, earlierJobsEnded_of_creates _ (sampleWorld_initial _) reached
    (inOrder_ok .retries id c _ orderly) creates⟩

/-- The runner image cannot be pulled, which fails the first attempt and leaves its Job as it is. After
the backoff the second attempt gets its Job while the first Job may still start its Pod. -/
theorem earlierJobsEnded_fails : Initial (sampleWorld .running) ∧
    ∃ c d, Reaches apiServer (controller sampleReconciler) (fun _ _ => True) ⟨sampleWorld .running, none⟩ c ∧
      Creates sampleReconciler c .none d (jobNameOf c.world.run 2) ∧ ¬ EarlierJobsEnded c 2 := by
  have executed : (execute apiServer (controller sampleReconciler) (fun _ _ => true)
      (Label.start :: answers 27 ++ [Label.move (S := apiServer) (.setPods
        [{ attemptPod with containerStatuses := [{ name := "runner", waiting := some "ImagePullBackOff" }] }])] ++
        answers 7 ++ secondAttempt)
      ⟨sampleWorld .running, none⟩).any
        (fun c => createsNext 2 c && c.world.live (jobNameOf c.world.run 1)) = true := by decide +kernel
  obtain ⟨c, reached, holds⟩ := exists_reaches_any executed
  obtain ⟨next, live⟩ := Bool.and_eq_true_iff.mp holds
  obtain ⟨d, creates⟩ := createsNext_creates next
  refine ⟨sampleWorld_initial _, c, d, reached, creates, fun ended => ?_⟩
  obtain ⟨job, present, unfinished⟩ := World.live_iff.mp live
  rw [ended 1 (by decide) job present] at unfinished
  cases unfinished

/-! ## Creation -/

/-- A Job that was just read is not removed before the next call. -/
def Mode.creation : Mode where
  orderly := False
  strict := False
  guarded := True

/-- A Job whose name the status has carried is not created again. -/
theorem not_creates_of_recorded (r : Reconciler) {w₀ : World} {c c' d : Config apiServer} {fault : Fault} {k : Int}
    (initial : Initial w₀) (reached : Reachable .creation r w₀ c)
    (named : c.world.run.status.jobName = jobNameOf c.world.run k)
    (continued : Reaches apiServer (controller r) (jobSafety .creation r).ok c c') :
    ¬ Creates r c' fault d (jobNameOf c.world.run k) := by
  intro creates
  obtain ⟨inv, safe⟩ := reached.safe initial
  have current : k = currentAttempt c.world.run := by
    obtain unnamed | ⟨same, -⟩ := inv.run.named
    · exact absurd (named.symm.trans unnamed) (jobNameOf_ne_empty _ _)
    · exact jobNameOf_injective _ (named.symm.trans same)
  -- what is recorded stays recorded, and the run keeps its identity
  have carries : (jobSafety .creation r).Carries (controller r) fun w =>
      Inv .creation r w ∧ SameIntent c.world.run w.run ∧ Recorded k w.run :=
    { moves := fun _ w m w' h _ moved =>
        have untouched := applyMove_untouched moved
        ⟨h.1.untouched untouched, h.2.1.trans untouched.intent, h.2.2.intent untouched.intent untouched.status⟩
      keeps := fun w op res w' h kept => ⟨kept.inv, h.2.1.trans kept.intent, kept.recorded k h.2.2⟩
      start := fun w h => (controller_carries .creation r).start w h.1 }
  obtain ⟨⟨-, intent, recorded⟩, safe'⟩ :=
    carries.reaches ⟨inv, .refl _, .inr ⟨current.symm, named⟩⟩ safe continued
  obtain ⟨name, unnamed⟩ := creates.kept safe' False.elim
  rw [← intent.jobNameOf] at name
  rcases recorded with later | ⟨-, named'⟩
  · have := jobNameOf_injective _ name
    omega
  · exact jobNameOf_ne_empty _ _ (named'.symm.trans (unnamed trivial))

/-- Other clients move only between reconciles, and no cache answers. -/
def betweenReconciles (c : Config apiServer) : Label apiServer → Bool
  | .move _ => c.task.isNone
  | .answer fault => fault.current
  | _ => true

theorem betweenReconciles_ok (r : Reconciler) (c : Config apiServer) (l : Label apiServer)
    (checked : betweenReconciles c l = true) : (jobSafety .creation r).ok c l := by
  cases l with
  | start => trivial
  | stop => trivial
  | answer fault => exact fun _ _ _ _ => ⟨fun _ => checked, False.elim⟩
  | move m =>
    rintro - name rfl ⟨job, last⟩
    simp [Config.log, Option.isNone_iff_eq_none.mp checked] at last

/-- The status names the Job of this attempt. -/
def namesJob (attempt : Int) (c : Config apiServer) : Bool :=
  c.world.run.status.jobName == jobNameOf c.world.run attempt

/-- A Job that is removed between two reconciles stays absent. -/
theorem not_creates_after_removal : ∃ c c', Reachable .creation sampleReconciler (sampleWorld .running) c ∧
    namesJob 1 c = true ∧ Reaches apiServer (controller sampleReconciler) (jobSafety .creation sampleReconciler).ok c c' ∧
      c'.world.job (jobNameOf c.world.run 1) = none ∧
      ∀ fault d, ¬ Creates sampleReconciler c' fault d (jobNameOf c.world.run 1) := by
  have executed : (execute apiServer (controller sampleReconciler) betweenReconciles (Label.start :: answers 30)
      ⟨sampleWorld .running, none⟩).any (fun c => namesJob 1 c &&
        (execute apiServer (controller sampleReconciler) betweenReconciles
          ([Label.stop, Label.move (S := apiServer) (.removeJob (sampleJob 1)), Label.start] ++ answers 15) c).any
            fun c' => (c'.world.job (jobNameOf c.world.run 1)).isNone) = true := by decide +kernel
  obtain ⟨c, reached, holds⟩ := exists_reaches (betweenReconciles_ok sampleReconciler) executed
  obtain ⟨named, rest⟩ := Bool.and_eq_true_iff.mp holds
  obtain ⟨c', continued, absent⟩ := exists_reaches (betweenReconciles_ok sampleReconciler) rest
  exact ⟨c, c', reached, named, continued, Option.isNone_iff_eq_none.mp absent, fun fault d =>
    not_creates_of_recorded _ (sampleWorld_initial _) reached (beq_iff_eq.mp named) continued⟩

/-- The Job is removed between the check that it exists and the read before its apply. The apply creates
it again, although the status names it. -/
theorem recorded_job_created_again : Initial (sampleWorld .running) ∧
    ∃ c c' d, Reaches apiServer (controller sampleReconciler) (fun _ _ => True) ⟨sampleWorld .running, none⟩ c ∧
      c.world.run.status.jobName = jobNameOf c.world.run 1 ∧
      Reaches apiServer (controller sampleReconciler) (fun _ _ => True) c c' ∧
      Creates sampleReconciler c' .none d (jobNameOf c.world.run 1) := by
  have executed : (execute apiServer (controller sampleReconciler) (fun _ _ => true) (Label.start :: answers 30)
      ⟨sampleWorld .running, none⟩).any (fun c => namesJob 1 c &&
        (execute apiServer (controller sampleReconciler) (fun _ _ => true)
          ([Label.stop, Label.start] ++ answers 15 ++ [Label.move (S := apiServer) (.removeJob (sampleJob 1))] ++ answers 1) c).any
            fun c' => createsNext 1 c' && jobNameOf c'.world.run 1 == jobNameOf c.world.run 1) = true := by
    decide +kernel
  obtain ⟨c, reached, holds⟩ := exists_reaches_any executed
  obtain ⟨named, rest⟩ := Bool.and_eq_true_iff.mp holds
  obtain ⟨c', continued, again⟩ := exists_reaches_any rest
  obtain ⟨next, same⟩ := Bool.and_eq_true_iff.mp again
  obtain ⟨d, creates⟩ := createsNext_creates next
  rw [beq_iff_eq.mp same] at creates
  exact ⟨sampleWorld_initial _, c, c', d, reached, beq_iff_eq.mp named, continued, creates⟩

end AgentForge.Operator
