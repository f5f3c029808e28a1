import AgentForge.Operator.Api

/-!
# What calls and moves can change

The facts about the API server that safety proofs use: who can write the run, and which Jobs can
become live. A Job is *live* while it exists and has not finished.
-/

set_option autoImplicit false

namespace AgentForge.Operator

open Lib

namespace World

/-- The Job of this name exists and has not finished, so it may start or keep a Pod. -/
def live (w : World) (name : String) : Bool := (w.job name).any fun job => !job.finished

theorem live_iff {w : World} {name : String} :
    w.live name = true ↔ ∃ job, w.job name = some job ∧ job.finished = false := by
  simp [live, Option.any_eq_true]

theorem not_live_of_absent {w : World} {name : String} (absent : w.job name = none) : w.live name = false := by
  simp [live, absent]

@[simp] theorem job_setObject_job (w : World) (name other : String) (object : Option Job) :
    (w.setObject .job name object).job other = if other = name then object else w.job other := by
  simp [setObject, job]

theorem job_setObject_of_ne (w : World) {kind : Kind} (other : kind ≠ .job) (name : String)
    (object : Option kind.Object) : (w.setObject kind name object).job = w.job := by
  funext n
  simp [setObject, job, other]

@[simp] theorem run_setObject (w : World) (kind : Kind) (name : String) (object : Option kind.Object) :
    (w.setObject kind name object).run = w.run := rfl

@[simp] theorem counter_setObject (w : World) (kind : Kind) (name : String) (object : Option kind.Object) :
    (w.setObject kind name object).counter = w.counter := rfl

/-- Replacing a Job keeps every other Job, and a replacement that is not live makes none live. -/
theorem live_setObject_job {w : World} {name other : String} {object : Option Job}
    (replaced : object.any (fun job => !job.finished) = true → w.live name = true)
    (h : (w.setObject .job name object).live other = true) : w.live other = true := by
  simp only [live, job_setObject_job] at h
  split at h
  · next same => subst same; exact replaced h
  · exact h

end World

/-- The parts of a run that no client can change: its identity, and its spec but for a one-way
`desiredState`. -/
structure SameIntent (before after : AgentRun) : Prop where
  name : after.metadata.name = before.metadata.name
  ns : after.metadata.ns = before.metadata.ns
  uid : after.metadata.uid = before.metadata.uid
  generation : before.metadata.generation ≤ after.metadata.generation
  spec : after.spec = { before.spec with desiredState := after.spec.desiredState }
  cancelled : before.spec.desiredState = .cancelled → after.spec.desiredState = .cancelled

namespace SameIntent

theorem refl (run : AgentRun) : SameIntent run run :=
  ⟨rfl, rfl, rfl, le_refl _, rfl, id⟩

variable {a b : AgentRun}

theorem trans {c : AgentRun} (first : SameIntent a b) (second : SameIntent b c) :
    SameIntent a c where
  name := second.name.trans first.name
  ns := second.ns.trans first.ns
  uid := second.uid.trans first.uid
  generation := first.generation.trans second.generation
  spec := by rw [second.spec, first.spec]
  cancelled := second.cancelled ∘ first.cancelled

theorem runID (same : SameIntent a b) : b.spec.runID = a.spec.runID := by rw [same.spec]

theorem attempt (same : SameIntent a b) : b.spec.attempt = a.spec.attempt := by rw [same.spec]

theorem retryPolicy (same : SameIntent a b) : b.spec.retryPolicy = a.spec.retryPolicy := by
  rw [same.spec]

theorem currentAttempt (same : SameIntent a b) (status : b.status = a.status) :
    currentAttempt b = currentAttempt a := by
  simp only [Operator.currentAttempt, same.attempt, status]

end SameIntent

/-- What a step of another client leaves alone: the status, the intent, and the finished Jobs. A run it
changes gets a version that no one has seen. -/
structure Untouched (w w' : World) : Prop where
  status : w'.run.status = w.run.status
  intent : SameIntent w.run w'.run
  version : w'.run = w.run ∨ w.counter < w'.run.metadata.resourceVersion
  counter : w.counter ≤ w'.counter
  stored : w.run.metadata.resourceVersion ≤ w.counter → w'.run.metadata.resourceVersion ≤ w'.counter
  quiet : ∀ name, w'.live name = true → w.live name = true

namespace Untouched

theorem of_run_eq {w w' : World} (run : w'.run = w.run) (counter : w.counter ≤ w'.counter)
    (quiet : ∀ name, w'.live name = true → w.live name = true) : Untouched w w' where
  status := by rw [run]
  intent := run ▸ .refl _
  version := .inl run
  counter := counter
  stored := fun bound => run ▸ bound.trans counter
  quiet := quiet

theorem refl (w : World) : Untouched w w := .of_run_eq rfl (le_refl _) fun _ => id

/-- Replacing an object that is not a Job. -/
theorem of_setObject (w : World) (kind : Kind) (other : kind ≠ .job) (name : String)
    (object : Option kind.Object) : Untouched w (w.setObject kind name object) :=
  .of_run_eq rfl (le_refl _) fun _ h => by rwa [World.live, World.job_setObject_of_ne w other] at h

theorem of_setRun {w : World} {run : AgentRun} (status : run.status = w.run.status)
    (intent : SameIntent w.run run) : Untouched w (w.setRun run) where
  status := status
  intent := ⟨intent.name, intent.ns, intent.uid, intent.generation, intent.spec, intent.cancelled⟩
  version := .inr (Nat.lt_succ_self _)
  counter := Nat.le_succ _
  stored := fun _ => le_refl _
  quiet := fun _ => id

end Untouched

/-- Marking a Job for deletion does not revive it. -/
theorem markJobDeleted_untouched (w : World) (name : String) : Untouched w (markJobDeleted w name).2 := by
  unfold markJobDeleted
  cases present : w.job name with
  | none => exact .refl w
  | some job =>
    refine .of_run_eq rfl (le_refl _) fun other => World.live_setObject_job fun h => ?_
    rw [World.live_iff]
    exact ⟨job, present, by simpa [Job.finished, findJobCondition] using h⟩

variable {w w' : World} {name : String} {fault : Fault} {kind : Kind} {object : kind.Object} {e : ApiError}

/-- No move writes the status or makes a Job live. -/
theorem applyMove_untouched {m : Move} (moved : applyMove m w = some w') : Untouched w w' := by
  cases m with
  | requestCancellation =>
    simp only [applyMove, Option.ite_none_right_eq_some, Option.some.injEq] at moved
    obtain ⟨-, rfl⟩ := moved
    exact .of_setRun rfl ⟨rfl, rfl, rfl, by dsimp only; omega, rfl, fun _ => rfl⟩
  | deleteRun =>
    simp only [applyMove, Option.ite_none_right_eq_some, Option.some.injEq] at moved
    obtain ⟨-, rfl⟩ := moved
    have marked : Untouched w (w.setRun { w.run with
        metadata := { w.run.metadata with
          deletionTimestamp := w.run.metadata.deletionTimestamp.or (some w.clock) } }) :=
      .of_setRun rfl ⟨rfl, rfl, rfl, le_refl _, rfl, id⟩
    exact ⟨marked.status, marked.intent, marked.version, marked.counter, marked.stored, marked.quiet⟩
  | editRun labels annotations =>
    simp only [applyMove, Option.ite_none_right_eq_some, Option.some.injEq] at moved
    obtain ⟨-, rfl⟩ := moved
    exact .of_setRun rfl ⟨rfl, rfl, rfl, le_refl _, rfl, id⟩
  | jobStatus name status =>
    simp only [applyMove] at moved
    split at moved
    · next job present =>
      split at moved
      · cases moved
      · next kept =>
        cases moved
        refine .of_run_eq rfl (le_refl _) fun other => World.live_setObject_job fun h => ?_
        rw [World.live_iff]
        refine ⟨job, present, ?_⟩
        cases finished : job.finished with
        | false => rfl
        | true => simp_all
    · cases moved
  | editJob name labels annotations owners spec =>
    simp only [applyMove] at moved
    split at moved
    · next job present =>
      cases moved
      refine .of_run_eq rfl (le_refl _) fun other => World.live_setObject_job fun h => ?_
      rw [World.live_iff]
      exact ⟨job, present, by simpa [Job.finished, findJobCondition] using h⟩
    · cases moved
  | deleteJob name =>
    simp only [applyMove] at moved
    split at moved
    · next w'' deleted =>
      cases moved
      have untouched := markJobDeleted_untouched w name
      rwa [deleted] at untouched
    · cases moved
  | removeJob name =>
    cases moved
    exact .of_run_eq rfl (le_refl _) fun other => World.live_setObject_job fun h => by simp at h
  | setPods pods => cases moved; exact .of_run_eq rfl (le_refl _) fun _ => id
  | setServiceAccount name object => cases moved; exact .of_setObject w .serviceAccount (by decide) name object
  | setConfigMap name object => cases moved; exact .of_setObject w .configMap (by decide) name object
  | setWorkspace name object => cases moved; exact .of_setObject w .persistentVolumeClaim (by decide) name object
  | setNetworkPolicy name object => cases moved; exact .of_setObject w .networkPolicy (by decide) name object
  | setSecrets names => cases moved; exact .of_run_eq rfl (le_refl _) fun _ => id
  | setStorageClasses classes => cases moved; exact .of_run_eq rfl (le_refl _) fun _ => id
  | setClock time => cases moved; exact .of_run_eq rfl (le_refl _) fun _ => id

/-- Only its removal makes a Job absent. -/
theorem applyMove_job {m : Move} (moved : applyMove m w = some w') (kept : m ≠ .removeJob name)
    (present : w.job name ≠ none) : w'.job name ≠ none := by
  have replaced : ∀ other (job : Job), (w.setObject .job other (some job)).job name ≠ none := by
    intro other job
    rw [World.job_setObject_job]
    split
    · simp
    · exact present
  have elsewhere : ∀ kind, kind ≠ .job → ∀ other (object : Option kind.Object),
      (w.setObject kind other object).job name ≠ none := by
    intro kind notJob other object
    rw [World.job_setObject_of_ne w notJob]
    exact present
  cases m with
  | requestCancellation | deleteRun | editRun =>
    simp only [applyMove, Option.ite_none_right_eq_some, Option.some.injEq] at moved
    obtain ⟨-, rfl⟩ := moved
    exact present
  | jobStatus other status =>
    simp only [applyMove] at moved
    split at moved
    · split at moved
      · cases moved
      · cases moved; exact replaced other _
    · cases moved
  | editJob other =>
    simp only [applyMove] at moved
    split at moved
    · cases moved; exact replaced other _
    · cases moved
  | deleteJob other =>
    simp only [applyMove] at moved
    split at moved
    · next deleted =>
      cases moved
      unfold markJobDeleted at deleted
      split at deleted
      · cases deleted
      · cases deleted; exact replaced other _
    · cases moved
  | removeJob other =>
    cases moved
    rw [World.job_setObject_job, if_neg (by rintro rfl; exact kept rfl)]
    exact present
  | setServiceAccount other object => cases moved; exact elsewhere .serviceAccount (by decide) other object
  | setConfigMap other object => cases moved; exact elsewhere .configMap (by decide) other object
  | setWorkspace other object => cases moved; exact elsewhere .persistentVolumeClaim (by decide) other object
  | setNetworkPolicy other object => cases moved; exact elsewhere .networkPolicy (by decide) other object
  | setPods | setSecrets | setStorageClasses | setClock => cases moved; exact present

/-! ## Answers -/

/-- The three ways in which a call is answered. -/
theorem faulty_cases {α : Type} {answer : Except ApiError α × World} {res : Except ApiError α}
    (h : faulty w answer fault = some (res, w')) :
    (fault = .none ∧ res = answer.1 ∧ w' = answer.2) ∨
      (∃ e, fault = .refused e ∧ e ≠ .notFound ∧ res = .error e ∧ w' = w) ∨
      ∃ e, fault = .lost e ∧ e.indefinite = true ∧ res = .error e ∧ w' = answer.2 := by
  cases fault with
  | none => cases h; exact .inl ⟨rfl, rfl, rfl⟩
  | refused e =>
    simp only [faulty, Option.ite_none_left_eq_some, Option.some.injEq, Prod.mk.injEq] at h
    obtain ⟨present, rfl, rfl⟩ := h
    exact .inr (.inl ⟨e, rfl, present, rfl, rfl⟩)
  | lost e =>
    simp only [faulty, Option.ite_none_right_eq_some, Option.some.injEq, Prod.mk.injEq] at h
    obtain ⟨indefinite, rfl, rfl⟩ := h
    exact .inr (.inr ⟨e, rfl, indefinite, rfl, rfl⟩)
  | cached seen => cases h

/-- The world after a call is the one before it or the one of its full effect. -/
theorem faulty_world {α : Type} {answer : Except ApiError α × World} {res : Except ApiError α}
    (h : faulty w answer fault = some (res, w')) : w' = w ∨ w' = answer.2 := by
  obtain ⟨-, -, rfl⟩ | ⟨-, -, -, -, rfl⟩ | ⟨-, -, -, -, rfl⟩ := faulty_cases h <;> simp

/-- A read leaves the world alone. It shows a state, the current one if no cache answers, or fails with an error
other than absence, which is permanent only if the read was refused. -/
theorem faulty_read {α : Type} {answer : World → Except ApiError α} {res : Except ApiError α}
    (h : faultyRead w answer fault = some (res, w')) :
    w' = w ∧ ((∃ seen, (fault.current = true → seen = w) ∧ res = answer seen) ∨ ∃ e, res = .error e ∧ e ≠ .notFound ∧
      (fault = .refused e ∨ e.indefinite = true)) := by
  unfold faultyRead at h
  split at h
  · next seen =>
    cases h
    exact ⟨rfl, .inl ⟨seen, nofun, rfl⟩⟩
  · obtain ⟨-, same, world⟩ | ⟨e, refused, present, same, world⟩ | ⟨e, lost, indefinite, same, world⟩ := faulty_cases h
    · exact ⟨world, .inl ⟨w, fun _ => rfl, same⟩⟩
    · exact ⟨world, .inr ⟨e, same, present, .inl refused⟩⟩
    · refine ⟨world, .inr ⟨e, same, ?_, .inr indefinite⟩⟩
      rintro rfl
      cases indefinite

theorem readObject_eq_ok : readObject w kind name = .ok object ↔ w.objects kind name = some object := by
  unfold readObject
  split
  · next found => simp [found]
  · next absent => simp [absent]

theorem readObject_eq_error : readObject w kind name = .error e ↔ e = .notFound ∧ w.objects kind name = none := by
  unfold readObject
  split
  · next found => simp [found]
  · next absent => simp [absent, eq_comm]

theorem get_ok (current : fault.current = true) (h : respond w (.get kind name) fault = some (.ok object, w')) :
    w' = w ∧ w.objects kind name = some object := by
  obtain ⟨world, ⟨seen, shown, same⟩ | ⟨e, same, -⟩⟩ := faulty_read h
  · cases shown current
    exact ⟨world, readObject_eq_ok.mp same.symm⟩
  · cases same

theorem get_error (h : respond w (.get kind name) fault = some (.error e, w')) :
    w' = w ∧ ((e = .notFound ∧ (fault.current = true → w.objects kind name = none)) ∨
      (e ≠ .notFound ∧ (fault = .refused e ∨ e.indefinite = true))) := by
  obtain ⟨world, ⟨seen, shown, same⟩ | ⟨e', same, present, cause⟩⟩ := faulty_read h
  · obtain ⟨missing, absent⟩ := readObject_eq_error.mp same.symm
    exact ⟨world, .inl ⟨missing, fun current => shown current ▸ absent⟩⟩
  · cases same
    exact ⟨world, .inr ⟨present, cause⟩⟩

theorem listPods_error (h : respond w (.listPods name) fault = some (.error e, w')) :
    w' = w ∧ (fault = .refused e ∨ e.indefinite = true) := by
  obtain ⟨world, ⟨seen, -, same⟩ | ⟨e', same, -, cause⟩⟩ := faulty_read h
  · cases same
  · cases same; exact ⟨world, cause⟩

/-- A call that writes neither the status nor, by an apply, a Job. -/
def Op.quiet : Op → Bool
  | patchRunStatus .. | apply .job _ => false
  | _ => true

/-- A write of the run that keeps its status and intent. -/
theorem collectRun_writeRun_untouched (w : World) (version : Nat) (finalizers : List String) :
    Untouched w (collectRun (writeRun w version fun run =>
      { run with metadata := { run.metadata with finalizers } })).2 := by
  have written : Untouched w (w.setRun { w.run with metadata := { w.run.metadata with finalizers } }) :=
    .of_setRun rfl ⟨rfl, rfl, rfl, le_refl _, rfl, id⟩
  unfold writeRun
  split
  · exact .refl w
  · split
    · exact .refl w
    · simp only [collectRun]
      split
      · exact ⟨written.status, written.intent, written.version, written.counter, written.stored, written.quiet⟩
      · exact written

theorem applyObject_untouched (other : kind ≠ .job) (object : kind.Object) :
    Untouched w (applyObject w kind object) :=
  .of_run_eq rfl (Nat.le_succ _) (Untouched.of_setObject w kind other _ _).quiet

theorem writeWorkspace_untouched (w : World) (version : Nat) (name : String) (annotations : StringMap) :
    Untouched w (writeWorkspace w version name annotations).2 := by
  unfold writeWorkspace
  split
  · exact .refl w
  · split
    · exact .refl w
    · exact .of_run_eq rfl (Nat.le_succ _) fun other h => by
        simpa [World.live, World.job, World.setObject] using h

theorem removePod_untouched (w : World) (name : String) : Untouched w (removePod w name).2 := by
  unfold removePod
  split
  · exact .of_run_eq rfl (le_refl _) fun _ => id
  · exact .refl w

/-- A quiet call leaves alone what another client's step leaves alone. -/
theorem respond_untouched {op : Op} (quiet : op.quiet = true) {res : op.Res}
    (h : respond w op fault = some (res, w')) : Untouched w w' := by
  cases op with
  | now => cases fault <;> cases h; exact .refl _
  | getRun | get | getSecret | getStorageClass | listPods => obtain ⟨rfl, -⟩ := faulty_read h; exact .refl _
  | patchRunStatus => cases quiet
  | patchRunFinalizers version finalizers =>
    obtain rfl | rfl := faulty_world h
    · exact .refl _
    · exact collectRun_writeRun_untouched w version finalizers
  | apply kind object =>
    obtain rfl | rfl := faulty_world h
    · exact .refl _
    · exact applyObject_untouched (by rintro rfl; cases quiet) object
  | patchWorkspace version name annotations =>
    obtain rfl | rfl := faulty_world h
    · exact .refl _
    · exact writeWorkspace_untouched w version name annotations
  | deletePod name =>
    obtain rfl | rfl := faulty_world h
    · exact .refl _
    · exact removePod_untouched w name
  | deleteJob name zeroGrace =>
    obtain rfl | rfl := faulty_world h
    · exact .refl _
    · exact markJobDeleted_untouched w name

/-- Only an apply creates a Job. -/
theorem respond_creates {op : Op} {res : op.Res} (h : respond w op fault = some (res, w'))
    (absent : w.job name = none) (present : w'.job name ≠ none) :
    ∃ desired : Job, op = .apply .job desired ∧ desired.metadata.name = name := by
  have unchanged : ∀ {α : Type} {answer : Except ApiError α × World} {res : Except ApiError α},
      faulty w answer fault = some (res, w') → answer.2.job name = none → False := by
    intro α answer res h same
    obtain rfl | rfl := faulty_world h
    · exact present absent
    · exact present same
  cases op with
  | now => cases fault <;> cases h; exact absurd absent present
  | apply kind desired =>
    by_cases job : kind = .job
    · subst job
      by_cases same : desired.metadata.name = name
      · exact ⟨desired, rfl, same⟩
      · refine (unchanged h ?_).elim
        exact ((World.job_setObject_job w _ name _).trans (if_neg (Ne.symm same))).trans absent
    · refine (unchanged h ?_).elim
      exact (congrFun (World.job_setObject_of_ne w job _ _) name).trans absent
  | patchRunStatus version status =>
    refine (unchanged h ?_).elim
    unfold writeRun
    split
    · exact absent
    · split <;> exact absent
  | patchRunFinalizers version finalizers =>
    refine (unchanged h ?_).elim
    unfold writeRun
    split
    · exact absent
    · split
      · exact absent
      · simp only [collectRun]
        split <;> exact absent
  | patchWorkspace version claim annotations =>
    refine (unchanged h ?_).elim
    unfold writeWorkspace
    split
    · exact absent
    · split
      · exact absent
      · simpa [World.job, World.setObject] using absent
  | deletePod pod =>
    refine (unchanged h ?_).elim
    unfold removePod
    split <;> exact absent
  | deleteJob other zeroGrace =>
    refine (unchanged h ?_).elim
    unfold markJobDeleted
    split
    · exact absent
    · next job found =>
      refine (World.job_setObject_job w other name _).trans ?_
      rw [if_neg (by rintro rfl; rw [absent] at found; cases found)]
      exact absent
  | getRun | get | getSecret | getStorageClass | listPods =>
    obtain ⟨rfl, -⟩ := faulty_read h
    exact absurd absent present

/-- An applied Job leaves the run and every Job of another name alone. -/
theorem applyObject_job (w : World) (desired : Job) :
    (applyObject w .job desired).run = w.run ∧ w.counter ≤ (applyObject w .job desired).counter ∧
      ∀ name, name ≠ desired.metadata.name → (applyObject w .job desired).job name = w.job name := by
  refine ⟨rfl, Nat.le_succ _, fun name other => ?_⟩
  exact (World.job_setObject_job _ _ _ _).trans (if_neg other)

/-- A failed apply was refused without effect, or its answer was lost. -/
theorem apply_error (h : respond w (.apply kind object) fault = some (.error e, w')) :
    (fault = .refused e ∧ w' = w) ∨ e.indefinite = true := by
  obtain ⟨-, same, -⟩ | ⟨e', refused, -, same, world⟩ | ⟨e', -, indefinite, same, -⟩ := faulty_cases h
  · cases same
  · cases same; exact .inl ⟨refused, world⟩
  · cases same; exact .inr indefinite

end AgentForge.Operator
