import AgentForge.Operator.CancellationRules

/-!
# Job safety of the reconcile loop

The writes of the run, the branches of a reconcile and the controller as a whole keep the contract.
From this follow, in every run with orderly answers, that a cancelled run with a terminal phase has no
live Job, and that a Job is created only after the Jobs of earlier attempts have ended.
-/

set_option autoImplicit false

namespace AgentForge.Operator

open Lib

section Writes

variable {mode : Mode} {r : Reconciler} {before : AgentRun}

/-- A write under the version that was read finds the run that was read. -/
theorem Held.fresh {w : World} (held : Held mode r before w)
    (version : w.run.metadata.resourceVersion = before.metadata.resourceVersion) : w.run = before := by
  rcases held.version with fresh | newer
  · exact fresh
  · omega

theorem Held.of_run {w : World} (inv : Inv mode r w) : Held mode r w.run w :=
  ⟨inv, rfl, .refl _, .inl rfl⟩

/-- The run that a write stores satisfies the invariant if the run in memory does. -/
theorem Ready.stored {after : AgentRun} {w : World} (ready : Ready mode r before after w) (fresh : w.run = before) :
    Inv mode r (w.setRun { w.run with status := after.status.stored }) where
  version := le_refl _
  ceiling := ready.held.inv.ceiling
  run := by
    have persisted : RunInv mode r (after.withStatus after.status.stored) w :=
      (ready.inv fresh).core ⟨rfl, rfl, rfl, rfl, rfl⟩
    have intent : SameIntent (after.withStatus after.status.stored)
        (w.setRun { w.run with status := after.status.stored }).run := by
      constructor <;> simp [World.setRun, AgentRun.withStatus, fresh, ready.metadata, ready.spec]
    exact (persisted.intent intent rfl).untouched fun _ => id

/-- A status write that keeps the invariant and what has been recorded. -/
theorem Kept.write {w w' : World} {version : Nat} {status : AgentRunStatus} (inv : Inv mode r w')
    (intent : SameIntent w.run w'.run) (recorded : ∀ k, Recorded k w.run → Recorded k w'.run) :
    Kept mode r w (.patchRunStatus version status) w' :=
  ⟨inv, intent, recorded, by rintro desired ⟨⟩, by rintro _ desired ⟨⟩⟩

theorem Ready.kept {after : AgentRun} {w : World} (ready : Ready mode r before after w) (fresh : w.run = before)
    (version : Nat) : Kept mode r w (.patchRunStatus version after.status)
      (w.setRun { w.run with status := after.status.stored }) := by
  refine .write (ready.stored fresh) ⟨rfl, rfl, rfl, le_refl _, rfl, id⟩ fun k recorded => ?_
  exact (ready.recorded fresh k (fresh ▸ recorded)).congr (by simp [World.setRun, fresh, ready.spec]) rfl rfl

/-- A status write happens under the version that was read, or not at all. -/
theorem Ready.written {after : AgentRun} {w : World} (ready : Ready mode r before after w)
    {answer : Except ApiError AgentRun × World}
    (answered : writeRun w before.metadata.resourceVersion (fun run => { run with status := after.status.stored }) = answer) :
    Kept mode r w (.patchRunStatus before.metadata.resourceVersion after.status) answer.2 ∧
      ∀ stored, answer.1 = .ok stored → Held mode r stored answer.2 := by
  have unchanged : Kept mode r w (.patchRunStatus before.metadata.resourceVersion after.status) w :=
    .write ready.held.inv (.refl _) fun _ => id
  subst answered
  unfold writeRun
  split
  · exact ⟨unchanged, by rintro stored ⟨⟩⟩
  · split
    · exact ⟨unchanged, by rintro stored ⟨⟩⟩
    · next version =>
      have kept := ready.kept (ready.held.fresh (not_ne_iff.mp version)) before.metadata.resourceVersion
      exact ⟨kept, by rintro stored ⟨⟩; exact .of_run kept.inv⟩

theorem patchRunStatus_rule (after : AgentRun) :
    (jobSafety mode r).Triple (fun _ w => Ready mode r before after w)
      (call (.patchRunStatus before.metadata.resourceVersion after.status)) fun res _ w =>
        ∀ stored, res = .ok stored → Held mode r stored w := by
  refine Contract.Triple.perform ((carried_ready mode r before).stable after) fun log w fault res w' ready _
    (answered : respond w (.patchRunStatus before.metadata.resourceVersion after.status) fault = some (res, w')) => ?_
  obtain ⟨kept, held⟩ := ready.written rfl
  obtain ⟨-, rfl, rfl⟩ | ⟨e, -, -, rfl, rfl⟩ | ⟨e, -, -, rfl, rfl⟩ := faulty_cases answered
  · exact ⟨kept, held⟩
  · exact ⟨.write ready.held.inv (.refl _) fun _ => id, by rintro stored ⟨⟩⟩
  · exact ⟨kept, by rintro stored ⟨⟩⟩

theorem patchStatusIfChanged_rule (after : AgentRun) :
    (jobSafety mode r).Triple (fun _ w => Ready mode r before after w) (patchStatusIfChanged before after)
      fun res _ w => ∀ changed stored, res = .ok (changed, stored) → Held mode r stored w := by
  unfold patchStatusIfChanged
  split
  · next same =>
    refine Contract.Triple.pure fun _ w ready => ?_
    rintro changed stored ⟨⟩
    have unchanged : after = before := by
      obtain ⟨metadata, spec, status⟩ := after
      obtain ⟨metadata', spec', status'⟩ := before
      cases ready.metadata
      cases ready.spec
      cases same
      rfl
    exact unchanged ▸ ready.held
  · refine (patchRunStatus_rule after).bind fun res => ?_
    split
    · exact Contract.Triple.pure fun _ w h => by rintro changed stored ⟨⟩; exact h _ rfl
    · exact Contract.Triple.pure fun _ w h => by rintro changed stored ⟨⟩

theorem finish_rule (reason : String) (outcome : Outcome) :
    (jobSafety mode r).Triple (fun _ w => Ready mode r before outcome.run w) (finish before reason outcome)
      fun _ _ _ => True := by
  refine (patchStatusIfChanged_rule outcome.run).bind fun res => ?_
  split <;> exact Contract.Triple.pure fun _ _ _ => trivial

end Writes

/-! ## Branches -/

section Branches

variable {mode : Mode} {r : Reconciler} {before : AgentRun} {w : World}

theorem Held.ready (held : Held mode r before w) : Ready mode r before before w :=
  ⟨held, rfl, rfl, fun fresh => fresh ▸ held.inv.run, fun _ _ => id⟩

theorem retryAllowed_cases {run : AgentRun} (allowed : retryAllowed run = true) :
    run.status.phase = some .failed ∧ run.status.attempt = currentAttempt run ∧
      run.status.attempt < run.spec.retryPolicy.maxAttempts := by
  simp only [retryAllowed, Bool.and_eq_true, beq_iff_eq, decide_eq_true_eq] at allowed
  exact ⟨allowed.1.1.1, allowed.1.1.2, allowed.1.2⟩

theorem advanceAttempt_current (run : AgentRun) : currentAttempt (advanceAttempt run) = currentAttempt run + 1 :=
  currentAttempt_of_ge ((currentAttempt_ge run).trans (Int.le_add_one (le_refl _)))

/-- A failed attempt has no live Job, so that the next one may begin. -/
theorem RunInv.advance {run : AgentRun} (inv : RunInv mode r run w) (accepted : Accepted r.ext run)
    (allowed : retryAllowed run = true) : RunInv mode r (advanceAttempt run) w := by
  obtain ⟨failed, attempt, below⟩ := retryAllowed_cases allowed
  have scheduled := currentAttempt_ge run
  have quiet : mode.orderly → ∀ k, w.live (jobNameOf run k) ≠ true := by
    intro orderly k live
    obtain ⟨rfl, -, -⟩ := inv.only orderly k live
    have ended := inv.settled .failed failed rfl ⟨orderly, by rintro ⟨⟩⟩
    rw [currentJobName, live] at ended
    cases ended
  refine ⟨.inr ?_, .inr ?_, .inl rfl, fun _ => accepted, fun orderly k live => absurd live (quiet orderly k), ?_⟩
  · rw [advanceAttempt_current]
    change currentAttempt run + 1 ≤ run.spec.retryPolicy.maxAttempts
    omega
  · change run.spec.attempt ≤ currentAttempt run + 1
    omega
  · rintro phase ⟨⟩ terminal
    cases terminal

theorem Ready.advance {run : AgentRun} (ready : Ready mode r before run w) (accepted : Accepted r.ext before)
    (allowed : retryAllowed run = true) : Ready mode r before (advanceAttempt run) w := by
  have accepted' : Accepted r.ext run := by
    unfold Accepted
    rw [ready.metadata, ready.spec]
    exact accepted
  refine ⟨ready.held, ready.metadata, ready.spec, fun fresh => (ready.inv fresh).advance accepted' allowed, ?_⟩
  intro fresh k recorded
  refine .inl ?_
  rw [advanceAttempt_current]
  rcases ready.recorded fresh k recorded with later | ⟨here, -⟩ <;> omega

/-- A retry, and the write of its status. -/
theorem retry_rule (run : AgentRun) (reason : String) (accepted : Accepted r.ext before)
    (allowed : retryAllowed run = true) :
    (jobSafety mode r).Triple (fun _ w => Ready mode r before run w)
      (do let (run', result) ← reconcileRetry r.ext run; finish before reason { run := run', result })
      fun _ _ _ => True := by
  refine Contract.Triple.bind (Q := fun answer _ w => Ready mode r before answer.1 w) ?_ fun answer =>
    finish_rule reason { run := answer.1, result := answer.2 }
  exact ((carried_ready mode r before).reconcileRetry r.ext run).consequence
    (fun _ _ h => ⟨h, h.advance accepted allowed⟩) fun _ _ _ => id

theorem reconcileTerminal_rule (accepted : Accepted r.ext before) :
    (jobSafety mode r).Triple (fun _ w => Held mode r before w) (reconcileTerminal r before)
      fun _ _ _ => True := by
  unfold reconcileTerminal
  split
  · next allowed =>
    exact (retry_rule before _ accepted (Bool.and_eq_true_iff.mp allowed).2).consequence (fun _ _ h => h.ready) fun _ _ _ => id
  · refine Contract.Triple.bind (Q := fun run' _ w => Ready mode r before run' w) ?_ fun run' =>
      finish_rule _ { run := run' }
    exact ((carried_ready mode r before).setCondition _ _ _ _ _).consequence
      (fun _ _ h => h.ready.core ⟨rfl, rfl, rfl, rfl, rfl⟩) fun _ _ _ => id

/-! ### The working branches -/

/-- The run as it was fetched: a cancelled one without a recorded Job has no live Job. -/
structure Fetched (mode : Mode) (r : Reconciler) (before : AgentRun) (w : World) : Prop where
  held : Held mode r before w
  unrecorded : mode.orderly → mode.strict → before.spec.desiredState = .cancelled → before.status.jobName = "" →
    w.live (currentJobName before) = false

theorem Held.initialised (held : Held mode r before w) :
    (before.status.attempt = 0 ∧ before.status.phase = none) ∨ before.spec.attempt ≤ before.status.attempt := by
  have initialised := held.inv.run.initialised
  rwa [held.status, held.intent.attempt] at initialised

/-- An attempt that is not over has no terminal phase. -/
theorem Held.started (held : Held mode r before w) (active : currentAttemptTerminal before = false) :
    before.status.terminal = false := by
  rcases held.initialised with ⟨-, unset⟩ | observed
  · simp [AgentRunStatus.terminal, unset]
  · simpa [currentAttemptTerminal, currentAttempt_of_ge observed] using active

theorem initializeIdentity_attempt (held : Held mode r before w) (accepted : Accepted r.ext before) :
    (initializeIdentity before).status.attempt = currentAttempt before := by
  obtain ⟨-, positive, -, -⟩ := validateSpec_attempt accepted.2
  rcases held.initialised with ⟨unset, -⟩ | observed
  · have current : currentAttempt before = before.spec.attempt := if_neg (by omega)
    simp [initializeIdentity, AgentRun.withStatus, unset, current]
  · rw [currentAttempt_of_ge observed]
    exact if_neg (by omega)

/-- Work on an accepted attempt begins with its identity filled in. -/
theorem Fetched.working (fetched : Fetched mode r before w) (accepted : Accepted r.ext before)
    (active : currentAttemptTerminal before = false) : Working mode r before (initializeIdentity before) w := by
  have held := fetched.held
  have attempt := initializeIdentity_attempt held accepted
  have scheduled := currentAttempt_ge before
  have current : currentAttempt (initializeIdentity before) = currentAttempt before :=
    (currentAttempt_of_ge (attempt.symm ▸ scheduled)).trans attempt
  have name : currentJobName (initializeIdentity before) = currentJobName before := by
    simp only [currentJobName, current]; rfl
  have ongoing : (initializeIdentity before).status.terminal = false :=
    (initializeIdentity_terminal before).trans (held.started active)
  refine ⟨⟨held, rfl, rfl, fun fresh => ?_, fun _ k recorded => ?_⟩, accepted, held.started active, ongoing, attempt, ?_,
    id, fetched.unrecorded⟩
  · have inv : RunInv mode r before w := fresh ▸ held.inv.run
    refine ⟨current ▸ inv.bounded, .inr (attempt.symm ▸ scheduled), name ▸ inv.named, fun _ => accepted,
      fun orderly k live => ?_, ?_⟩
    · obtain ⟨here, _, buildable⟩ := inv.only orderly k live
      exact ⟨here.trans current.symm, accepted, buildable.congr ⟨rfl, rfl, rfl, rfl, current⟩⟩
    · intro phase at_phase terminal
      rw [AgentRunStatus.terminal, at_phase] at ongoing
      exact absurd (terminal.symm.trans ongoing) (by decide)
  · unfold Recorded
    rw [current]
    exact recorded
  · simp only [initializeIdentity, AgentRun.withStatus]
    cases before.status.phase <;> simp

theorem reconcileValid_rule (accepted : Accepted r.ext before) :
    (jobSafety mode r).Triple (fun _ w => Fetched mode r before w) (reconcileValid r before)
      fun _ _ _ => True := by
  unfold reconcileValid
  split
  · exact (reconcileTerminal_rule accepted).consequence (fun _ _ h => h.held) fun _ _ _ => id
  · next active =>
    have carried := carried_working mode r before
    rw [Bool.not_eq_true] at active
    split
    · next cancelled =>
      refine Contract.Triple.bind (Q := fun run' _ w => Working mode r before run' w) ?_ fun run' => ?_
      · exact (carried.initializeCancellationStatus before).consequence (fun _ _ h => h.working accepted active)
          fun _ _ _ => id
      · exact (reconcileCancellation_rule run' cancelled).bind fun outcome => finish_rule _ outcome
    · next uncancelled =>
      have running : before.spec.desiredState = .running := by
        cases state : before.spec.desiredState with
        | running => rfl
        | cancelled => exact absurd state uncancelled
      refine Contract.Triple.bind (Q := fun run' _ w => Working mode r before run' w) ?_ fun run' => ?_
      · exact (carried.initializeAcceptedStatus before).consequence (fun _ _ h => h.working accepted active)
          fun _ _ _ => id
      · refine (reconcilePrerequisites_rule run' running).bind fun outcome => ?_
        split
        · next allowed => exact retry_rule outcome.run _ accepted (Bool.and_eq_true_iff.mp allowed).2
        · exact finish_rule _ outcome

/-! ### Invalid and deleted runs -/

/-- A run that the validation rejects has no live Job and no recorded one. -/
theorem RunInv.rejected (inv : RunInv mode r before w) (ceiling : before.spec.retryPolicy.maxAttempts ≤ 10)
    {reason : String} (invalid : validateAgentRun r.ext before = .error reason) :
    before.status.jobName = "" ∧ before.status.attempt ≤ before.spec.attempt ∧
      (mode.orderly → ∀ k, w.live (jobNameOf before k) = false) := by
  have unaccepted : ¬ Accepted r.ext before := by
    intro accepted
    rw [accepted.validateAgentRun ceiling inv.bounded] at invalid
    cases invalid
  refine ⟨inv.named.resolve_right fun h => unaccepted h.2, not_lt.mp (mt inv.advanced unaccepted), fun orderly k => ?_⟩
  by_contra live
  exact unaccepted (inv.only orderly k (by simpa using live)).2.1

theorem initializeInvalidStatus_rule {reason : String} (invalid : validateAgentRun r.ext before = .error reason) :
    (jobSafety mode r).Triple (fun _ w => Held mode r before w) (initializeInvalidStatus before)
      fun run' _ w => Ready mode r before run' w := by
  refine ((carried_ready mode r before).setConditions _ _).consequence (fun _ w held => ?_) fun _ _ _ => id
  have inv : w.run = before → RunInv mode r before w := fun fresh => fresh ▸ held.inv.run
  refine ⟨held, rfl, rfl, fun fresh => ?_, fun fresh k recorded => ?_⟩
  · obtain ⟨unnamed, -, ended⟩ := (inv fresh).rejected (fresh ▸ held.inv.ceiling) invalid
    refine ⟨.inl (if_pos (le_refl _)), .inr (le_refl _), .inl unnamed, fun retried => absurd retried (lt_irrefl _),
      fun orderly k live => ?_, fun _ _ _ counted => ended counted.1 _⟩
    exact absurd (live.symm.trans (ended orderly k)) (by decide)
  · -- the rejected attempt was the scheduled one, and so it stays
    obtain ⟨unnamed, scheduled, -⟩ := (inv fresh).rejected (fresh ▸ held.inv.ceiling) invalid
    have current : currentAttempt before = before.spec.attempt := by
      unfold currentAttempt
      split <;> omega
    rcases recorded with later | ⟨-, named⟩
    · exact .inl (lt_of_lt_of_eq later (current.trans (if_pos (le_refl _)).symm))
    · exact absurd (named.symm.trans unnamed) (jobNameOf_ne_empty before k)

/-- The run in memory may differ from the persisted one in its metadata. -/
theorem carried_edited (mode : Mode) (r : Reconciler) (before : AgentRun) :
    Carried (jobSafety mode r) fun run w => Ready mode r before { run with metadata := before.metadata } w where
  untouched := fun untouched ready => ready.untouched untouched
  keeps := fun quiet untouched ready => keeps_of_untouched ready.held.inv quiet untouched
  core := fun ready _ same => ready.core ⟨rfl, same.spec, same.phase, same.attempt, same.jobName⟩

/-- The note that a finalizer could not be removed is written under the version that was read. -/
theorem finalizerFailure_rule (finalizers : List String) :
    (jobSafety mode r).Triple (fun _ w => Held mode r before w)
      (do
        let edited := { before with metadata := { before.metadata with finalizers } }
        let after ← setCondition edited .cleanupPending .true "FinalizerRemovalFailed"
          "Cleanup completed but finalizer removal could not make progress"
        let _ ← patchStatusIfChanged edited after
        return ({ result := ⟨cleanupRequeue⟩ } : ReconcileResult)) fun _ _ _ => True := by
  refine Contract.Triple.bind
    (Q := fun after _ w => Ready mode r before { after with metadata := before.metadata } w) ?_ fun after => ?_
  · exact ((carried_edited mode r before).setCondition _ _ _ _ _).consequence (fun _ _ h => h.ready) fun _ _ _ => id
  · refine Contract.Triple.bind (Q := fun _ _ _ => True) ?_ fun _ => Contract.Triple.pure fun _ _ _ => trivial
    unfold patchStatusIfChanged
    split
    · exact Contract.Triple.pure fun _ _ _ => trivial
    · refine (patchRunStatus_rule { after with metadata := before.metadata }).bind fun res => ?_
      split <;> exact Contract.Triple.pure fun _ _ _ => trivial

theorem reconcileDeletion_rule :
    (jobSafety mode r).Triple (fun _ w => Held mode r before w) (reconcileDeletion before)
      fun _ _ _ => True := by
  unfold reconcileDeletion
  split
  · exact Contract.Triple.pure fun _ _ _ => trivial
  · refine Contract.Triple.bind (Q := fun cleanup _ w => Ready mode r before cleanup.run w) ?_ fun cleanup => ?_
    · exact ((carried_ready mode r before).reconcileCleanup before).consequence (fun _ _ h => h.ready) fun _ _ _ => id
    · refine (patchStatusIfChanged_rule cleanup.run).bind fun res => ?_
      split
      · exact Contract.Triple.pure fun _ _ _ => trivial
      · next changed run =>
        split
        · exact Contract.Triple.pure fun _ _ _ => trivial
        · refine Contract.Triple.bind (Q := fun _ _ w => Ready mode r run run w) ?_ fun res => ?_
          · exact ((carried_ready mode r run).call' run rfl).consequence (fun _ _ h => (h changed run rfl).ready)
              fun _ _ _ => id
          · split
            · exact Contract.Triple.pure fun _ _ _ => trivial
            · exact (finalizerFailure_rule _).consequence (fun _ _ h => h.held) fun _ _ _ => id

end Branches

/-! ## The controller -/

section Controller

variable {mode : Mode} {r : Reconciler} {before : AgentRun}

theorem Fetched.untouched {w w' : World} (fetched : Fetched mode r before w) (untouched : Untouched w w') :
    Fetched mode r before w' where
  held := fetched.held.untouched untouched
  unrecorded := fun orderly strict cancelled unnamed =>
    not_live_of_quiet untouched.quiet (fetched.unrecorded orderly strict cancelled unnamed)

theorem getRun_rule :
    (jobSafety mode r).Triple (fun _ w => Inv mode r w) (call .getRun)
      fun res _ w => ∀ run, res = .ok run → Fetched mode r run w := by
  refine Contract.Triple.perform (fun _ _ _ _ inv _ moved => inv.untouched (applyMove_untouched moved))
    fun log w fault res w' inv assumed (answered : respond w .getRun fault = some (res, w')) => ?_
  obtain ⟨rfl, truthful⟩ := faulty_read answered
  refine ⟨keeps_of_untouched inv rfl (.refl _), ?_⟩
  rintro run rfl
  rcases truthful with ⟨seen, shown, same⟩ | ⟨e, same, -⟩
  · cases shown (assumed.current rfl)
    unfold readRun at same
    split at same
    · cases same
      exact ⟨.of_run inv, fun orderly strict => (assumed.orderly orderly).unrecorded strict rfl⟩
    · cases same
  · cases same

/-- A finalizer write that succeeds stores the run that was read. -/
theorem patchRunFinalizers_rule (finalizers : List String) :
    (jobSafety mode r).Triple (fun _ w => Fetched mode r before w)
      (call (.patchRunFinalizers before.metadata.resourceVersion finalizers)) fun res _ w =>
        ∀ run, res = .ok run → Fetched mode r run w ∧ SameIntent before run := by
  refine Contract.Triple.perform (fun _ _ _ _ h _ moved => h.untouched (applyMove_untouched moved))
    fun log w fault res w' fetched _
      (answered : respond w (.patchRunFinalizers before.metadata.resourceVersion finalizers) fault = some (res, w')) => ?_
  have untouched := respond_untouched rfl answered
  have after := fetched.untouched untouched
  refine ⟨keeps_of_untouched fetched.held.inv rfl untouched, ?_⟩
  rintro run rfl
  have stored : w'.run = run ∧ run.status = before.status ∧ run.spec = before.spec ∧ SameIntent before run := by
    obtain ⟨-, ok, rfl⟩ | ⟨e, -, -, ok, -⟩ | ⟨e, -, -, ok, -⟩ := faulty_cases answered
    · unfold writeRun at ok ⊢
      split at ok
      · cases ok
      · split at ok
        · cases ok
        · next present version =>
          have fresh := fetched.held.fresh (not_ne_iff.mp version)
          cases ok
          rw [if_neg present, if_neg version]
          refine ⟨?_, by simp [World.setRun, fresh], by simp [World.setRun, fresh], ?_⟩
          · simp only [collectRun]
            split <;> rfl
          · constructor <;> simp [World.setRun, fresh]
    · cases ok
    · cases ok
  obtain ⟨rfl, status, spec, intent⟩ := stored
  refine ⟨⟨.of_run after.held.inv, fun orderly strict cancelled unnamed => ?_⟩, intent⟩
  rw [after.held.jobName_eq]
  exact after.unrecorded orderly strict (spec ▸ cancelled) (status ▸ unnamed)

theorem reconcile_rule :
    (jobSafety mode r).Triple (fun _ w => Inv mode r w) (reconcile r) fun _ _ _ => True := by
  refine getRun_rule.bind fun res => ?_
  split
  · exact Contract.Triple.pure fun _ _ _ => trivial
  · exact Contract.Triple.pure fun _ _ _ => trivial
  · next run =>
    split
    · exact reconcileDeletion_rule.consequence (fun _ _ h => (h run rfl).held) fun _ _ _ => id
    · split
      · next invalid =>
        refine Contract.Triple.bind (Q := fun run' _ w => Ready mode r run run' w) ?_ fun run' =>
          finish_rule _ { run := run', error := some ⟨.permanent, "InvalidSpec"⟩ }
        exact (initializeInvalidStatus_rule invalid).consequence (fun _ _ h => (h run rfl).held) fun _ _ _ => id
      · next valid =>
        have accepted := (accepted_of_validateAgentRun valid).1
        split
        · refine Contract.Triple.bind
            (Q := fun res _ w => ∀ run', res = .ok run' → Fetched mode r run' w ∧ SameIntent run run') ?_ fun res => ?_
          · exact (patchRunFinalizers_rule _).consequence (fun _ _ h => h run rfl) fun _ _ _ => id
          · split
            · exact Contract.Triple.pure fun _ _ _ => trivial
            · next run' =>
              intro log w h
              obtain ⟨fetched, intent⟩ := h run' rfl
              exact reconcileValid_rule (accepted.mono intent) log w fetched
        · exact (reconcileValid_rule accepted).consequence (fun _ _ h => h run rfl) fun _ _ _ => id

/-- The invariant carries the contract through every run of the controller. -/
theorem controller_carries (mode : Mode) (r : Reconciler) :
    (jobSafety mode r).Carries (controller r) (Inv mode r) where
  moves := fun _ _ _ _ inv _ moved => inv.untouched (applyMove_untouched moved)
  keeps := fun _ _ _ _ _ kept => kept.inv
  start := fun w inv =>
    (reconcile_rule.bind fun _ => Contract.Triple.pure fun _ _ _ => trivial : (jobSafety mode r).Triple
      (fun _ w => Inv mode r w) (controller r) fun _ _ _ => True) [] w inv

end Controller

end AgentForge.Operator
