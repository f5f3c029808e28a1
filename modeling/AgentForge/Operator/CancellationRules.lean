import AgentForge.Operator.PrerequisiteRules

/-!
# Cancellation keeps the contract

A cancelled run ends in `Cancelled` only when its Job is absent, or when none was recorded, and in
another terminal phase only on the evidence of the Job itself.
-/

set_option autoImplicit false

namespace AgentForge.Operator

open Lib

section Cancellation

variable {mode : Mode} {r : Reconciler} {before : AgentRun}

theorem recordCancellationError_rule (run : AgentRun) (reason : String) (e : ReconcileError) :
    (jobSafety mode r).Triple (fun _ w => Working mode r before run w) (recordCancellationError run reason e)
      fun outcome _ w => Ready mode r before outcome.run w :=
  ((carried_ready mode r before).recordCancellationError run reason e).consequence
    (fun _ _ h => (h.withPhase .cancelling rfl).ready) fun _ _ _ => id

/-- Cancellation is complete once no Job is live. -/
theorem Working.cancelled {run : AgentRun} {w : World} (working : Working mode r before run w)
    (ended : mode.orderly → mode.strict → w.live (currentJobName before) = false) :
    Ready mode r before (run.withPhase .cancelled) w :=
  working.readyPhase .cancelled fun _ counted _ => ended counted.1 (counted.2 rfl)

theorem terminateJob_rule (run : AgentRun) (job : Job) :
    (jobSafety mode r).Triple (fun _ w => Working mode r before run w) (terminateJob run job)
      fun outcome _ w => Ready mode r before outcome.run w := by
  have carried := carried_working mode r before
  refine (carried.orNow run _).bind fun started => (carried.now run).bind fun time => ?_
  refine Contract.Triple.bind (Q := fun run' _ w => Working mode r before run' w) ?_ fun run' => ?_
  · exact (carried.projectCancelling run _).consequence (fun _ _ h => h.withPhase .cancelling rfl) fun _ _ _ => id
  · split
    · refine (carried.forceDeleteExecution run' job).bind fun res => ?_
      split
      · exact recordCancellationError_rule run' _ _
      · exact Contract.Triple.pure fun _ _ h => h.ready
    · split
      · exact Contract.Triple.pure fun _ _ h => h.ready
      · refine (carried.deleteJob run' job false).bind fun res => ?_
        split
        · exact recordCancellationError_rule run' _ _
        · exact Contract.Triple.pure fun _ _ h => h.ready

theorem cancelJob_rule (run : AgentRun) (name : String) (job : Job) :
    (jobSafety mode r).Triple (JobRead mode r before run name job) (cancelJob r run job)
      fun outcome _ w => Ready mode r before outcome.run w := by
  unfold cancelJob
  split
  · exact (terminateJob_rule run job).consequence (fun _ _ h => h.working) fun _ _ _ => id
  · refine (listPods_rule run name job.metadata.name job).bind fun res => ?_
    split
    · exact (recordCancellationError_rule run _ _).consequence (fun _ _ h => h.1) fun _ _ _ => id
    · next pods =>
      dsimp only
      split
      · refine Contract.Triple.bind (Q := fun run' _ w => Ready mode r before run' w) ?_ fun run' =>
          Contract.Triple.pure fun _ _ => id
        refine ((carried_ready mode r before).projectLifecycle run _).consequence (fun _ w h => ?_) fun _ _ _ => id
        exact h.1.readyPhase _ fun terminal counted _ => h.2.2 pods rfl terminal counted.1
      · exact (terminateJob_rule run job).consequence (fun _ _ h => h.1) fun _ _ _ => id

theorem reconcileCancellation_rule (run : AgentRun) (cancelled : before.spec.desiredState = .cancelled) :
    (jobSafety mode r).Triple (fun _ w => Working mode r before run w) (reconcileCancellation r run)
      fun outcome _ w => Ready mode r before outcome.run w := by
  have carried := carried_ready mode r before
  unfold reconcileCancellation
  split
  · next unnamed =>
    refine Contract.Triple.bind (Q := fun run' _ w => Ready mode r before run' w) ?_ fun run' =>
      Contract.Triple.pure fun _ _ => id
    exact (carried.completeCancellation run false).consequence
      (fun _ _ h => h.cancelled fun orderly strict => h.unrecorded orderly strict cancelled unnamed) fun _ _ _ => id
  · split
    · exact recordCancellationError_rule run _ _
    · next names named =>
      obtain ⟨-, -, -, -, rfl⟩ := forAgentRun_eq_ok.mp named
      split
      · exact recordCancellationError_rule run _ _
      · next recorded =>
        have current : run.status.jobName = currentJobName run := not_ne_iff.mp recorded
        intro log w working
        refine Contract.Triple.bind (getJob_rule run (current.trans working.jobName_eq)) (fun res => ?_) log w working
        split
        · -- the Job is absent, and so it stays while the clock is read
          refine Contract.Triple.bind (Q := fun _ _ w => Ready mode r before (run.withPhase .cancelled) w) ?_
            fun time => ?_
          · exact (carried.now _).consequence (fun _ _ h => h.1.cancelled fun _ _ => h.2.1 rfl) fun _ _ _ => id
          · exact (carried.completeCancellation run _).bind fun run' => Contract.Triple.pure fun _ _ => id
        · exact (recordCancellationError_rule run _ _).consequence (fun _ _ h => h.1) fun _ _ _ => id
        · next job => exact (cancelJob_rule run _ job).consequence (fun _ _ h => h.1) fun _ _ _ => id

end Cancellation

end AgentForge.Operator
