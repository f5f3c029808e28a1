import AgentForge.Platform.SchedulingPrograms

/-!
# Every interleaving is a serial history

The programs keep the discipline, so any interleaving of any number of calls ends them one after the other, each
with a `Commit` or without an effect. What the later modules prove of the platform is proved of these histories.
-/

set_option autoImplicit false

namespace AgentForge.Platform

open Operator Lib

/-- How a call ends: it commits, or it is rolled back and changes nothing. -/
def spec : platform.Spec := fun call result held before after =>
  match result with
  | .ok reply => Commit held before call reply after
  | .error _ => after = before

theorem implements (call : Call) : Implements call := by
  cases call with
  | create request => exact create_implements request
  | transitionRun request => exact transitionAndSave_implements request
  | transitionAttempt request => exact transitionAndSaveAttempt_implements request
  | cancel request => exact cancel_implements request
  | retry request => exact retry_implements request
  | claim request => exact claim_implements request
  | renew request => exact renew_implements request
  | evaluate run now => exact evaluate_implements run now
  | schedule request => exact schedule_implements request
  | deferCapacity request => exact deferCapacity_implements request
  | reject request => exact reject_implements request
  | reserve request => exact reserve_implements request
  | transitionReservation request => exact transitionReservation_implements request
  | registerCluster write => exact registerCluster_implements write
  | updateCluster write expectedVersion => exact updateClusterMetadata_implements write expectedVersion
  | administer change => exact administer_implements change

/-- The platform keeps its discipline. -/
theorem respects : Respects platform discipline spec where
  runs call db consistent := by
    refine (implements call db consistent).weaken fun result pending held db' _ _ commits => ?_
    cases result with
    | error e => rfl
    | ok reply => exact commits reply rfl
  inv consistent commit := Commit.consistent consistent commit
  guarantee consistent commit := Commit.growth consistent commit
  frame consistent commit free := Commit.frame consistent commit free

/-! ## Histories -/

/-- A call that ended, in a consistent database. -/
structure Ended (o : platform.Outcome) : Prop where
  consistent : Consistent o.before
  spec : ∃ held, spec o.txn o.result held o.before o.after

/-- Calls that ended one after the other, starting without runs and reservations. -/
structure History (start : Db) (outcomes : List platform.Outcome) (last : Db) : Prop where
  fresh : start.Fresh
  chain : Protocol.Chain platform start outcomes last
  ended : ∀ o ∈ outcomes, Ended o

/-- Interleavings are histories. -/
theorem history_of_reachable {start : Db} {s : platform.System} (fresh : start.Fresh)
    (reachable : Protocol.Reachable start s) : History start s.history s.db := by
  have sound := respects.sound fresh.consistent reachable
  refine ⟨fresh, sound.chain, fun o member => ?_⟩
  obtain ⟨consistent, met⟩ := sound.met o member
  exact ⟨consistent, met⟩

/-- How a call ended. -/
theorem Ended.cases {o : platform.Outcome} (ended : Ended o) :
    (∃ reply held, o.result = .ok reply ∧ Commit held o.before o.txn reply o.after) ∨
      (∃ e, o.result = .error e) ∧ o.after = o.before := by
  obtain ⟨held, meets⟩ := ended.spec
  cases result : o.result with
  | ok reply =>
    rw [result] at meets
    exact .inl ⟨reply, held, rfl, meets⟩
  | error e =>
    rw [result] at meets
    exact .inr ⟨⟨e, rfl⟩, meets⟩

theorem Ended.commit {call : Call} {reply : call.Reply} {before after : Db}
    (ended : Ended ⟨call, .ok reply, before, after⟩) : ∃ held, Commit held before call reply after := ended.spec

theorem Ended.growth {o : platform.Outcome} (ended : Ended o) : Growth o.before o.after := by
  rcases ended.cases with ⟨reply, held, -, commit⟩ | ⟨-, same⟩
  · exact commit.growth ended.consistent
  · rw [same]
    exact .refl _

namespace History

variable {start last : Db} {outcomes : List platform.Outcome} {front back : List platform.Outcome}

/-- What every commit keeps holds at the end of a history. -/
theorem invariant (history : History start outcomes last) {I : Db → Prop} (initial : I start)
    (keep : ∀ {held call reply before after}, Consistent before → Commit held before call reply after → I before → I after) :
    I last := by
  refine history.chain.invariant initial fun o member holds => ?_
  have ended := history.ended o member
  rcases ended.cases with ⟨reply, held, -, commit⟩ | ⟨-, same⟩
  · exact keep ended.consistent commit holds
  · rw [same]
    exact holds

theorem consistent (history : History start outcomes last) : Consistent last :=
  history.invariant history.fresh.consistent fun consistent commit _ => commit.consistent consistent

/-- The history up to one of its calls. -/
theorem upTo {o : platform.Outcome} (history : History start (front ++ o :: back) last) :
    History start front o.before :=
  ⟨history.fresh, history.chain.split.1, fun p member => history.ended p (by simp [member])⟩

theorem ended_at {o : platform.Outcome} (history : History start (front ++ o :: back) last) : Ended o :=
  history.ended o (by simp)

/-- What happened since a call let the rows grow. -/
theorem growth_since {o : platform.Outcome} (history : History start (front ++ o :: back) last) :
    Growth o.after last := by
  refine history.chain.split.2.invariant (.refl _) fun p member grown => ?_
  exact grown.trans (history.ended p (by simp [member])).growth

/-- What happened between two calls let the rows grow. -/
theorem growth_between {middle : List platform.Outcome} {o p : platform.Outcome}
    (history : History start (front ++ o :: (middle ++ p :: back)) last) : Growth o.after p.before := by
  have whole : front ++ o :: (middle ++ p :: back) = (front ++ o :: middle) ++ p :: back := by simp
  rw [whole] at history
  exact history.upTo.growth_since

end History

end AgentForge.Platform
