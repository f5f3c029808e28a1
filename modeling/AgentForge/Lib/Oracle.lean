import AgentForge.Lib.Program

/-!
# Programs and an environment

One program that runs to its end, and an environment that answers every call as it likes. The environment may answer from all
that has happened, so what holds for every `Oracle` holds for every execution.
-/

set_option autoImplicit false

namespace AgentForge.Lib

variable {Op : Type} {Res : Op → Type} {α β ε : Type}

/-- The answer to a call, after the events so far, newest first. -/
abbrev Oracle (Op : Type) (Res : Op → Type) := List (Event Op Res) → (op : Op) → Res op

namespace Prog

/-- The result of a program, and all events. -/
def consult (answer : Oracle Op Res) : Prog Op Res α → List (Event Op Res) → α × List (Event Op Res)
  | .pure a, log => (a, log)
  | .call op next, log => (next (answer log op)).consult answer (⟨op, answer log op⟩ :: log)

variable {answer : Oracle Op Res} {log log' : List (Event Op Res)}

@[simp] theorem consult_pure {a : α} : (Pure.pure a : Prog Op Res α).consult answer log = (a, log) := rfl

@[simp] theorem consult_perform {op : Op} :
    (Prog.perform op : Prog Op Res (Res op)).consult answer log = (answer log op, ⟨op, answer log op⟩ :: log) := rfl

theorem consult_bind {p : Prog Op Res α} {f : α → Prog Op Res β} :
    (p >>= f).consult answer log = (f (p.consult answer log).1).consult answer (p.consult answer log).2 := by
  induction p generalizing log with
  | pure a => rfl
  | call op next ih => exact ih (answer log op)

/-- Events are only added. -/
theorem suffix_of_consult {p : Prog Op Res α} {a : α} (ran : p.consult answer log = (a, log')) : log <:+ log' := by
  induction p generalizing log with
  | pure b =>
    cases ran
    exact List.suffix_rfl
  | call op next ih => exact (List.suffix_cons _ _).trans (ih (answer log op) ran)

/-- Every event of a run is a call with the answer that the environment gave after the events before it. -/
theorem answered_of_consult {p : Prog Op Res α} {a : α} {before : List (Event Op Res)} {event : Event Op Res}
    (ran : p.consult answer log = (a, log')) (happened : event :: before <:+ log') :
    event :: before <:+ log ∨ event = ⟨event.1, answer before event.1⟩ := by
  induction p generalizing log with
  | pure b =>
    cases ran
    exact .inl happened
  | call op next ih =>
    rcases ih (answer log op) ran with earlier | answered
    · rcases List.suffix_cons_iff.mp earlier with now | earlier
      · cases now
        exact .inr rfl
      · exact .inl earlier
    · exact .inr answered

/-- A part of a run returned `a`. -/
def During (answer : Oracle Op Res) (log : List (Event Op Res)) (p : Prog Op Res α) (a : α) : Prop :=
  ∃ before after, p.consult answer before = (a, after) ∧ after <:+ log

end Prog

/-! ## Programs that may fail -/

section Failing

variable {answer : Oracle Op Res} {log log' : List (Event Op Res)} {p : ExceptT ε (Prog Op Res) α}
  {f : α → ExceptT ε (Prog Op Res) β}

theorem consult_bind_ok {b : β} : (p >>= f).run.consult answer log = (.ok b, log') ↔
    ∃ a mid, p.run.consult answer log = (.ok a, mid) ∧ (f a).run.consult answer mid = (.ok b, log') := by
  rw [ExceptT.run_bind, Prog.consult_bind]
  cases first : p.run.consult answer log with
  | mk result mid =>
    cases result with
    | ok a =>
      refine ⟨fun rest => ⟨a, mid, rfl, rest⟩, ?_⟩
      rintro ⟨_, _, same, rest⟩
      cases same
      exact rest
    | error e =>
      refine ⟨fun rest => ?_, ?_⟩
      · cases rest
      · rintro ⟨_, _, same, -⟩
        cases same

/-- The rest of a program whose first part succeeds. -/
theorem consult_bind_of_ok {a : α} {mid : List (Event Op Res)} (first : p.run.consult answer log = (.ok a, mid)) :
    (p >>= f).run.consult answer log = (f a).run.consult answer mid := by
  rw [ExceptT.run_bind, Prog.consult_bind, first]

theorem consult_pure_ok {a b : α} :
    (pure a : ExceptT ε (Prog Op Res) α).run.consult answer log = (.ok b, log') ↔ a = b ∧ log = log' := by
  refine ⟨fun same => ?_, ?_⟩
  · cases same
    exact ⟨rfl, rfl⟩
  · rintro ⟨rfl, rfl⟩
    rfl

theorem consult_lift_ok {p : Prog Op Res α} {a : α} :
    (liftM p : ExceptT ε (Prog Op Res) α).run.consult answer log = (.ok a, log') ↔ p.consult answer log = (a, log') := by
  have lifted : (liftM p : ExceptT ε (Prog Op Res) α).run.consult answer log =
      (.ok (p.consult answer log).1, (p.consult answer log).2) := Prog.consult_bind
  rw [lifted, Prod.ext_iff, Prod.ext_iff]
  simp

end Failing

end AgentForge.Lib
