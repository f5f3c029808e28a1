import Mathlib.Logic.Basic

/-!
# Machines

A machine is a partial step function on states and actions. Its runs are lists of actions; a condition on the
actions that may be taken in a state restricts them.
-/

set_option autoImplicit false

namespace AgentForge.Lib.Machine

variable {State Action : Type} {step : State → Action → Option State} {ok : State → Action → Prop} {start s : State}

/-- The state after a list of actions. -/
def run (step : State → Action → Option State) : List Action → State → Option State
  | [], s => some s
  | a :: rest, s => (step s a).bind (run step rest)

/-- The states that actions meeting a condition lead to. -/
inductive Reaches (step : State → Action → Option State) (ok : State → Action → Prop) (start : State) : State → Prop where
  | refl : Reaches step ok start start
  | next {s t : State} (reached : Reaches step ok start s) (a : Action) (allowed : ok s a) (moved : step s a = some t) :
      Reaches step ok start t

/-- The states that any actions lead to. -/
abbrev Reachable (step : State → Action → Option State) (start : State) : State → Prop :=
  Reaches step (fun _ _ => True) start

/-- What holds at the start and is kept by the allowed steps holds in every state reached. -/
theorem Reaches.invariant {I : State → Prop} (reached : Reaches step ok start s) (initial : I start)
    (keep : ∀ {s t a}, I s → ok s a → step s a = some t → I t) : I s := by
  induction reached with
  | refl => exact initial
  | next _ a allowed moved ih => exact keep ih allowed moved

theorem Reaches.trans {t : State} (front : Reaches step ok start s) (back : Reaches step ok s t) :
    Reaches step ok start t := by
  induction back with
  | refl => exact front
  | next _ a allowed moved ih => exact .next ih a allowed moved

/-- The steps that a condition allows. -/
def guarded (step : State → Action → Option State) (ok : State → Action → Prop) [∀ s a, Decidable (ok s a)] (s : State)
    (a : Action) : Option State :=
  if ok s a then step s a else none

theorem reaches_of_run [∀ s a, Decidable (ok s a)] {actions : List Action} {t : State}
    (ran : run (guarded step ok) actions s = some t) : Reaches step ok s t := by
  induction actions generalizing s with
  | nil =>
    cases ran
    exact .refl
  | cons a rest ih =>
    obtain ⟨u, first, others⟩ := Option.bind_eq_some_iff.mp ran
    rw [guarded] at first
    split at first
    next allowed => exact .trans (.next .refl a allowed first) (ih others)
    next => cases first

theorem reachable_of_run {actions : List Action} {t : State} (ran : run step actions s = some t) :
    Reachable step s t := by
  induction actions generalizing s with
  | nil =>
    cases ran
    exact .refl
  | cons a rest ih =>
    obtain ⟨u, first, others⟩ := Option.bind_eq_some_iff.mp ran
    exact .trans (.next .refl a trivial first) (ih others)

end AgentForge.Lib.Machine
