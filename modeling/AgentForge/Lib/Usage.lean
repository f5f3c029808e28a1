import AgentForge.Lib.Program

/-!
# What a program calls

A usage says which calls a client may make after the events it has seen, and which answers it may count on. Nothing is
said of the server: a program that follows a usage does so against every server that gives such answers, whatever other
clients do in between. What the calls then do to the server is a matter of the server alone.

* `Stepped`: the transitions of the system as an inductive relation.
* `Usage.wp`, `Usage.Triple`: the rules for programs.
* `Usage.Returns`: programs of which only the result matters.
* `Usage.Safe`: the activation in progress follows the usage; `Safe.step` keeps it in every transition.
-/

set_option autoImplicit false

namespace AgentForge.Lib

/-! ## The four transitions -/

/-- The transitions of the system, one constructor for each label. -/
inductive Stepped {Op : Type} {Res : Op → Type} (S : Server Op Res) (main : Prog Op Res Unit) (c : Config S) :
    Label S → Config S → Prop
  | start (idle : c.task = none) : Stepped S main c .start ⟨c.world, some ⟨[], main⟩⟩
  | answer {fault : S.Fault} {log : List (Event Op Res)} {op : Op} {next : Res op → Prog Op Res Unit} {res : Res op}
    {w : S.World} (task : c.task = some ⟨log, .call op next⟩) (answered : S.respond c.world op fault = some (res, w)) :
    Stepped S main c (.answer fault) ⟨w, some ⟨⟨op, res⟩ :: log, next res⟩⟩
  | move {m : S.Move} {w : S.World} (moved : S.move m c.world = some w) : Stepped S main c (.move m) ⟨w, c.task⟩
  | stop : Stepped S main c .stop ⟨c.world, none⟩

theorem stepped_of_step {Op : Type} {Res : Op → Type} {S : Server Op Res} {main : Prog Op Res Unit} {c d : Config S}
    {l : Label S} (next : step S main c l = some d) : Stepped S main c l d := by
  cases l with
  | start =>
    cases task : c.task with
    | none =>
      simp only [step, task] at next
      cases next
      exact .start task
    | some t => simp [step, task] at next
  | answer fault =>
    cases task : c.task with
    | none => simp [step, task] at next
    | some t =>
      obtain ⟨log, rest⟩ := t
      cases rest with
      | pure a => simp [step, task] at next
      | call op continuation =>
        simp only [step, task] at next
        split at next
        · next res w answered =>
          cases next
          exact .answer task answered
        · cases next
  | move m =>
    simp only [step, Option.map_eq_some_iff] at next
    obtain ⟨w, moved, rfl⟩ := next
    exact .move moved
  | stop =>
    cases next
    exact .stop

/-- The calls that are allowed, and the answers that may be counted on, after the events of a log. -/
structure Usage (Op : Type) (Res : Op → Type) where
  calls : List (Event Op Res) → Op → Prop
  answers : List (Event Op Res) → (op : Op) → Res op → Prop

namespace Usage

variable {Op : Type} {Res : Op → Type} {α β : Type} (U : Usage Op Res)

/-- From these events the program makes only allowed calls and ends in `Q`. -/
def wp : Prog Op Res α → (α → List (Event Op Res) → Prop) → List (Event Op Res) → Prop
  | .pure a, Q, log => Q a log
  | .call op next, Q, log => U.calls log op ∧ ∀ res, U.answers log op res → wp (next res) Q (⟨op, res⟩ :: log)

/-- From `P`, the program makes only allowed calls and ends in `Q`. -/
def Triple (P : List (Event Op Res) → Prop) (p : Prog Op Res α) (Q : α → List (Event Op Res) → Prop) : Prop :=
  ∀ log, P log → U.wp p Q log

/-- An assertion that further events do not disturb. -/
def Lasting (P : List (Event Op Res) → Prop) : Prop := ∀ log e, P log → P (e :: log)

variable {U}

section Rules

variable {P P' : List (Event Op Res) → Prop} {Q Q' : α → List (Event Op Res) → Prop}
  {R : β → List (Event Op Res) → Prop}

theorem wp_mono {p : Prog Op Res α} (weaken : ∀ a log, Q a log → Q' a log) {log : List (Event Op Res)}
    (h : U.wp p Q log) : U.wp p Q' log := by
  induction p generalizing log with
  | pure a => exact weaken a log h
  | call op next ih => exact ⟨h.1, fun res given => ih res (h.2 res given)⟩

theorem wp_bind {p : Prog Op Res α} {f : α → Prog Op Res β} {log : List (Event Op Res)}
    (h : U.wp p (fun a => U.wp (f a) R) log) : U.wp (p >>= f) R log := by
  induction p generalizing log with
  | pure a => exact h
  | call op next ih => exact ⟨h.1, fun res given => ih res (h.2 res given)⟩

namespace Triple

theorem pure {a : α} (h : ∀ log, P log → Q a log) : U.Triple P (pure a) Q := h

theorem consequence {p : Prog Op Res α} (h : U.Triple P p Q) (strengthen : ∀ log, P' log → P log)
    (weaken : ∀ a log, Q a log → Q' a log) : U.Triple P' p Q' :=
  fun log pre => wp_mono weaken (h log (strengthen log pre))

theorem bind {p : Prog Op Res α} {f : α → Prog Op Res β} (first : U.Triple P p Q)
    (rest : ∀ a, U.Triple (Q a) (f a) R) : U.Triple P (p >>= f) R :=
  fun log pre => wp_bind (wp_mono (fun a log h => rest a log h) (first log pre))

theorem perform {op : Op} {Q : Res op → List (Event Op Res) → Prop} (allowed : ∀ log, P log → U.calls log op)
    (answer : ∀ log res, P log → U.answers log op res → Q res (⟨op, res⟩ :: log)) :
    U.Triple P (Prog.perform op) Q :=
  fun log pre => ⟨allowed log pre, fun res given => answer log res pre given⟩

end Triple

end Rules

/-! ## Programs of which only the result matters -/

variable (U) in
/-- The program may run at any time, and its result meets `R`. -/
def Returns (p : Prog Op Res α) (R : α → Prop) : Prop :=
  ∀ P : List (Event Op Res) → Prop, Lasting P → U.Triple P p fun a log => P log ∧ R a

namespace Returns

variable {p : Prog Op Res α} {R R' : α → Prop} {S : β → Prop}

theorem pure {a : α} (h : R a) : U.Returns (Pure.pure a) R :=
  fun _ _ => Triple.pure fun _ pre => ⟨pre, h⟩

theorem mono (returns : U.Returns p R) (weaken : ∀ a, R a → R' a) : U.Returns p R' :=
  fun P lasting => (returns P lasting).consequence (fun _ h => h) fun a _ h => ⟨h.1, weaken a h.2⟩

theorem bind {f : α → Prog Op Res β} (first : U.Returns p R) (rest : ∀ a, R a → U.Returns (f a) S) :
    U.Returns (p >>= f) S := by
  intro P lasting
  refine (first P lasting).bind fun a => ?_
  intro log h
  exact rest a h.2 P lasting log h.1

theorem perform {op : Op} (allowed : ∀ log, U.calls log op) : U.Returns (Prog.perform op) fun _ : Res op => True :=
  fun _ lasting => Triple.perform (fun log _ => allowed log) fun log _ pre _ => ⟨lasting log _ pre, trivial⟩

end Returns

/-! ## Activations -/

variable (U) in
/-- The activation in progress makes only allowed calls to its end. -/
def Safe : Option (Task Op Res) → Prop
  | some t => U.wp t.rest (fun _ _ => True) t.log
  | none => True

theorem Safe.calls {log : List (Event Op Res)} {op : Op} {next : Res op → Prog Op Res Unit}
    (safe : U.Safe (some ⟨log, .call op next⟩)) : U.calls log op := And.left safe

/-- Every transition keeps the activation safe, if the answer in it may be counted on. -/
theorem Safe.step {S : Server Op Res} {main : Prog Op Res Unit} (start : U.wp main (fun _ _ => True) []) {c d : Config S}
    {l : Label S} (safe : U.Safe c.task) (stepped : Stepped S main c l d)
    (given : ∀ fault log op next res w, l = .answer fault → c.task = some ⟨log, .call op next⟩ →
      S.respond c.world op fault = some (res, w) → U.answers log op res) : U.Safe d.task := by
  cases stepped with
  | start => exact start
  | @answer fault log op next res w task answered =>
    rw [task] at safe
    exact safe.2 res (given fault log op next res w rfl task answered)
  | move => exact safe
  | stop => trivial

end Usage

end AgentForge.Lib
