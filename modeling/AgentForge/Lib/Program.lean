import Mathlib.Logic.Relation

/-!
# Programs over a shared server

A program performs one call at a time against a server that other clients change as well. Every
call is answered under a *fault* chosen by the environment, and between two calls the environment
may make any number of *moves*. An activation of the program may stop at any point.

* `Prog`: the programs, a free monad over the calls.
* `Server`, `Config`, `step`: the server, and the labelled transitions of one activation at a time.
* `Contract`, `wp`: a rely-guarantee logic. A contract says which answers and moves are assumed and
  what every call has to keep; `Carries.reaches` takes it to whole runs.
-/

set_option autoImplicit false

namespace AgentForge.Lib

/-- A program that calls `op`, continues with the answer of type `Res op`, and returns an `α`. -/
inductive Prog (Op : Type) (Res : Op → Type) (α : Type) where
  | pure (a : α) : Prog Op Res α
  | call (op : Op) (next : Res op → Prog Op Res α) : Prog Op Res α

namespace Prog

variable {Op : Type} {Res : Op → Type} {α β : Type}

/-- Run the first program, then the one its result selects. -/
def bind : Prog Op Res α → (α → Prog Op Res β) → Prog Op Res β
  | pure a, f => f a
  | call op next, f => call op fun res => (next res).bind f

instance : Monad (Prog Op Res) where
  pure := pure
  bind := bind

/-- The program of a single call. -/
def perform (op : Op) : Prog Op Res (Res op) :=
  call op pure

end Prog

/-- A server: how it answers a call under a fault, and the moves of its other clients. A fault or
move that is impossible in a world gives `none`. -/
structure Server (Op : Type) (Res : Op → Type) where
  World : Type
  Fault : Type
  Move : Type
  respond : World → (op : Op) → Fault → Option (Res op × World)
  move : Move → World → Option World

variable {Op : Type} {Res : Op → Type} {α β : Type}

/-- The result of a program whose calls are all answered under one fault, with nothing in between. -/
def Server.run (S : Server Op Res) (fault : S.Fault) : Prog Op Res α → S.World → Option (α × S.World)
  | .pure a, w => some (a, w)
  | .call op next, w =>
    match S.respond w op fault with
    | some (res, w') => S.run fault (next res) w'
    | none => none

theorem Server.run_bind {S : Server Op Res} {fault : S.Fault} {p : Prog Op Res α} {f : α → Prog Op Res β}
    {w w' : S.World} {a : α} (first : S.run fault p w = some (a, w')) :
    S.run fault (p >>= f) w = S.run fault (f a) w' := by
  induction p generalizing w with
  | pure b => cases first; rfl
  | call op next ih =>
    simp only [Server.run] at first
    split at first
    · next res w₁ answered =>
      change S.run fault (.call op fun res => (next res).bind f) w = _
      simp only [Server.run, answered]
      exact ih res first
    · cases first

theorem Server.run_perform {S : Server Op Res} {fault : S.Fault} {op : Op} {w w' : S.World} {res : Res op}
    (answered : S.respond w op fault = some (res, w')) :
    S.run fault (Prog.perform op) w = some (res, w') := by
  simp only [Prog.perform, Server.run, answered]

/-- A call together with its answer. -/
abbrev Event (Op : Type) (Res : Op → Type) := (op : Op) × Res op

/-- A running activation: what it has called so far, newest first, and what it still has to do. -/
structure Task (Op : Type) (Res : Op → Type) where
  log : List (Event Op Res)
  rest : Prog Op Res Unit

/-- A server together with the activation in progress, if there is one. -/
structure Config (S : Server Op Res) where
  world : S.World
  task : Option (Task Op Res)

/-- The calls of the activation in progress. -/
def Config.log {S : Server Op Res} (c : Config S) : List (Event Op Res) :=
  match c.task with
  | some t => t.log
  | none => []

/-- One transition: an activation starts, its next call is answered, another client moves, or the
activation stops because it returned or its process died. -/
inductive Label (S : Server Op Res) where
  | start
  | answer (fault : S.Fault)
  | move (m : S.Move)
  | stop

section System

variable (S : Server Op Res) (main : Prog Op Res Unit)

/-- The successor of a configuration under a label. -/
def step (c : Config S) : Label S → Option (Config S)
  | .start =>
    match c.task with
    | none => some ⟨c.world, some ⟨[], main⟩⟩
    | some _ => none
  | .answer fault =>
    match c.task with
    | some ⟨log, .call op next⟩ =>
      match S.respond c.world op fault with
      | some (res, w) => some ⟨w, some ⟨⟨op, res⟩ :: log, next res⟩⟩
      | none => none
    | _ => none
  | .move m => (S.move m c.world).map fun w => ⟨w, c.task⟩
  | .stop => some ⟨c.world, none⟩

/-- The configuration after a list of labels that all pass a check. -/
def execute (check : Config S → Label S → Bool) : List (Label S) → Config S → Option (Config S)
  | [], c => some c
  | l :: ls, c =>
    if check c l then
      match step S main c l with
      | some d => execute check ls d
      | none => none
    else none

/-- `d` is reached from `c` by transitions that all meet `ok`. -/
inductive Reaches (ok : Config S → Label S → Prop) (c : Config S) : Config S → Prop where
  | refl : Reaches ok c c
  | step {d e : Config S} (reached : Reaches ok c d) (l : Label S) (allowed : ok d l)
      (next : step S main d l = some e) : Reaches ok c e

variable {S main} {c d : Config S}

theorem Reaches.trans {ok : Config S → Label S → Prop} {e : Config S} (front : Reaches S main ok c d)
    (back : Reaches S main ok d e) : Reaches S main ok c e := by
  induction back with
  | refl => exact front
  | step _ l allowed next ih => exact .step ih l allowed next

theorem Reaches.mono {ok ok' : Config S → Label S → Prop} (reached : Reaches S main ok c d)
    (weaken : ∀ c l, ok c l → ok' c l) : Reaches S main ok' c d := by
  induction reached with
  | refl => exact .refl
  | step _ l allowed next ih => exact .step ih l (weaken _ l allowed) next

variable {check : Config S → Label S → Bool} {ls : List (Label S)}

/-- Executing labels is a run whose transitions meet what the check implies. -/
theorem execute_reaches {ok : Config S → Label S → Prop} (sound : ∀ c l, check c l = true → ok c l)
    (run : execute S main check ls c = some d) : Reaches S main ok c d := by
  induction ls generalizing c with
  | nil => cases run; exact .refl
  | cons l ls ih =>
    simp only [execute] at run
    split at run
    · next passed =>
      split at run
      · next e first => exact Reaches.trans (.step .refl l (sound c l passed) first) (ih run)
      · cases run
    · cases run

/-- A configuration with a decidable property that labels lead to is reached. -/
theorem exists_reaches {ok : Config S → Label S → Prop} (sound : ∀ c l, check c l = true → ok c l)
    {P : Config S → Bool} (run : (execute S main check ls c).any P = true) :
    ∃ d, Reaches S main ok c d ∧ P d = true := by
  obtain ⟨d, executed, holds⟩ := (Option.any_eq_true _ _).mp run
  exact ⟨d, execute_reaches sound executed, holds⟩

theorem exists_reaches_any {P : Config S → Bool} (run : (execute S main (fun _ _ => true) ls c).any P = true) :
    ∃ d, Reaches S main (fun _ _ => True) c d ∧ P d = true :=
  exists_reaches (fun _ _ _ => trivial) run

end System

/-- What a proof assumes about the environment, and what every call must keep. -/
structure Contract (S : Server Op Res) where
  /-- The answers assumed: the fault at this call, in this world, after these events. -/
  answers : S.World → List (Event Op Res) → Op → S.Fault → Prop
  /-- The moves assumed in this world after these events. -/
  moves : S.World → List (Event Op Res) → S.Move → Prop
  /-- What a call with this answer keeps, from the world before to the world after. -/
  keeps : S.World → (op : Op) → Res op → S.World → Prop

namespace Contract

variable {S : Server Op Res} (K : Contract S)

/-- The transitions that meet the assumptions. -/
def ok (c : Config S) : Label S → Prop
  | .answer fault => ∀ log op next, c.task = some ⟨log, .call op next⟩ → K.answers c.world log op fault
  | .move m => K.moves c.world c.log m
  | .start => True
  | .stop => True

/-- Any number of assumed moves after the events `log`. -/
def Interference (log : List (Event Op Res)) : S.World → S.World → Prop :=
  Relation.ReflTransGen fun w w' => ∃ m, K.moves w log m ∧ S.move m w = some w'

/-- An assertion on the events and the world. -/
abbrev Assertion (S : Server Op Res) := List (Event Op Res) → S.World → Prop

/-- The assertion survives every assumed move. -/
def Stable (P : Assertion S) : Prop :=
  ∀ log w m w', P log w → K.moves w log m → S.move m w = some w' → P log w'

theorem Stable.interference {K : Contract S} {P : Assertion S} (stable : K.Stable P)
    {log : List (Event Op Res)} {w w' : S.World} (moved : K.Interference log w w') (h : P log w) :
    P log w' := by
  induction moved with
  | refl => exact h
  | tail _ last ih =>
    obtain ⟨m, assumed, moved⟩ := last
    exact stable log _ m _ ih assumed moved

/-- Every run of the program from these events and this world keeps the contract at each call and
ends in `Q`, whatever is assumed to happen between the calls. -/
def wp : Prog Op Res α → (α → Assertion S) → Assertion S
  | .pure a, Q, log, w => Q a log w
  | .call op next, Q, log, w =>
    ∀ w₁, K.Interference log w w₁ → ∀ fault res w₂, K.answers w₁ log op fault →
      S.respond w₁ op fault = some (res, w₂) →
      K.keeps w₁ op res w₂ ∧ wp (next res) Q (⟨op, res⟩ :: log) w₂

/-- From `P`, the program keeps the contract and ends in `Q`. -/
def Triple (P : Assertion S) (p : Prog Op Res α) (Q : α → Assertion S) : Prop :=
  ∀ log w, P log w → K.wp p Q log w

section Rules

variable {K} {P P' : Assertion S} {Q Q' : α → Assertion S} {R : β → Assertion S}
variable {p : Prog Op Res α} {log : List (Event Op Res)}

theorem wp_mono (weaken : ∀ a log w, Q a log w → Q' a log w) {w : S.World} (h : K.wp p Q log w) :
    K.wp p Q' log w := by
  induction p generalizing log w with
  | pure a => exact weaken a log w h
  | call op next ih =>
    intro w₁ moved fault res w₂ assumed answered
    obtain ⟨kept, rest⟩ := h w₁ moved fault res w₂ assumed answered
    exact ⟨kept, ih res rest⟩

theorem wp_bind {f : α → Prog Op Res β} {w : S.World} (h : K.wp p (fun a => K.wp (f a) R) log w) :
    K.wp (p >>= f) R log w := by
  induction p generalizing log w with
  | pure a => exact h
  | call op next ih =>
    intro w₁ moved fault res w₂ assumed answered
    obtain ⟨kept, rest⟩ := h w₁ moved fault res w₂ assumed answered
    exact ⟨kept, ih res rest⟩

/-- Assumed moves before the program do not matter to a stable postcondition. -/
theorem wp_interference (stable : ∀ a, K.Stable (Q a)) {w w' : S.World} (moved : K.Interference log w w')
    (h : K.wp p Q log w) : K.wp p Q log w' := by
  cases p with
  | pure a => exact (stable a).interference moved h
  | call op next =>
    intro w₁ further fault res w₂ assumed answered
    exact h w₁ (moved.trans further) fault res w₂ assumed answered

namespace Triple

theorem pure {a : α} (h : ∀ log w, P log w → Q a log w) : K.Triple P (pure a) Q :=
  h

theorem consequence {p : Prog Op Res α} (h : K.Triple P p Q) (strengthen : ∀ log w, P' log w → P log w)
    (weaken : ∀ a log w, Q a log w → Q' a log w) : K.Triple P' p Q' :=
  fun log w pre => wp_mono weaken (h log w (strengthen log w pre))

theorem bind {p : Prog Op Res α} {f : α → Prog Op Res β} (first : K.Triple P p Q)
    (rest : ∀ a, K.Triple (Q a) (f a) R) : K.Triple P (p >>= f) R :=
  fun log w pre => wp_bind (wp_mono (fun a log w h => rest a log w h) (first log w pre))

/-- A single call from a stable assertion. -/
theorem perform {op : Op} {Q : Res op → Assertion S} (stable : K.Stable P)
    (answer : ∀ log w fault res w', P log w → K.answers w log op fault →
      S.respond w op fault = some (res, w') → K.keeps w op res w' ∧ Q res (⟨op, res⟩ :: log) w') :
    K.Triple P (Prog.perform op) Q := by
  intro log w pre w₁ moved fault res w₂ assumed answered
  exact answer log w₁ fault res w₂ (stable.interference moved pre) assumed answered

end Triple

end Rules

/-- The activation in progress keeps the contract to its end. -/
def Safe (c : Config S) : Prop :=
  match c.task with
  | some t => K.wp t.rest (fun _ _ _ => True) t.log c.world
  | none => True

theorem safe_idle (w : S.World) : K.Safe ⟨w, none⟩ := trivial

/-- A world invariant that carries the contract: moves and kept calls preserve it, and an activation
started in it is safe. -/
structure Carries (main : Prog Op Res Unit) (I : S.World → Prop) : Prop where
  moves : ∀ log w m w', I w → K.moves w log m → S.move m w = some w' → I w'
  keeps : ∀ w op res w', I w → K.keeps w op res w' → I w'
  start : ∀ w, I w → K.wp main (fun _ _ _ => True) [] w

variable {K} {main : Prog Op Res Unit} {I : S.World → Prop}

/-- An answered call of a safe activation keeps the contract and leaves the activation safe. -/
theorem Safe.answer {c d : Config S} (safe : K.Safe c) {log : List (Event Op Res)} {op : Op}
    {next : Res op → Prog Op Res Unit} {fault : S.Fault} (task : c.task = some ⟨log, .call op next⟩)
    (assumed : K.answers c.world log op fault) (stepped : step S main c (.answer fault) = some d) :
    ∃ res, K.keeps c.world op res d.world ∧ K.Safe d := by
  simp only [Safe, task] at safe
  simp only [step, task] at stepped
  split at stepped
  · next res w answered =>
    cases stepped
    obtain ⟨kept, rest⟩ := safe c.world .refl fault res w assumed answered
    exact ⟨res, kept, rest⟩
  · cases stepped

theorem Carries.step (carries : K.Carries main I) {c d : Config S} {l : Label S}
    (inv : I c.world) (safe : K.Safe c) (allowed : K.ok c l) (stepped : step S main c l = some d) :
    I d.world ∧ K.Safe d := by
  cases l with
  | start =>
    cases task : c.task with
    | none =>
      simp only [Lib.step, task] at stepped
      cases stepped
      exact ⟨inv, carries.start c.world inv⟩
    | some t => simp [Lib.step, task] at stepped
  | answer fault =>
    cases task : c.task with
    | none => simp [Lib.step, task] at stepped
    | some t =>
      obtain ⟨log, rest⟩ := t
      cases rest with
      | pure a => simp [Lib.step, task] at stepped
      | call op next =>
        obtain ⟨res, kept, after⟩ := safe.answer task (allowed log op next task) stepped
        exact ⟨carries.keeps _ op res _ inv kept, after⟩
  | move m =>
    simp only [Lib.step, Option.map_eq_some_iff] at stepped
    obtain ⟨w, moved, rfl⟩ := stepped
    refine ⟨carries.moves c.log _ m w inv allowed moved, ?_⟩
    cases task : c.task with
    | none => simp [Safe]
    | some t =>
      simp only [Safe, task] at safe ⊢
      have assumed : K.moves c.world t.log m := by simpa [Contract.ok, Config.log, task] using allowed
      exact wp_interference (fun _ _ _ _ _ _ _ _ => trivial) (.single ⟨m, assumed, moved⟩) safe
  | stop =>
    cases stepped
    exact ⟨inv, trivial⟩

/-- The invariant, and the safety of the activation in progress, hold in every configuration reached
by assumed transitions. -/
theorem Carries.reaches (carries : K.Carries main I) {c d : Config S} (inv : I c.world)
    (safe : K.Safe c) (reached : Reaches S main K.ok c d) : I d.world ∧ K.Safe d := by
  induction reached with
  | refl => exact ⟨inv, safe⟩
  | step _ l allowed stepped ih => exact carries.step ih.1 ih.2 allowed stepped

end Contract

end AgentForge.Lib
