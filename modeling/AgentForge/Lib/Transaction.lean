import Mathlib.Logic.Relation
import Mathlib.Data.List.Basic

/-!
# Transactions over a shared database

A transaction is a sequence of statements. Each statement sees the committed database of its own moment
with the earlier changes of its transaction on top, and may lock keys, which its transaction then holds to
its end; a statement whose keys another transaction holds waits. The changes reach the database together,
when the transaction commits.

* `Statement`, `Tx`: the statements and the programs made of them.
* `Protocol`, `System`, `Step`: any number of transactions in progress, and the history of those that ended.
* `Discipline`: what the database keeps, and for each key what a transaction that does not hold it leaves
  alone. `Tx.Ensures` is what a program establishes when the others follow the discipline, and
  `Respects.history` takes it to every interleaving: the ended transactions form a serial history in which
  each one meets its specification at the moment it ends.
* `Tx.alone`: the result of a transaction that runs with nothing in between.
-/

set_option autoImplicit false

namespace AgentForge.Lib

/-- What a statement answers, changes and locks. -/
structure Effect (Key Write α : Type) where
  answer : α
  writes : List Write
  keys : List Key

/-- A statement, in the view of its transaction and given the keys that other transactions hold. -/
structure Statement (Db Key Write α : Type) where
  run : Db → (Key → Bool) → Effect Key Write α

/-- A transaction that commits with an `α` or is rolled back with an error. -/
inductive Tx (Db Key Write Err α : Type) : Type 1 where
  | done (a : α) : Tx Db Key Write Err α
  | fail (e : Err) : Tx Db Key Write Err α
  | call {β : Type} (s : Statement Db Key Write β) (next : β → Tx Db Key Write Err α) : Tx Db Key Write Err α

variable {Db Key Write Err α β : Type}

namespace Statement

/-- A query that locks nothing. -/
def query (read : Db → α) : Statement Db Key Write α :=
  ⟨fun db _ => ⟨read db, [], []⟩⟩

/-- A query that locks the rows it returns. -/
def lock (read : Db → α) (keys : α → List Key) : Statement Db Key Write α :=
  ⟨fun db _ => ⟨read db, [], keys (read db)⟩⟩

end Statement

namespace Tx

/-- Run the first program, then the one its result selects. -/
def bind : Tx Db Key Write Err α → (α → Tx Db Key Write Err β) → Tx Db Key Write Err β
  | done a, f => f a
  | fail e, _ => fail e
  | call s next, f => call s fun answer => (next answer).bind f

instance : Monad (Tx Db Key Write Err) where
  pure := done
  bind := bind

/-- The program of a single statement. -/
def perform (s : Statement Db Key Write α) : Tx Db Key Write Err α := call s done

/-- Go on only if the check passes. -/
def check (condition : Bool) (e : Err) : Tx Db Key Write Err Unit := if condition then done () else fail e

/-- The value of a computation that may fail. -/
def lift : Except Err α → Tx Db Key Write Err α
  | .ok a => done a
  | .error e => fail e

/-- A program over a part of the database: the keys and the changes are its own, the view is the whole one. -/
def embed {Key' Write' : Type} (onKey : Key' → Key) (onWrite : Write' → Write) :
    Tx Db Key' Write' Err α → Tx Db Key Write Err α
  | done a => done a
  | fail e => fail e
  | call s next =>
    call ⟨fun db others =>
        let effect := s.run db fun k => others (onKey k)
        ⟨effect.answer, effect.writes.map onWrite, effect.keys.map onKey⟩⟩
      fun answer => (next answer).embed onKey onWrite

/-- The program runs to its end. `views` has what a statement may see after the changes so far, which the program
adds to. -/
inductive Runs (views : List Write → Db → Prop) : Tx Db Key Write Err α → List Write → α → List Write → Prop where
  | done (a : α) (sofar : List Write) : Runs views (done a) sofar a sofar
  | call {γ : Type} {s : Statement Db Key Write γ} {next : γ → Tx Db Key Write Err α} {sofar writes : List Write} {a : α}
      {view : Db} {others : Key → Bool} (sees : views sofar view)
      (rest : Runs views (next (s.run view others).answer) (sofar ++ (s.run view others).writes) a writes) :
      Runs views (call s next) sofar a writes

@[simp] theorem pure_bind' (a : α) (f : α → Tx Db Key Write Err β) : (done a >>= f) = f a := rfl

@[simp] theorem fail_bind (e : Err) (f : α → Tx Db Key Write Err β) : ((fail e : Tx Db Key Write Err α) >>= f) = fail e := rfl

@[simp] theorem perform_bind (s : Statement Db Key Write α) (f : α → Tx Db Key Write Err β) :
    (perform s >>= f) = call s f := rfl

end Tx

/-! ## Interleaved transactions -/

/-- The transactions that clients may run. -/
structure Protocol (Db Key Write Err : Type) where
  Txn : Type
  Reply : Txn → Type
  program : (t : Txn) → Tx Db Key Write Err (Reply t)
  apply : Db → Write → Db

namespace Protocol

variable (P : Protocol Db Key Write Err)

/-- The database with a list of changes made. -/
def applyAll (db : Db) (writes : List Write) : Db := writes.foldl P.apply db

@[simp] theorem applyAll_nil (db : Db) : P.applyAll db [] = db := rfl

@[simp] theorem applyAll_cons (db : Db) (w : Write) (ws : List Write) :
    P.applyAll db (w :: ws) = P.applyAll (P.apply db w) ws := rfl

theorem applyAll_append (db : Db) (ws vs : List Write) :
    P.applyAll db (ws ++ vs) = P.applyAll (P.applyAll db ws) vs := List.foldl_append

/-- A transaction in progress: its changes so far, the keys it holds, and what it still has to do. -/
structure Session where
  txn : P.Txn
  pending : List Write
  held : List Key
  rest : Tx Db Key Write Err (P.Reply txn)

/-- A transaction that ended, with the database before and after its end. -/
structure Outcome where
  txn : P.Txn
  result : Except Err (P.Reply txn)
  before : Db
  after : Db

/-- The committed database, the transactions in progress and the history, oldest first. -/
structure System where
  db : Db
  sessions : List P.Session
  history : List P.Outcome

variable {P}

section Steps

variable [DecidableEq Key]

/-- The keys that some of the sessions hold. -/
def heldBy (sessions : List P.Session) (k : Key) : Bool := sessions.any fun s => k ∈ s.held

/-- One step of one of the transactions. A process may die at any point, which drops its session. -/
inductive Step : P.System → P.System → Prop where
  | start (db : Db) (sessions : List P.Session) (history : List P.Outcome) (t : P.Txn) :
      Step ⟨db, sessions, history⟩ ⟨db, ⟨t, [], [], P.program t⟩ :: sessions, history⟩
  | statement {db : Db} (front back : List P.Session) {history : List P.Outcome} {t : P.Txn}
      {pending : List Write} {held : List Key} {γ : Type} {s : Statement Db Key Write γ}
      {next : γ → Tx Db Key Write Err (P.Reply t)} {effect : Effect Key Write γ}
      (runs : s.run (P.applyAll db pending) (heldBy (front ++ back)) = effect)
      (free : ∀ k ∈ effect.keys, heldBy (front ++ back) k = false) :
      Step ⟨db, front ++ ⟨t, pending, held, .call s next⟩ :: back, history⟩
        ⟨db, front ++ ⟨t, pending ++ effect.writes, held ++ effect.keys, next effect.answer⟩ :: back, history⟩
  | commit {db : Db} (front back : List P.Session) {history : List P.Outcome} {t : P.Txn}
      {pending : List Write} {held : List Key} {a : P.Reply t} :
      Step ⟨db, front ++ ⟨t, pending, held, .done a⟩ :: back, history⟩
        ⟨P.applyAll db pending, front ++ back, history ++ [⟨t, .ok a, db, P.applyAll db pending⟩]⟩
  | rollback {db : Db} (front back : List P.Session) {history : List P.Outcome} {t : P.Txn}
      {pending : List Write} {held : List Key} {e : Err} :
      Step ⟨db, front ++ ⟨t, pending, held, .fail e⟩ :: back, history⟩
        ⟨db, front ++ back, history ++ [⟨t, .error e, db, db⟩]⟩
  | die {db : Db} (front back : List P.Session) {history : List P.Outcome} {s : P.Session} :
      Step ⟨db, front ++ s :: back, history⟩ ⟨db, front ++ back, history⟩

/-- The systems that interleavings reach from a database with no transaction in progress. -/
def Reachable (start : Db) (s : P.System) : Prop := Relation.ReflTransGen Step ⟨start, [], []⟩ s

end Steps

/-- The outcomes lead from the first database to the last, one after the other. -/
inductive Chain (P : Protocol Db Key Write Err) : Db → List P.Outcome → Db → Prop where
  | nil (db : Db) : Chain P db [] db
  | snoc {first last : Db} {history : List P.Outcome} (o : P.Outcome) (chain : Chain P first history o.before)
      (ends : o.after = last) : Chain P first (history ++ [o]) last

/-- What every outcome of a chain keeps of the history so far and the database. -/
theorem Chain.record {first last : Db} {history : List P.Outcome} (chain : Chain P first history last)
    {I : List P.Outcome → Db → Prop} (start : I [] first)
    (keep : ∀ past, ∀ o ∈ history, I past o.before → I (past ++ [o]) o.after) : I history last := by
  induction chain with
  | nil => exact start
  | snoc o chain ends ih =>
    subst ends
    exact keep _ o (by simp) (ih fun past p member => keep past p (by simp [member]))

/-- An invariant that every outcome of a chain keeps. -/
theorem Chain.invariant {first last : Db} {history : List P.Outcome} (chain : Chain P first history last)
    {I : Db → Prop} (start : I first) (keep : ∀ o ∈ history, I o.before → I o.after) : I last :=
  chain.record (I := fun _ db => I db) start fun _ o member => keep o member

/-- A chain passes through the databases around each of its outcomes. -/
theorem Chain.split {first last : Db} {front back : List P.Outcome} {o : P.Outcome}
    (chain : Chain P first (front ++ o :: back) last) :
    Chain P first front o.before ∧ Chain P o.after back last := by
  generalize whole : front ++ o :: back = history at chain
  induction chain generalizing back with
  | nil => simp at whole
  | @snoc last history p chain ends ih =>
    rcases List.eq_nil_or_concat back with rfl | ⟨back, q, rfl⟩
    · obtain ⟨rfl, rfl⟩ : front = history ∧ o = p := by simpa using List.append_inj' whole rfl
      exact ⟨chain, ends ▸ .nil _⟩
    · rw [List.concat_eq_append, ← List.cons_append, ← List.append_assoc] at whole
      obtain ⟨rfl, same⟩ := List.append_inj' whole rfl
      obtain rfl : q = p := by simpa using same
      obtain ⟨before, after⟩ := ih rfl
      rw [List.concat_eq_append]
      exact ⟨before, .snoc _ after ends⟩

end Protocol

/-! ## Disciplines -/

/-- What the database keeps (`inv`), how any commit may change it (`guarantee`), and how a commit of a
transaction that does not hold a key may change it (`frame`). -/
structure Discipline (Db Key : Type) where
  inv : Db → Prop
  guarantee : Db → Db → Prop
  frame : Key → Db → Db → Prop
  guarantee_refl : ∀ db, guarantee db db
  guarantee_trans : ∀ {a b c}, guarantee a b → guarantee b c → guarantee a c
  frame_refl : ∀ k db, frame k db db
  frame_trans : ∀ {k a b c}, frame k a b → frame k b c → frame k a c

namespace Discipline

variable (D : Discipline Db Key)

/-- What others may do to the database while some keys are held. -/
structure Rely (held : List Key) (before after : Db) : Prop where
  inv : D.inv after
  guarantee : D.guarantee before after
  frame : ∀ k ∈ held, D.frame k before after

variable {D}

theorem Rely.refl {held : List Key} {db : Db} (inv : D.inv db) : D.Rely held db db :=
  ⟨inv, D.guarantee_refl db, fun k _ => D.frame_refl k db⟩

theorem Rely.trans {held : List Key} {a b c : Db} (ab : D.Rely held a b) (bc : D.Rely held b c) : D.Rely held a c :=
  ⟨bc.inv, D.guarantee_trans ab.guarantee bc.guarantee,
    fun k member => D.frame_trans (ab.frame k member) (bc.frame k member)⟩

theorem Rely.mono {held less : List Key} {a b : Db} (rely : D.Rely held a b) (subset : less ⊆ held) :
    D.Rely less a b :=
  ⟨rely.inv, rely.guarantee, fun k member => rely.frame k (subset member)⟩

/-- What is relied on for some keys goes on while more are held. -/
theorem Rely.followed {held more : List Key} {a b c : Db} (ab : D.Rely held a b) (bc : D.Rely more b c)
    (subset : held ⊆ more) : D.Rely held a c :=
  ab.trans (bc.mono subset)

end Discipline

/-- What a transaction establishes at its end, whatever the others do between its statements: `Q` holds of
its result, its changes, the keys it holds and the committed database at that moment. -/
def Tx.Ensures (P : Protocol Db Key Write Err) (D : Discipline Db Key)
    (Q : Except Err α → List Write → List Key → Db → Prop) :
    Tx Db Key Write Err α → List Write → List Key → Db → Prop
  | .done a, pending, held, db => ∀ db', D.Rely held db db' → Q (.ok a) pending held db'
  | .fail e, pending, held, db => ∀ db', D.Rely held db db' → Q (.error e) pending held db'
  | .call s next, pending, held, db => ∀ db' others, D.Rely held db db' →
      (∀ k ∈ (s.run (P.applyAll db' pending) others).keys, others k = false) →
        Ensures P D Q (next (s.run (P.applyAll db' pending) others).answer)
          (pending ++ (s.run (P.applyAll db' pending) others).writes)
          (held ++ (s.run (P.applyAll db' pending) others).keys) db'

namespace Tx.Ensures

variable {P : Protocol Db Key Write Err} {D : Discipline Db Key}
  {Q : Except Err α → List Write → List Key → Db → Prop} {pending : List Write} {held : List Key}

variable {p : Tx Db Key Write Err α}

/-- The others may move before the next statement. -/
theorem interfere {db db' : Db} (ensures : p.Ensures P D Q pending held db) (rely : D.Rely held db db') :
    p.Ensures P D Q pending held db' := by
  cases p with
  | done a => exact fun db'' more => ensures db'' (rely.trans more)
  | fail e => exact fun db'' more => ensures db'' (rely.trans more)
  | call s next => exact fun db'' others more free => ensures db'' others (rely.trans more) free

/-- A weaker conclusion. The stronger one may use that the keys held at the start are still held and what the
others did since then. -/
theorem weaken {R : Except Err α → List Write → List Key → Db → Prop}
    {db : Db} (ensures : p.Ensures P D Q pending held db)
    (imp : ∀ r pending' held' db', D.Rely held db db' → held ⊆ held' → Q r pending' held' db' →
      R r pending' held' db') : p.Ensures P D R pending held db := by
  induction p generalizing pending held db with
  | done a => exact fun db' rely => imp _ _ _ _ rely (List.Subset.refl _) (ensures db' rely)
  | fail e => exact fun db' rely => imp _ _ _ _ rely (List.Subset.refl _) (ensures db' rely)
  | call s next ih =>
    intro db' others rely free
    refine ih _ (ensures db' others rely free) fun r pending' held' db'' more subset holds => ?_
    have kept : held ⊆ held' := List.Subset.trans (List.subset_append_left _ _) subset
    exact imp r pending' held' db'' (rely.trans (more.mono (List.subset_append_left _ _))) kept holds

/-- The sequence rule. -/
theorem bind {f : α → Tx Db Key Write Err β}
    {R : Except Err β → List Write → List Key → Db → Prop}
    {db : Db} (inv : D.inv db)
    (first : p.Ensures P D Q pending held db)
    (fails : ∀ e pending' held' db', Q (.error e) pending' held' db' → R (.error e) pending' held' db')
    (second : ∀ a pending' held' db', D.Rely held db db' → held ⊆ held' → Q (.ok a) pending' held' db' →
      (f a).Ensures P D R pending' held' db') : (p >>= f).Ensures P D R pending held db := by
  induction p generalizing pending held db with
  | done a =>
    exact second a pending held db (.refl inv) (List.Subset.refl _) (first db (.refl inv))
  | fail e => exact fun db' rely => fails _ _ _ _ (first db' rely)
  | call s next ih =>
    intro db' others rely free
    refine ih _ rely.inv (first db' others rely free) fun a pending' held' db'' more subset holds => ?_
    have kept : held ⊆ held' := List.Subset.trans (List.subset_append_left _ _) subset
    exact second a pending' held' db'' (rely.trans (more.mono (List.subset_append_left _ _))) kept holds

/-- A check that a transaction makes of values it has. -/
theorem check {c : Bool} {e : Err} {f : Unit → Tx Db Key Write Err α} {db : Db}
    (fails : c = false → (Tx.fail e : Tx Db Key Write Err α).Ensures P D Q pending held db)
    (passes : c = true → (f ()).Ensures P D Q pending held db) :
    (Tx.check c e >>= f).Ensures P D Q pending held db := by
  cases c with
  | false => exact fails rfl
  | true => exact passes rfl

/-- A computation that may fail. -/
theorem lift {x : Except Err β} {f : β → Tx Db Key Write Err α} {db : Db}
    (fails : ∀ e, x = .error e → (Tx.fail e : Tx Db Key Write Err α).Ensures P D Q pending held db)
    (passes : ∀ b, x = .ok b → (f b).Ensures P D Q pending held db) :
    (Tx.lift x >>= f).Ensures P D Q pending held db := by
  cases x with
  | error e => exact fails e rfl
  | ok b => exact passes b rfl

/-- A program over a part of the database runs to its end or fails, and its changes are the ones of the run. -/
theorem embed {Key' Write' : Type} (onKey : Key' → Key) (onWrite : Write' → Write) (p : Tx Db Key' Write' Err α)
    (pending : List Write) (sofar : List Write') (held : List Key) (db : Db) :
    (p.embed onKey onWrite).Ensures P D
      (fun r pending' _ _ => ∀ a, r = .ok a → ∃ writes,
        p.Runs (fun sofar view => ∃ base, view = P.applyAll base (pending ++ sofar.map onWrite)) sofar a writes ∧
          pending' = pending ++ writes.map onWrite)
      (pending ++ sofar.map onWrite) held db := by
  induction p generalizing sofar held db with
  | done a =>
    rintro db' - _ ⟨⟩
    exact ⟨sofar, .done a sofar, rfl⟩
  | fail e =>
    rintro db' - _ ⟨⟩
  | call s next ih =>
    intro db' others _ _
    dsimp only
    rw [List.append_assoc, ← List.map_append]
    refine weaken (ih _ _ _ _) fun r pending' held' db'' _ _ ran a result => ?_
    obtain ⟨writes, rest, same⟩ := ran a result
    exact ⟨writes, .call ⟨db', rfl⟩ rest, same⟩

end Tx.Ensures

/-! ## Interleavings are serial histories -/

/-- A specification: what is known when a transaction ends, of its result, the keys it holds, and the
database before and after. -/
abbrev Protocol.Spec (P : Protocol Db Key Write Err) :=
  (t : P.Txn) → Except Err (P.Reply t) → List Key → Db → Db → Prop

/-- The database a result leaves. -/
def Protocol.conclude (P : Protocol Db Key Write Err) (db : Db) (pending : List Write) : Except Err α → Db
  | .ok _ => P.applyAll db pending
  | .error _ => db

/-- Every transaction meets its specification under the discipline, and the specifications follow it. -/
structure Respects (P : Protocol Db Key Write Err) (D : Discipline Db Key) (spec : P.Spec) : Prop where
  runs : ∀ t db, D.inv db → (P.program t).Ensures P D
    (fun r pending held db' => spec t r held db' (P.conclude db' pending r)) [] [] db
  inv : ∀ {t a held before after}, D.inv before → spec t (.ok a) held before after → D.inv after
  guarantee : ∀ {t a held before after}, D.inv before → spec t (.ok a) held before after → D.guarantee before after
  frame : ∀ {t a held before after k}, D.inv before → spec t (.ok a) held before after → k ∉ held →
    D.frame k before after

namespace Respects

open Protocol

variable [DecidableEq Key] {P : Protocol Db Key Write Err} {D : Discipline Db Key} {spec : P.Spec}
  {front back : List P.Session}

/-- What a transaction in progress is owed. -/
def Owed (P : Protocol Db Key Write Err) (D : Discipline Db Key) (spec : P.Spec) (db : Db) (s : P.Session) : Prop :=
  s.rest.Ensures P D (fun r pending held db' => spec s.txn r held db' (P.conclude db' pending r)) s.pending s.held db

/-- No two transactions in progress hold the same key. -/
def Apart (s s' : P.Session) : Prop := ∀ k ∈ s.held, k ∉ s'.held

/-- The invariant of interleavings. -/
structure Sound (P : Protocol Db Key Write Err) (D : Discipline Db Key) (spec : P.Spec) (start : Db) (s : P.System) :
    Prop where
  inv : D.inv s.db
  chain : Chain P start s.history s.db
  met : ∀ o ∈ s.history, D.inv o.before ∧ ∃ held, spec o.txn o.result held o.before o.after
  owed : ∀ session ∈ s.sessions, Owed P D spec s.db session
  apart : s.sessions.Pairwise Apart

omit [DecidableEq Key] in
theorem Apart.symm {s s' : P.Session} (apart : Apart s s') : Apart s' s := fun k member other => apart k other member

theorem heldBy_eq_false {sessions : List P.Session} {k : Key} :
    heldBy sessions k = false ↔ ∀ s ∈ sessions, k ∉ s.held := by
  simp [heldBy]

omit [DecidableEq Key] in

/-- Sessions around one that is replaced by a session with keys the others do not hold. -/
theorem pairwise_replace {s s' : P.Session} (apart : (front ++ s :: back).Pairwise Apart)
    (keys : ∀ other ∈ front ++ back, Apart s' other) : (front ++ s' :: back).Pairwise Apart := by
  rw [List.pairwise_append, List.pairwise_cons] at apart ⊢
  obtain ⟨front_apart, ⟨_, back_apart⟩, across⟩ := apart
  refine ⟨front_apart, ⟨fun other member => keys other (by simp [member]), back_apart⟩, ?_⟩
  intro other member x inside
  rcases List.mem_cons.mp inside with rfl | inside
  · exact (keys other (by simp [member])).symm
  · exact across other member x (by simp [inside])

omit [DecidableEq Key] in
theorem pairwise_remove {s : P.Session} (apart : (front ++ s :: back).Pairwise Apart) :
    (front ++ back).Pairwise Apart :=
  apart.sublist ((List.Sublist.refl front).append (List.sublist_cons_self s back))

omit [DecidableEq Key] in
theorem apart_of_mem {s other : P.Session} (apart : (front ++ s :: back).Pairwise Apart)
    (member : other ∈ front ++ back) : Apart s other := by
  rw [List.pairwise_append, List.pairwise_cons] at apart
  obtain ⟨_, ⟨to_back, _⟩, across⟩ := apart
  rcases List.mem_append.mp member with inside | inside
  · exact (across other inside s (by simp)).symm
  · exact to_back other inside

theorem sound_step (respects : Respects P D spec) {start : Db} {s s' : P.System} (step : Step s s')
    (sound : Sound P D spec start s) : Sound P D spec start s' := by
  obtain ⟨inv, chain, met, owed, apart⟩ := sound
  cases step with
  | start db sessions history t =>
    refine ⟨inv, chain, met, ?_, List.pairwise_cons.mpr ⟨fun _ _ k member => by simp at member, apart⟩⟩
    intro session member
    rcases List.mem_cons.mp member with rfl | inside
    · exact respects.runs t db inv
    · exact owed session inside
  | @statement db front back history t pending held γ s next effect runs free =>
    have mine : Owed P D spec db ⟨t, pending, held, .call s next⟩ := owed _ (by simp)
    subst runs
    have after := mine db _ (.refl inv) free
    refine ⟨inv, chain, met, ?_, pairwise_replace apart ?_⟩
    · intro session member
      rcases List.mem_append.mp member with inside | inside
      · exact owed session (by simp [inside])
      · rcases List.mem_cons.mp inside with rfl | inside
        · exact after
        · exact owed session (by simp [inside])
    · intro other member k inside
      rcases List.mem_append.mp inside with old | new
      · exact apart_of_mem apart member k old
      · exact heldBy_eq_false.mp (free k new) other member
  | @commit db front back history t pending held a =>
    have mine : Owed P D spec db ⟨t, pending, held, .done a⟩ := owed _ (by simp)
    have ended : spec t (.ok a) held db (P.applyAll db pending) := mine db (.refl inv)
    refine ⟨respects.inv inv ended, .snoc ⟨t, .ok a, db, P.applyAll db pending⟩ chain rfl, ?_, ?_, pairwise_remove apart⟩
    · intro o member
      rcases List.mem_append.mp member with old | new
      · exact met o old
      · rw [List.mem_singleton] at new
        subst new
        exact ⟨inv, held, ended⟩
    · intro other member
      have theirs : Owed P D spec db other := owed other (by
        rcases List.mem_append.mp member with inside | inside <;> simp [inside])
      refine theirs.interfere ⟨respects.inv inv ended, respects.guarantee inv ended, fun k inside => ?_⟩
      exact respects.frame inv ended fun mineToo => apart_of_mem apart member k mineToo inside
  | @rollback db front back history t pending held e =>
    have mine : Owed P D spec db ⟨t, pending, held, .fail e⟩ := owed _ (by simp)
    have ended : spec t (.error e) held db db := mine db (.refl inv)
    refine ⟨inv, .snoc ⟨t, .error e, db, db⟩ chain rfl, ?_, ?_, pairwise_remove apart⟩
    · intro o member
      rcases List.mem_append.mp member with old | new
      · exact met o old
      · rw [List.mem_singleton] at new
        subst new
        exact ⟨inv, held, ended⟩
    · intro other member
      exact owed other (by rcases List.mem_append.mp member with inside | inside <;> simp [inside])
  | die front back =>
    refine ⟨inv, chain, met, ?_, pairwise_remove apart⟩
    intro other member
    exact owed other (by rcases List.mem_append.mp member with inside | inside <;> simp [inside])

/-- Every interleaving is a serial history of transactions that meet their specifications. -/
theorem sound (respects : Respects P D spec) {start : Db} (inv : D.inv start) {s : P.System}
    (reachable : Reachable start s) : Sound P D spec start s := by
  induction reachable with
  | refl => exact ⟨inv, .nil _, by simp, by simp, .nil⟩
  | tail _ step ih => exact respects.sound_step step ih

end Respects

/-! ## Transactions that run alone -/

/-- The result of a program and the view at its end, with nothing in between. -/
def Tx.view (P : Protocol Db Key Write Err) : Tx Db Key Write Err α → Db → Except Err α × Db
  | .done a, db => (.ok a, db)
  | .fail e, db => (.error e, db)
  | .call s next, db =>
    Tx.view P (next (s.run db fun _ => false).answer) (P.applyAll db (s.run db fun _ => false).writes)

/-- A transaction that runs alone: its result, and the database it leaves. -/
def Tx.alone (P : Protocol Db Key Write Err) (p : Tx Db Key Write Err α) (db : Db) : Except Err α × Db :=
  match p.view P db with
  | (.ok a, after) => (.ok a, after)
  | (.error e, _) => (.error e, db)

namespace Tx

variable {P : Protocol Db Key Write Err}

theorem alone_eq_ok {p : Tx Db Key Write Err α} {db after : Db} {a : α} :
    p.alone P db = (.ok a, after) ↔ p.view P db = (.ok a, after) := by
  unfold alone
  rcases p.view P db with ⟨_ | a', after'⟩ <;> simp

/-- What a transaction ensures among others it ensures alone. -/
theorem Ensures.of_view {D : Discipline Db Key} {Q : Except Err α → List Write → List Key → Db → Prop}
    {p : Tx Db Key Write Err α} {pending : List Write} {held : List Key} {db after : Db} {r : Except Err α}
    (ensures : p.Ensures P D Q pending held db) (inv : D.inv db) (ran : p.view P (P.applyAll db pending) = (r, after)) :
    ∃ pending' held', Q r pending' held' db ∧ after = P.applyAll db pending' := by
  induction p generalizing pending held with
  | done a =>
    cases ran
    exact ⟨pending, held, ensures db (.refl inv), rfl⟩
  | fail e =>
    cases ran
    exact ⟨pending, held, ensures db (.refl inv), rfl⟩
  | call s next ih =>
    refine ih _ (ensures db (fun _ => false) (.refl inv) fun _ _ => rfl) ?_
    rw [Protocol.applyAll_append]
    exact ran

end Tx

namespace Protocol

variable (P : Protocol Db Key Write Err)

/-- The outcome of a transaction that runs alone. -/
def outcome (t : P.Txn) (db : Db) : P.Outcome := ⟨t, ((P.program t).alone P db).1, db, ((P.program t).alone P db).2⟩

/-- The database and the outcomes of transactions that run one after the other. -/
def play : List P.Txn → Db → Db × List P.Outcome
  | [], db => (db, [])
  | t :: ts, db => ((play ts (P.outcome t db).after).1, P.outcome t db :: (play ts (P.outcome t db).after).2)

variable {P} [DecidableEq Key]

open Relation

theorem reaches_view {t : P.Txn} (db : Db) (history : List P.Outcome) (p : Tx Db Key Write Err (P.Reply t))
    (pending : List Write) (held : List Key) :
    ReflTransGen Step (⟨db, [⟨t, pending, held, p⟩], history⟩ : P.System)
      (match p.view P (P.applyAll db pending) with
        | (.ok a, after) => ⟨after, [], history ++ [⟨t, .ok a, db, after⟩]⟩
        | (.error e, _) => ⟨db, [], history ++ [⟨t, .error e, db, db⟩]⟩) := by
  induction p generalizing pending held with
  | done a => exact .single (Step.commit [] [])
  | fail e => exact .single (Step.rollback [] [])
  | call s next ih =>
    have first : Step (⟨db, [⟨t, pending, held, .call s next⟩], history⟩ : P.System) _ :=
      Step.statement [] [] rfl fun _ _ => rfl
    refine .head first ?_
    have rest := ih (s.run (P.applyAll db pending) fun _ => false).answer
      (pending ++ (s.run (P.applyAll db pending) fun _ => false).writes)
      (held ++ (s.run (P.applyAll db pending) fun _ => false).keys)
    rw [applyAll_append] at rest
    exact rest

theorem reaches_outcome (t : P.Txn) (db : Db) (history : List P.Outcome) :
    ReflTransGen Step (⟨db, [], history⟩ : P.System) ⟨(P.outcome t db).after, [], history ++ [P.outcome t db]⟩ := by
  refine .head (Step.start db [] history t) ?_
  have run := reaches_view db history (P.program t) [] []
  unfold outcome Tx.alone
  revert run
  rw [applyAll_nil]
  rcases (P.program t).view P db with ⟨_ | a, after⟩ <;> exact id

/-- Transactions that run one after the other are an interleaving. -/
theorem reaches_play (ts : List P.Txn) (db : Db) (history : List P.Outcome) :
    ReflTransGen Step (⟨db, [], history⟩ : P.System) ⟨(P.play ts db).1, [], history ++ (P.play ts db).2⟩ := by
  induction ts generalizing db history with
  | nil => simpa [play] using ReflTransGen.refl
  | cons t ts ih =>
    have rest := ih (P.outcome t db).after (history ++ [P.outcome t db])
    rw [List.append_assoc] at rest
    exact (reaches_outcome t db history).trans rest

theorem reachable_play (ts : List P.Txn) (db : Db) : Reachable db (⟨(P.play ts db).1, [], (P.play ts db).2⟩ : P.System) :=
  reaches_play ts db []

end Protocol

end AgentForge.Lib
