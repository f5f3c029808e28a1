import AgentForge.Platform.Tenancy

/-!
# Transactions without interference

The rules to follow a transaction that runs alone: what its view is after each statement. A query and a lock leave
the view as it is.
-/

set_option autoImplicit false

namespace AgentForge.Platform

open Operator Lib

/-- Nobody else holds a key. -/
def nobody : Key → Bool := fun _ => false

section View

variable {α β : Type} {db : Db}

@[simp] theorem view_done (a : α) : (Tx.done a : Program α).view platform db = (.ok a, db) := rfl

@[simp] theorem view_pure (a : α) : (pure a : Program α).view platform db = (.ok a, db) := rfl

@[simp] theorem view_fail (e : Error) : (Tx.fail e : Program α).view platform db = (.error e, db) := rfl

@[simp] theorem view_check (c : Bool) (e : Error) (f : Unit → Program α) :
    (Tx.check c e >>= f).view platform db = if c then (f ()).view platform db else (.error e, db) := by
  cases c <;> rfl

@[simp] theorem view_lift (x : Except Error β) (f : β → Program α) :
    (Tx.lift x >>= f).view platform db =
      match x with
      | .ok b => (f b).view platform db
      | .error e => (.error e, db) := by
  cases x <;> rfl

theorem view_perform (s : SQL β) (f : β → Program α) :
    (Tx.perform s >>= f).view platform db =
      (f (s.run db nobody).answer).view platform (platform.applyAll db (s.run db nobody).writes) := rfl

@[simp] theorem view_query (read : Db → β) (f : β → Program α) :
    (Tx.perform (Statement.query read) >>= f).view platform db = (f (read db)).view platform db := rfl

@[simp] theorem view_lock (read : Db → β) (keys : β → List Key) (f : β → Program α) :
    (Tx.perform (Statement.lock read keys) >>= f).view platform db = (f (read db)).view platform db := rfl

theorem view_exec (s : SQL (Except Error β)) (f : β → Program α) :
    (exec s >>= f).view platform db =
      match (s.run db nobody).answer with
      | .ok b => (f b).view platform (platform.applyAll db (s.run db nobody).writes)
      | .error e => (.error e, platform.applyAll db (s.run db nobody).writes) := by
  change (Tx.lift _ >>= f).view platform _ = _
  exact view_lift _ f

theorem view_required (s : SQL (Option β)) (missing : Error) (f : β → Program α) :
    (required s missing >>= f).view platform db =
      match (s.run db nobody).answer with
      | some b => (f b).view platform (platform.applyAll db (s.run db nobody).writes)
      | none => (.error missing, platform.applyAll db (s.run db nobody).writes) := by
  change (Tx.lift ((s.run db nobody).answer.elim (.error missing) .ok) >>= f).view platform _ = _
  rw [view_lift]
  cases (s.run db nobody).answer <;> rfl

@[simp] theorem view_find (read : Db → Option β) (missing : Error) (f : β → Program α) :
    (required (Statement.query read) missing >>= f).view platform db =
      match read db with
      | some b => (f b).view platform db
      | none => (.error missing, db) :=
  view_required _ missing f

@[simp] theorem view_findLocked (read : Db → Option β) (keys : Option β → List Key) (missing : Error) (f : β → Program α) :
    (required (Statement.lock read keys) missing >>= f).view platform db =
      match read db with
      | some b => (f b).view platform db
      | none => (.error missing, db) :=
  view_required _ missing f

end View

theorem runAlone_eq {α : Type} {program : Program α} {db : Db} {r : Except Error α} (result : (runAlone program db).1 = r) :
    runAlone program db = (r, (runAlone program db).2) := by
  rw [← result]

theorem runAlone_error {α : Type} {program : Program α} {db : Db} {e : Error} (failed : (runAlone program db).1 = .error e) :
    (runAlone program db).2 = db := by
  unfold runAlone Tx.alone at failed ⊢
  split
  · next ok => rw [ok] at failed; cases failed
  · rfl

/-- A call that runs alone and succeeds commits. -/
theorem commit_of_alone (call : Call) {reply : call.Reply} {db after : Db} (consistent : Consistent db)
    (ran : runAlone call.program db = (.ok reply, after)) : ∃ held, Commit held db call reply after := by
  obtain ⟨pending, held, commits, rfl⟩ :=
    (implements call db consistent).of_view consistent (Tx.alone_eq_ok.mp ran)
  exact ⟨held, commits reply rfl⟩

end AgentForge.Platform
