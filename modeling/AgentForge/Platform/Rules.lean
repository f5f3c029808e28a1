import AgentForge.Platform.System

/-!
# Rules for the statements

How each statement that writes or locks can succeed, and the rules that carry what a transaction ensures over
one statement. Every rule is for conclusions that say nothing of a transaction that is rolled back.
-/

set_option autoImplicit false

namespace AgentForge.Platform

open Operator Lib

section Rules

variable {D : Discipline Db Key} {α β : Type} {Q : Except Error α → List Write → List Key → Db → Prop}
  {pending : List Write} {held : List Key} {db : Db} {e missing : Error} {f : β → Program α}

/-- Nothing is claimed of a transaction that is rolled back. -/
def Lenient (Q : Except Error α → List Write → List Key → Db → Prop) : Prop :=
  ∀ e pending held db, Q (.error e) pending held db

theorem ensures_fail (lenient : Lenient Q) : (Tx.fail e : Program α).Ensures platform D Q pending held db :=
  fun _ _ => lenient _ _ _ _

theorem ensures_check (lenient : Lenient Q) {c : Bool} {f : Unit → Program α}
    (passes : c = true → (f ()).Ensures platform D Q pending held db) :
    (Tx.check c e >>= f).Ensures platform D Q pending held db :=
  Tx.Ensures.check (fun _ => ensures_fail lenient) passes

theorem ensures_check_last {Q : Except Error Unit → List Write → List Key → Db → Prop} (lenient : Lenient Q)
    {c : Bool} (passes : c = true → (Tx.done () : Program Unit).Ensures platform D Q pending held db) :
    (Tx.check c e : Program Unit).Ensures platform D Q pending held db := by
  cases c with
  | false => exact ensures_fail lenient
  | true => exact passes rfl

theorem ensures_lift (lenient : Lenient Q) {x : Except Error β}
    (passes : ∀ b, x = .ok b → (f b).Ensures platform D Q pending held db) :
    (Tx.lift x >>= f).Ensures platform D Q pending held db :=
  Tx.Ensures.lift (fun _ _ => ensures_fail lenient) passes

theorem ensures_lift_last (lenient : Lenient Q) {x : Except Error α}
    (passes : ∀ a, x = .ok a → (Tx.done a : Program α).Ensures platform D Q pending held db) :
    (Tx.lift x : Program α).Ensures platform D Q pending held db := by
  cases x with
  | error e => exact ensures_fail lenient
  | ok a => exact passes a rfl

/-- A statement whose answer the transaction uses as it is. -/
theorem ensures_perform {s : SQL β}
    (next : ∀ db' others, D.Rely held db db' →
      (f (s.run (platform.applyAll db' pending) others).answer).Ensures platform D Q
        (pending ++ (s.run (platform.applyAll db' pending) others).writes)
        (held ++ (s.run (platform.applyAll db' pending) others).keys) db') :
    (Tx.perform s >>= f).Ensures platform D Q pending held db :=
  fun db' others rely _ => next db' others rely

/-- A query that locks nothing. -/
theorem ensures_query {read : Db → β}
    (next : ∀ db', D.Rely held db db' → (f (read (platform.applyAll db' pending))).Ensures platform D Q pending held db') :
    (Tx.perform (Statement.query read) >>= f).Ensures platform D Q pending held db := by
  refine ensures_perform fun db' _ rely => ?_
  simpa [Statement.query] using next db' rely

/-- A statement that has to succeed. -/
theorem ensures_exec (lenient : Lenient Q) {s : SQL (Except Error β)}
    (next : ∀ db' others b, D.Rely held db db' → (s.run (platform.applyAll db' pending) others).answer = .ok b →
      (f b).Ensures platform D Q (pending ++ (s.run (platform.applyAll db' pending) others).writes)
        (held ++ (s.run (platform.applyAll db' pending) others).keys) db') :
    (exec s >>= f).Ensures platform D Q pending held db := by
  intro db' others rely _
  change (Tx.lift _ >>= f).Ensures platform D Q _ _ db'
  exact ensures_lift lenient fun b answered => next db' others b rely answered

theorem ensures_exec_last (lenient : Lenient Q) {s : SQL (Except Error α)}
    (next : ∀ db' others a, D.Rely held db db' → (s.run (platform.applyAll db' pending) others).answer = .ok a →
      (Tx.done a : Program α).Ensures platform D Q (pending ++ (s.run (platform.applyAll db' pending) others).writes)
        (held ++ (s.run (platform.applyAll db' pending) others).keys) db') :
    (exec s).Ensures platform D Q pending held db := by
  intro db' others rely _
  change (Tx.lift _).Ensures platform D Q _ _ db'
  exact ensures_lift_last lenient fun a answered => next db' others a rely answered

/-- A query that has to return a row. -/
theorem ensures_required (lenient : Lenient Q) {s : SQL (Option β)}
    (next : ∀ db' others b, D.Rely held db db' → (s.run (platform.applyAll db' pending) others).answer = some b →
      (f b).Ensures platform D Q (pending ++ (s.run (platform.applyAll db' pending) others).writes)
        (held ++ (s.run (platform.applyAll db' pending) others).keys) db') :
    (required s missing >>= f).Ensures platform D Q pending held db := by
  intro db' others rely _
  change (Tx.lift _ >>= f).Ensures platform D Q _ _ db'
  cases answered : (s.run (platform.applyAll db' pending) others).answer with
  | none => exact ensures_fail lenient
  | some b => exact next db' others b rely answered

/-- A query that locks nothing and has to return a row. -/
theorem ensures_find (lenient : Lenient Q) {read : Db → Option β}
    (next : ∀ db' b, D.Rely held db db' → read (platform.applyAll db' pending) = some b →
      (f b).Ensures platform D Q pending held db') :
    (required (Statement.query read) missing >>= f).Ensures platform D Q pending held db := by
  refine ensures_required lenient fun db' _ b rely answered => ?_
  simpa [Statement.query] using next db' b rely answered

theorem ensures_done {a : α} (ends : ∀ db', D.Rely held db db' → Q (.ok a) pending held db') :
    (Tx.done a : Program α).Ensures platform D Q pending held db := ends

/-- Keep what an assertion says while the others move. -/
theorem ensures_bind (lenient : Lenient Q) {p : Program β}
    {R : β → List Write → List Key → Db → Prop} (inv : D.inv db)
    (first : p.Ensures platform D (fun r pending held db => ∀ b, r = .ok b → R b pending held db) pending held db)
    (second : ∀ b pending' held' db', D.Rely held db db' → held ⊆ held' → R b pending' held' db' →
      (f b).Ensures platform D Q pending' held' db') : (p >>= f).Ensures platform D Q pending held db :=
  first.bind inv (fun _ _ _ _ _ => lenient _ _ _ _)
    fun b pending' held' db' rely subset holds => second b pending' held' db' rely subset (holds b rfl)

theorem lenient_ok {R : β → List Write → List Key → Db → Prop} :
    Lenient fun r pending held db => ∀ b, r = .ok b → R b pending held db :=
  fun _ _ _ _ _ impossible => by cases impossible

end Rules

/-! ## How statements succeed -/

variable {db : Db} {others : Key → Bool} {tenantID id runID : UUID} {number : Int} {bundle : ReservationBundle}

theorem run?_eq_some {row : RunRow} :
    db.run? tenantID id = some row ↔ db.runs.get? id = some row ∧ row.run.tenantID = tenantID := by
  simp [Db.run?, Option.filter_eq_some_iff]

theorem lockRun_some {row : RunRow} (answered : ((lockRun tenantID id).run db others).answer = some row) :
    (lockRun tenantID id).run db others = ⟨some row, [], [.run id]⟩ ∧ db.runs.get? id = some row ∧
      row.run.tenantID = tenantID := by
  have found : db.run? tenantID id = some row := answered
  obtain ⟨got, tenant⟩ := run?_eq_some.mp found
  refine ⟨?_, got, tenant⟩
  simp [lockRun, Statement.lock, found, Table.key_of_get? got]

/-- An insert that succeeds has passed its three tests. -/
theorem guarded_ok {a b c : Bool} {e f g : Error} {writes : List Write} {keys : List Key} {effect : Effect Key Write (Except Error Unit)}
    (inserts : effect = if a then refused e else if b then refused f else if c then refused g else ⟨.ok (), writes, keys⟩)
    (answered : effect.answer = .ok ()) : effect = ⟨.ok (), writes, keys⟩ ∧ a = false ∧ b = false := by
  subst inserts
  cases a with
  | true => cases answered
  | false =>
    cases b with
    | true => cases answered
    | false =>
      cases c with
      | true => cases answered
      | false => exact ⟨rfl, rfl, rfl⟩

theorem insertRun_ok {row : RunRow} (answered : ((insertRun row).run db others).answer = .ok ()) :
    (insertRun row).run db others =
        ⟨.ok (), [.run row], [.run row.run.id, .idempotencyKey row.run.tenantID row.run.idempotencyKey]⟩ ∧
      row.checks = true ∧ db.runs.get? row.run.id = none ∧
      db.runByKey? row.run.tenantID row.run.idempotencyKey = none := by
  obtain ⟨effect, checked, new⟩ := guarded_ok rfl answered
  simp only [Bool.or_eq_false_iff, Bool.not_eq_false', Option.isSome_eq_false_iff, Option.isNone_iff_eq_none] at checked new
  exact ⟨effect, checked.2, new.1, new.2⟩

theorem updateRun_ok {filter : RunRow → Bool} {set : RunRow → RunRow} {answer : Option RunRow}
    (answered : ((updateRun tenantID id filter set).run db others).answer = .ok answer) :
    (updateRun tenantID id filter set).run db others = ⟨.ok none, [], []⟩ ∧ answer = none ∨
      ∃ row, (updateRun tenantID id filter set).run db others = ⟨.ok (some (set row)), [.run (set row)], [.run id]⟩ ∧
        answer = some (set row) ∧ db.runs.get? id = some row ∧ row.run.tenantID = tenantID ∧ filter row = true ∧
        (set row).checks = true := by
  unfold updateRun at answered ⊢
  dsimp only at answered ⊢
  split at answered
  · next missing =>
    cases answered
    exact .inl ⟨rfl, rfl⟩
  · next row found =>
    split at answered
    · cases answered
    · next checked =>
      cases answered
      obtain ⟨got, passes⟩ := Option.filter_eq_some_iff.mp found
      obtain ⟨got, tenant⟩ := run?_eq_some.mp got
      refine .inr ⟨row, ?_, rfl, got, tenant, passes, ?_⟩
      · rw [if_neg checked, Table.key_of_get? got]
      · simp only [Bool.or_eq_true, Bool.not_eq_true', not_or, Bool.not_eq_false] at checked
        exact checked.2

theorem lockAttempt_some {attempt : AgentRunAttempt}
    (answered : ((lockAttempt tenantID runID id number).run db others).answer = some attempt) :
    (lockAttempt tenantID runID id number).run db others = ⟨some attempt, [], [.attempt id]⟩ ∧
      db.attempts.get? id = some attempt ∧ attempt.tenantID = tenantID ∧ attempt.runID = runID ∧
      attempt.attemptNumber = number := by
  have found : ((db.attempts.get? id).filter fun row =>
      row.tenantID == tenantID && row.runID == runID && row.attemptNumber == number) = some attempt := answered
  obtain ⟨got, same⟩ := Option.filter_eq_some_iff.mp found
  simp only [Bool.and_eq_true, beq_iff_eq] at same
  refine ⟨?_, got, same.1.1, same.1.2, same.2⟩
  simp only [lockAttempt, Statement.lock, found, Option.toList_some, List.map_cons, List.map_nil, Table.key_of_get? got]

/-- No attempt of a run has a number. -/
def Db.NoAttempt (db : Db) (runID : UUID) (number : Int) : Prop :=
  ∀ a ∈ db.attempts, a.runID = runID → a.attemptNumber ≠ number

theorem insertAttempt_ok {row : AgentRunAttempt} (answered : ((insertAttempt row).run db others).answer = .ok ()) :
    (insertAttempt row).run db others =
        ⟨.ok (), [.attempt row], [.attempt row.id, .attemptNumber row.runID row.attemptNumber]⟩ ∧
      row.checks = true ∧ db.attempts.get? row.id = none ∧ db.NoAttempt row.runID row.attemptNumber := by
  obtain ⟨effect, checked, new⟩ := guarded_ok rfl answered
  simp only [Bool.not_eq_false'] at checked
  simp only [Bool.or_eq_false_iff, Option.isSome_eq_false_iff, Option.isNone_iff_eq_none, List.any_eq_false,
    Bool.and_eq_true, beq_iff_eq, not_and] at new
  exact ⟨effect, checked, new.1, fun a member same => new.2 a member same⟩

theorem updateAttempt_ok {filter : AgentRunAttempt → Bool} {set : AgentRunAttempt → AgentRunAttempt}
    {answer : Option AgentRunAttempt}
    (answered : ((updateAttempt tenantID id filter set).run db others).answer = .ok answer) :
    (updateAttempt tenantID id filter set).run db others = ⟨.ok none, [], []⟩ ∧ answer = none ∧
        (∀ row, db.attempts.get? id = some row → row.tenantID = tenantID → filter row = false) ∨
      ∃ row, (updateAttempt tenantID id filter set).run db others =
          ⟨.ok (some (set row)), [.attempt (set row)], [.attempt id]⟩ ∧
        answer = some (set row) ∧ db.attempts.get? id = some row ∧ row.tenantID = tenantID ∧ filter row = true ∧
        (set row).checks = true := by
  unfold updateAttempt at answered ⊢
  dsimp only at answered ⊢
  split at answered
  · next missing =>
    cases answered
    refine .inl ⟨rfl, rfl, fun row found tenant => ?_⟩
    rw [found, Option.filter_eq_none_iff] at missing
    simpa [tenant] using missing row rfl
  · next row found =>
    split at answered
    · cases answered
    · next checked =>
      cases answered
      obtain ⟨got, passes⟩ := Option.filter_eq_some_iff.mp found
      simp only [Bool.and_eq_true, beq_iff_eq] at passes
      refine .inr ⟨row, ?_, rfl, got, passes.1, passes.2, by simpa using checked⟩
      rw [if_neg checked, Table.key_of_get? got]

theorem insertEvent_ok {row : OutboxEvent} (answered : ((insertEvent row).run db others).answer = .ok ()) :
    (insertEvent row).run db others = ⟨.ok (), [.event row], [.event row.eventID]⟩ ∧
      db.outbox.get? row.eventID = none := by
  obtain ⟨effect, -, new⟩ := guarded_ok rfl answered
  exact ⟨effect, by simpa using new⟩

/-- No handoff intent of an attempt of a run. -/
def Db.NoIntent (db : Db) (tenantID runID : UUID) (number : Int) : Prop :=
  ∀ i ∈ db.intents, i.tenantID = tenantID → i.runID = runID → i.attemptNumber ≠ number

theorem insertIntent_ok {row : IntentRow} (answered : ((insertIntent row).run db others).answer = .ok ()) :
    (insertIntent row).run db others =
        ⟨.ok (), [.intent row], [.intent row.eventID, .intentOf row.tenantID row.runID row.attemptNumber]⟩ ∧
      db.intents.get? row.eventID = none ∧ db.NoIntent row.tenantID row.runID row.attemptNumber := by
  obtain ⟨effect, -, new⟩ := guarded_ok rfl answered
  simp only [Bool.or_eq_false_iff, Option.isSome_eq_false_iff, Option.isNone_iff_eq_none, List.any_eq_false,
    Bool.and_eq_true, beq_iff_eq, not_and, and_imp] at new
  exact ⟨effect, new.1, fun i member tenant run => new.2 i member tenant run⟩

/-- No active capacity reservation of an attempt of a run. -/
def Db.NoActive (db : Db) (runID : UUID) (number : Int) : Prop :=
  ∀ c ∈ db.capacities, c.runID = runID → c.attemptNumber = number → c.state ≠ .reserved

theorem activeCapacity?_eq_none : db.activeCapacity? runID number = none ↔ db.NoActive runID number := by
  simp [Db.activeCapacity?, Db.NoActive, List.find?_eq_none, Table.mem_def]

theorem insertCapacity_ok {row : CapacityReservation}
    (answered : ((insertCapacity row).run db others).answer = .ok ()) :
    (insertCapacity row).run db others =
        ⟨.ok (), [.capacity row], [.capacity row.id, .activeCapacity row.runID row.attemptNumber]⟩ ∧
      row.checks = true ∧ db.capacities.get? row.id = none ∧ db.NoActive row.runID row.attemptNumber := by
  obtain ⟨effect, checked, new⟩ := guarded_ok rfl answered
  simp only [Bool.not_eq_false'] at checked
  simp only [Bool.or_eq_false_iff, Option.isSome_eq_false_iff, Option.isNone_iff_eq_none] at new
  exact ⟨effect, checked, new.1, activeCapacity?_eq_none.mp new.2⟩

theorem insertBudget_ok {row : BudgetReservation}
    (answered : ((insertBudget row).run db others).answer = .ok ()) :
    (insertBudget row).run db others =
        ⟨.ok (), [.budget row],
          [.budget row.id, .budgetOf row.capacityReservationID, .activeBudget row.runID row.attemptNumber]⟩ ∧
      row.checks = true ∧ db.budgets.get? row.id = none := by
  obtain ⟨effect, checked, new⟩ := guarded_ok rfl answered
  simp only [Bool.not_eq_false'] at checked
  simp only [Bool.or_eq_false_iff, Option.isSome_eq_false_iff, Option.isNone_iff_eq_none] at new
  exact ⟨effect, checked, new.1.1⟩

theorem lockPolicy_cases (db : Db) (others : Key → Bool) (tenantID : UUID) :
    (lockPolicy tenantID).run db others = ⟨none, [], []⟩ ∨
      ∃ policy, (lockPolicy tenantID).run db others = ⟨some policy, [], [.policy tenantID]⟩ ∧
        db.policies.get? tenantID = some ⟨tenantID, policy⟩ := by
  cases found : db.policies.get? tenantID with
  | none => exact .inl (by simp [lockPolicy, Statement.lock, found])
  | some row =>
    have key := Table.key_of_get? found
    refine .inr ⟨row.policy, by simp [lockPolicy, Statement.lock, found], ?_⟩
    rw [← key]

theorem lockPolicy_some {policy : SchedulingPolicy}
    (answered : ((lockPolicy tenantID).run db others).answer = some policy) :
    (lockPolicy tenantID).run db others = ⟨some policy, [], [.policy tenantID]⟩ ∧
      db.policies.get? tenantID = some ⟨tenantID, policy⟩ := by
  rcases lockPolicy_cases db others tenantID with effect | ⟨policy', effect, found⟩
  · rw [effect] at answered
    cases answered
  · rw [effect] at answered
    cases answered
    exact ⟨effect, found⟩

theorem ensureUsage_cases (db : Db) (others : Key → Bool) (tenantID : UUID) (date : Time) :
    (ensureUsage tenantID date).run db others = ⟨(), [], []⟩ ∧ (∃ usage, db.usage.get? (tenantID, date) = some usage) ∨
      (ensureUsage tenantID date).run db others = ⟨(), [.usage ⟨tenantID, date, 0, 0⟩], [.usage tenantID date]⟩ ∧
        db.usage.get? (tenantID, date) = none := by
  cases found : db.usage.get? (tenantID, date) with
  | none => exact .inr ⟨by simp [ensureUsage, found], rfl⟩
  | some usage => exact .inl ⟨by simp [ensureUsage, found], usage, rfl⟩

theorem lockUsage_some {date : Time} {usage : BudgetUsage}
    (answered : ((lockUsage tenantID date).run db others).answer = some usage) :
    (lockUsage tenantID date).run db others = ⟨some usage, [], [.usage tenantID date]⟩ ∧
      db.usage.get? (tenantID, date) = some usage := by
  have found : db.usage.get? (tenantID, date) = some usage := answered
  exact ⟨by simp [lockUsage, Statement.lock, found], found⟩

theorem lockCluster_some {id : String} {cluster : ExecutionCluster}
    (answered : ((lockCluster id).run db others).answer = some cluster) :
    (lockCluster id).run db others = ⟨some cluster, [], [.cluster id]⟩ := by
  have found : db.clusters.get? id = some cluster := answered
  simp [lockCluster, Statement.lock, found]

theorem lockEligible_some {id : String} {runtime profile : String} {freshSince : Time}
    {candidate : ClusterCandidate}
    (answered : ((lockEligible id tenantID runtime profile freshSince).run db others).answer = some candidate) :
    (lockEligible id tenantID runtime profile freshSince).run db others = ⟨some candidate, [], [.cluster id]⟩ ∧
      db.latestCapacity? id = some candidate.capacity := by
  have found : ((db.candidate? id).filter fun candidate => db.eligible tenantID runtime profile freshSince candidate) =
      some candidate := answered
  refine ⟨by simp [lockEligible, Statement.lock, found], ?_⟩
  obtain ⟨got, -⟩ := Option.filter_eq_some_iff.mp found
  unfold Db.candidate? at got
  split at got
  · next cluster capacity _ latest =>
    cases got
    exact latest
  · cases got

/-- A reservation with its budget row. -/
structure Db.IsBundle (db : Db) (bundle : ReservationBundle) : Prop where
  capacity : db.capacities.get? bundle.capacity.id = some bundle.capacity
  budget : db.budgets.get? bundle.budget.id = some bundle.budget
  paired : bundle.budget.capacityReservationID = bundle.capacity.id

theorem bundle?_eq_some {capacity : CapacityReservation} (member : capacity ∈ db.capacities)
    (found : db.bundle? capacity = some bundle) : bundle.capacity = capacity ∧ db.IsBundle bundle := by
  obtain ⟨budget, got, rfl⟩ := Option.map_eq_some_iff.mp found
  have inside : budget ∈ db.budgets := List.mem_of_find?_eq_some got
  have paired := List.find?_some got
  exact ⟨rfl, Table.get?_key member, Table.get?_key inside, by simpa using paired⟩

theorem lockActive_cases (db : Db) (others : Key → Bool) (tenantID runID : UUID) (number : Int) :
    (lockActive tenantID runID number).run db others = ⟨none, [], []⟩ ∨
      ∃ bundle, (lockActive tenantID runID number).run db others = ⟨some bundle, [], bundle.keys⟩ ∧ db.IsBundle bundle ∧
        bundle.capacity.tenantID = tenantID ∧ bundle.capacity.runID = runID ∧ bundle.capacity.attemptNumber = number ∧
        bundle.capacity.state = .reserved := by
  cases found : ((db.activeCapacity? runID number).filter fun row => row.tenantID == tenantID).bind db.bundle? with
  | none => exact .inl (by simp [lockActive, Statement.lock, found])
  | some bundle =>
    refine .inr ⟨bundle, by simp [lockActive, Statement.lock, found], ?_⟩
    obtain ⟨capacity, got, paired⟩ := Option.bind_eq_some_iff.mp found
    obtain ⟨active, tenant⟩ := Option.filter_eq_some_iff.mp got
    have passes := List.find?_some active
    simp only [Bool.and_eq_true, beq_iff_eq] at passes tenant
    obtain ⟨rfl, isBundle⟩ := bundle?_eq_some (List.mem_of_find?_eq_some active) paired
    exact ⟨isBundle, tenant, passes.1.1, passes.1.2, passes.2⟩

/-- The reservations of an attempt, with their budget rows. -/
theorem mem_bundles (member : bundle ∈ db.bundles tenantID runID number) :
    db.IsBundle bundle ∧ bundle.capacity.tenantID = tenantID ∧ bundle.capacity.runID = runID ∧
      bundle.capacity.attemptNumber = number := by
  obtain ⟨capacity, inside, paired⟩ := List.mem_filterMap.mp member
  obtain ⟨old, same⟩ := List.mem_filter.mp inside
  simp only [Bool.and_eq_true, beq_iff_eq] at same
  obtain ⟨rfl, isBundle⟩ := bundle?_eq_some old paired
  exact ⟨isBundle, same.1.1, same.1.2, same.2⟩

theorem lockNewest_some {pick : Nat}
    (answered : ((lockNewest tenantID runID number pick).run db others).answer = some bundle) :
    (lockNewest tenantID runID number pick).run db others = ⟨some bundle, [], bundle.keys⟩ ∧
      bundle ∈ db.newest tenantID runID number := by
  have found : (db.newest tenantID runID number)[pick % (db.newest tenantID runID number).length]? = some bundle := answered
  exact ⟨by simp [lockNewest, Statement.lock, found], List.mem_of_getElem? found⟩

theorem closeCapacity_reserved {row : CapacityReservation} {target : ReservationState} {now : Time}
    (found : db.capacities.get? row.id = some row) (active : row.state = .reserved) :
    (closeCapacity row.id target now).run db others =
      ⟨(), [.capacity (row.close target now)], [.capacity row.id]⟩ := by
  simp [closeCapacity, found, active, Option.filter_some]

theorem closeBudget_reserved {row : BudgetReservation} {target : ReservationState} {now : Time}
    (found : db.budgets.get? row.id = some row) (active : row.state = .reserved) :
    (closeBudget row.id target now).run db others =
      ⟨(), [.budget (row.close target now)], [.budget row.id]⟩ := by
  simp [closeBudget, found, active, Option.filter_some]

theorem addUsage_ok {date : Time} {spent reserved : Int} {usage : BudgetUsage}
    (found : db.usage.get? (tenantID, date) = some usage)
    (answered : ((addUsage tenantID date spent reserved).run db others).answer = .ok ()) :
    (addUsage tenantID date spent reserved).run db others =
      ⟨.ok (), [.usage (usage.add spent reserved)], [.usage tenantID date]⟩ := by
  unfold addUsage at answered ⊢
  dsimp only at answered ⊢
  rw [found] at answered ⊢
  dsimp only at answered ⊢
  split at answered
  · cases answered
  · next checked => rw [if_neg checked]

/-! ## The registry -/

theorem insertCluster_ok {row : ExecutionCluster} (answered : ((insertCluster row).run db others).answer = .ok ()) :
    (insertCluster row).run db others = ⟨.ok (), [.cluster row], [.cluster row.id]⟩ := by
  unfold insertCluster at answered ⊢
  dsimp only at answered ⊢
  split at answered
  · cases answered
  · next new => rw [if_neg new]

theorem insertSnapshot_ok {row : ClusterCapacity} (answered : ((insertSnapshot row).run db others).answer = .ok ()) :
    (insertSnapshot row).run db others = ⟨.ok (), [.snapshot row], [.snapshot row.clusterID row.observedAt]⟩ := by
  unfold insertSnapshot at answered ⊢
  dsimp only at answered ⊢
  split at answered
  · cases answered
  · next new =>
    split at answered
    · cases answered
    · next known => rw [if_neg new, if_neg known]

theorem replaceAllowlist_ok {clusterID : String} {tenants : List UUID}
    (answered : ((replaceAllowlist clusterID tenants).run db others).answer = .ok ()) :
    (replaceAllowlist clusterID tenants).run db others = ⟨.ok (), [.allowlist ⟨clusterID, tenants⟩], []⟩ := by
  unfold replaceAllowlist at answered ⊢
  dsimp only at answered ⊢
  split at answered
  · cases answered
  · next known => rw [if_neg known]

theorem updateCluster_cases (db : Db) (others : Key → Bool) (id : String) (version : Int) (set : ExecutionCluster → ExecutionCluster) :
    (updateCluster id version set).run db others = ⟨none, [], []⟩ ∨
      ∃ row, (updateCluster id version set).run db others = ⟨some row, [.cluster row], [.cluster id]⟩ := by
  unfold updateCluster
  dsimp only
  split
  · exact .inl rfl
  · next row found => exact .inr ⟨set row, rfl⟩

end AgentForge.Platform
