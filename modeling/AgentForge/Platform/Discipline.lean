import AgentForge.Platform.Consistency

/-!
# The locking discipline

What transactions may assume of each other. Every commit lets rows evolve and never removes one (`Growth`); and
a commit of a transaction that does not hold a key leaves alone what the key stands for (`frame`): the row with
an identifier, the absence of an entry of a unique index, the policy of a tenant, or the newest snapshot of a
cluster together with what is reserved on it.
-/

set_option autoImplicit false

namespace AgentForge.Platform

open Operator Lib

/-- How every commit changes the database. -/
structure Growth (before after : Db) : Prop where
  runs : Table.Grows RunRow.Evolves before.runs after.runs
  attempts : Table.Grows AgentRunAttempt.Evolves before.attempts after.attempts
  capacities : Table.Grows CapacityReservation.Evolves before.capacities after.capacities
  budgets : Table.Grows BudgetReservation.Evolves before.budgets after.budgets
  outbox : Table.Grows Eq before.outbox after.outbox
  intents : Table.Grows Eq before.intents after.intents

theorem Growth.refl (db : Db) : Growth db db :=
  ⟨.refl .refl _, .refl .refl _, .refl (fun _ => .inl rfl) _, .refl (fun _ => .inl rfl) _, .refl (fun _ => rfl) _,
    .refl (fun _ => rfl) _⟩

theorem Growth.trans {a b c : Db} (ab : Growth a b) (bc : Growth b c) : Growth a c :=
  ⟨.trans .trans ab.runs bc.runs, .trans .trans ab.attempts bc.attempts, .trans .trans ab.capacities bc.capacities,
    .trans .trans ab.budgets bc.budgets, .trans .trans ab.outbox bc.outbox, .trans .trans ab.intents bc.intents⟩

/-- What a commit leaves alone if it does not hold a key. -/
def frame : Key → Db → Db → Prop
  | .run id, before, after => after.runs.get? id = before.runs.get? id
  | .attempt id, before, after => after.attempts.get? id = before.attempts.get? id
  | .policy tenantID, before, after => after.policies.get? tenantID = before.policies.get? tenantID
  | .usage tenantID date, before, after => after.usage.get? (tenantID, date) = before.usage.get? (tenantID, date)
  | .capacity id, before, after => after.capacities.get? id = before.capacities.get? id
  | .budget id, before, after => after.budgets.get? id = before.budgets.get? id
  | .cluster id, before, after => after.latestCapacity? id = before.latestCapacity? id ∧
      ∀ now, after.reservedCPU id now ≤ before.reservedCPU id now ∧ after.reservedMemory id now ≤ before.reservedMemory id now
  | .event id, before, after => after.outbox.get? id = before.outbox.get? id
  | .intent id, before, after => after.intents.get? id = before.intents.get? id
  | .idempotencyKey tenantID key, before, after =>
      before.runByKey? tenantID key = none → after.runByKey? tenantID key = none
  | .activeCapacity runID number, before, after => before.NoActive runID number → after.NoActive runID number
  | .intentOf tenantID runID number, before, after =>
      before.NoIntent tenantID runID number → after.NoIntent tenantID runID number
  | _, _, _ => True

theorem frame_refl (k : Key) (db : Db) : frame k db db := by
  cases k with
  | cluster id => exact ⟨rfl, fun _ => ⟨le_refl _, le_refl _⟩⟩
  | idempotencyKey => exact fun absent => absent
  | activeCapacity => exact fun absent => absent
  | intentOf => exact fun absent => absent
  | tenant | project | snapshot | attemptNumber | activeBudget | budgetOf => trivial
  | _ => rfl

theorem frame_trans {k : Key} {a b c : Db} (ab : frame k a b) (bc : frame k b c) : frame k a c := by
  cases k with
  | policy => exact bc.trans ab
  | cluster id =>
    exact ⟨bc.1.trans ab.1, fun now => ⟨(bc.2 now).1.trans (ab.2 now).1, (bc.2 now).2.trans (ab.2 now).2⟩⟩
  | idempotencyKey => exact fun absent => bc (ab absent)
  | activeCapacity => exact fun absent => bc (ab absent)
  | intentOf => exact fun absent => bc (ab absent)
  | tenant | project | snapshot | attemptNumber | activeBudget | budgetOf => trivial
  | run id => exact Eq.trans bc ab
  | attempt id => exact Eq.trans bc ab
  | usage => exact Eq.trans bc ab
  | capacity id => exact Eq.trans bc ab
  | budget id => exact Eq.trans bc ab
  | event id => exact Eq.trans bc ab
  | intent id => exact Eq.trans bc ab

/-- The discipline of the platform. -/
def discipline : Discipline Db Key where
  inv := Consistent
  guarantee := Growth
  frame := frame
  guarantee_refl := Growth.refl
  guarantee_trans := Growth.trans
  frame_refl := frame_refl
  frame_trans := frame_trans

section Commits

variable {held : List Key} {before after : Db} {call : Call} {reply : call.Reply} {tenantID runID : UUID}
  {clusterID : String}

/-! ## How a commit changes each table -/

/-- What a commit knows of a run it adds. -/
structure NewRun (held : List Key) (row : RunRow) : Prop where
  key : .idempotencyKey row.run.tenantID row.run.idempotencyKey ∈ held
  queued : row.run.status = .queued

theorem LifecycleChange.runs (change : LifecycleChange held before after) :
    Table.Changes (fun id => .run id ∈ held) (RunStep held) (NewRun held) before.runs after.runs := by
  cases change with
  | kept keeps => exact keeps.runs.mono (fun _ lock => lock) (fun _ _ plain => plain.step) fun _ impossible => impossible.elim
  | created run attempt adds checks queued newRun newKey keys =>
    rw [adds.runs]
    exact .add newRun (keys (by simp [createdRow, AgentRun.stored])) ⟨keys (by simp [createdRow, AgentRun.stored]), queued⟩
  | retried row row' attempt adds found step checks keys =>
    have id := RunRow.id_eq step.identity
    rw [adds.runs]
    refine .replace (r := row) ?_ ?_ step
    · rw [id, found]
    · rw [id]
      exact keys (by simp)

theorem LifecycleChange.attempts (change : LifecycleChange held before after) :
    Table.Changes (fun id => .attempt id ∈ held) AttemptStep (fun a => a.status = .pending ∧ a.assignment = none)
      before.attempts after.attempts := by
  cases change with
  | kept keeps =>
    exact keeps.attempts.mono (fun _ lock => lock) (fun _ _ quiet => quiet.step) fun _ impossible => impossible.elim
  | created run attempt adds checks queued newRun newKey keys =>
    rw [adds.attempts]
    exact .add adds.new (keys (by simp)) ⟨adds.pending, adds.unassigned⟩
  | retried row row' attempt adds found step checks keys =>
    rw [adds.attempts]
    exact .add adds.new (keys (by simp)) ⟨adds.pending, adds.unassigned⟩

/-- What a commit holds when it adds a capacity row. -/
structure NewCapacity (held : List Key) (row : CapacityReservation) : Prop where
  active : .activeCapacity row.runID row.attemptNumber ∈ held
  cluster : .cluster row.clusterID ∈ held

theorem ReservationChange.capacities (change : ReservationChange held before after) :
    Table.Changes (fun id => .capacity id ∈ held) CapacityStep (NewCapacity held) before.capacities after.capacities := by
  cases change with
  | same reservations =>
    have same : after.capacities = before.capacities := congrArg (·.1) reservations
    rw [same]
    exact .same _
  | held request policy capacity admission reservations =>
    have same : after.capacities = _ := congrArg (·.1) reservations
    rw [same]
    exact .add admission.newCapacity (admission.keys (by simp [ReservationRequest.bundle, ReservationBundle.stored]))
      ⟨admission.keys (by simp [ReservationRequest.bundle, ReservationBundle.stored]), admission.clusterKey⟩
  | closed bundle target now closes reservations =>
    have same : after.capacities = _ := congrArg (·.1) reservations
    rw [same]
    exact .replace (r := bundle.capacity) closes.capacity (closes.keys (by simp [CapacityReservation.close]))
      ⟨closes.active, target, now, closes.leaves, rfl⟩

theorem ReservationChange.budgets (consistent : Consistent before) (change : ReservationChange held before after) :
    Table.Changes (fun id => .budget id ∈ held) BudgetStep (fun _ => True) before.budgets after.budgets := by
  cases change with
  | same reservations =>
    have same : after.budgets = before.budgets := congrArg (·.2.1) reservations
    rw [same]
    exact .same _
  | held request policy capacity admission reservations =>
    have same : after.budgets = _ := congrArg (·.2.1) reservations
    rw [same]
    exact .add admission.newBudget (admission.keys (by simp [ReservationRequest.bundle, ReservationBundle.stored])) trivial
  | closed bundle target now closes reservations =>
    have same : after.budgets = _ := congrArg (·.2.1) reservations
    rw [same]
    exact .replace (r := bundle.budget) closes.budget (closes.keys (by simp [BudgetReservation.close]))
      ⟨closes.budget_active consistent.paired, target, now, closes.leaves, rfl⟩

theorem ReservationChange.usage (change : ReservationChange held before after) {date : Time}
    (free : .usage tenantID date ∉ held) :
    after.usage.get? (tenantID, date) = before.usage.get? (tenantID, date) := by
  have put : ∀ (tenantID' : UUID) (date' : Time) (spent reserved : Int), .usage tenantID' date' ∈ held →
      (before.usage.put ((before.usageOf tenantID' date').add spent reserved)).get? (tenantID, date) =
        before.usage.get? (tenantID, date) := by
    intro tenantID' date' spent reserved lock
    refine Table.get?_put_ne (r := (before.usageOf tenantID' date').add spent reserved) fun same => free ?_
    obtain ⟨rfl, rfl⟩ := Prod.mk.inj ((before.usageOf_key tenantID' date').symm.trans same)
    exact lock
  cases change with
  | same reservations =>
    have same : after.usage = before.usage := congrArg (·.2.2) reservations
    rw [same]
  | held request policy capacity admission reservations =>
    have same : after.usage = _ := congrArg (·.2.2) reservations
    rw [same]
    exact put _ _ _ _ (admission.keys (by simp [ReservationRequest.bundle]))
  | closed bundle target now closes reservations =>
    have same : after.usage = _ := congrArg (·.2.2) reservations
    rw [same]
    exact put _ _ _ _ (closes.keys (by simp))

theorem Commit.outbox (commit : Commit held before call reply after) :
    Table.Changes (fun id => .event id ∈ held) (fun _ _ => False) (fun _ => True) before.outbox after.outbox := by
  have publish : ∀ {made : Except Error OutboxEvent} {event : OutboxEvent}, Publishes held before made event →
      Table.Changes (fun id => .event id ∈ held) (fun _ _ => False) (fun _ => True) before.outbox (before.outbox.put event) :=
    fun publishes => .add publishes.new publishes.key trivial
  cases commit with
  | created request event initial publishes => exact publish publishes
  | cancelled request row moved event receipt going moves updates publishes => exact publish publishes
  | retried request row moved attempt event receipt retryable moves made updates checks new key publishes =>
    exact publish publishes
  | scheduled request row attempt policy capacity event leased updates locks checks admission publishes =>
    exact publish publishes
  | deferred request row event leased updates publishes => exact publish publishes
  | rejected request row attempt event leased updates locks checks publishes => exact publish publishes
  | administered change => cases change <;> exact .same _
  | _ => exact .same _

theorem Commit.intents (commit : Commit held before call reply after) :
    Table.Changes (fun id => .intent id ∈ held) (fun _ _ => False)
      (fun i => .intentOf i.tenantID i.runID i.attemptNumber ∈ held) before.intents after.intents := by
  cases commit with
  | scheduled request row attempt policy capacity event leased updates locks checks admission publishes newIntent
      noIntent keys =>
    exact .add newIntent (keys (by simp [SchedulingIntentRequest.intent])) (keys (by simp [SchedulingIntentRequest.intent]))
  | administered change => cases change <;> exact .same _
  | _ => exact .same _

theorem Commit.policies (commit : Commit held before call reply after) (free : .policy tenantID ∉ held) :
    after.policies.get? tenantID = before.policies.get? tenantID := by
  cases commit with
  | administered change key =>
    cases change with
    | policy row =>
      refine Table.get?_put_ne (r := row) ?_
      rintro rfl
      exact free key
    | tenant row => rfl
    | project row => rfl
  | _ => rfl

/-- A snapshot of another cluster does not change the newest one. -/
theorem latestCapacity?_put (snapshot : ClusterCapacity) (other : snapshot.clusterID ≠ clusterID)
    (snapshots : after.snapshots = before.snapshots.put snapshot) :
    after.latestCapacity? clusterID = before.latestCapacity? clusterID := by
  have rows : (after.snapshots.rows.filter fun row => row.clusterID == clusterID) =
      before.snapshots.rows.filter fun row => row.clusterID == clusterID := by
    rw [snapshots, Table.put, List.filter_cons_of_neg (by simpa using other), List.filter_filter]
    refine List.filter_congr fun row _ => ?_
    by_cases here : row.clusterID = clusterID
    · simp [here, Ne.symm other]
    · simp [here]
  rw [Db.latestCapacity?, rows, ← Db.latestCapacity?]

theorem Commit.snapshots (commit : Commit held before call reply after) (free : .cluster clusterID ∉ held) :
    after.latestCapacity? clusterID = before.latestCapacity? clusterID := by
  cases commit with
  | registered write clusters key =>
    refine latestCapacity?_put write.capacity.stored ?_ rfl
    rintro rfl
    exact free key
  | reported write version clusters key =>
    refine latestCapacity?_put write.capacity.stored ?_ rfl
    rintro rfl
    exact free key
  | administered change => cases change <;> rfl
  | _ => rfl

/-! ## Commits follow the discipline -/

theorem Commit.growth (consistent : Consistent before) (commit : Commit held before call reply after) :
    Growth before after := by
  have lifecycle := commit.lifecycleChange consistent
  have reservations := commit.reservationChange
  exact ⟨lifecycle.runs.grows .refl RunStep.evolves, lifecycle.attempts.grows .refl AttemptStep.evolves,
    reservations.capacities.grows (fun _ => .inl rfl) .inr,
    (reservations.budgets consistent).grows (fun _ => .inl rfl) .inr,
    commit.outbox.grows (fun _ => rfl) False.elim, commit.intents.grows (fun _ => rfl) False.elim⟩

/-- A commit that does not hold a cluster reserves no more of it. -/
theorem ReservationChange.reserved_le (change : ReservationChange held before after)
    (free : .cluster clusterID ∉ held) (now : Time) {amount : CapacityReservation → Int}
    (nonneg : ∀ c ∈ before.capacities, 0 ≤ amount c) :
    (after.capacities.total fun row => if Db.holds clusterID now row then amount row else 0) ≤
      before.capacities.total fun row => if Db.holds clusterID now row then amount row else 0 := by
  refine Table.total_le_total fun id => ?_
  cases found : before.capacities.get? id with
  | some row =>
    obtain ⟨row', found', rfl | ⟨-, -, target, closed, leaves, rfl⟩⟩ := change.capacities.old id row found
    · rw [Table.share_of_get? found', Table.share_of_get? found]
    · rw [Table.share_of_get? found', Table.share_of_get? found, if_neg]
      · split
        · exact nonneg row (Table.mem_of_get? found)
        · exact le_refl 0
      · simp [Db.holds, CapacityReservation.close, leaves]
  | none =>
    rw [Table.share_of_none found]
    cases found' : after.capacities.get? id with
    | none => rw [Table.share_of_none found']
    | some row' =>
      have new := (change.capacities.added id row' found found').2
      have other : row'.clusterID ≠ clusterID := by
        rintro rfl
        exact free new.cluster
      rw [Table.share_of_get? found', if_neg]
      simp [Db.holds, other]

/-- An entry of the index on idempotency keys is added only under its key. -/
theorem LifecycleChange.runByKey? (change : LifecycleChange held before after) {key : String}
    (free : .idempotencyKey tenantID key ∉ held) (absent : before.runByKey? tenantID key = none) :
    after.runByKey? tenantID key = none := by
  rw [runByKey?_eq_none] at absent ⊢
  rintro row' member rfl rfl
  rcases change.origin member with ⟨row, old, same⟩ | ⟨-, -, lock, -⟩
  · exact absent row old (RunRow.tenantID_eq same).symm (RunRow.idempotencyKey_eq same).symm
  · exact free lock

theorem ReservationChange.noActive (change : ReservationChange held before after) {number : Int}
    (free : .activeCapacity runID number ∉ held) (absent : before.NoActive runID number) :
    after.NoActive runID number := by
  intro c member run attempt
  rcases change.capacities.cases_mem member with old | ⟨d, -, -, -, -, target, now, leaves, rfl⟩ | ⟨-, -, new⟩
  · exact absent c old run attempt
  · exact leaves
  · exact absurd (run ▸ attempt ▸ new.active) free

theorem Commit.noIntent (commit : Commit held before call reply after) {number : Int}
    (free : .intentOf tenantID runID number ∉ held) (absent : before.NoIntent tenantID runID number) :
    after.NoIntent tenantID runID number := by
  rintro i member rfl rfl attempt
  rcases commit.intents.cases_mem member with old | ⟨-, -, -, -, impossible⟩ | ⟨-, -, new⟩
  · exact absent i old rfl rfl attempt
  · exact impossible
  · exact free (attempt ▸ new)

/-- A commit leaves alone what the keys it does not hold stand for. -/
theorem Commit.frame (consistent : Consistent before) (commit : Commit held before call reply after) {k : Key}
    (free : k ∉ held) : frame k before after := by
  have lifecycle := commit.lifecycleChange consistent
  have reservations := commit.reservationChange
  cases k with
  | run id => exact lifecycle.runs.get?_eq free
  | attempt id => exact lifecycle.attempts.get?_eq free
  | policy tenantID => exact commit.policies free
  | usage tenantID date => exact reservations.usage free
  | capacity id => exact reservations.capacities.get?_eq free
  | budget id => exact (reservations.budgets consistent).get?_eq free
  | cluster id =>
    refine ⟨commit.snapshots free, fun now => ⟨?_, ?_⟩⟩
    · exact reservations.reserved_le free now fun c member => (consistent.paired.positive c member).1.le
    · exact reservations.reserved_le free now fun c member => (consistent.paired.positive c member).2.le
  | event id => exact commit.outbox.get?_eq free
  | intent id => exact commit.intents.get?_eq free
  | idempotencyKey tenantID key => exact lifecycle.runByKey? free
  | activeCapacity runID number => exact reservations.noActive free
  | intentOf tenantID runID number => exact commit.noIntent free
  | tenant | project | snapshot | attemptNumber | activeBudget | budgetOf => trivial

end Commits

end AgentForge.Platform
