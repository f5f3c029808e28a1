import AgentForge.Platform.Alone

/-!
# Admissions

Reserve and Schedule admit a reservation against the capacity that a cluster has reported and the budget of a
tenant's day. No interleaving overbooks either of them; but a Reserve that finds a reservation of its attempt
returns it whether or not it has expired.
-/

set_option autoImplicit false

namespace AgentForge.Platform

open Operator Lib

/-- The clock of a call that may admit a reservation. -/
def admissionTime? : Call → Option Time
  | .reserve request => some request.now
  | .schedule request => some request.now
  | _ => none

/-- A commit that admits a reservation. -/
structure NewReservation (call : Call) (request : ReservationRequest) (policy : SchedulingPolicy) (capacity : ClusterCapacity)
    (before after : Db) : Prop where
  time : admissionTime? call = some request.now
  admission : ∃ held, Admission held before request policy capacity
  reservations : after.reservations = (before.hold request.bundle).reservations

/-- A commit admits a reservation, or it adds none. -/
theorem Commit.admission_cases {held : List Key} {before after : Db} {call : Call} {reply : call.Reply}
    (commit : Commit held before call reply after) :
    (∃ request policy capacity, NewReservation call request policy capacity before after) ∨
      (∀ c ∈ after.capacities, before.capacities.get? c.id ≠ none) ∧
        ∀ b ∈ after.budgets, before.budgets.get? b.id ≠ none := by
  have same : ∀ {after : Db}, after.capacities = before.capacities → after.budgets = before.budgets →
      (∀ c ∈ after.capacities, before.capacities.get? c.id ≠ none) ∧
        ∀ b ∈ after.budgets, before.budgets.get? b.id ≠ none := by
    intro after capacities budgets
    constructor
    · intro c member absent
      exact Table.get?_eq_none.mp absent c (capacities ▸ member) rfl
    · intro b member absent
      exact Table.get?_eq_none.mp absent b (budgets ▸ member) rfl
  cases commit with
  | scheduled request row attempt policy capacity event leased updates locks checks admission =>
    exact .inl ⟨_, policy, capacity, rfl, ⟨held, admission⟩, rfl⟩
  | reserved request policy capacity valid admission => exact .inl ⟨_, policy, capacity, rfl, ⟨held, admission⟩, rfl⟩
  | closed request bundle sameAttempt closes =>
    refine .inr ⟨fun c member absent => ?_, fun b member absent => ?_⟩
    · rcases Table.mem_put.mp member with rfl | ⟨old, -⟩
      · exact Table.get?_eq_none.mp absent _ (Table.mem_of_get? closes.capacity) rfl
      · exact Table.get?_eq_none.mp absent c old rfl
    · rcases Table.mem_put.mp member with rfl | ⟨old, -⟩
      · exact Table.get?_eq_none.mp absent _ (Table.mem_of_get? closes.budget) rfl
      · exact Table.get?_eq_none.mp absent b old rfl
  | administered change => cases change <;> exact .inr (same rfl rfl)
  | _ => exact .inr (same rfl rfl)

namespace NewReservation

variable {call : Call} {request : ReservationRequest} {policy : SchedulingPolicy} {capacity : ClusterCapacity}
  {before after : Db}

theorem capacities (admits : NewReservation call request policy capacity before after) :
    after.capacities = before.capacities.put request.bundle.stored.capacity := congrArg (·.1) admits.reservations

theorem budgets (admits : NewReservation call request policy capacity before after) :
    after.budgets = before.budgets.put request.bundle.stored.budget := congrArg (·.2.1) admits.reservations

theorem usage (admits : NewReservation call request policy capacity before after) :
    after.usage = before.usage.put
      ((before.usageOf request.tenantID (day request.now)).add 0 request.budgetMinorUnits) :=
  congrArg (·.2.2) admits.reservations

/-- The only new capacity row is the admitted one. -/
theorem capacity_eq (admits : NewReservation call request policy capacity before after) {c : CapacityReservation}
    (member : c ∈ after.capacities) (new : before.capacities.get? c.id = none) :
    c = request.bundle.stored.capacity := by
  rw [admits.capacities] at member
  rcases Table.mem_put.mp member with same | ⟨old, -⟩
  · exact same
  · exact absurd rfl (Table.get?_eq_none.mp new c old)

/-- The only new budget row is the admitted one. -/
theorem budget_eq (admits : NewReservation call request policy capacity before after) {b : BudgetReservation}
    (member : b ∈ after.budgets) (new : before.budgets.get? b.id = none) : b = request.bundle.stored.budget := by
  rw [admits.budgets] at member
  rcases Table.mem_put.mp member with same | ⟨old, -⟩
  · exact same
  · exact absurd rfl (Table.get?_eq_none.mp new b old)

/-- What the unexpired reservations of a cluster hold after an admission. -/
theorem total_le (admits : NewReservation call request policy capacity before after) (amount : CapacityReservation → Int)
    (nonneg : ∀ c ∈ before.capacities, 0 ≤ amount c) (positive : 0 ≤ amount request.bundle.stored.capacity) :
    (after.capacities.total fun row => if Db.holds request.clusterID request.now row then amount row else 0) ≤
      amount request.bundle.stored.capacity + before.capacities.total fun row =>
        if Db.holds request.clusterID (pgTime request.now) row then amount row else 0 := by
  obtain ⟨held, admission⟩ := admits.admission
  -- the stored clock is not later, so that the query counts every row that is unexpired now
  have earlier : (before.capacities.total fun row =>
      if Db.holds request.clusterID request.now row then amount row else 0) ≤
        before.capacities.total fun row => if Db.holds request.clusterID (pgTime request.now) row then amount row else 0 := by
    refine Table.total_mono fun row member => ?_
    by_cases counted : Db.holds request.clusterID request.now row = true
    · have also : Db.holds request.clusterID (pgTime request.now) row = true := by
        simp only [Db.holds, Bool.and_eq_true, decide_eq_true_eq] at counted ⊢
        exact ⟨counted.1, lt_of_le_of_lt (pgTime_le _) counted.2⟩
      rw [if_pos counted, if_pos also]
    · rw [if_neg counted]
      split
      · exact nonneg row member
      · exact le_refl 0
  have new := Table.total_put_new (t := before.capacities) (r := request.bundle.stored.capacity)
    (f := fun row => if Db.holds request.clusterID request.now row then amount row else 0) admission.newCapacity
  have share : (if Db.holds request.clusterID request.now request.bundle.stored.capacity then
      amount request.bundle.stored.capacity else 0) ≤ amount request.bundle.stored.capacity := by
    split
    · exact le_refl _
    · exact positive
  rw [admits.capacities, new]
  omega

end NewReservation

theorem Ended.newReservation {o : platform.Outcome} (ended : Ended o) :
    (∃ request policy capacity, NewReservation o.txn request policy capacity o.before o.after) ∨
      (∀ c ∈ o.after.capacities, o.before.capacities.get? c.id ≠ none) ∧
        ∀ b ∈ o.after.budgets, o.before.budgets.get? b.id ≠ none := by
  rcases ended.cases with ⟨reply, held, -, commit⟩ | ⟨-, same⟩
  · exact commit.admission_cases
  · rw [same]
    exact .inr ⟨fun c member absent => Table.get?_eq_none.mp absent c member rfl,
      fun b member absent => Table.get?_eq_none.mp absent b member rfl⟩

/-! ## Capacity -/

/-- Whatever the interleaving and the clocks, an admission leaves the unexpired reservations of its cluster within the
newest snapshot of it. The transaction has read this snapshot: while it holds the cluster there is no newer one. -/
theorem admissions_within_capacity {start : Db} {s : platform.System} (fresh : start.Fresh)
    (reachable : Protocol.Reachable start s) :
    ∀ o ∈ s.history, ∀ c ∈ o.after.capacities, o.before.capacities.get? c.id = none →
      ∃ now capacity, admissionTime? o.txn = some now ∧ o.before.latestCapacity? c.clusterID = some capacity ∧
        o.after.reservedCPU c.clusterID now ≤ capacity.allocatableCPUMillis ∧
        o.after.reservedMemory c.clusterID now ≤ capacity.allocatableMemoryMiB := by
  intro o member c inside new
  have ended := (history_of_reachable fresh reachable).ended o member
  rcases ended.newReservation with ⟨request, policy, capacity, admits⟩ | ⟨none, -⟩
  · obtain rfl := admits.capacity_eq inside new
    obtain ⟨held, admission⟩ := admits.admission
    have checks := admission.capacityChecks
    simp only [CapacityReservation.checks, Bool.and_eq_true, decide_eq_true_eq] at checks
    have positive := ended.consistent.paired.positive
    refine ⟨request.now, capacity, admits.time, admission.snapshot, ?_, ?_⟩
    · have total := admits.total_le (·.cpuMillis) (fun c inside => (positive c inside).1.le) checks.1.2.le
      exact total.trans admission.cpu
    · have total := admits.total_le (·.memoryMiB) (fun c inside => (positive c inside).2.le) checks.2.le
      exact total.trans admission.memory
  · exact absurd new (none c inside)

/-- Acme schedules a run, and on the same day another scheduler reserves the cluster for a second one. -/
def acmeAdmitted : platform.System :=
  ranFrom Acme.db [Acme.create 10 "k", Acme.claim 1000, .schedule (Acme.intent (Acme.claimed 10 11 1 2 0) 1001 20),
    Acme.create 30 "l", .reserve (Acme.reservation 30 31 1002 (600 * second) 40)]

/-- The second admission counts the first. -/
theorem acme_within_capacity :
    ∃ o ∈ acmeAdmitted.history, o.before.reservedCPU "east-1" (Acme.seconds 1002) = 1000 ∧
      ∃ c ∈ o.after.capacities.rows, o.before.capacities.get? c.id = none ∧
      ∃ now capacity, admissionTime? o.txn = some now ∧ o.before.latestCapacity? c.clusterID = some capacity ∧
        o.after.reservedCPU c.clusterID now ≤ capacity.allocatableCPUMillis ∧
        o.after.reservedMemory c.clusterID now ≤ capacity.allocatableMemoryMiB := by
  have admitted : ∃ o ∈ acmeAdmitted.history, o.before.reservedCPU "east-1" (Acme.seconds 1002) = 1000 ∧
      ∃ c ∈ o.after.capacities.rows, o.before.capacities.get? c.id = none := by decide +kernel
  obtain ⟨o, member, reserved, c, inside, new⟩ := admitted
  exact ⟨o, member, reserved, c, inside, new,
    admissions_within_capacity Acme.db_fresh (ranFrom_reachable _ _) o member c inside new⟩

/-! ## Budget -/

/-- The totals of each day are the sums of the budget reservations, which have the states of their capacity
reservations; and an admission leaves the day of its tenant within the daily budget of the policy it has locked. -/
theorem admissions_within_budget {start : Db} {s : platform.System} (fresh : start.Fresh)
    (reachable : Protocol.Reachable start s) :
    (∀ tenantID date,
      (s.db.usageOf tenantID date).reservedMinorUnits = s.db.budgetTotal tenantID date .reserved ∧
        (s.db.usageOf tenantID date).spentMinorUnits = s.db.budgetTotal tenantID date .settled) ∧
    (∀ b ∈ s.db.budgets, ∃ c, s.db.capacities.get? b.capacityReservationID = some c ∧ b.state = c.state) ∧
    ∀ o ∈ s.history, ∀ b ∈ o.after.budgets, o.before.budgets.get? b.id = none →
      ∃ policy, o.before.policies.get? b.tenantID = some ⟨b.tenantID, policy⟩ ∧
        o.after.budgetUsed b.tenantID b.usageDate ≤ policy.dailyBudgetMinorUnits := by
  have history := history_of_reachable fresh reachable
  have consistent := history.consistent
  refine ⟨fun tenantID date => ⟨consistent.balanced.reserved tenantID date, consistent.balanced.spent tenantID date⟩,
    fun b inside => ?_, fun o member b inside new => ?_⟩
  · obtain ⟨c, found, state, -⟩ := consistent.paired.owner b inside
    exact ⟨c, found, state⟩
  · rcases (history.ended o member).newReservation with ⟨request, policy, capacity, admits⟩ | ⟨-, none⟩
    · obtain rfl := admits.budget_eq inside new
      obtain ⟨held, admission⟩ := admits.admission
      have budget := admission.budget
      have reserved := reserved_put admits.usage request.tenantID (day request.now)
      have spent := spent_put admits.usage request.tenantID (day request.now)
      rw [if_pos rfl] at reserved spent
      refine ⟨policy, admission.policyRow, ?_⟩
      change o.after.budgetUsed request.tenantID (day request.now) ≤ policy.dailyBudgetMinorUnits
      rw [budgetUsed_eq] at budget ⊢
      omega
    · exact absurd new (none b inside)

/-- The second admission of the day counts the first. -/
theorem acme_within_budget :
    ∃ o ∈ acmeAdmitted.history, o.before.budgetUsed Acme.tenantID (day (Acme.seconds 1002)) = 10 ∧
      ∃ b ∈ o.after.budgets.rows, o.before.budgets.get? b.id = none ∧
      ∃ policy, o.before.policies.get? b.tenantID = some ⟨b.tenantID, policy⟩ ∧
        o.after.budgetUsed b.tenantID b.usageDate ≤ policy.dailyBudgetMinorUnits := by
  have admitted : ∃ o ∈ acmeAdmitted.history, o.before.budgetUsed Acme.tenantID (day (Acme.seconds 1002)) = 10 ∧
      ∃ b ∈ o.after.budgets.rows, o.before.budgets.get? b.id = none := by decide +kernel
  obtain ⟨o, member, used, b, inside, new⟩ := admitted
  exact ⟨o, member, used, b, inside, new,
    (admissions_within_budget Acme.db_fresh (ranFrom_reachable _ _)).2.2 o member b inside new⟩

/-! ## What a Reserve grants -/

/-- The request and the bundle of a Reserve call that succeeded. -/
def grant? (o : platform.Outcome) : Option (ReservationRequest × ReservationBundle) :=
  match o with
  | ⟨.reserve request, .ok bundle, _, _⟩ => some (request, bundle)
  | _ => none

theorem grant?_eq_some {o : platform.Outcome} {request : ReservationRequest} {bundle : ReservationBundle}
    (granted : grant? o = some (request, bundle)) : ∃ before after, o = ⟨.reserve request, .ok bundle, before, after⟩ := by
  unfold grant? at granted
  split at granted
  · next request' bundle' before after =>
    cases granted
    exact ⟨before, after, rfl⟩
  · cases granted

/-- The bundle is active, it is what the request asks for, and admissions at the request's time count it. -/
structure Grants (request : ReservationRequest) (bundle : ReservationBundle) (db : Db) : Prop where
  attempt : bundle.capacity.tenantID = request.tenantID ∧ bundle.capacity.runID = request.runID ∧
    bundle.capacity.attemptID = request.attemptID ∧ bundle.capacity.attemptNumber = request.attemptNumber
  resources : bundle.capacity.clusterID = request.clusterID ∧ bundle.capacity.cpuMillis = request.cpuMillis ∧
    bundle.capacity.memoryMiB = request.memoryMiB ∧ bundle.budget.amountMinorUnits = request.budgetMinorUnits
  active : bundle.capacity.state = .reserved ∧ bundle.budget.state = .reserved
  unexpired : request.now < bundle.capacity.expiresAt
  counted : ∃ c, db.capacities.get? bundle.capacity.id = some c ∧ c.cpuMillis = request.cpuMillis ∧
    c.memoryMiB = request.memoryMiB ∧ Db.holds request.clusterID (pgTime request.now) c = true

/-- An active reservation of an attempt is the one that the index on active attempts has. -/
theorem activeCapacity?_eq {db : Db} (paired : db.Paired) {c : CapacityReservation} (member : c ∈ db.capacities)
    (active : c.state = .reserved) : db.activeCapacity? c.runID c.attemptNumber = some c := by
  cases found : db.activeCapacity? c.runID c.attemptNumber with
  | none =>
    have absent := List.find?_eq_none.mp found c member
    simp [active] at absent
  | some d =>
    have inside := List.mem_of_find?_eq_some found
    have passes := List.find?_some found
    simp only [Bool.and_eq_true, beq_iff_eq] at passes
    rw [paired.active d inside c member passes.1.1 passes.1.2 passes.2 active]

/-- A successful Reserve grants what was asked exactly if the active reservation it finds has not expired at its time,
or, when it finds none, if the new one expires in a later microsecond. -/
theorem grants_iff {start : Db} {s : platform.System} (fresh : start.Fresh) (reachable : Protocol.Reachable start s)
    {o : platform.Outcome} (member : o ∈ s.history) {request : ReservationRequest} {bundle : ReservationBundle}
    (granted : grant? o = some (request, bundle)) :
    Grants request bundle o.after ↔
      match o.before.activeCapacity? request.runID request.attemptNumber with
      | some existing => request.now < existing.expiresAt
      | none => pgTime request.now < pgTime (request.now + request.ttl) := by
  have ended := (history_of_reachable fresh reachable).ended o member
  have consistent := ended.consistent
  obtain ⟨before, after, rfl⟩ := grant?_eq_some granted
  obtain ⟨held, commit⟩ := ended.commit
  cases commit with
  | reserveFound _ _ valid agrees capacity budget paired active =>
    obtain ⟨tenant, run, number, state⟩ := active
    have inside := Table.mem_of_get? capacity
    have found := activeCapacity?_eq consistent.paired inside state
    rw [run, number] at found
    simp only [ReservationRequest.agrees, Bool.and_eq_true, beq_iff_eq] at agrees
    obtain ⟨⟨⟨⟨cluster, cpu⟩, memory⟩, amount⟩, attempt⟩ := agrees
    have budgetState : bundle.budget.state = .reserved := by
      obtain ⟨c, owner, same, -⟩ := consistent.paired.owner bundle.budget (Table.mem_of_get? budget)
      rw [paired, capacity] at owner
      cases owner
      exact same.trans state
    simp only [found]
    constructor
    · exact fun grants => grants.unexpired
    · intro unexpired
      refine ⟨⟨tenant, run, attempt, number⟩, ⟨cluster, cpu, memory, amount⟩, ⟨state, budgetState⟩, unexpired,
        bundle.capacity, capacity, cpu, memory, ?_⟩
      simp only [Db.holds, cluster, state, beq_self_eq_true, Bool.true_and, decide_eq_true_eq]
      exact lt_of_le_of_lt (pgTime_le _) unexpired
  | reserved _ policy snapshot valid admission =>
    have put := Table.get?_put_self (t := before.capacities) (r := request.bundle.stored.capacity)
    simp only [activeCapacity?_eq_none.mpr admission.inactive]
    constructor
    · rintro ⟨-, -, -, -, c, found, -, -, counted⟩
      cases put.symm.trans found
      simp only [Db.holds, Bool.and_eq_true, decide_eq_true_eq] at counted
      exact counted.2
    · intro later
      have ttl : 0 < request.ttl := by
        simp only [ReservationRequest.valid, Bool.and_eq_true, decide_eq_true_eq] at valid
        exact valid.1.2
      refine ⟨⟨rfl, rfl, rfl, rfl⟩, ⟨rfl, rfl, rfl, rfl⟩, ⟨rfl, rfl⟩, ?_, _, put, rfl, rfl, ?_⟩
      · exact Int.lt_add_of_pos_right request.now ttl
      · simp only [Db.holds, Bool.and_eq_true, decide_eq_true_eq]
        exact ⟨⟨beq_self_eq_true _, rfl⟩, later⟩

/-- Acme reserves capacity for ten seconds and asks for it again after twenty. -/
def acmeReserved : platform.System :=
  ranFrom Acme.db [Acme.create 10 "k", .reserve (Acme.reservation 10 11 1000 (10 * second) 20),
    .reserve (Acme.reservation 10 11 1020 (10 * second) 30)]

theorem acmeReserved_reachable : Protocol.Reachable Acme.db acmeReserved := ranFrom_reachable _ _

/-- The second Reserve succeeds with the first bundle, which has expired. -/
theorem acme_expired_grant :
    Protocol.Reachable Acme.db acmeReserved ∧ ∃ o ∈ acmeReserved.history, ∃ bundle,
      grant? o = some (Acme.reservation 10 11 1020 (10 * second) 30, bundle) ∧
        ¬Grants (Acme.reservation 10 11 1020 (10 * second) 30) bundle o.after := by
  have granted : ∃ o ∈ acmeReserved.history, grant? o = some (Acme.reservation 10 11 1020 (10 * second) 30,
      (Acme.reservation 10 11 1000 (10 * second) 20).bundle.stored) := by decide +kernel
  obtain ⟨o, member, granted⟩ := granted
  refine ⟨acmeReserved_reachable, o, member, _, granted, fun grants => ?_⟩
  have expired : ¬(Acme.reservation 10 11 1020 (10 * second) 30).now <
      (Acme.reservation 10 11 1000 (10 * second) 20).bundle.stored.capacity.expiresAt := by decide +kernel
  exact expired grants.unexpired

/-- The first Reserve grants what was asked. -/
theorem acme_granted :
    ∃ o ∈ acmeReserved.history, grant? o = some (Acme.reservation 10 11 1000 (10 * second) 20,
        (Acme.reservation 10 11 1000 (10 * second) 20).bundle) ∧
      Grants (Acme.reservation 10 11 1000 (10 * second) 20) (Acme.reservation 10 11 1000 (10 * second) 20).bundle o.after := by
  have granted : ∃ o ∈ acmeReserved.history, grant? o = some (Acme.reservation 10 11 1000 (10 * second) 20,
      (Acme.reservation 10 11 1000 (10 * second) 20).bundle) ∧ o.before.activeCapacity? (Acme.id 10) 1 = none := by
    decide +kernel
  obtain ⟨o, member, granted, inactive⟩ := granted
  refine ⟨o, member, granted, (grants_iff Acme.db_fresh acmeReserved_reachable member granted).mpr ?_⟩
  change match o.before.activeCapacity? (Acme.id 10) 1 with | some _ => _ | none => _
  rw [inactive]
  decide +kernel

end AgentForge.Platform
