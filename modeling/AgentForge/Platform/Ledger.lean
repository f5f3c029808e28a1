import AgentForge.Platform.Steps

/-!
# Reservations and the ledger

Capacity and budget reservations come in pairs, and the totals of each day are the sums of the budget
reservations. A commit touches the tables of reservations in two ways, by holding a new bundle or by closing a
reserved one, and both keep these facts.
-/

set_option autoImplicit false

namespace AgentForge.Platform

open Operator Lib

/-- Capacity and budget rows come in pairs with one state, and an attempt has at most one active pair. -/
structure Db.Paired (db : Db) : Prop where
  active : ∀ c ∈ db.capacities, ∀ d ∈ db.capacities, c.runID = d.runID → c.attemptNumber = d.attemptNumber →
    c.state = .reserved → d.state = .reserved → c = d
  budget : ∀ c ∈ db.capacities, ∃ b ∈ db.budgets, b.capacityReservationID = c.id
  owner : ∀ b ∈ db.budgets, ∃ c, db.capacities.get? b.capacityReservationID = some c ∧ b.state = c.state ∧
    b.tenantID = c.tenantID
  unique : ∀ b ∈ db.budgets, ∀ b' ∈ db.budgets, b.capacityReservationID = b'.capacityReservationID → b = b'
  positive : ∀ c ∈ db.capacities, 0 < c.cpuMillis ∧ 0 < c.memoryMiB

/-- The amount of a budget row, if it counts for a day of a tenant in a state. -/
def BudgetReservation.share (tenantID : UUID) (date : Time) (state : ReservationState) (row : BudgetReservation) : Int :=
  if row.tenantID = tenantID ∧ row.usageDate = date ∧ row.state = state then row.amountMinorUnits else 0

/-- The sum of the amounts of a tenant's budget reservations of a day in a state. -/
def Db.budgetTotal (db : Db) (tenantID : UUID) (date : Time) (state : ReservationState) : Int :=
  db.budgets.total (BudgetReservation.share tenantID date state)

/-- The totals of each day are the sums of the reservations. -/
structure Db.Balanced (db : Db) : Prop where
  recorded : ∀ b ∈ db.budgets, ∃ usage, db.usage.get? (b.tenantID, b.usageDate) = some usage
  reserved : ∀ tenantID date, (db.usageOf tenantID date).reservedMinorUnits = db.budgetTotal tenantID date .reserved
  spent : ∀ tenantID date, (db.usageOf tenantID date).spentMinorUnits = db.budgetTotal tenantID date .settled

/-! ## Reservations -/

/-- The tables that reservations live in. -/
def Db.reservations (db : Db) := (db.capacities, db.budgets, db.usage)

theorem Db.usageOf_key (db : Db) (tenantID : UUID) (date : Time) :
    ((db.usageOf tenantID date).tenantID, (db.usageOf tenantID date).usageDate) = (tenantID, date) := by
  unfold usageOf
  cases found : db.usage.get? (tenantID, date) with
  | none => rfl
  | some usage =>
    have key := Table.key_of_get? found
    exact key

/-- The totals of a day after some were added to one. -/
theorem usageOf_put {db after : Db} {tenantID : UUID} {date : Time} {spent reserved : Int}
    (put : after.usage = db.usage.put ((db.usageOf tenantID date).add spent reserved)) (tenantID' : UUID) (date' : Time) :
    after.usageOf tenantID' date' =
      if (tenantID, date) = (tenantID', date') then (db.usageOf tenantID date).add spent reserved
      else db.usageOf tenantID' date' := by
  have key : (((db.usageOf tenantID date).add spent reserved).tenantID,
      ((db.usageOf tenantID date).add spent reserved).usageDate) = (tenantID, date) := db.usageOf_key tenantID date
  rw [Db.usageOf, put, Table.get?_put, key]
  split <;> rfl

theorem reserved_put {db after : Db} {tenantID : UUID} {date : Time} {spent reserved : Int}
    (put : after.usage = db.usage.put ((db.usageOf tenantID date).add spent reserved)) (tenantID' : UUID) (date' : Time) :
    (after.usageOf tenantID' date').reservedMinorUnits = (db.usageOf tenantID' date').reservedMinorUnits +
      if (tenantID, date) = (tenantID', date') then reserved else 0 := by
  rw [usageOf_put put]
  split
  · next here =>
    obtain ⟨rfl, rfl⟩ := Prod.mk.inj here
    rfl
  · rw [add_zero]

theorem spent_put {db after : Db} {tenantID : UUID} {date : Time} {spent reserved : Int}
    (put : after.usage = db.usage.put ((db.usageOf tenantID date).add spent reserved)) (tenantID' : UUID) (date' : Time) :
    (after.usageOf tenantID' date').spentMinorUnits = (db.usageOf tenantID' date').spentMinorUnits +
      if (tenantID, date) = (tenantID', date') then spent else 0 := by
  rw [usageOf_put put]
  split
  · next here =>
    obtain ⟨rfl, rfl⟩ := Prod.mk.inj here
    rfl
  · rw [add_zero]

/-- A budget row counts for one day, in its state. -/
theorem BudgetReservation.share_eq (row : BudgetReservation) (tenantID : UUID) (date : Time) (state : ReservationState) :
    row.share tenantID date state =
      if (row.tenantID, row.usageDate) = (tenantID, date) then if row.state = state then row.amountMinorUnits else 0
      else 0 := by
  simp only [share, Prod.mk.injEq]
  split_ifs <;> simp_all

namespace Db.Paired

variable {held : List Key} {db after : Db}

theorem congr (paired : db.Paired) (same : after.reservations = db.reservations) : after.Paired := by
  obtain ⟨capacities, budgets, -⟩ : after.capacities = db.capacities ∧ after.budgets = db.budgets ∧
    after.usage = db.usage := by simpa [reservations] using same
  exact ⟨capacities ▸ paired.active, by rw [capacities, budgets]; exact paired.budget,
    by rw [capacities, budgets]; exact paired.owner, budgets ▸ paired.unique, capacities ▸ paired.positive⟩

theorem hold {request : ReservationRequest} {policy : SchedulingPolicy} {capacity : ClusterCapacity} (paired : db.Paired)
    (admission : Admission held db request policy capacity) : (db.hold request.bundle).Paired := by
  have newCapacity := Table.get?_eq_none.mp admission.newCapacity
  have newBudget := Table.get?_eq_none.mp admission.newBudget
  -- no budget row refers to the new capacity row
  have unowned : ∀ b ∈ db.budgets, b.capacityReservationID ≠ request.capacityID := by
    intro b member same
    obtain ⟨c, found, -⟩ := paired.owner b member
    rw [same, admission.newCapacity] at found
    cases found
  constructor
  · intro c memC d memD run number activeC activeD
    rcases Table.mem_put.mp memC with rfl | ⟨oldC, -⟩ <;> rcases Table.mem_put.mp memD with rfl | ⟨oldD, -⟩
    · rfl
    · exact absurd activeD (admission.inactive d oldD run.symm number.symm)
    · exact absurd activeC (admission.inactive c oldC run number)
    · exact paired.active c oldC d oldD run number activeC activeD
  · intro c memC
    rcases Table.mem_put.mp memC with rfl | ⟨oldC, -⟩
    · exact ⟨_, Table.mem_put.mpr (.inl rfl), rfl⟩
    · obtain ⟨b, member, same⟩ := paired.budget c oldC
      exact ⟨b, Table.mem_put.mpr (.inr ⟨member, newBudget b member⟩), same⟩
  · intro b memB
    rcases Table.mem_put.mp memB with rfl | ⟨oldB, -⟩
    · exact ⟨_, Table.get?_put_self, rfl, rfl⟩
    · obtain ⟨c, found, same⟩ := paired.owner b oldB
      have kept := Table.get?_put_ne (t := db.capacities) (r := request.bundle.stored.capacity) (Ne.symm (unowned b oldB))
      exact ⟨c, kept.trans found, same⟩
  · intro b memB b' memB' same
    rcases Table.mem_put.mp memB with rfl | ⟨oldB, -⟩ <;> rcases Table.mem_put.mp memB' with rfl | ⟨oldB', -⟩
    · rfl
    · exact absurd same.symm (unowned b' oldB')
    · exact absurd same (unowned b oldB)
    · exact paired.unique b oldB b' oldB' same
  · intro c memC
    rcases Table.mem_put.mp memC with rfl | ⟨oldC, -⟩
    · have checks := admission.capacityChecks
      simp only [CapacityReservation.checks, Bool.and_eq_true, decide_eq_true_eq] at checks
      exact ⟨checks.1.2, checks.2⟩
    · exact paired.positive c oldC

theorem close {bundle : ReservationBundle} {target : ReservationState} {now : Time} (paired : db.Paired)
    (closes : Closes held db bundle target) : (db.close bundle target now).Paired := by
  have capacityMem := Table.mem_of_get? closes.capacity
  have budgetMem := Table.mem_of_get? closes.budget
  -- the other budget rows refer to other capacity rows
  have apart : ∀ b ∈ db.budgets, b.id ≠ bundle.budget.id → b.capacityReservationID ≠ bundle.capacity.id := by
    intro b member other same
    exact other (congrArg (·.id) (paired.unique b member _ budgetMem (same.trans closes.paired.symm)))
  constructor
  · intro c memC d memD run number activeC activeD
    rcases Table.mem_put.mp memC with rfl | ⟨oldC, -⟩ <;> rcases Table.mem_put.mp memD with rfl | ⟨oldD, -⟩
    · rfl
    · exact absurd activeC closes.leaves
    · exact absurd activeD closes.leaves
    · exact paired.active c oldC d oldD run number activeC activeD
  · intro c memC
    rcases Table.mem_put.mp memC with rfl | ⟨oldC, other⟩
    · exact ⟨_, Table.mem_put.mpr (.inl rfl), closes.paired⟩
    · obtain ⟨b, member, same⟩ := paired.budget c oldC
      refine ⟨b, Table.mem_put.mpr (.inr ⟨member, fun eq => ?_⟩), same⟩
      have budget : b = bundle.budget := Table.eq_of_mem member budgetMem eq
      exact other (same.symm.trans (budget ▸ closes.paired))
  · intro b memB
    rcases Table.mem_put.mp memB with rfl | ⟨oldB, other⟩
    · obtain ⟨c, found, -, tenant⟩ := paired.owner _ budgetMem
      have found' := closes.paired ▸ found
      rw [closes.capacity] at found'
      cases found'
      refine ⟨bundle.capacity.close target now, ?_, rfl, tenant⟩
      change (db.capacities.put (bundle.capacity.close target now)).get? bundle.budget.capacityReservationID = _
      rw [closes.paired]
      exact Table.get?_put_self
    · obtain ⟨c, found, same⟩ := paired.owner b oldB
      have kept := Table.get?_put_ne (t := db.capacities) (r := bundle.capacity.close target now)
        (Ne.symm (apart b oldB other))
      exact ⟨c, kept.trans found, same⟩
  · intro b memB b' memB' same
    rcases Table.mem_put.mp memB with rfl | ⟨oldB, other⟩ <;> rcases Table.mem_put.mp memB' with rfl | ⟨oldB', other'⟩
    · rfl
    · exact absurd (same.symm.trans closes.paired) (apart b' oldB' other')
    · exact absurd (same.trans closes.paired) (apart b oldB other)
    · exact paired.unique b oldB b' oldB' same
  · intro c memC
    rcases Table.mem_put.mp memC with rfl | ⟨oldC, -⟩
    · exact paired.positive bundle.capacity capacityMem
    · exact paired.positive c oldC

end Db.Paired

/-- Both rows of a bundle are reserved until it is closed. -/
theorem Closes.budget_active {held : List Key} {db : Db} {bundle : ReservationBundle} {target : ReservationState}
    (closes : Closes held db bundle target) (paired : db.Paired) : bundle.budget.state = .reserved := by
  obtain ⟨c, found, same, -⟩ := paired.owner bundle.budget (Table.mem_of_get? closes.budget)
  rw [closes.paired, closes.capacity] at found
  cases found
  exact same.trans closes.active

namespace Db.Balanced

variable {held : List Key} {db after : Db}

theorem congr (balanced : db.Balanced) (same : after.reservations = db.reservations) : after.Balanced := by
  obtain ⟨-, budgets, usage⟩ : after.capacities = db.capacities ∧ after.budgets = db.budgets ∧
    after.usage = db.usage := by simpa [reservations] using same
  refine ⟨?_, ?_, ?_⟩
  · rw [budgets, usage]
    exact balanced.recorded
  · simp only [usageOf, budgetTotal, budgets, usage]
    exact balanced.reserved
  · simp only [usageOf, budgetTotal, budgets, usage]
    exact balanced.spent

/-- Adding to the totals of one day keeps every day recorded. -/
theorem recorded_put (balanced : db.Balanced) {usage : BudgetUsage} {b : BudgetReservation} (member : b ∈ db.budgets) :
    ∃ usage', (db.usage.put usage).get? (b.tenantID, b.usageDate) = some usage' := by
  rw [Table.get?_put]
  split
  · exact ⟨usage, rfl⟩
  · exact balanced.recorded b member

theorem hold {request : ReservationRequest} {policy : SchedulingPolicy} {capacity : ClusterCapacity}
    (balanced : db.Balanced) (admission : Admission held db request policy capacity) :
    (db.hold request.bundle).Balanced := by
  have total : ∀ tenantID date state, (db.hold request.bundle).budgetTotal tenantID date state =
      db.budgetTotal tenantID date state + request.bundle.stored.budget.share tenantID date state :=
    fun tenantID date state => Table.total_put_new admission.newBudget
  refine ⟨?_, ?_, ?_⟩
  · intro b memB
    rcases Table.mem_put.mp memB with rfl | ⟨oldB, -⟩
    · have key := db.usageOf_key request.tenantID (day request.now)
      exact ⟨_, Table.get?_eq_some.mpr ⟨Table.mem_put.mpr (.inl rfl), key⟩⟩
    · exact balanced.recorded_put oldB
  · intro tenantID date
    rw [reserved_put rfl, total, balanced.reserved, BudgetReservation.share_eq]
    rfl
  · intro tenantID date
    rw [spent_put rfl, total, balanced.spent, BudgetReservation.share_eq]
    rfl

theorem close {bundle : ReservationBundle} {target : ReservationState} {now : Time} (balanced : db.Balanced)
    (paired : db.Paired) (closes : Closes held db bundle target) : (db.close bundle target now).Balanced := by
  have member := Table.mem_of_get? closes.budget
  have active := closes.budget_active paired
  have total : ∀ tenantID date state, (db.close bundle target now).budgetTotal tenantID date state =
      db.budgetTotal tenantID date state - bundle.budget.share tenantID date state +
        (bundle.budget.close target now).share tenantID date state :=
    fun tenantID date state => Table.total_put_old closes.budget
  refine ⟨?_, ?_, ?_⟩
  · intro b memB
    rcases Table.mem_put.mp memB with rfl | ⟨oldB, -⟩
    · exact balanced.recorded_put (b := bundle.budget) member
    · exact balanced.recorded_put oldB
  · intro tenantID date
    rw [reserved_put rfl, total, balanced.reserved, BudgetReservation.share_eq, BudgetReservation.share_eq]
    by_cases here : (bundle.budget.tenantID, bundle.budget.usageDate) = (tenantID, date)
    · simp only [BudgetReservation.close, here, active, closes.leaves, if_true, if_false]
      omega
    · simp only [BudgetReservation.close, here, if_false]
      omega
  · intro tenantID date
    rw [spent_put rfl, total, balanced.spent, BudgetReservation.share_eq, BudgetReservation.share_eq]
    by_cases here : (bundle.budget.tenantID, bundle.budget.usageDate) = (tenantID, date)
    · by_cases settled : target = .settled <;>
        simp [BudgetReservation.close, BudgetReservation.spends, here, active, settled]
    · simp only [BudgetReservation.close, here, if_false]
      omega

end Db.Balanced

end AgentForge.Platform
