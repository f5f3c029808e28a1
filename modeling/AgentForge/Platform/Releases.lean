import Mathlib.Data.Finset.Max
import AgentForge.Platform.Admissions

/-!
# Settling, releasing and expiring reservations

A transition of a reservation does not look for the active one of its attempt but for the newest by its creation
time, which is the clock of whoever reserved it. It reaches the active reservation exactly if this is strictly the
newest of the attempt.
-/

set_option autoImplicit false

namespace AgentForge.Platform

open Operator Lib

/-! ## What admissions have checked of the rows -/

structure Db.Admitted (db : Db) : Prop where
  named : ∀ c ∈ db.capacities, c.tenantID ≠ .nil ∧ c.runID ≠ .nil ∧ 1 ≤ c.attemptNumber
  stamped : ∀ c ∈ db.capacities, pgTime c.expiresAt = c.expiresAt
  amounts : ∀ b ∈ db.budgets, 0 ≤ b.amountMinorUnits

theorem Db.Fresh.admitted {db : Db} (fresh : db.Fresh) : db.Admitted := by
  have capacities : ∀ c, c ∉ db.capacities := fun c => by simp [Table.mem_def, fresh.capacities]
  have budgets : ∀ b, b ∉ db.budgets := fun b => by simp [Table.mem_def, fresh.budgets]
  exact ⟨fun c member => absurd member (capacities c), fun c member => absurd member (capacities c),
    fun b member => absurd member (budgets b)⟩

theorem UUID.ne_nil_of_version {id : UUID} (version : id.version = 7) : id ≠ .nil := by
  rintro rfl
  revert version
  decide

theorem ReservationChange.admitted {held : List Key} {before after : Db} (change : ReservationChange held before after)
    (admitted : before.Admitted) : after.Admitted := by
  cases change with
  | same reservations =>
    have capacities : after.capacities = before.capacities := congrArg (·.1) reservations
    have budgets : after.budgets = before.budgets := congrArg (·.2.1) reservations
    exact ⟨capacities ▸ admitted.named, capacities ▸ admitted.stamped, budgets ▸ admitted.amounts⟩
  | held request policy capacity admission reservations =>
    have capacities : after.capacities = before.capacities.put request.bundle.stored.capacity :=
      congrArg (·.1) reservations
    have budgets : after.budgets = before.budgets.put request.bundle.stored.budget := congrArg (·.2.1) reservations
    have valid := admission.valid
    simp only [CapacityReservation.valid, Bool.and_eq_true, beq_iff_eq, decide_eq_true_eq] at valid
    obtain ⟨⟨⟨⟨⟨⟨⟨⟨⟨⟨⟨⟨-, tenant⟩, run⟩, -⟩, number⟩, -⟩, -⟩, -⟩, -⟩, -⟩, -⟩, -⟩, -⟩ := valid
    have checks := admission.budgetChecks
    simp only [BudgetReservation.checks, Bool.and_eq_true, decide_eq_true_eq] at checks
    refine ⟨fun c member => ?_, fun c member => ?_, fun b member => ?_⟩
    · rw [capacities] at member
      rcases Table.mem_put.mp member with rfl | ⟨old, -⟩
      · exact ⟨UUID.ne_nil_of_version tenant, UUID.ne_nil_of_version run, number⟩
      · exact admitted.named c old
    · rw [capacities] at member
      rcases Table.mem_put.mp member with rfl | ⟨old, -⟩
      · exact pgTime_pgTime _
      · exact admitted.stamped c old
    · rw [budgets] at member
      rcases Table.mem_put.mp member with rfl | ⟨old, -⟩
      · exact checks.2
      · exact admitted.amounts b old
  | closed bundle target now closes reservations =>
    have capacities : after.capacities = before.capacities.put (bundle.capacity.close target now) :=
      congrArg (·.1) reservations
    have budgets : after.budgets = before.budgets.put (bundle.budget.close target now) := congrArg (·.2.1) reservations
    refine ⟨fun c member => ?_, fun c member => ?_, fun b member => ?_⟩
    · rw [capacities] at member
      rcases Table.mem_put.mp member with rfl | ⟨old, -⟩
      · exact admitted.named bundle.capacity (Table.mem_of_get? closes.capacity)
      · exact admitted.named c old
    · rw [capacities] at member
      rcases Table.mem_put.mp member with rfl | ⟨old, -⟩
      · exact admitted.stamped bundle.capacity (Table.mem_of_get? closes.capacity)
      · exact admitted.stamped c old
    · rw [budgets] at member
      rcases Table.mem_put.mp member with rfl | ⟨old, -⟩
      · exact admitted.amounts bundle.budget (Table.mem_of_get? closes.budget)
      · exact admitted.amounts b old

theorem History.admitted {start last : Db} {outcomes : List platform.Outcome} (history : History start outcomes last) :
    last.Admitted :=
  history.invariant history.fresh.admitted fun _ commit admitted => commit.reservationChange.admitted admitted

theorem BudgetReservation.share_nonneg (b : BudgetReservation) (amount : 0 ≤ b.amountMinorUnits) (tenantID : UUID)
    (date : Time) (state : ReservationState) : 0 ≤ b.share tenantID date state := by
  unfold share
  split
  · exact amount
  · exact le_refl 0

theorem Db.Admitted.budgetTotal_nonneg {db : Db} (admitted : db.Admitted) (tenantID : UUID) (date : Time)
    (state : ReservationState) : 0 ≤ db.budgetTotal tenantID date state :=
  Table.total_nonneg fun b inside => b.share_nonneg (admitted.amounts b inside) tenantID date state

/-! ## The newest reservation of an attempt -/

/-- No other reservation of its attempt is as new as this one. -/
def Db.StrictlyNewest (db : Db) (c : CapacityReservation) : Prop :=
  ∀ d ∈ db.capacities, d.tenantID = c.tenantID → d.runID = c.runID → d.attemptNumber = c.attemptNumber →
    d.id ≠ c.id → d.createdAt < c.createdAt

/-- The request to move the newest reservation of an attempt. -/
def CapacityReservation.transition (c : CapacityReservation) (target : ReservationState) (now : Time) (pick : Nat) :
    ReservationTransition :=
  ⟨c.tenantID, c.runID, c.attemptNumber, now, target, pick⟩

section Newest

variable {db : Db} {c : CapacityReservation}

/-- Every reservation has a bundle. -/
theorem bundle_of_mem (paired : db.Paired) (member : c ∈ db.capacities) :
    ∃ bundle ∈ db.bundles c.tenantID c.runID c.attemptNumber, bundle.capacity = c := by
  obtain ⟨b, inside, owner⟩ := paired.budget c member
  have found : (db.budgetOf? c.id).isSome = true := by
    rw [Db.budgetOf?, List.find?_isSome]
    exact ⟨b, inside, by simpa using owner⟩
  obtain ⟨budget, found⟩ := Option.isSome_iff_exists.mp found
  refine ⟨⟨c, budget⟩, List.mem_filterMap.mpr ⟨c, List.mem_filter.mpr ⟨member, by simp⟩, ?_⟩, rfl⟩
  rw [Db.bundle?, found, Option.map_some]

theorem mem_newest {tenantID runID : UUID} {number : Int} {bundle : ReservationBundle} :
    bundle ∈ db.newest tenantID runID number ↔ bundle ∈ db.bundles tenantID runID number ∧
      ∀ other ∈ db.bundles tenantID runID number, other.capacity.createdAt ≤ bundle.capacity.createdAt := by
  simp [Db.newest, List.mem_filter]

/-- The bundle of a reservation is unique. -/
theorem Db.IsBundle.unique (paired : db.Paired) {bundle other : ReservationBundle} (isBundle : db.IsBundle bundle)
    (isOther : db.IsBundle other) (same : other.capacity = bundle.capacity) : other = bundle := by
  have budget : other.budget = bundle.budget := by
    refine paired.unique _ (Table.mem_of_get? isOther.budget) _ (Table.mem_of_get? isBundle.budget) ?_
    rw [isOther.paired, isBundle.paired, same]
  obtain ⟨capacity, budget'⟩ := other
  obtain rfl : capacity = bundle.capacity := same
  obtain rfl : budget' = bundle.budget := budget
  rfl

/-- The strictly newest reservation is the one that is found, whatever the pick. -/
theorem Db.StrictlyNewest.picked (paired : db.Paired) (member : c ∈ db.capacities) (newest : db.StrictlyNewest c) :
    ∃ bundle, bundle.capacity = c ∧ db.IsBundle bundle ∧ ∀ pick : Nat, (db.newest c.tenantID c.runID c.attemptNumber)[pick %
      (db.newest c.tenantID c.runID c.attemptNumber).length]? = some bundle := by
  obtain ⟨bundle, inside, own⟩ := bundle_of_mem paired member
  have isBundle := (mem_bundles inside).1
  have others : ∀ other ∈ db.bundles c.tenantID c.runID c.attemptNumber, other = bundle ∨
      other.capacity.createdAt < bundle.capacity.createdAt := by
    intro other ofAttempt
    obtain ⟨isOther, tenant, run, number⟩ := mem_bundles ofAttempt
    have old := Table.mem_of_get? isOther.capacity
    by_cases same : other.capacity.id = c.id
    · exact .inl (isBundle.unique paired isOther ((Table.eq_of_mem old member same).trans own.symm))
    · rw [own]
      exact .inr (newest _ old tenant run number same)
  have top : bundle ∈ db.newest c.tenantID c.runID c.attemptNumber := by
    refine mem_newest.mpr ⟨inside, fun other ofAttempt => ?_⟩
    rcases others other ofAttempt with rfl | older
    · exact le_refl _
    · exact older.le
  refine ⟨bundle, own, isBundle, fun pick => ?_⟩
  have bound := Nat.mod_lt pick (List.length_pos_of_mem top)
  rw [List.getElem?_eq_getElem bound]
  obtain ⟨ofAttempt, highest⟩ := mem_newest.mp (List.getElem_mem bound)
  rcases others _ ofAttempt with same | older
  · rw [same]
  · exact absurd older (not_lt.mpr (highest bundle inside))

/-- If another reservation is as new, some pick finds another one. -/
theorem picked_other (paired : db.Paired) (member : c ∈ db.capacities) (rivalled : ¬db.StrictlyNewest c) :
    ∃ pick bundle, bundle.capacity.id ≠ c.id ∧ bundle.capacity ∈ db.capacities ∧ bundle.capacity.runID = c.runID ∧
      bundle.capacity.attemptNumber = c.attemptNumber ∧ (db.newest c.tenantID c.runID c.attemptNumber)[pick %
        (db.newest c.tenantID c.runID c.attemptNumber).length]? = some bundle := by
  simp only [Db.StrictlyNewest, not_forall, not_lt] at rivalled
  obtain ⟨d, old, tenant, run, number, other, newer⟩ := rivalled
  obtain ⟨rival, inside, own⟩ := bundle_of_mem paired old
  rw [tenant, run, number] at inside
  -- the newest of the others is the newest of all
  obtain ⟨top, isOther, highest⟩ := Finset.exists_max_image
    ((db.bundles c.tenantID c.runID c.attemptNumber).filter fun b => b.capacity.id ≠ c.id).toFinset
    (fun b => b.capacity.createdAt) ⟨rival, by simpa [inside, own] using other⟩
  simp only [List.mem_toFinset, List.mem_filter, decide_eq_true_eq] at isOther highest
  obtain ⟨ofAttempt, apart⟩ := isOther
  have newest : top ∈ db.newest c.tenantID c.runID c.attemptNumber := by
    refine mem_newest.mpr ⟨ofAttempt, fun b inside' => ?_⟩
    by_cases same : b.capacity.id = c.id
    · have eq : b.capacity = c := Table.eq_of_mem (Table.mem_of_get? (mem_bundles inside').1.capacity) member same
      have above := highest rival ⟨inside, by rw [own]; exact other⟩
      rw [own] at above
      rw [eq]
      exact newer.trans above
    · exact highest b ⟨inside', same⟩
  obtain ⟨isBundle, -, sameRun, sameNumber⟩ := mem_bundles ofAttempt
  obtain ⟨pick, found⟩ := List.getElem?_of_mem newest
  refine ⟨pick, top, apart, Table.mem_of_get? isBundle.capacity, sameRun, sameNumber, ?_⟩
  have bound : pick < _ := (List.getElem?_eq_some_iff.mp found).1
  rw [Nat.mod_eq_of_lt bound]
  exact found

end Newest

/-! ## One transition -/

section Transition

variable {db : Db} {request : ReservationTransition} {bundle : ReservationBundle}

/-- What a transition does with the reservation that it finds. -/
theorem transition_view (valid : request.valid = true) (found : (db.newest request.tenantID request.runID
      request.attemptNumber)[request.pick % (db.newest request.tenantID request.runID request.attemptNumber).length]? =
        some bundle) :
    (transitionReservation request).view platform db =
      if bundle.capacity.state = request.target then (.ok false, db)
      else if bundle.capacity.state ≠ .reserved then (.error .conflict, db)
      else if request.target = .expired then
        match db.capacities.get? bundle.capacity.id with
        | some c => if request.now < c.expiresAt then (.ok false, db) else (closeBundle request bundle).view platform db
        | none => (.error .notFound, db)
      else (closeBundle request bundle).view platform db := by
  rw [transitionReservation, view_check, if_pos valid, lockPolicy, view_lock, lockNewest, view_findLocked, found]
  dsimp only
  split
  · rfl
  · split
    · rfl
    · split
      · rw [selectExpiresAt, view_find]
        cases db.capacities.get? bundle.capacity.id with
        | none => rfl
        | some c =>
          dsimp only [Option.map_some]
          split <;> rfl
      · rfl

/-- A transition that commits changes nothing, or it closes the active reservation of its attempt. -/
theorem Commit.transition_cases {held : List Key} {after : Db} {reply : Bool}
    (commit : Commit held db (.transitionReservation request) reply after) :
    reply = false ∧ after = db ∨ reply = true ∧ ∃ bundle, bundle.capacity.runID = request.runID ∧
      bundle.capacity.attemptNumber = request.attemptNumber ∧ Closes held db bundle request.target ∧
      after = db.close bundle request.target request.now := by
  cases commit with
  | unmoved => exact .inl ⟨rfl, rfl⟩
  | closed _ bundle same closes => exact .inr ⟨rfl, bundle, same.2.1, same.2.2, closes, rfl⟩

theorem transition_cases (consistent : Consistent db) (request : ReservationTransition) :
    (runAlone (transitionReservation request) db).1 ≠ .ok true ∧ (runAlone (transitionReservation request) db).2 = db ∨
    (runAlone (transitionReservation request) db).1 = .ok true ∧ ∃ held bundle,
      bundle.capacity.runID = request.runID ∧ bundle.capacity.attemptNumber = request.attemptNumber ∧
      Closes held db bundle request.target ∧
      (runAlone (transitionReservation request) db).2 = db.close bundle request.target request.now := by
  cases result : (runAlone (transitionReservation request) db).1 with
  | error e => exact .inl ⟨nofun, runAlone_error result⟩
  | ok reply =>
    obtain ⟨held, commit⟩ := commit_of_alone (.transitionReservation request) consistent (runAlone_eq result)
    rcases commit.transition_cases with ⟨rfl, same⟩ | ⟨rfl, bundle, run, number, closes, closed⟩
    · exact .inl ⟨nofun, same⟩
    · exact .inr ⟨rfl, held, bundle, run, number, closes, closed⟩

/-- The reservations that a transition leaves are in order again. -/
theorem transition_keeps (consistent : Consistent db) (admitted : db.Admitted) (request : ReservationTransition) :
    Consistent (runAlone (transitionReservation request) db).2 ∧
      (runAlone (transitionReservation request) db).2.Admitted := by
  cases result : (runAlone (transitionReservation request) db).1 with
  | error e =>
    rw [runAlone_error result]
    exact ⟨consistent, admitted⟩
  | ok reply =>
    obtain ⟨held, commit⟩ := commit_of_alone (.transitionReservation request) consistent (runAlone_eq result)
    exact ⟨commit.consistent consistent, commit.reservationChange.admitted admitted⟩

/-- A transition leaves the reservations of the other attempts alone. -/
theorem transition_other (consistent : Consistent db) (request : ReservationTransition) {c : CapacityReservation}
    (member : c ∈ db.capacities) (other : c.runID = request.runID → c.attemptNumber ≠ request.attemptNumber) :
    c ∈ (runAlone (transitionReservation request) db).2.capacities := by
  rcases transition_cases consistent request with ⟨-, same⟩ | ⟨-, held, bundle, run, number, closes, closed⟩
  · rw [same]
    exact member
  · rw [closed]
    refine Table.mem_put.mpr (.inr ⟨member, fun same => ?_⟩)
    have eq : c = bundle.capacity := Table.eq_of_mem member (Table.mem_of_get? closes.capacity) same
    exact other (eq ▸ run) (eq ▸ number)

/-- The day of an active bundle has its amount reserved. -/
theorem usage_covers (consistent : Consistent db) (admitted : db.Admitted) (isBundle : db.IsBundle bundle)
    (active : bundle.budget.state = .reserved) :
    bundle.budget.amountMinorUnits ≤ (db.usageOf bundle.budget.tenantID bundle.budget.usageDate).reservedMinorUnits ∧
      0 ≤ (db.usageOf bundle.budget.tenantID bundle.budget.usageDate).spentMinorUnits := by
  rw [consistent.balanced.reserved, consistent.balanced.spent]
  constructor
  · have whole := Table.total_eq_share db.budgets
      (BudgetReservation.share bundle.budget.tenantID bundle.budget.usageDate .reserved) bundle.budget.id
    have rest : 0 ≤ ((db.budgets.rows.filter fun b => b.id ≠ bundle.budget.id).map
        (BudgetReservation.share bundle.budget.tenantID bundle.budget.usageDate .reserved)).sum := by
      apply List.sum_nonneg
      intro x inside
      obtain ⟨b, kept, rfl⟩ := List.mem_map.mp inside
      exact b.share_nonneg (admitted.amounts b (List.mem_filter.mp kept).1) _ _ _
    have own : bundle.budget.share bundle.budget.tenantID bundle.budget.usageDate .reserved =
        bundle.budget.amountMinorUnits := if_pos ⟨rfl, rfl, active⟩
    rw [isBundle.budget, Option.map_some, Option.getD_some, own] at whole
    unfold Db.budgetTotal
    omega
  · exact admitted.budgetTotal_nonneg _ _ .settled

/-- Nothing stands in the way of closing an active bundle. -/
theorem closeBundle_view (consistent : Consistent db) (admitted : db.Admitted) (isBundle : db.IsBundle bundle)
    (request : ReservationTransition) (tenant : bundle.capacity.tenantID = request.tenantID) (active : bundle.capacity.state = .reserved) :
    ∃ after, (closeBundle request bundle).view platform db = (.ok true, after) := by
  obtain ⟨state, owner⟩ := isBundle.budget_eq consistent.paired
  obtain ⟨usage, recorded⟩ := consistent.balanced.recorded bundle.budget (Table.mem_of_get? isBundle.budget)
  have covers := usage_covers consistent admitted isBundle (state.trans active)
  have amount := admitted.amounts bundle.budget (Table.mem_of_get? isBundle.budget)
  rw [Db.usageOf, recorded, Option.getD_some] at covers
  rw [owner.trans tenant] at recorded
  have checks : (usage.add (if request.target = .settled then bundle.budget.amountMinorUnits else 0)
      (-bundle.budget.amountMinorUnits)).checks = true := by
    simp only [BudgetUsage.checks, BudgetUsage.add, Bool.and_eq_true]
    split <;> exact ⟨decide_eq_true (by omega), decide_eq_true (by omega)⟩
  have found : (platform.applyAll db [.capacity (bundle.capacity.close request.target request.now)]).budgets.get?
      bundle.budget.id = some bundle.budget := isBundle.budget
  have day : (platform.applyAll (platform.applyAll db [.capacity (bundle.capacity.close request.target request.now)])
      [.budget (bundle.budget.close request.target request.now)]).usage.get? (request.tenantID, bundle.budget.usageDate) =
        some usage := recorded
  rw [closeBundle, view_perform, closeCapacity_reserved isBundle.capacity active, view_perform,
    closeBudget_reserved found (state.trans active), view_exec]
  simp only [addUsage, day, checks, Bool.not_true, Bool.false_eq_true, if_false]
  exact ⟨_, rfl⟩

/-- The strictly newest reservation is moved, if it is active. -/
theorem transition_reaches (consistent : Consistent db) (admitted : db.Admitted) {c : CapacityReservation}
    (member : c ∈ db.capacities) (active : c.state = .reserved) (newest : db.StrictlyNewest c) {target : ReservationState}
    {now : Time} (leaves : target ≠ .reserved) (clock : Time.isZero now = false)
    (due : target = .expired → c.expiresAt ≤ now) :
    ∃ held bundle, bundle.capacity = c ∧ Closes held db bundle target ∧ ∀ pick,
      runAlone (transitionReservation (c.transition target now pick)) db = (.ok true, db.close bundle target now) := by
  obtain ⟨bundle, own, isBundle, found⟩ := newest.picked consistent.paired member
  obtain ⟨tenant, run, number⟩ := admitted.named c member
  have state : bundle.capacity.state = .reserved := own ▸ active
  have moves : ∀ pick, (runAlone (transitionReservation (c.transition target now pick)) db).1 = .ok true := by
    intro pick
    have valid : (c.transition target now pick).valid = true := by
      simp [ReservationTransition.valid, CapacityReservation.transition, tenant, run, number, clock]
    obtain ⟨after, closed⟩ := closeBundle_view consistent admitted isBundle (c.transition target now pick)
      (congrArg (·.tenantID) own) state
    have other : bundle.capacity.state ≠ (c.transition target now pick).target := fun same =>
      leaves (same.symm.trans state)
    have view : (transitionReservation (c.transition target now pick)).view platform db = (.ok true, after) := by
      rw [transition_view valid (found pick), if_neg other, if_neg (not_not.mpr state), isBundle.capacity]
      dsimp only
      split
      · next isExpired =>
        have late : ¬(c.transition target now pick).now < bundle.capacity.expiresAt := by
          rw [own]
          exact not_lt.mpr (due isExpired)
        rw [if_neg late]
        exact closed
      · exact closed
    rw [runAlone, Tx.alone_eq_ok.mpr view]
  -- what a transition closes is the active bundle of the attempt
  have closes : ∀ pick, ∃ held, Closes held db bundle target ∧
      (runAlone (transitionReservation (c.transition target now pick)) db).2 = db.close bundle target now := by
    intro pick
    rcases transition_cases consistent (c.transition target now pick) with
      ⟨failed, -⟩ | ⟨-, held, moved, sameRun, sameNumber, closes, left⟩
    · exact absurd (moves pick) failed
    · have same : moved.capacity = c := consistent.paired.active _ (Table.mem_of_get? closes.capacity) c member sameRun
        sameNumber closes.active active
      obtain rfl := isBundle.unique consistent.paired ⟨closes.capacity, closes.budget, closes.paired⟩ (same.trans own.symm)
      exact ⟨held, closes, left⟩
  obtain ⟨held, closed, -⟩ := closes 0
  refine ⟨held, bundle, own, closed, fun pick => ?_⟩
  obtain ⟨-, -, left⟩ := closes pick
  rw [runAlone_eq (moves pick), left]

/-- If another reservation of the attempt is as new as the active one, it may be found in its place. -/
theorem transition_blocked (consistent : Consistent db) {c : CapacityReservation} (member : c ∈ db.capacities)
    (active : c.state = .reserved) (rivalled : ¬db.StrictlyNewest c) (target : ReservationState) (now : Time) :
    ∃ pick, (runAlone (transitionReservation (c.transition target now pick)) db).2 = db := by
  obtain ⟨pick, bundle, other, inside, run, number, found⟩ := picked_other consistent.paired member rivalled
  have ended : bundle.capacity.state ≠ .reserved := fun also =>
    other (congrArg (·.id) (consistent.paired.active _ inside c member run number also active))
  refine ⟨pick, ?_⟩
  rcases transition_cases consistent (c.transition target now pick) with ⟨-, same⟩ | ⟨moved, -⟩
  · exact same
  · have view := Tx.alone_eq_ok.mp (runAlone_eq moved)
    cases valid : (c.transition target now pick).valid with
    | false =>
      rw [transitionReservation, view_check, valid] at view
      cases view
    | true =>
      rw [transition_view valid found, if_pos ended] at view
      split at view <;> cases view

end Transition

/-! ## Release and Settle -/

/-- Exactly one reservation and its budget row were moved. -/
structure Moved (c : CapacityReservation) (target : ReservationState) (now : Time) (before after : Db) : Prop where
  capacity : after.capacities.get? c.id = some (c.close target now)
  capacities : ∀ id, id ≠ c.id → after.capacities.get? id = before.capacities.get? id
  budget : ∃ b ∈ before.budgets, b.capacityReservationID = c.id ∧ after.budgets.get? b.id = some (b.close target now) ∧
    ∀ id, id ≠ b.id → after.budgets.get? id = before.budgets.get? id

theorem Closes.moved {held : List Key} {db : Db} {bundle : ReservationBundle} {target : ReservationState} {now : Time}
    (closes : Closes held db bundle target) : Moved bundle.capacity target now db (db.close bundle target now) := by
  have capacity := Table.get?_put_self (t := db.capacities) (r := bundle.capacity.close target now)
  have budget := Table.get?_put_self (t := db.budgets) (r := bundle.budget.close target now)
  exact ⟨capacity, fun id other => Table.get?_put_ne (r := bundle.capacity.close target now) (Ne.symm other),
    bundle.budget, Table.mem_of_get? closes.budget, closes.paired, budget,
    fun id other => Table.get?_put_ne (r := bundle.budget.close target now) (Ne.symm other)⟩

/-! ## ReclaimExpired -/

/-- The reservation is active although its time is over. -/
def CapacityReservation.lapsed (c : CapacityReservation) (now : Time) : Bool := c.state == .reserved && c.expiresAt ≤ now

/-- The loop of `ReclaimExpired` over the reservations it has listed, with the number of those it has moved. -/
def reclaimItems (now : Time) (pick : UUID → Nat) : List CapacityReservation → Nat → Db → (Nat × Except Error Unit) × Db
  | [], reclaimed, db => ((reclaimed, .ok ()), db)
  | item :: rest, reclaimed, db =>
    match runAlone (transitionReservation (item.transition .expired now (pick item.id))) db with
    | (.error e, after) => ((reclaimed, .error e), after)
    | (.ok changed, after) => reclaimItems now pick rest (if changed then reclaimed + 1 else reclaimed) after

/-- `ReclaimExpired`, with no other transaction in between. -/
def reclaimExpired (now : Time) (limit : Int) (pick : UUID → Nat) (db : Db) : (Nat × Except Error Unit) × Db :=
  if Time.isZero now || limit < 1 || 1000 < limit then
    ((0, .error (.invalid "expired reservation reclaim request is invalid")), db)
  else reclaimItems now pick (db.expired now limit.toNat) 0 db

/-- Of the reservations exactly the lapsed ones were moved. -/
structure Reclaimed (now : Time) (before after : Db) : Prop where
  closed : ∀ c ∈ before.capacities, c.lapsed now = true → ∃ c' ∈ after.capacities, c'.id = c.id ∧ c'.state ≠ .reserved
  capacities : ∀ id, (∀ c ∈ before.capacities, c.id = id → c.lapsed now = false) →
    after.capacities.get? id = before.capacities.get? id
  budgets : ∀ id, (∀ b ∈ before.budgets, b.id = id → ∀ c ∈ before.capacities, c.id = b.capacityReservationID →
    c.lapsed now = false) → after.budgets.get? id = before.budgets.get? id

theorem CapacityReservation.lapsed_iff {c : CapacityReservation} {now : Time} :
    c.lapsed now = true ↔ c.state = .reserved ∧ c.expiresAt ≤ now := by
  simp [lapsed]

section Reclaim

variable {now : Time} {pick : UUID → Nat} {items : List CapacityReservation} {reclaimed : Nat} {db : Db}

/-- What every transition of the loop keeps, the loop keeps. -/
theorem reclaimItems_keeps {I : Db → Prop} (consistent : Consistent db) (admitted : db.Admitted) (holds : I db)
    (step : ∀ item ∈ items, ∀ db, Consistent db → I db →
      I (runAlone (transitionReservation (item.transition .expired now (pick item.id))) db).2) :
    I (reclaimItems now pick items reclaimed db).2 := by
  induction items generalizing reclaimed db with
  | nil => exact holds
  | cons item rest ih =>
    have next := step item List.mem_cons_self db consistent holds
    obtain ⟨consistent', admitted'⟩ :=
      transition_keeps consistent admitted (item.transition .expired now (pick item.id))
    unfold reclaimItems
    rcases ran : runAlone (transitionReservation (item.transition .expired now (pick item.id))) db with
      ⟨e | changed, after⟩ <;> rw [ran] at next consistent' admitted'
    · exact next
    · exact ih consistent' admitted' next fun item inside => step item (List.mem_cons_of_mem _ inside)

/-- A closed reservation stays as it is. -/
theorem transition_ended (consistent : Consistent db) (request : ReservationTransition) {c : CapacityReservation}
    (member : c ∈ db.capacities) (ended : c.state ≠ .reserved) :
    c ∈ (runAlone (transitionReservation request) db).2.capacities := by
  rcases transition_cases consistent request with ⟨-, same⟩ | ⟨-, held, bundle, -, -, closes, closed⟩
  · rw [same]
    exact member
  · rw [closed]
    refine Table.mem_put.mpr (.inr ⟨member, fun same => ended ?_⟩)
    have eq : c = bundle.capacity := Table.eq_of_mem member (Table.mem_of_get? closes.capacity) same
    rw [eq]
    exact closes.active

/-- Being the strictly newest does not depend on what was closed. -/
theorem Db.StrictlyNewest.close_iff {held : List Key} {bundle : ReservationBundle} {target : ReservationState}
    (closes : Closes held db bundle target) (c : CapacityReservation) :
    (db.close bundle target now).StrictlyNewest c ↔ db.StrictlyNewest c := by
  have inside := Table.mem_of_get? closes.capacity
  constructor
  · intro newest d member tenant run number other
    by_cases same : d.id = bundle.capacity.id
    · obtain rfl : d = bundle.capacity := Table.eq_of_mem member inside same
      exact newest (bundle.capacity.close target now) (Table.mem_put.mpr (.inl rfl)) tenant run number other
    · exact newest d (Table.mem_put.mpr (.inr ⟨member, same⟩)) tenant run number other
  · intro newest d member tenant run number other
    rcases Table.mem_put.mp member with rfl | ⟨old, -⟩
    · exact newest bundle.capacity inside tenant run number other
    · exact newest d old tenant run number other

theorem expired_leaves : ReservationState.expired ≠ .reserved := nofun

/-- If the listed reservations are the strictly newest of their attempts, all are closed. -/
theorem reclaimItems_closes (clock : Time.isZero now = false) (consistent : Consistent db) (admitted : db.Admitted)
    (listed : ∀ c ∈ items, c ∈ db.capacities ∧ c.lapsed now = true) (distinct : (items.map (·.id)).Nodup)
    (newest : ∀ c ∈ items, db.StrictlyNewest c) :
    ∀ c ∈ items, c.close .expired now ∈ (reclaimItems now pick items reclaimed db).2.capacities := by
  induction items generalizing reclaimed db with
  | nil => exact fun c member => absurd member List.not_mem_nil
  | cons item rest ih =>
    obtain ⟨member, lapsed⟩ := listed item List.mem_cons_self
    obtain ⟨active, due⟩ := CapacityReservation.lapsed_iff.mp lapsed
    obtain ⟨held, bundle, rfl, closes, ran⟩ := transition_reaches consistent admitted member active
      (newest item List.mem_cons_self) expired_leaves clock fun _ => due
    have keeps := transition_keeps consistent admitted (bundle.capacity.transition .expired now (pick bundle.capacity.id))
    rw [List.map_cons, List.nodup_cons] at distinct
    have apart : ∀ c ∈ rest, c.id ≠ bundle.capacity.id := fun c inside same =>
      distinct.1 (List.mem_map.mpr ⟨c, inside, same⟩)
    rw [ran] at keeps
    unfold reclaimItems
    rw [ran]
    intro c inside
    rcases List.mem_cons.mp inside with rfl | later
    · refine reclaimItems_keeps (I := fun db => bundle.capacity.close .expired now ∈ db.capacities) keeps.1 keeps.2
        (Table.mem_put.mpr (.inl rfl)) fun item _ db consistent still => ?_
      exact transition_ended consistent _ still nofun
    · refine ih keeps.1 keeps.2 (fun c inside => ?_) distinct.2 (fun c inside => ?_) c later
      · obtain ⟨old, isLapsed⟩ := listed c (List.mem_cons_of_mem _ inside)
        exact ⟨Table.mem_put.mpr (.inr ⟨old, apart c inside⟩), isLapsed⟩
      · exact (Db.StrictlyNewest.close_iff closes c).mpr (newest c (List.mem_cons_of_mem _ inside))

/-- If one of the listed reservations is not the strictly newest of its attempt, one may stay active. -/
theorem reclaimItems_blocked (clock : Time.isZero now = false) (consistent : Consistent db) (admitted : db.Admitted)
    (listed : ∀ c ∈ items, c ∈ db.capacities ∧ c.lapsed now = true) (distinct : (items.map (·.id)).Nodup)
    (rivalled : ∃ c ∈ items, ¬db.StrictlyNewest c) (reclaimed : Nat) :
    ∃ pick, ∃ c ∈ items, c ∈ (reclaimItems now pick items reclaimed db).2.capacities := by
  induction items generalizing reclaimed db with
  | nil =>
    obtain ⟨c, impossible, -⟩ := rivalled
    exact absurd impossible List.not_mem_nil
  | cons item rest ih =>
    obtain ⟨member, lapsed⟩ := listed item List.mem_cons_self
    obtain ⟨active, due⟩ := CapacityReservation.lapsed_iff.mp lapsed
    rw [List.map_cons, List.nodup_cons] at distinct
    have apart : ∀ c ∈ rest, c.id ≠ item.id := fun c inside same => distinct.1 (List.mem_map.mpr ⟨c, inside, same⟩)
    by_cases newest : db.StrictlyNewest item
    · -- the first one is closed whatever the pick, and the others stand as before
      obtain ⟨held, bundle, rfl, closes, ran⟩ :=
        transition_reaches consistent admitted member active newest expired_leaves clock fun _ => due
      have keeps := transition_keeps consistent admitted (bundle.capacity.transition .expired now 0)
      rw [ran] at keeps
      obtain ⟨pick, c, inside, still⟩ := ih keeps.1 keeps.2
        (fun c inside => by
          obtain ⟨old, isLapsed⟩ := listed c (List.mem_cons_of_mem _ inside)
          exact ⟨Table.mem_put.mpr (.inr ⟨old, apart c inside⟩), isLapsed⟩) distinct.2
        (by
          obtain ⟨c, inside, not⟩ := rivalled
          rcases List.mem_cons.mp inside with rfl | later
          · exact absurd newest not
          · exact ⟨c, later, fun newer => not ((Db.StrictlyNewest.close_iff closes c).mp newer)⟩) (reclaimed + 1)
      refine ⟨pick, c, List.mem_cons_of_mem _ inside, ?_⟩
      unfold reclaimItems
      rw [ran]
      exact still
    · -- the first one is passed over, and nothing later touches its attempt
      obtain ⟨n, same⟩ := transition_blocked consistent member active newest .expired now
      refine ⟨fun _ => n, item, List.mem_cons_self, ?_⟩
      unfold reclaimItems
      rcases ran : runAlone (transitionReservation (item.transition .expired now n)) db with ⟨e | changed, after⟩ <;>
        rw [ran] at same <;> obtain rfl : after = db := same
      · exact member
      · refine reclaimItems_keeps (I := fun db => item ∈ db.capacities) consistent admitted member
          fun other inside db' consistent' still => transition_other consistent' _ still fun run number => ?_
        obtain ⟨old, isLapsed⟩ := listed other (List.mem_cons_of_mem _ inside)
        have eq := consistent.paired.active other old item member run.symm number.symm
          (CapacityReservation.lapsed_iff.mp isLapsed).1 active
        exact apart other inside (congrArg (·.id) eq)

/-- What the loop leaves alone. -/
structure Untouched (now : Time) (before after : Db) : Prop where
  active : ∀ c ∈ after.capacities, c.state = .reserved → c ∈ before.capacities
  capacities : ∀ id, (∀ c ∈ before.capacities, c.id = id → c.lapsed now = false) →
    after.capacities.get? id = before.capacities.get? id
  budgets : ∀ id, (∀ b ∈ before.budgets, b.id = id → ∀ c ∈ before.capacities, c.id = b.capacityReservationID →
    c.lapsed now = false) → after.budgets.get? id = before.budgets.get? id

theorem reclaimItems_untouched (consistent : Consistent db) (admitted : db.Admitted)
    (listed : ∀ c ∈ items, c ∈ db.capacities ∧ c.lapsed now = true) :
    Untouched now db (reclaimItems now pick items reclaimed db).2 := by
  refine reclaimItems_keeps (I := Untouched now db) consistent admitted
    ⟨fun c member _ => member, fun _ _ => rfl, fun _ _ => rfl⟩ fun item inside db' consistent' kept => ?_
  rcases transition_cases consistent' (item.transition .expired now (pick item.id)) with
    ⟨-, same⟩ | ⟨-, held, bundle, run, number, closes, closed⟩
  · rw [same]
    exact kept
  · -- what is closed is the listed reservation itself
    obtain ⟨member, lapsed⟩ := listed item inside
    have was : bundle.capacity ∈ db.capacities := kept.active _ (Table.mem_of_get? closes.capacity) closes.active
    obtain rfl : bundle.capacity = item := consistent.paired.active _ was item member run number closes.active
      (CapacityReservation.lapsed_iff.mp lapsed).1
    rw [closed]
    refine ⟨fun c member active => ?_, fun id others => ?_, fun id others => ?_⟩
    · rcases Table.mem_put.mp member with rfl | ⟨before, -⟩
      · cases active
      · exact kept.active c before active
    · rw [← kept.capacities id others]
      refine Table.get?_put_ne (r := bundle.capacity.close .expired now) fun same => ?_
      rw [others bundle.capacity was same] at lapsed
      cases lapsed
    · rw [← kept.budgets id others]
      refine Table.get?_put_ne (r := bundle.budget.close .expired now) fun same => ?_
      have found := closes.budget
      have sameID : bundle.budget.id = id := same
      rw [sameID, kept.budgets id others] at found
      rw [others bundle.budget (Table.mem_of_get? found) sameID bundle.capacity was closes.paired.symm] at lapsed
      cases lapsed

/-- With a limit that is high enough, the reservations that are listed are the lapsed ones. -/
theorem mem_expired (admitted : db.Admitted) {limit : Nat}
    (enough : (db.capacities.rows.filter (·.lapsed now)).length ≤ limit) {c : CapacityReservation} :
    c ∈ db.expired now limit ↔ c ∈ db.capacities ∧ c.lapsed now = true := by
  have stored : (db.capacities.rows.filter fun row => row.state == .reserved && row.expiresAt ≤ pgTime now) =
      db.capacities.rows.filter (·.lapsed now) := by
    refine List.filter_congr fun row member => ?_
    have due : row.expiresAt ≤ pgTime now ↔ row.expiresAt ≤ now := by
      constructor
      · exact fun le => le.trans (pgTime_le now)
      · intro le
        rw [← admitted.stamped row member]
        exact pgTime_mono le
    rw [CapacityReservation.lapsed, decide_eq_decide.mpr due]
  rw [Db.expired, stored, List.take_of_length_le (by simpa using enough), List.mem_insertionSort, List.mem_filter]
  rfl

theorem expired_distinct (db : Db) (now : Time) (limit : Nat) : ((db.expired now limit).map (·.id)).Nodup := by
  refine List.Nodup.sublist (List.Sublist.map _ (List.take_sublist _ _)) ?_
  refine ((List.perm_insertionSort _ _).map _).nodup_iff.mpr ?_
  exact List.Nodup.sublist (List.Sublist.map _ List.filter_sublist) db.capacities.distinct

end Reclaim

/-! ## When transitions reach the active reservation -/

/-- Release and Settle move the active reservation of an attempt, and nothing else, exactly if it is strictly the newest
of the attempt. -/
theorem transition_moves_iff {db : Db} (consistent : Consistent db) (admitted : db.Admitted) {c : CapacityReservation}
    (member : c ∈ db.capacities) (active : c.state = .reserved) {target : ReservationState} (now : Time)
    (ends : target = .released ∨ target = .settled) :
    (∀ pick, ∃ after, runAlone (transitionReservation (c.transition target now pick)) db = (.ok true, after) ∧
      Moved c target now db after) ↔ Time.isZero now = false ∧ db.StrictlyNewest c := by
  have leaves : target ≠ .reserved ∧ target ≠ .expired := by
    rcases ends with rfl | rfl <;> exact ⟨nofun, nofun⟩
  constructor
  · intro moves
    constructor
    · obtain ⟨after, ran, -⟩ := moves 0
      cases clock : Time.isZero now with
      | false => rfl
      | true =>
        have invalid : (c.transition target now 0).valid = false := by
          simp [ReservationTransition.valid, CapacityReservation.transition, clock]
        rw [runAlone, Tx.alone_eq_ok, transitionReservation, view_check, invalid] at ran
        cases ran
    · by_contra rivalled
      obtain ⟨pick, same⟩ := transition_blocked consistent member active rivalled target now
      obtain ⟨after, ran, moved⟩ := moves pick
      rw [ran] at same
      have stays := moved.capacity
      rw [show after = db from same, Table.get?_key member] at stays
      exact leaves.1 ((congrArg (·.state) (Option.some.inj stays)).symm.trans active)
  · rintro ⟨clock, newest⟩ pick
    obtain ⟨held, bundle, rfl, closes, ran⟩ := transition_reaches consistent admitted member active newest leaves.1 clock
      fun isExpired => absurd isExpired leaves.2
    exact ⟨_, ran pick, closes.moved⟩

/-- ReclaimExpired moves all lapsed reservations, and nothing else, exactly if each is strictly the newest of its
attempt. Without a time, or above the limit of the call, it does nothing. -/
theorem reclaimExpired_iff {db : Db} (consistent : Consistent db) (admitted : db.Admitted) (now : Time) (limit : Int)
    (enough : ((db.capacities.rows.filter (·.lapsed now)).length : Int) ≤ limit) :
    (∀ pick, Reclaimed now db (reclaimExpired now limit pick db).2) ↔
      ∀ c ∈ db.capacities, c.lapsed now = true → Time.isZero now = false ∧ limit ≤ 1000 ∧ db.StrictlyNewest c := by
  have listed : ∀ c, c ∈ db.expired now limit.toNat ↔ c ∈ db.capacities ∧ c.lapsed now = true := fun c =>
    mem_expired admitted (by omega)
  have distinct := expired_distinct db now limit.toNat
  have positive : ∀ c ∈ db.capacities, c.lapsed now = true → 1 ≤ limit := by
    intro c member lapsed
    have some := List.length_pos_of_mem (List.mem_filter (p := fun c => c.lapsed now) |>.mpr ⟨member, lapsed⟩)
    omega
  constructor
  · intro reclaims c member lapsed
    have active := (CapacityReservation.lapsed_iff.mp lapsed).1
    by_cases refused : (Time.isZero now || limit < 1 || 1000 < limit) = true
    · obtain ⟨c', member', id, ended⟩ := (reclaims fun _ => 0).closed c member lapsed
      rw [reclaimExpired, if_pos refused] at member'
      obtain rfl : c' = c := Table.eq_of_mem member' member id
      exact absurd active ended
    · have low := positive c member lapsed
      simp only [Bool.or_eq_true, decide_eq_true_eq, not_or, Bool.not_eq_true] at refused
      refine ⟨refused.1.1, by omega, ?_⟩
      by_contra rivalled
      obtain ⟨pick, d, inside, still⟩ := reclaimItems_blocked refused.1.1 consistent admitted
        (fun c inside => (listed c).mp inside) distinct ⟨c, (listed c).mpr ⟨member, lapsed⟩, rivalled⟩ 0
      obtain ⟨member', lapsed'⟩ := (listed d).mp inside
      obtain ⟨d', ended', id, ended⟩ := (reclaims pick).closed d member' lapsed'
      rw [reclaimExpired, if_neg (by simpa using refused)] at ended'
      obtain rfl : d' = d := Table.eq_of_mem ended' still id
      exact ended (CapacityReservation.lapsed_iff.mp lapsed').1
  · intro reaches pick
    rw [reclaimExpired]
    split
    · next refused =>
      refine ⟨fun c member lapsed => ?_, fun _ _ => rfl, fun _ _ => rfl⟩
      obtain ⟨clock, high, -⟩ := reaches c member lapsed
      have low := positive c member lapsed
      simp only [clock, Bool.or_eq_true, decide_eq_true_eq, Bool.false_eq_true, false_or] at refused
      omega
    · next accepted =>
      have untouched : Untouched now db (reclaimItems now pick (db.expired now limit.toNat) 0 db).2 :=
        reclaimItems_untouched consistent admitted fun c inside => (listed c).mp inside
      refine ⟨fun c member lapsed => ?_, untouched.capacities, untouched.budgets⟩
      have clock := (reaches c member lapsed).1
      refine ⟨c.close .expired now, reclaimItems_closes clock consistent admitted (fun c inside => (listed c).mp inside)
        distinct (fun c inside => ?_) c ((listed c).mpr ⟨member, lapsed⟩), rfl, nofun⟩
      obtain ⟨old, isLapsed⟩ := (listed c).mp inside
      exact (reaches c old isLapsed).2.2

/-- In every reachable state and for all clocks, a transition reaches the active reservation of an attempt exactly if
this is strictly the newest of the attempt. -/
theorem transitions_reach_iff {start : Db} {s : platform.System} (fresh : start.Fresh)
    (reachable : Protocol.Reachable start s) :
    (∀ c ∈ s.db.capacities, c.state = .reserved → ∀ target now, target = .released ∨ target = .settled →
      ((∀ pick, ∃ after, runAlone (transitionReservation (c.transition target now pick)) s.db = (.ok true, after) ∧
        Moved c target now s.db after) ↔ Time.isZero now = false ∧ s.db.StrictlyNewest c)) ∧
    ∀ now limit, ((s.db.capacities.rows.filter (·.lapsed now)).length : Int) ≤ limit →
      ((∀ pick, Reclaimed now s.db (reclaimExpired now limit pick s.db).2) ↔
        ∀ c ∈ s.db.capacities, c.lapsed now = true →
          Time.isZero now = false ∧ limit ≤ 1000 ∧ s.db.StrictlyNewest c) := by
  have history := history_of_reachable fresh reachable
  exact ⟨fun c member active target now ends => transition_moves_iff history.consistent history.admitted member active now ends,
    fun now limit enough => reclaimExpired_iff history.consistent history.admitted now limit enough⟩

/-- A reservation of Acme for ten minutes, as it is stored. -/
def acmeCapacity (now : Int) (m : BitVec 8) : CapacityReservation :=
  (Acme.reservation 10 11 now (600 * second) m).bundle.stored.capacity

/-- Acme releases a reservation, and a scheduler whose clock shows this time makes another. -/
def acmeRenewed (now : Int) : platform.System :=
  ranFrom Acme.db [Acme.create 10 "k", .reserve (Acme.reservation 10 11 1000 (600 * second) 20),
    .transitionReservation (Acme.close 10 .released 1001 0), .reserve (Acme.reservation 10 11 now (600 * second) 30)]

theorem acmeRenewed_reachable (now : Int) : Protocol.Reachable Acme.db (acmeRenewed now) := ranFrom_reachable _ _

/-- With a clock that is behind, the new reservation is neither released nor reclaimed. -/
theorem acme_stranded :
    Protocol.Reachable Acme.db (acmeRenewed 990) ∧ acmeCapacity 990 30 ∈ (acmeRenewed 990).db.capacities ∧
      (acmeCapacity 990 30).state = .reserved ∧
      ¬Moved (acmeCapacity 990 30) .released (Acme.seconds 1010) (acmeRenewed 990).db
        (runAlone (transitionReservation ((acmeCapacity 990 30).transition .released (Acme.seconds 1010) 0))
          (acmeRenewed 990).db).2 ∧
      ¬Reclaimed (Acme.seconds 2000) (acmeRenewed 990).db
        (reclaimExpired (Acme.seconds 2000) 10 (fun _ => 0) (acmeRenewed 990).db).2 := by
  have unmoved : ((runAlone (transitionReservation ((acmeCapacity 990 30).transition .released (Acme.seconds 1010) 0))
      (acmeRenewed 990).db).2.capacities.get? (acmeCapacity 990 30).id).map (·.state) = some .reserved := by decide +kernel
  have unreclaimed : ∀ d ∈ (reclaimExpired (Acme.seconds 2000) 10 (fun _ => 0) (acmeRenewed 990).db).2.capacities.rows,
      d.id = (acmeCapacity 990 30).id → d.state = .reserved := by decide +kernel
  have member : acmeCapacity 990 30 ∈ (acmeRenewed 990).db.capacities := by decide +kernel
  have lapsed : (acmeCapacity 990 30).lapsed (Acme.seconds 2000) = true := by decide +kernel
  refine ⟨acmeRenewed_reachable 990, member, rfl, fun moved => ?_, fun reclaimed => ?_⟩
  · rw [moved.capacity, Option.map_some, Option.some.injEq] at unmoved
    cases unmoved
  · obtain ⟨d, inside, id, ended⟩ := reclaimed.closed (acmeCapacity 990 30) member lapsed
    exact ended (unreclaimed d inside id)

/-- With a clock that goes on, the new reservation can be released and reclaimed next to the old one. -/
theorem acme_reached :
    (∃ old ∈ (acmeRenewed 1002).db.capacities.rows, old.state = .released) ∧
    (∀ pick, ∃ after, runAlone (transitionReservation ((acmeCapacity 1002 30).transition .released (Acme.seconds 1010)
        pick)) (acmeRenewed 1002).db = (.ok true, after) ∧
      Moved (acmeCapacity 1002 30) .released (Acme.seconds 1010) (acmeRenewed 1002).db after) ∧
    acmeCapacity 1002 30 ∈ (acmeRenewed 1002).db.capacities ∧ (acmeCapacity 1002 30).lapsed (Acme.seconds 2000) = true ∧
    ∀ pick, Reclaimed (Acme.seconds 2000) (acmeRenewed 1002).db
      (reclaimExpired (Acme.seconds 2000) 10 pick (acmeRenewed 1002).db).2 := by
  obtain ⟨moves, reclaims⟩ := transitions_reach_iff Acme.db_fresh (acmeRenewed_reachable 1002)
  have older : ∀ d ∈ (acmeRenewed 1002).db.capacities.rows, d.id ≠ (acmeCapacity 1002 30).id →
      d.createdAt < (acmeCapacity 1002 30).createdAt := by decide +kernel
  have newest : (acmeRenewed 1002).db.StrictlyNewest (acmeCapacity 1002 30) :=
    fun d inside _ _ _ other => older d inside other
  have only : ∀ d ∈ (acmeRenewed 1002).db.capacities.rows, d.lapsed (Acme.seconds 2000) = true →
      d = acmeCapacity 1002 30 := by decide +kernel
  have member : acmeCapacity 1002 30 ∈ (acmeRenewed 1002).db.capacities := by decide +kernel
  have clock : Time.isZero (Acme.seconds 1010) = false ∧ Time.isZero (Acme.seconds 2000) = false := by decide +kernel
  have few : (((acmeRenewed 1002).db.capacities.rows.filter (·.lapsed (Acme.seconds 2000))).length : Int) ≤ 10 := by
    decide +kernel
  refine ⟨by decide +kernel, (moves _ member rfl .released _ (.inl rfl)).mpr ⟨clock.1, newest⟩, member, by decide +kernel,
    (reclaims _ 10 few).mpr fun d inside lapsed => ⟨clock.2, by decide, ?_⟩⟩
  rw [only d inside lapsed]
  exact newest

section

variable {start : Db} {s : platform.System} (fresh : start.Fresh) (reachable : Protocol.Reachable start s)

include fresh reachable

/-- No row is lost, and rows change only as they may grow. -/
theorem interleavings_grow : ∀ o ∈ s.history, Growth o.after s.db := by
  intro o ended
  have history := history_of_reachable fresh reachable
  obtain ⟨front, back, split⟩ := List.append_of_mem ended
  rw [split] at history
  exact history.growth_since

theorem reservations_paired : s.db.Paired := (history_of_reachable fresh reachable).consistent.paired

end

theorem acme_grows : Growth ((acmeRenewed 990).history.get ⟨2, by decide +kernel⟩).after (acmeRenewed 990).db :=
  interleavings_grow Acme.db_fresh (acmeRenewed_reachable 990) _ (List.get_mem _ _)

theorem acme_paired : (acmeRenewed 990).db.Paired := reservations_paired Acme.db_fresh (acmeRenewed_reachable 990)

end AgentForge.Platform
