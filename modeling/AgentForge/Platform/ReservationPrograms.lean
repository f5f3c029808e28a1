import AgentForge.Platform.RunPrograms

/-!
# Reservations and the registry commit as specified

The admission of a reservation is one phase of two transactions, Reserve and Schedule: it ends with the capacity
and budget rows and the new totals of the day as its pending changes, and with everything it has checked still
true. The policy, cluster and usage rows it locks carry that to the end of the transaction.
-/

set_option autoImplicit false

namespace AgentForge.Platform

open Operator Lib

/-! ## The changes of an admission -/

/-- The totals of a day are there, or about to be. -/
def UsageOpen (tenantID : UUID) (date : Time) (pending : List Write) (db : Db) : Prop :=
  pending = [] ∧ (∃ usage, db.usage.get? (tenantID, date) = some usage) ∨
    pending = [.usage ⟨tenantID, date, 0, 0⟩] ∧ db.usage.get? (tenantID, date) = none

/-- The changes that hold a bundle. -/
def Holding (bundle : ReservationBundle) (pending : List Write) (db : Db) : Prop :=
  ∃ opened, UsageOpen bundle.budget.tenantID bundle.budget.usageDate opened db ∧
    pending = opened ++ [.capacity bundle.stored.capacity, .budget bundle.stored.budget,
      .usage ((db.usageOf bundle.budget.tenantID bundle.budget.usageDate).add 0 bundle.budget.amountMinorUnits)]

section Stable

variable {held : List Key} {db db' : Db} {pending : List Write} {tenantID : UUID} {date : Time}
  {request : ReservationRequest} {policy : SchedulingPolicy} {capacity : ClusterCapacity}

theorem UsageOpen.stable (isOpen : UsageOpen tenantID date pending db) (rely : discipline.Rely held db db')
    (lock : .usage tenantID date ∈ held) : UsageOpen tenantID date pending db' := by
  unfold UsageOpen
  rw [rely_usage rely lock]
  exact isOpen

/-- The totals of the day as the transaction sees them. -/
theorem UsageOpen.view (isOpen : UsageOpen tenantID date pending db) :
    (platform.applyAll db pending).usage.get? (tenantID, date) = some (db.usageOf tenantID date) := by
  rcases isOpen with ⟨rfl, usage, found⟩ | ⟨rfl, absent⟩
  · simp [Db.usageOf, found]
  · have put := Table.get?_put_self (t := db.usage) (r := ⟨tenantID, date, 0, 0⟩)
    simp [Db.usageOf, absent, Db.apply, put]

/-- Opening a day changes no reservation. -/
theorem UsageOpen.capacities (isOpen : UsageOpen tenantID date pending db) (db' : Db) :
    (platform.applyAll db' pending).capacities = db'.capacities ∧ (platform.applyAll db' pending).budgets = db'.budgets := by
  rcases isOpen with ⟨rfl, -⟩ | ⟨rfl, -⟩ <;> exact ⟨rfl, rfl⟩

theorem Holding.stable {bundle : ReservationBundle} (holding : Holding bundle pending db)
    (rely : discipline.Rely held db db') (lock : .usage bundle.budget.tenantID bundle.budget.usageDate ∈ held) :
    Holding bundle pending db' := by
  obtain ⟨opened, isOpen, rfl⟩ := holding
  have same : db'.usageOf bundle.budget.tenantID bundle.budget.usageDate =
      db.usageOf bundle.budget.tenantID bundle.budget.usageDate := by
    rw [Db.usageOf, rely_usage rely lock, Db.usageOf]
  exact ⟨opened, isOpen.stable rely lock, by rw [same]⟩

/-- The changes hold the bundle. -/
theorem Holding.applyAll {bundle : ReservationBundle} (holding : Holding bundle pending db) :
    platform.applyAll db pending = db.hold bundle := by
  obtain ⟨opened, ⟨rfl, -⟩ | ⟨rfl, absent⟩, rfl⟩ := holding
  · rfl
  · have key := db.usageOf_key bundle.budget.tenantID bundle.budget.usageDate
    have same := Table.put_put (t := db.usage) (r := ⟨bundle.budget.tenantID, bundle.budget.usageDate, 0, 0⟩)
      (s := (db.usageOf bundle.budget.tenantID bundle.budget.usageDate).add 0 bundle.budget.amountMinorUnits) key.symm
    simp only [List.cons_append, List.nil_append, Protocol.applyAll_cons, Protocol.applyAll_nil, platform_apply, Db.apply,
      Db.hold, same]

theorem Room.stable (room : Room held db request policy capacity) (rely : discipline.Rely held db db') :
    Room held db' request policy capacity := by
  have policy_same := rely_policy rely room.policyKey
  obtain ⟨snapshot_same, reserved_le⟩ := rely_cluster rely room.clusterKey
  have reserved := reserved_le (pgTime request.now)
  refine ⟨policy_same.trans room.policyRow, snapshot_same.trans room.snapshot, ?_, ?_, room.policyKey, room.clusterKey⟩
  · exact (Int.add_le_add_left reserved.1 _).trans room.cpu
  · exact (Int.add_le_add_left reserved.2 _).trans room.memory

theorem Room.mono {held' : List Key} (room : Room held db request policy capacity) (subset : held ⊆ held') :
    Room held' db request policy capacity :=
  ⟨room.policyRow, room.snapshot, room.cpu, room.memory, subset room.policyKey, subset room.clusterKey⟩

theorem rely_budgetUsed (rely : discipline.Rely held db db') (lock : .usage tenantID date ∈ held) :
    db'.budgetUsed tenantID date = db.budgetUsed tenantID date := by
  rw [Db.budgetUsed, rely_usage rely lock, Db.budgetUsed]

theorem Admission.stable (admission : Admission held db request policy capacity)
    (rely : discipline.Rely held db db') : Admission held db' request policy capacity := by
  refine ⟨admission.toRoom.stable rely, ?_, admission.valid, admission.capacityChecks, admission.budgetChecks, ?_, ?_,
    rely_noActive rely (admission.keys (by simp)) admission.inactive, admission.keys⟩
  · rw [rely_budgetUsed rely (admission.keys (by simp))]
    exact admission.budget
  · rw [rely_capacity rely (admission.keys (by simp))]
    exact admission.newCapacity
  · rw [rely_budget rely (admission.keys (by simp))]
    exact admission.newBudget

theorem Admission.mono {held' : List Key} (admission : Admission held db request policy capacity)
    (subset : held ⊆ held') : Admission held' db request policy capacity :=
  ⟨admission.toRoom.mono subset, admission.budget, admission.valid, admission.capacityChecks, admission.budgetChecks,
    admission.newCapacity, admission.newBudget, admission.inactive, fun _ member => subset (admission.keys member)⟩

end Stable

/-! ## The phases of an admission -/

section Phases

variable {held : List Key} {db : Db}

theorem admitCapacity_ensures {clusterID : String} {capacity : ClusterCapacity} {cpuMillis memoryMiB : Int} {now : Time}
    (lock : .cluster clusterID ∈ held) :
    (admitCapacity clusterID capacity cpuMillis memoryMiB now).Ensures platform discipline
      (fun r pending' held' db' => ∀ u, r = .ok u → pending' = [] ∧ held' = held ∧
        cpuMillis + db'.reservedCPU clusterID (pgTime now) ≤ capacity.allocatableCPUMillis ∧
        memoryMiB + db'.reservedMemory clusterID (pgTime now) ≤ capacity.allocatableMemoryMiB) [] held db := by
  refine ensures_query fun db₁ _ => ensures_check_last lenient_ok fun room => ensures_done fun db₂ rely _ _ => ?_
  have reserved := (rely_cluster rely lock).2 (pgTime now)
  have fits : cpuMillis ≤ capacity.allocatableCPUMillis - db₁.reservedCPU clusterID (pgTime now) ∧
      memoryMiB ≤ capacity.allocatableMemoryMiB - db₁.reservedMemory clusterID (pgTime now) := by
    rw [Bool.and_eq_true] at room
    exact ⟨of_decide_eq_true room.1, of_decide_eq_true room.2⟩
  exact ⟨rfl, rfl, by omega, by omega⟩

/-- The totals of the day, locked. -/
theorem openUsage_ensures {α : Type} {Q : Except Error α → List Write → List Key → Db → Prop} (lenient : Lenient Q)
    {tenantID : UUID} {date : Time} {f : BudgetUsage → Program α}
    (next : ∀ pending' held' db', discipline.Rely held db db' → held ⊆ held' → .usage tenantID date ∈ held' →
      UsageOpen tenantID date pending' db' →
      (f (db'.usageOf tenantID date)).Ensures platform discipline Q pending' held' db') :
    (Tx.perform (ensureUsage tenantID date) >>= fun _ => required (lockUsage tenantID date) .notFound >>= f).Ensures
      platform discipline Q [] held db := by
  refine ensures_perform fun db₁ others rely₁ => ?_
  rcases ensureUsage_cases db₁ others tenantID date with ⟨effect, recorded⟩ | ⟨effect, absent⟩
  · simp only [Protocol.applyAll_nil, effect, List.append_nil]
    refine ensures_required lenient fun db₂ _ usage rely₂ locked => ?_
    obtain ⟨effect, found⟩ := lockUsage_some locked
    rw [effect]
    have same : db₂.usageOf tenantID date = usage := by
      have found' : db₂.usage.get? (tenantID, date) = some usage := found
      simp [Db.usageOf, found']
    rw [← same, List.append_nil]
    exact next [] _ db₂ (rely₁.trans rely₂) (by simp) (by simp) (.inl ⟨rfl, usage, found⟩)
  · simp only [Protocol.applyAll_nil, effect, List.nil_append]
    refine ensures_required lenient fun db₂ _ usage rely₂ locked => ?_
    obtain ⟨effect, found⟩ := lockUsage_some locked
    rw [effect]
    have isOpen : UsageOpen tenantID date [.usage ⟨tenantID, date, 0, 0⟩] db₂ :=
      UsageOpen.stable (.inr ⟨rfl, absent⟩) rely₂ (by simp)
    have same : usage = db₂.usageOf tenantID date := Option.some.inj (found.symm.trans isOpen.view)
    rw [same, List.append_nil]
    exact next _ _ db₂ (rely₁.followed rely₂ (by simp)) (by simp) (by simp) isOpen

theorem budgetUsed_eq (db : Db) (tenantID : UUID) (date : Time) :
    db.budgetUsed tenantID date = (db.usageOf tenantID date).spentMinorUnits + (db.usageOf tenantID date).reservedMinorUnits := by
  unfold Db.budgetUsed Db.usageOf
  cases db.usage.get? (tenantID, date) <;> rfl

theorem admitBudget_ensures {tenantID : UUID} {limit amount : Int} {now : Time} :
    (admitBudget tenantID (some limit) amount now).Ensures platform discipline
      (fun r pending' held' db' => ∀ u, r = .ok u → held ⊆ held' ∧ .usage tenantID (day now) ∈ held' ∧
        UsageOpen tenantID (day now) pending' db' ∧ amount + db'.budgetUsed tenantID (day now) ≤ limit) [] held db := by
  refine openUsage_ensures lenient_ok fun pending₁ held₁ db₁ _ subset lock isOpen => ?_
  refine ensures_check_last lenient_ok fun room => ensures_done fun db₂ rely _ _ => ?_
  refine ⟨subset, lock, isOpen.stable rely lock, ?_⟩
  simp only [Option.any_some, decide_eq_true_eq] at room
  rw [rely_budgetUsed rely lock, budgetUsed_eq]
  omega

/-- The rows of a bundle, inserted. -/
theorem recordBundle_ensures {bundle : ReservationBundle} {opened : List Write}
    (lock : .usage bundle.budget.tenantID bundle.budget.usageDate ∈ held)
    (isOpen : UsageOpen bundle.budget.tenantID bundle.budget.usageDate opened db) :
    (recordBundle bundle).Ensures platform discipline
      (fun r pending' held' db' => ∀ u, r = .ok u → Holding bundle pending' db' ∧
        held ⊆ held' ∧ [.capacity bundle.capacity.id, .activeCapacity bundle.capacity.runID bundle.capacity.attemptNumber,
          .budget bundle.budget.id] ⊆ held' ∧
        bundle.stored.capacity.checks = true ∧ bundle.stored.budget.checks = true ∧
        db'.capacities.get? bundle.capacity.id = none ∧ db'.budgets.get? bundle.budget.id = none ∧
        db'.NoActive bundle.capacity.runID bundle.capacity.attemptNumber) opened held db := by
  refine ensures_exec lenient_ok fun db₁ _ _ rely₁ inserted => ?_
  obtain ⟨effect, capacityChecks, newCapacity, inactive⟩ := insertCapacity_ok inserted
  rw [effect]
  rw [(isOpen.capacities db₁).1] at newCapacity
  have inactive₁ : db₁.NoActive bundle.capacity.runID bundle.capacity.attemptNumber := by
    unfold Db.NoActive at inactive ⊢
    rw [(isOpen.capacities db₁).1] at inactive
    exact inactive
  refine ensures_exec lenient_ok fun db₂ _ _ rely₂ inserted => ?_
  obtain ⟨effect, budgetChecks, newBudget⟩ := insertBudget_ok inserted
  rw [effect]
  rw [Protocol.applyAll_append] at newBudget
  have newBudget₂ : db₂.budgets.get? bundle.budget.id = none := (isOpen.capacities db₂).2 ▸ newBudget
  refine ensures_exec_last lenient_ok fun db₃ _ _ rely₃ added => ?_
  have sub₁ : held ⊆ held ++ [.capacity bundle.stored.capacity.id,
      .activeCapacity bundle.stored.capacity.runID bundle.stored.capacity.attemptNumber] := List.subset_append_left _ _
  have isOpen₃ := ((isOpen.stable rely₁ lock).stable rely₂ (sub₁ lock)).stable rely₃ (by simp [lock])
  have found : (platform.applyAll db₃ (opened ++ [.capacity bundle.stored.capacity] ++ [.budget bundle.stored.budget])).usage.get?
      (bundle.budget.tenantID, bundle.budget.usageDate) = some (db₃.usageOf bundle.budget.tenantID bundle.budget.usageDate) := by
    rw [Protocol.applyAll_append, Protocol.applyAll_append]
    exact isOpen₃.view
  have effect := addUsage_ok found added
  rw [effect]
  refine ensures_done fun db₄ rely₄ _ _ => ?_
  have fromCapacity := (rely₂.followed rely₃ (by simp)).followed rely₄ (by simp)
  have fromBudget := rely₃.followed rely₄ (by simp)
  have holding : Holding bundle (opened ++ [.capacity bundle.stored.capacity] ++ [.budget bundle.stored.budget] ++
      [.usage ((db₃.usageOf bundle.budget.tenantID bundle.budget.usageDate).add 0 bundle.budget.amountMinorUnits)]) db₃ :=
    ⟨opened, isOpen₃, by simp⟩
  refine ⟨holding.stable rely₄ (by simp [lock]), by simp, by simp [ReservationBundle.stored], capacityChecks, budgetChecks,
    ?_, ?_, ?_⟩
  · rw [rely_capacity fromCapacity (by simp [ReservationBundle.stored])]
    exact newCapacity
  · rw [rely_budget fromBudget (by simp [ReservationBundle.stored])]
    exact newBudget₂
  · exact rely_noActive fromCapacity (by simp [ReservationBundle.stored]) inactive₁

/-- The admission of a reservation, with what follows it. -/
theorem admission_ensures {α : Type} {Q : Except Error α → List Write → List Key → Db → Prop} (lenient : Lenient Q)
    (consistent : Consistent db) (request : ReservationRequest) {policy : SchedulingPolicy} {capacity : ClusterCapacity}
    {f : ReservationBundle → Program α} (policyKey : .policy request.tenantID ∈ held)
    (policyRow : db.policies.get? request.tenantID = some ⟨request.tenantID, policy⟩)
    (clusterKey : .cluster request.clusterID ∈ held) (snapshot : db.latestCapacity? request.clusterID = some capacity)
    (next : ∀ pending' held' db', discipline.Rely held db db' → held ⊆ held' →
      Admission held' db' request policy capacity → Holding request.bundle pending' db' →
      (f request.bundle).Ensures platform discipline Q pending' held' db') :
    (admitCapacity request.clusterID capacity request.cpuMillis request.memoryMiB request.now >>= fun _ =>
      admitBudget request.tenantID (some policy.dailyBudgetMinorUnits) request.budgetMinorUnits request.now >>= fun _ =>
      Tx.lift (newReservationBundle request) >>= fun bundle => recordBundle bundle >>= fun _ => f bundle).Ensures
      platform discipline Q [] held db := by
  refine ensures_bind lenient consistent (admitCapacity_ensures clusterKey) ?_
  rintro - _ held₁ db₁ rely₁ - ⟨rfl, rfl, cpu, memory⟩
  have room₁ : Room held₁ db₁ request policy capacity :=
    ⟨(rely_policy rely₁ policyKey).trans policyRow, (rely_cluster rely₁ clusterKey).1.trans snapshot, cpu, memory,
      policyKey, clusterKey⟩
  refine ensures_bind lenient rely₁.inv admitBudget_ensures ?_
  rintro - opened held₂ db₂ rely₂ - ⟨subset₂, lock, isOpen, budget⟩
  have room₂ := (room₁.stable rely₂).mono subset₂
  refine ensures_lift lenient fun bundle made => ?_
  obtain ⟨rfl, valid⟩ : bundle = request.bundle ∧ request.bundle.capacity.valid request.now = true := by
    unfold newReservationBundle at made
    split at made
    · next valid => exact ⟨(Except.ok.inj made).symm, valid⟩
    · cases made
  refine ensures_bind lenient rely₂.inv (recordBundle_ensures lock isOpen) ?_
  rintro - pending₃ held₃ db₃ rely₃ - ⟨holding, subset₃, keys, capacityChecks, budgetChecks, newCapacity, newBudget, inactive⟩
  have room₃ := (room₂.stable rely₃).mono subset₃
  refine next pending₃ held₃ db₃ ?_ (List.Subset.trans subset₂ subset₃) ⟨room₃, ?_, valid, capacityChecks, budgetChecks, newCapacity,
    newBudget, inactive, ?_⟩ holding
  · exact (rely₁.trans rely₂).followed rely₃ subset₂
  · rw [rely_budgetUsed rely₃ lock]
    exact budget
  · exact List.cons_subset.mpr ⟨subset₃ lock, keys⟩

end Phases

/-! ## Reserve -/

variable {bundle : ReservationBundle}

theorem Db.IsBundle.stable {held : List Key} {db db' : Db} (isBundle : db.IsBundle bundle)
    (rely : discipline.Rely held db db') (keys : bundle.keys ⊆ held) : db'.IsBundle bundle :=
  ⟨(rely_capacity rely (keys (by simp [ReservationBundle.keys]))).trans isBundle.capacity,
    (rely_budget rely (keys (by simp [ReservationBundle.keys]))).trans isBundle.budget, isBundle.paired⟩

theorem reserve_implements (request : ReservationRequest) : Implements (.reserve request) := by
  intro db consistent
  refine ensures_check lenient_ok fun valid => ensures_required lenient_ok fun db₁ _ policy _ locked => ?_
  obtain ⟨effect, policyRow⟩ := lockPolicy_some locked
  rw [effect]
  refine ensures_required lenient_ok fun db₂ _ cluster rely₁ locked => ?_
  rw [lockCluster_some locked]
  refine ensures_perform fun db₃ others rely₂ => ?_
  have fromPolicy := rely₁.followed rely₂ (by simp)
  rcases lockActive_cases (platform.applyAll db₃ ([] ++ [] ++ [])) others request.tenantID request.runID
    request.attemptNumber with effect | ⟨existing, effect, isBundle, active⟩
  · rw [effect]
    refine ensures_required lenient_ok fun db₄ _ capacity rely₃ latest => ?_
    have policy_same : db₄.policies.get? request.tenantID = db₁.policies.get? request.tenantID :=
      rely_policy (fromPolicy.followed rely₃ (by simp)) (by simp)
    refine admission_ensures lenient_ok rely₃.inv request (by simp) (policy_same.trans policyRow) (by simp) latest ?_
    intro pending held db₅ _ _ admission holding
    refine ensures_done fun db₆ rely reply done => ?_
    cases done
    unfold Commits
    rw [(holding.stable rely (admission.keys (by simp [ReservationRequest.bundle]))).applyAll]
    exact Commit.reserved request policy capacity valid (admission.stable rely)
  · rw [effect]
    refine ensures_check lenient_ok fun agrees => ensures_done fun db₄ rely reply done => ?_
    cases done
    have isBundle₄ := isBundle.stable rely (by simp)
    exact Commit.reserveFound request existing valid agrees isBundle₄.capacity isBundle₄.budget isBundle₄.paired active

/-! ## Settle, release, expire -/

/-- The budget row of a bundle has the state and the tenant of the capacity row. -/
theorem Db.IsBundle.budget_eq {db : Db} (isBundle : db.IsBundle bundle) (paired : db.Paired) :
    bundle.budget.state = bundle.capacity.state ∧ bundle.budget.tenantID = bundle.capacity.tenantID := by
  obtain ⟨c, found, same⟩ := paired.owner bundle.budget (Table.mem_of_get? isBundle.budget)
  rw [isBundle.paired, isBundle.capacity] at found
  cases found
  exact same

theorem closeBundle_ensures {request : ReservationTransition} {held : List Key} {db : Db}
    (isBundle : db.IsBundle bundle) (keys : bundle.keys ⊆ held)
    (same : bundle.capacity.tenantID = request.tenantID ∧ bundle.capacity.runID = request.runID ∧
      bundle.capacity.attemptNumber = request.attemptNumber)
    (active : bundle.capacity.state = .reserved) (leaves : request.target ≠ .reserved) :
    (closeBundle request bundle).Ensures platform discipline
      (fun r pending held db => ∀ reply, r = .ok reply → Commits (.transitionReservation request) reply pending held db) []
      held db := by
  refine ensures_perform fun db₁ _ rely₁ => ?_
  have isBundle₁ := isBundle.stable rely₁ keys
  rw [Protocol.applyAll_nil, closeCapacity_reserved isBundle₁.capacity active]
  dsimp only [List.nil_append]
  refine ensures_perform fun db₂ _ rely₂ => ?_
  have isBundle₂ := isBundle₁.stable rely₂ fun k member => List.mem_append_left _ (keys member)
  obtain ⟨state, tenant⟩ := isBundle₂.budget_eq rely₂.inv.paired
  have found₂ : (platform.applyAll db₂ [.capacity (bundle.capacity.close request.target request.now)]).budgets.get?
      bundle.budget.id = some bundle.budget := isBundle₂.budget
  rw [closeBudget_reserved found₂ (state.trans active)]
  dsimp only [List.cons_append, List.nil_append]
  refine ensures_exec lenient_ok fun db₃ _ _ rely₃ added => ?_
  have isBundle₃ := isBundle₂.stable rely₃ fun k member => List.mem_append_left _ (List.mem_append_left _ (keys member))
  obtain ⟨usage, recorded⟩ := rely₃.inv.balanced.recorded bundle.budget (Table.mem_of_get? isBundle₃.budget)
  rw [tenant.trans same.1] at recorded
  have found₃ : (platform.applyAll db₃ [.capacity (bundle.capacity.close request.target request.now),
      .budget (bundle.budget.close request.target request.now)]).usage.get? (request.tenantID, bundle.budget.usageDate) =
        some usage := recorded
  rw [addUsage_ok found₃ added]
  refine ensures_done fun db₄ rely₄ reply done => ?_
  cases done
  have isBundle₄ := isBundle₃.stable rely₄ fun k member =>
    List.mem_append_left _ (List.mem_append_left _ (List.mem_append_left _ (keys member)))
  have usage₄ : db₄.usageOf bundle.budget.tenantID bundle.budget.usageDate = usage := by
    rw [Db.usageOf, tenant.trans same.1, rely_usage rely₄ (by simp), recorded, Option.getD_some]
  suffices closed : Commit (held ++ [.capacity bundle.capacity.id] ++ [.budget bundle.budget.id] ++
      [.usage request.tenantID bundle.budget.usageDate]) db₄ (.transitionReservation request) true
      (db₄.close bundle request.target request.now) by
    rw [Db.close, usage₄] at closed
    exact closed
  refine Commit.closed request bundle same ⟨isBundle₄.capacity, isBundle₄.budget, isBundle₄.paired, active, leaves, ?_⟩
  rw [tenant.trans same.1]
  simp

theorem transitionReservation_implements (request : ReservationTransition) :
    Implements (.transitionReservation request) := by
  intro db consistent
  refine ensures_check lenient_ok fun _ => ensures_perform fun db₁ others _ => ?_
  have writes : ((lockPolicy request.tenantID).run (platform.applyAll db₁ []) others).writes = [] := rfl
  rw [writes]
  refine ensures_required lenient_ok fun db₂ _ bundle _ locked => ?_
  obtain ⟨effect, newest⟩ := lockNewest_some locked
  rw [effect]
  obtain ⟨isBundle, same⟩ := mem_bundles (List.mem_filter.mp newest).1
  have unmoved : ∀ {held : List Key} {db : Db}, (Tx.done false : Program Bool).Ensures platform discipline
      (fun r pending held db => ∀ reply, r = .ok reply → Commits (.transitionReservation request) reply pending held db) []
      held db := by
    intro held db
    refine ensures_done fun db' _ reply done => ?_
    cases done
    exact Commit.unmoved request
  split
  · exact unmoved
  · next other =>
    split
    · exact ensures_fail lenient_ok
    · next active =>
      have reserved : bundle.capacity.state = .reserved := not_not.mp active
      have leaves : request.target ≠ .reserved := fun same => other (reserved.trans same.symm)
      split
      · refine ensures_required lenient_ok fun db₃ _ expiresAt rely₂ _ => ?_
        split
        · exact unmoved
        · refine closeBundle_ensures (isBundle.stable rely₂ ?_) ?_ same reserved leaves
          · exact List.subset_append_right _ _
          · exact List.Subset.trans (List.subset_append_right _ _) (List.subset_append_left _ _)
      · exact closeBundle_ensures isBundle (List.subset_append_right _ _) same reserved leaves

/-! ## The registry -/

theorem registerCluster_implements (write : ClusterWrite) : Implements (.registerCluster write) := by
  intro db consistent
  refine ensures_check lenient_ok fun valid => ensures_exec lenient_ok fun db₁ _ _ _ inserted => ?_
  rw [insertCluster_ok inserted]
  refine ensures_exec lenient_ok fun db₂ _ _ _ inserted => ?_
  rw [insertSnapshot_ok inserted]
  refine ensures_exec_last lenient_ok fun db₃ _ _ _ replaced => ?_
  rw [replaceAllowlist_ok replaced]
  refine ensures_done fun db₄ _ reply _ => ?_
  simp only [ClusterWrite.valid, Bool.and_eq_true, beq_iff_eq] at valid
  refine Commit.registered write _ ?_
  simp [valid.1.1.1.2, ExecutionCluster.stored]

theorem updateClusterMetadata_implements (write : ClusterWrite) (expectedVersion : Int) :
    Implements (.updateCluster write expectedVersion) := by
  intro db consistent
  refine ensures_check lenient_ok fun _ => ensures_check lenient_ok fun valid => ensures_perform fun db₁ others _ => ?_
  simp only [ClusterWrite.valid, Bool.and_eq_true, beq_iff_eq] at valid
  rcases updateCluster_cases (platform.applyAll db₁ []) others write.cluster.id expectedVersion
    (fun row => { write.cluster.stored with createdAt := row.createdAt }) with effect | ⟨row, effect⟩
  · rw [effect]
    exact ensures_query fun _ _ => ensures_fail lenient_ok
  · rw [effect]
    refine ensures_exec lenient_ok fun db₂ _ _ _ inserted => ?_
    rw [insertSnapshot_ok inserted]
    refine ensures_exec_last lenient_ok fun db₃ _ _ _ replaced => ?_
    rw [replaceAllowlist_ok replaced]
    refine ensures_done fun db₄ _ reply _ => ?_
    refine Commit.reported write expectedVersion _ ?_
    simp [valid.1.1.1.2]

theorem administer_implements (change : Administration) : Implements (.administer change) := by
  intro db consistent
  refine ensures_perform (f := Tx.done) fun db₁ _ _ => ensures_done fun db₂ _ reply _ => ?_
  exact Commit.administered change (by simp)

end AgentForge.Platform
