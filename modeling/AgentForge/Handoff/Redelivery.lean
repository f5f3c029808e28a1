import AgentForge.Handoff.Service

/-!
# Redelivery after a crash

An event may be delivered any number of times, and every delivery may fail or stop between two calls.
Whatever happened, an AgentRun under the event's name is the one the event asks for, and its namespace
belongs to the tenant (`Projected`). So a later delivery compares equal specs, unless the spec does not
survive being stored: `Process` allocates its slices, and an empty slice is read back as nil.
-/

set_option autoImplicit false

namespace AgentForge.Handoff

open Lib Operator Platform

/-! ## What a delivery needs -/

section Delivery

variable (received : ReceivedEvent) (payload : AgentRunScheduledPayload) (desired : AgentRunDesiredState)

/-- The AgentRun's place in its cluster. -/
def runKey : RunKey :=
  ⟨payload.clusterID, namespaceName received.envelope.tenantID, agentRunName payload.runID payload.attemptNumber⟩

/-- The event is a valid scheduled event whose durable intent is the desired state, for a cluster that
its tenant may use. -/
structure Deliverable (w : World) : Prop where
  scheduled : received.envelope.eventType = agentRunScheduledType
  decoded : received.envelope.payload = some payload
  accepted : received.accepted = true
  intent : loadIntent w received payload = .ok desired
  authorized : authorize w payload.clusterID received.envelope.tenantID = .ok ()
  selected : select w payload.clusterID = .ok ()

/-- A marker of the event for this consumer. -/
def marks (row : ProcessedRow) : Bool :=
  row.consumerIdentity == consumerIdentity && row.eventID == received.envelope.eventID

/-- The marker has been committed. -/
def Marked (w : World) : Prop := w.processed.any (marks received) = true

/-- The namespace exists and belongs to the tenant. -/
def NamespaceOwned (w : World) : Prop :=
  ∃ labels, w.namespaces payload.clusterID (namespaceName received.envelope.tenantID) = some labels ∧
    namespaceOwned received.envelope.tenantID labels = .ok ()

/-- The AgentRun that the event asks for, as it is stored. -/
def storedRun : StoredRun :=
  let run := projectedRun received.envelope payload desired
  ⟨run.metadata, run.spec.toJson⟩

/-- An AgentRun under the event's name is the one the event asks for, in a namespace of the tenant. -/
def Projected (w : World) : Prop :=
  ∀ stored, w.agentRuns (runKey received payload) = some stored →
    stored = storedRun received payload desired ∧ NamespaceOwned received payload w

/-- The invariant over any number of deliveries. -/
structure DeliveryInv (w : World) : Prop where
  deliverable : Deliverable received payload desired w
  projected : Projected received payload desired w

/-- A delivery in `w` returns nil, leaves the AgentRuns as they are and commits the one marker. -/
def Redelivered (w : World) : Prop :=
  ∃ w', server.run .none (process received) w = some (.ok (), w') ∧ w'.agentRuns = w.agentRuns ∧
    w'.processed.countP (marks received) = 1

/-- Other clients leave the event's AgentRun and marker alone. -/
def Undisturbed (_ : Config server) : Label server → Prop
  | .move (.writeAgentRun key _) => key ≠ runKey received payload
  | .move (.writeProcessed row) => marks received row = false
  | _ => True

/-- Deliveries of the event and steps of other clients, under any faults. -/
abbrev Delivers (w₀ : World) (c : Config server) : Prop :=
  Reaches server (deliver received) (Undisturbed received payload) ⟨w₀, none⟩ c

end Delivery

/-! ## The invariant -/

section Invariant

variable {received : ReceivedEvent} {payload : AgentRunScheduledPayload} {desired : AgentRunDesiredState} {w w' : World}

/-- Nothing that a delivery relies on was changed. -/
structure Preserves (key : RunKey) (w w' : World) : Prop where
  intents : w'.intents = w.intents
  clusters : w'.clusters = w.clusters
  contexts : w'.contexts = w.contexts
  namespaces : ∀ clusterID name labels, w.namespaces clusterID name = some labels →
    w'.namespaces clusterID name = some labels
  agentRun : w'.agentRuns key = w.agentRuns key

theorem Preserves.refl (key : RunKey) (w : World) : Preserves key w w :=
  ⟨rfl, rfl, rfl, fun _ _ _ h => h, rfl⟩

theorem Deliverable.congr (deliverable : Deliverable received payload desired w) (intents : w'.intents = w.intents)
    (clusters : w'.clusters = w.clusters) (contexts : w'.contexts = w.contexts) :
    Deliverable received payload desired w' where
  scheduled := deliverable.scheduled
  decoded := deliverable.decoded
  accepted := deliverable.accepted
  intent := by unfold loadIntent; rw [intents]; exact deliverable.intent
  authorized := by unfold authorize; rw [clusters]; exact deliverable.authorized
  selected := by unfold select; rw [contexts]; exact deliverable.selected

theorem NamespaceOwned.mono (owned : NamespaceOwned received payload w)
    (kept : ∀ clusterID name labels, w.namespaces clusterID name = some labels →
      w'.namespaces clusterID name = some labels) : NamespaceOwned received payload w' := by
  obtain ⟨labels, present, matching⟩ := owned
  exact ⟨labels, kept _ _ _ present, matching⟩

theorem DeliveryInv.preserves (inv : DeliveryInv received payload desired w)
    (same : Preserves (runKey received payload) w w') : DeliveryInv received payload desired w' where
  deliverable := inv.deliverable.congr same.intents same.clusters same.contexts
  projected := fun stored present => by
    obtain ⟨asked, owned⟩ := inv.projected stored (same.agentRun ▸ present)
    exact ⟨asked, owned.mono same.namespaces⟩

/-- A namespace that exists is not created again. -/
theorem createNamespace_namespaces {clusterID name : String} {labels : StringMap} {cluster ns : String}
    {present : StringMap} (before : w.namespaces cluster ns = some present) :
    (createNamespace w clusterID name labels).2.namespaces cluster ns = some present := by
  unfold createNamespace
  split
  · exact before
  · next absent =>
    rcases eq_or_ne cluster clusterID with rfl | otherCluster
    · rcases eq_or_ne ns name with rfl | otherName
      · rw [absent] at before; cases before
      · simpa [otherName] using before
    · simpa [otherCluster] using before

/-- The effect of a call with its faults is that of the call, or none. -/
theorem faulty_world {ε α : Type} (w : World) (e : ε) (answer : Except ε α × World) (fault : Fault) :
    (faulty w e answer fault).2 = w ∨ (faulty w e answer fault).2 = answer.2 := by
  cases fault
  · exact .inr rfl
  · exact .inl rfl
  · exact .inr rfl

theorem faulty_same {ε α : Type} {e : ε} {answer : Except ε α} {fault : Fault} :
    (faulty w e (answer, w) fault).2 = w :=
  (faulty_world w e (answer, w) fault).elim id id

/-- Only a fault-free call reports success. -/
theorem faulty_ok {ε α : Type} {e : ε} {answer : Except ε α × World} {fault : Fault} {a : α}
    (ok : (faulty w e answer fault).1 = .ok a) : answer.1 = .ok a ∧ (faulty w e answer fault).2 = answer.2 := by
  cases fault
  · exact ⟨ok, rfl⟩
  · cases ok
  · cases ok

/-- A call that creates no AgentRun. -/
def Op.quiet : Op → Bool
  | createAgentRun .. => false
  | _ => true

/-- A quiet call preserves what deliveries rely on. -/
theorem respond_preserves {key : RunKey} {op : Op} {fault : Fault} (quiet : op.quiet = true) :
    Preserves key w (respond w op fault).2 := by
  cases op with
  | createAgentRun => cases quiet
  | seen | loadIntent | authorize | select | getNamespace | getAgentRun =>
    rw [respond, faulty_same]
    exact .refl key w
  | createNamespace clusterID name labels =>
    rw [respond]
    rcases faulty_world w unavailable (createNamespace w clusterID name labels) fault with same | same <;> rw [same]
    · exact .refl key w
    · refine ⟨?_, ?_, ?_, fun _ _ _ => createNamespace_namespaces, ?_⟩ <;>
        unfold createNamespace <;> split <;> rfl
  | mark identity event =>
    rw [respond]
    rcases faulty_world w () (mark w identity event) fault with same | same <;> rw [same]
    · exact .refl key w
    · unfold mark
      split
      · exact .refl key w
      · split <;> exact ⟨rfl, rfl, rfl, fun _ _ _ h => h, rfl⟩

end Invariant

/-! ## Deliveries keep the invariant -/

section Deliveries

variable (received : ReceivedEvent) (payload : AgentRunScheduledPayload) (desired : AgentRunDesiredState)

/-- Any faults, undisturbed by others; every call keeps the invariant. -/
def deliveries : Contract server where
  answers _ _ _ _ := True
  moves _ _ m :=
    match m with
    | .writeAgentRun key _ => key ≠ runKey received payload
    | .writeProcessed row => marks received row = false
  keeps w _ _ w' := DeliveryInv received payload desired w → DeliveryInv received payload desired w'

/-- The invariant together with a fact about the world. -/
def Holding (P : World → Prop) : Contract.Assertion server :=
  fun _ w => DeliveryInv received payload desired w ∧ P w

variable {received payload desired}

theorem applyMove_preserves {w : World} {m : Move} {log : List (Event Op Op.Res)}
    (allowed : (deliveries received payload desired).moves w log m) :
    Preserves (runKey received payload) w (applyMove w m) := by
  cases m with
  | writeAgentRun key stored =>
    exact ⟨rfl, rfl, rfl, fun _ _ _ h => h, Function.update_of_ne (Ne.symm allowed) _ _⟩
  | writeProcessed row => exact ⟨rfl, rfl, rfl, fun _ _ _ h => h, rfl⟩

/-- A fact that survives whatever preserves what deliveries rely on. -/
def Lasting (received : ReceivedEvent) (payload : AgentRunScheduledPayload) (P : World → Prop) : Prop :=
  ∀ w w', Preserves (runKey received payload) w w' → P w → P w'

theorem lasting_true : Lasting received payload fun _ => True := fun _ _ _ _ => trivial

theorem lasting_namespaceOwned : Lasting received payload (NamespaceOwned received payload) :=
  fun _ _ same owned => owned.mono same.namespaces

theorem holding_stable {P : World → Prop} (lasting : Lasting received payload P) :
    (deliveries received payload desired).Stable (Holding received payload desired P) := by
  intro log w m w' held allowed moved
  cases moved
  have same : Preserves (runKey received payload) w (applyMove w m) := applyMove_preserves allowed
  exact ⟨held.1.preserves same, lasting _ _ same held.2⟩

theorem respond_answered {w w' : World} {op : Op} {fault : Fault} {res : op.Res}
    (answered : server.respond w op fault = some (res, w')) :
    res = (respond w op fault).1 ∧ w' = (respond w op fault).2 := by
  have same : respond w op fault = (res, w') := Option.some.inj answered
  rw [same]
  exact ⟨rfl, rfl⟩

theorem call_holds {op : Op} {P : World → Prop} {Q : op.Res → World → Prop} (lasting : Lasting received payload P)
    (quiet : op.quiet = true)
    (answer : ∀ w fault, DeliveryInv received payload desired w → Q (respond w op fault).1 (respond w op fault).2) :
    (deliveries received payload desired).Triple (Holding received payload desired P) (call op)
      fun res => Holding received payload desired fun w => P w ∧ Q res w := by
  refine .perform (holding_stable lasting) fun log w fault res w' held _ answered => ?_
  obtain ⟨rfl, rfl⟩ := respond_answered answered
  have same : Preserves (runKey received payload) w (respond w op fault).2 := respond_preserves quiet
  exact ⟨fun inv => inv.preserves same, held.1.preserves same, lasting _ _ same held.2, answer w fault held.1⟩

theorem getNamespace_owned {w : World} {fault : Fault} {labels : StringMap}
    (read : (respond w (.getNamespace payload.clusterID (namespaceName received.envelope.tenantID)) fault).1 = .ok labels)
    (owned : namespaceOwned received.envelope.tenantID labels = .ok ()) :
    NamespaceOwned received payload
      (respond w (.getNamespace payload.clusterID (namespaceName received.envelope.tenantID)) fault).2 := by
  obtain ⟨found, same⟩ := faulty_ok read
  rw [respond, same]
  refine ⟨labels, ?_, owned⟩
  simp only [getNamespace] at found
  split at found
  · next present => rw [present]; exact congrArg some (Except.ok.inj found)
  · cases found

theorem namespaceOwned_labels (tenantID : UUID) : namespaceOwned tenantID (namespaceLabels tenantID) = .ok () := by
  have managed : StringMap.at (namespaceLabels tenantID) managedByKey = "agentforge-handoff" := rfl
  have tenant : StringMap.at (namespaceLabels tenantID) tenantIDKey = tenantID.text := rfl
  rw [namespaceOwned, managed, tenant, if_neg (by simp)]

theorem createNamespace_owned {w : World} {fault : Fault}
    (created : (respond w (.createNamespace payload.clusterID (namespaceName received.envelope.tenantID)
      (namespaceLabels received.envelope.tenantID)) fault).1 = .ok ()) :
    NamespaceOwned received payload
      (respond w (.createNamespace payload.clusterID (namespaceName received.envelope.tenantID)
        (namespaceLabels received.envelope.tenantID)) fault).2 := by
  obtain ⟨made, same⟩ := faulty_ok created
  rw [respond, same]
  refine ⟨namespaceLabels received.envelope.tenantID, ?_, namespaceOwned_labels _⟩
  unfold createNamespace at made ⊢
  split at made
  · cases made
  · next absent => simp

/-- The invariant alone. -/
abbrev Kept (received : ReceivedEvent) (payload : AgentRunScheduledPayload) (desired : AgentRunDesiredState) :
    Contract.Assertion server :=
  Holding received payload desired fun _ => True

/-- A call that is asked for nothing but to keep the invariant. -/
theorem call_keeps {op : Op} (quiet : op.quiet = true) :
    (deliveries received payload desired).Triple (Kept received payload desired) (call op)
      fun _ => Kept received payload desired :=
  .consequence (call_holds (Q := fun _ _ => True) lasting_true quiet fun _ _ _ => trivial) (fun _ _ h => h)
    fun _ _ _ h => ⟨h.1, trivial⟩

theorem getNamespace_holds :
    (deliveries received payload desired).Triple (Kept received payload desired)
      (call (.getNamespace payload.clusterID (namespaceName received.envelope.tenantID)))
      fun res => Holding received payload desired fun w => ∀ labels, res = .ok labels →
        namespaceOwned received.envelope.tenantID labels = .ok () → NamespaceOwned received payload w :=
  .consequence (call_holds lasting_true rfl fun _ _ _ _ read owned => getNamespace_owned read owned) (fun _ _ h => h)
    fun _ _ _ h => ⟨h.1, h.2.2⟩

theorem createNamespace_holds :
    (deliveries received payload desired).Triple (Kept received payload desired)
      (call (.createNamespace payload.clusterID (namespaceName received.envelope.tenantID)
        (namespaceLabels received.envelope.tenantID)))
      fun res => Holding received payload desired fun w => res = .ok () → NamespaceOwned received payload w :=
  .consequence (call_holds lasting_true rfl fun _ _ _ made => createNamespace_owned made) (fun _ _ h => h)
    fun _ _ _ h => ⟨h.1, h.2.2⟩

/-- `ensureNamespace` succeeds only if the namespace belongs to the tenant. -/
theorem ensureNamespace_holds :
    (deliveries received payload desired).Triple (Kept received payload desired)
      (ensureNamespace payload.clusterID (namespaceName received.envelope.tenantID) received.envelope.tenantID)
      fun res => Holding received payload desired fun w => res = .ok () → NamespaceOwned received payload w := by
  unfold ensureNamespace
  refine .bind getNamespace_holds fun read => ?_
  split
  · next labels => exact .pure fun _ _ h => ⟨h.1, fun owned => h.2 labels rfl owned⟩
  · split
    · exact .pure fun _ _ h => ⟨h.1, nofun⟩
    · refine .bind (.consequence createNamespace_holds (fun _ _ h => ⟨h.1, trivial⟩) fun _ _ _ h => h) fun created => ?_
      split
      · exact .pure fun _ _ h => h
      · split
        · exact .pure fun _ _ h => ⟨h.1, nofun⟩
        · refine .bind (.consequence getNamespace_holds (fun _ _ h => ⟨h.1, trivial⟩) fun _ _ _ h => h)
            fun again => ?_
          split
          · exact .pure fun _ _ h => ⟨h.1, nofun⟩
          · next labels => exact .pure fun _ _ h => ⟨h.1, fun owned => h.2 labels rfl owned⟩

/-- Creating the AgentRun of the event in a namespace of its tenant. -/
theorem createAgentRun_inv {w : World} (fault : Fault) (inv : DeliveryInv received payload desired w)
    (owned : NamespaceOwned received payload w) :
    DeliveryInv received payload desired
      (respond w (.createAgentRun payload.clusterID (projectedRun received.envelope payload desired)) fault).2 := by
  rw [respond]
  rcases faulty_world w unavailable
    (createAgentRun w payload.clusterID (projectedRun received.envelope payload desired)) fault with same | same <;>
    rw [same]
  · exact inv
  · unfold createAgentRun
    dsimp only
    split
    · exact inv
    · exact inv
    · refine ⟨inv.deliverable.congr rfl rfl rfl, fun stored present => ⟨?_, owned⟩⟩
      rw [show runKey received payload = ⟨payload.clusterID, (projectedRun received.envelope payload desired).metadata.ns,
        (projectedRun received.envelope payload desired).metadata.name⟩ from rfl] at present
      simp only [Function.update_self] at present
      exact (Option.some.inj present).symm

theorem createAgentRun_holds :
    (deliveries received payload desired).Triple (Holding received payload desired (NamespaceOwned received payload))
      (call (.createAgentRun payload.clusterID (projectedRun received.envelope payload desired)))
      fun _ => Kept received payload desired := by
  refine .perform (holding_stable lasting_namespaceOwned) fun log w fault res w' held _ answered => ?_
  obtain ⟨rfl, rfl⟩ := respond_answered answered
  have inv := createAgentRun_inv fault held.1 held.2
  exact ⟨fun _ => inv, inv, trivial⟩

/-- `ensureAgentRun` keeps the invariant in a namespace of the tenant. -/
theorem ensureAgentRun_holds :
    (deliveries received payload desired).Triple (Holding received payload desired (NamespaceOwned received payload))
      (ensureAgentRun payload.clusterID (projectedRun received.envelope payload desired))
      fun _ => Kept received payload desired := by
  unfold ensureAgentRun
  refine .bind (call_holds (Q := fun _ _ => True) lasting_namespaceOwned rfl fun _ _ _ => trivial) fun read => ?_
  split
  · exact .pure fun _ _ h => ⟨h.1, trivial⟩
  · split
    · exact .pure fun _ _ h => ⟨h.1, trivial⟩
    · refine .bind (.consequence createAgentRun_holds (fun _ _ h => ⟨h.1, h.2.1⟩) fun _ _ _ h => h) fun created => ?_
      split
      · exact .pure fun _ _ h => h
      · split
        · exact .pure fun _ _ h => h
        · refine .bind (call_keeps rfl) fun again => ?_
          split <;> exact .pure fun _ _ h => h

theorem handOver_holds :
    (deliveries received payload desired).Triple (Kept received payload desired) (handOver received payload desired)
      fun _ => Kept received payload desired := by
  unfold handOver
  refine .bind ensureNamespace_holds fun res => ?_
  split
  · exact .pure fun _ _ h => ⟨h.1, trivial⟩
  · refine .bind (.consequence ensureAgentRun_holds (fun _ _ h => ⟨h.1, h.2 rfl⟩) fun _ _ _ h => h) fun res => ?_
    split
    · exact .pure fun _ _ h => h
    · refine .bind (call_keeps rfl) fun res => ?_
      split <;> exact .pure fun _ _ h => h

/-- The intent that a delivery loads is the one of the invariant. -/
theorem loadIntent_holds :
    (deliveries received payload desired).Triple (Kept received payload desired) (call (.loadIntent received payload))
      fun res => Holding received payload desired fun _ => ∀ loaded, res = .ok loaded → loaded = desired := by
  refine .consequence (call_holds lasting_true rfl fun w fault inv loaded ok => ?_) (fun _ _ h => h)
    fun _ _ _ h => ⟨h.1, h.2.2⟩
  have read : loadIntent w received payload = .ok loaded := (faulty_ok ok).1
  rw [inv.deliverable.intent] at read
  exact (Except.ok.inj read).symm

theorem project_holds :
    (deliveries received payload desired).Triple (Kept received payload desired) (project received payload)
      fun _ => Kept received payload desired := by
  unfold project
  refine .bind loadIntent_holds fun res => ?_
  split
  · exact .pure fun _ _ h => ⟨h.1, trivial⟩
  · exact .pure fun _ _ h => ⟨h.1, trivial⟩
  · next loaded =>
    intro log w held
    obtain rfl := held.2 loaded rfl
    refine Contract.Triple.consequence (P := Kept received payload loaded) ?_ (fun _ _ h => h) (fun _ _ _ h => h) log w
      ⟨held.1, trivial⟩
    split
    · exact .pure fun _ _ h => h
    · refine .bind (call_keeps rfl) fun res => ?_
      split
      · exact .pure fun _ _ h => h
      · refine .bind (call_keeps rfl) fun res => ?_
        split
        · exact .pure fun _ _ h => h
        · exact handOver_holds

theorem process_holds :
    (deliveries received payload desired).Triple (Kept received payload desired) (process received)
      fun _ => Kept received payload desired := by
  intro log w held
  refine Contract.Triple.consequence (P := Kept received payload desired) ?_ (fun _ _ h => h) (fun _ _ _ h => h) log w held
  unfold process
  dsimp only
  split
  · exact .pure fun _ _ h => h
  · rw [held.1.deliverable.decoded]
    refine .bind (call_keeps rfl) fun res => ?_
    split
    · exact .pure fun _ _ h => h
    · exact .pure fun _ _ h => h
    · exact project_holds

theorem deliveries_carries :
    (deliveries received payload desired).Carries (deliver received) (DeliveryInv received payload desired) where
  moves := fun _ w m w' inv allowed moved => by
    cases moved
    exact inv.preserves (applyMove_preserves allowed)
  keeps := fun _ _ _ _ inv kept => kept inv
  start := fun w inv =>
    Contract.Triple.bind (R := fun _ _ _ => True) process_holds (fun _ => .pure fun _ _ _ => trivial) [] w ⟨inv, trivial⟩

/-- The invariant holds however often and however badly the event was delivered. -/
theorem deliveryInv_of_delivers {w₀ : World} {c : Config server} (deliverable : Deliverable received payload desired w₀)
    (fresh : w₀.agentRuns (runKey received payload) = none) (delivers : Delivers received payload w₀ c) :
    DeliveryInv received payload desired c.world := by
  have inv : DeliveryInv received payload desired w₀ :=
    ⟨deliverable, fun stored present => by rw [fresh] at present; cases present⟩
  refine (deliveries_carries.reaches (c := ⟨w₀, none⟩) inv trivial (delivers.mono fun c l allowed => ?_)).1
  cases l with
  | start | stop => trivial
  | answer fault => exact fun _ _ _ _ => trivial
  | move m => cases m <;> exact allowed

end Deliveries

/-! ## A delivery that finds the AgentRun -/

section Redelivery

variable {received : ReceivedEvent} {payload : AgentRunScheduledPayload} {desired : AgentRunDesiredState} {w : World}

/-- A fault-free call and what follows it. -/
theorem run_call {α : Type} {op : Op} {next : op.Res → Ctl α} {res : op.Res} {w' : World}
    (answered : respond w op .none = (res, w')) :
    server.run .none (call op >>= next) w = server.run .none (next res) w' :=
  Server.run_bind (Server.run_perform (congrArg some answered))

theorem ensureNamespace_run (owned : NamespaceOwned received payload w) :
    server.run .none (ensureNamespace payload.clusterID (namespaceName received.envelope.tenantID)
      received.envelope.tenantID) w = some (.ok (), w) := by
  obtain ⟨labels, present, matching⟩ := owned
  have read : respond w (.getNamespace payload.clusterID (namespaceName received.envelope.tenantID)) .none =
      (.ok labels, w) := by
    simp only [respond, faulty, getNamespace, present]
  exact (run_call read).trans (congrArg (fun res => some (res, w)) matching)

/-- The existing AgentRun is compared with its stored form. -/
theorem ensureAgentRun_run
    (present : w.agentRuns (runKey received payload) = some (storedRun received payload desired)) :
    server.run .none (ensureAgentRun payload.clusterID (projectedRun received.envelope payload desired)) w =
      some (agentRunMatches (projectedRun received.envelope payload desired)
        ((projectedRun received.envelope payload desired).metadata,
          (projectedRun received.envelope payload desired).spec.stored), w) := by
  have read : respond w (.getAgentRun (runKey received payload)) .none =
      (.ok ((projectedRun received.envelope payload desired).metadata,
        (projectedRun received.envelope payload desired).spec.stored), w) := by
    simp only [respond, faulty, getAgentRun, present, storedRun, AgentRunSpec.ofJson_toJson]
  exact run_call read

/-- An annotation is found under its key when no key occurs twice. -/
theorem StringMap.at_of_mem {m : StringMap} {key value : String} (distinct : (m.map Prod.fst).Nodup)
    (mem : (key, value) ∈ m) : m.at key = value := by
  induction m with
  | nil => cases mem
  | cons entry rest ih =>
    simp only [List.map_cons, List.nodup_cons] at distinct
    rcases List.mem_cons.mp mem with rfl | later
    · simp [StringMap.at]
    · have other : (key == entry.1) = false :=
        beq_false_of_ne fun same => distinct.1 (same ▸ List.mem_map_of_mem (f := Prod.fst) later)
      have found := ih distinct.2 later
      simp only [StringMap.at] at found ⊢
      rw [List.lookup_cons, other]
      exact found

theorem auditAnnotations_distinct (envelope : Envelope) (payload : AgentRunScheduledPayload) :
    ((auditAnnotations envelope payload).map Prod.fst).Nodup := by
  unfold auditAnnotations
  split <;> split <;> simp only [List.append_nil, List.map_cons, List.map_nil, List.cons_append,
    List.nil_append] <;> decide

/-- The metadata of an AgentRun matches itself. -/
theorem managedMetadataMatches_self :
    managedMetadataMatches (projectedRun received.envelope payload desired).metadata
      (projectedRun received.envelope payload desired).metadata = true := by
  simp only [managedMetadataMatches, Bool.and_eq_true, List.all_eq_true, beq_iff_eq]
  refine ⟨fun _ _ => trivial, fun entry mem => ?_⟩
  exact StringMap.at_of_mem (auditAnnotations_distinct received.envelope payload) mem

theorem Slice.stored_allocated {α β : Type} {convert : α → β} {values : List α} :
    (allocated convert values).stored = allocated convert values ↔ values ≠ [] := by
  cases values with
  | nil => simp [allocated, Slice.stored, Slice.items]
  | cons a rest => simp [allocated, Slice.stored, Slice.items]

/-- The lists of the desired state all have elements. -/
def Filled (desired : AgentRunDesiredState) : Prop :=
  desired.retryableFailureCategories ≠ [] ∧ desired.configurationRefs ≠ [] ∧ desired.secretRefs ≠ []

instance : DecidablePred Filled := fun desired => by unfold Filled; infer_instance

/-- The projected spec survives being stored just if none of its slices is empty. -/
theorem projectedRun_stored (envelope : Envelope) :
    (projectedRun envelope payload desired).spec.stored = (projectedRun envelope payload desired).spec ↔
      Filled desired := by
  simp only [projectedRun, desiredAgentRun, AgentRunSpec.stored, RetryPolicy.stored, AgentRunSpec.mk.injEq,
    RetryPolicy.mk.injEq, true_and, and_true, failureCategories, references, Slice.stored_allocated, Filled]

def desiredStateConflict : KubernetesError := ⟨.unknown, "existing AgentRun desired state conflicts"⟩

theorem agentRunMatches_stored :
    agentRunMatches (projectedRun received.envelope payload desired)
        ((projectedRun received.envelope payload desired).metadata,
          (projectedRun received.envelope payload desired).spec.stored) =
      if Filled desired then .ok () else .error desiredStateConflict := by
  simp only [agentRunMatches, managedMetadataMatches_self, ne_eq, projectedRun_stored, Bool.not_true,
    Bool.false_eq_true, or_false, ite_not, desiredStateConflict]

/-- The marker that a delivery commits. -/
def markerOf (received : ReceivedEvent) : ProcessedRow :=
  ⟨consumerIdentity, received.envelope.eventID, received.envelope.tenantID⟩

theorem respond_mark (accepted : received.accepted = true) (unmarked : ¬ Marked received w) :
    respond w (.mark consumerIdentity received) .none =
      (.ok false, { w with processed := markerOf received :: w.processed }) := by
  have absent : (w.processed.any fun row => row.consumerIdentity == consumerIdentity &&
      row.eventID == received.envelope.eventID) = false := Bool.eq_false_iff.mpr unmarked
  simp only [respond, faulty, mark, accepted, absent, Bool.not_true, Bool.false_eq_true, if_false, markerOf]

theorem respond_seen (unmarked : ¬ Marked received w) :
    respond w (.seen consumerIdentity received.envelope.eventID received.envelope.tenantID) .none = (.ok false, w) := by
  have absent : w.processed.contains (markerOf received) = false := by
    rw [Bool.eq_false_iff]
    intro present
    refine unmarked (List.any_eq_true.mpr ⟨markerOf received, by simpa using present, ?_⟩)
    simp [marks, markerOf]
  simp only [respond, faulty, seen]
  rw [show (⟨consumerIdentity, received.envelope.eventID, received.envelope.tenantID⟩ : ProcessedRow) =
    markerOf received from rfl, absent]

/-- A fault-free delivery that finds the event's objects: it commits the marker, or it ends in a conflict. -/
theorem handOver_run (accepted : received.accepted = true) (owned : NamespaceOwned received payload w)
    (present : w.agentRuns (runKey received payload) = some (storedRun received payload desired))
    (unmarked : ¬ Marked received w) :
    server.run .none (handOver received payload desired) w =
      if Filled desired then some (.ok (), { w with processed := markerOf received :: w.processed })
      else some (.error (newPermanentFailure "AGENTRUN_CONFLICT" "AgentRun handoff failed"), w) := by
  unfold handOver
  rw [Server.run_bind (ensureNamespace_run owned)]
  dsimp only
  rw [Server.run_bind (ensureAgentRun_run present), agentRunMatches_stored]
  by_cases filled : Filled desired
  · rw [if_pos filled, if_pos filled]
    exact run_call (respond_mark accepted unmarked)
  · rw [if_neg filled, if_neg filled]
    have permanent : classifyKubernetes "AGENTRUN" "AgentRun handoff failed" desiredStateConflict =
        newPermanentFailure "AGENTRUN_CONFLICT" "AgentRun handoff failed" := by decide +kernel
    exact congrArg (fun failure => some (Except.error failure, w)) permanent

theorem intentValid_of_loadIntent (loaded : loadIntent w received payload = .ok desired) :
    intentValid payload desired = true := by
  unfold loadIntent at loaded
  split at loaded
  · cases loaded
  · split at loaded
    · cases loaded
    · split at loaded
      · next valid => cases loaded; exact valid
      · cases loaded

/-- The fault-free delivery reaches the cluster calls. -/
theorem process_run (deliverable : Deliverable received payload desired w) (unmarked : ¬ Marked received w) :
    server.run .none (process received) w = server.run .none (handOver received payload desired) w := by
  have loaded : respond w (.loadIntent received payload) .none = (.ok desired, w) := by
    simp only [respond, faulty, deliverable.intent]
  have authorized : respond w (.authorize payload.clusterID received.envelope.tenantID) .none = (.ok (), w) := by
    simp only [respond, faulty, deliverable.authorized]
  have selected : respond w (.select payload.clusterID) .none = (.ok (), w) := by
    simp only [respond, faulty, deliverable.selected]
  unfold process
  simp only [deliverable.scheduled, deliverable.decoded, ne_eq, not_true_eq_false, if_false]
  refine (run_call (respond_seen unmarked)).trans ?_
  refine (run_call loaded).trans ?_
  simp only [intentValid_of_loadIntent deliverable.intent, Bool.not_true, Bool.false_eq_true, if_false]
  refine (run_call authorized).trans ?_
  exact run_call selected

end Redelivery

/-! ## A delivery of the sample event -/

section Sample

def sampleWorld (desired : AgentRunDesiredState) : World where
  intents := [⟨sampleID 5, sampleID 1, sampleID 3, sampleID 4, 1, "local", some desired⟩]
  clusters := [⟨"local", false, []⟩]
  contexts := ["local"]
  processed := []
  namespaces _ _ := none
  agentRuns _ := none

/-- A delivery that stops after its eighth call, which creates the AgentRun. -/
def crashedDelivery : List (Label server) := .start :: List.replicate 8 (.answer .none) ++ [.stop]

/-- The AgentRun is there, its marker is not, and a delivery would end as given. -/
def leavesUnmarked (returns : Bool) (c : Config server) : Bool :=
  (World.agentRuns c.world (runKey sampleEvent samplePayload)).isSome &&
    !(World.processed c.world).any (marks sampleEvent) &&
    ((server.run .none (process sampleEvent) c.world).any fun result => result.1.isOk == returns)

def notMove (_ : Config server) : Label server → Bool
  | .move _ => false
  | _ => true

theorem undisturbed_of_notMove {c : Config server} {l : Label server} (passed : notMove c l = true) :
    Undisturbed sampleEvent samplePayload c l := by
  cases l with
  | move m => cases passed
  | start | answer | stop => trivial

theorem sampleWorld_deliverable {desired : AgentRunDesiredState}
    (intent : loadIntent (sampleWorld desired) sampleEvent samplePayload = .ok desired) :
    Deliverable sampleEvent samplePayload desired (sampleWorld desired) :=
  ⟨rfl, rfl, rfl, intent, rfl, rfl⟩

/-- The configuration that the crashed delivery leaves behind, and how it would end when repeated. -/
theorem exists_crashed {desired : AgentRunDesiredState} {returns : Bool}
    (executed : (execute server (deliver sampleEvent) notMove crashedDelivery ⟨sampleWorld desired, none⟩).any
      (leavesUnmarked returns) = true) :
    ∃ c, Delivers sampleEvent samplePayload (sampleWorld desired) c ∧
      c.world.agentRuns (runKey sampleEvent samplePayload) ≠ none ∧ ¬ Marked sampleEvent c.world ∧
      (server.run .none (process sampleEvent) c.world).any (fun result => result.1.isOk == returns) = true := by
  obtain ⟨c, delivers, left⟩ := exists_reaches (fun _ _ => undisturbed_of_notMove) executed
  simp only [leavesUnmarked, Bool.and_eq_true, Bool.not_eq_true'] at left
  refine ⟨c, delivers, Option.isSome_iff_ne_none.mp left.1.1, ?_, left.2⟩
  unfold Marked
  rw [left.1.2]
  exact Bool.false_ne_true

end Sample

/-- After any deliveries of an event that left its AgentRun but no marker, the next delivery completes the
handoff just if no list of the desired state is empty. -/
theorem redelivered_iff_filled {received : ReceivedEvent} {payload : AgentRunScheduledPayload}
    {desired : AgentRunDesiredState} {w₀ : World} {c : Config server}
    (deliverable : Deliverable received payload desired w₀)
    (fresh : w₀.agentRuns (runKey received payload) = none) (delivers : Delivers received payload w₀ c)
    (created : c.world.agentRuns (runKey received payload) ≠ none) (unmarked : ¬ Marked received c.world) :
    Redelivered received c.world ↔ Filled desired := by
  have inv := deliveryInv_of_delivers deliverable fresh delivers
  obtain ⟨stored, present⟩ := Option.ne_none_iff_exists'.mp created
  obtain ⟨rfl, owned⟩ := inv.projected stored present
  unfold Redelivered
  rw [process_run inv.deliverable unmarked, handOver_run inv.deliverable.accepted owned present unmarked]
  constructor
  · rintro ⟨w', ran, -⟩
    by_contra empty
    rw [if_neg empty] at ran
    cases ran
  · intro filled
    refine ⟨{ c.world with processed := markerOf received :: c.world.processed }, if_pos filled, rfl, ?_⟩
    have none : c.world.processed.countP (marks received) = 0 := by
      rw [List.countP_eq_zero]
      intro row mem marked
      exact unmarked (List.any_eq_true.mpr ⟨row, mem, marked⟩)
    have one : marks received (markerOf received) = true := by simp [marks, markerOf]
    simp only [List.countP_cons_of_pos one, none]

/-- With a reference in every list and a retry category the repeated delivery completes. -/
theorem redelivered_filled_lists :
    ∃ c, Delivers sampleEvent samplePayload (sampleWorld (sampleDesired [.internal] ["one"])) c ∧
      Redelivered sampleEvent c.world := by
  have executed : (execute server (deliver sampleEvent) notMove crashedDelivery
      ⟨sampleWorld (sampleDesired [.internal] ["one"]), none⟩).any (leavesUnmarked true) = true := by decide +kernel
  obtain ⟨c, delivers, created, unmarked, -⟩ := exists_crashed executed
  have deliverable : Deliverable sampleEvent samplePayload (sampleDesired [.internal] ["one"])
      (sampleWorld (sampleDesired [.internal] ["one"])) := sampleWorld_deliverable (by decide +kernel)
  exact ⟨c, delivers, (redelivered_iff_filled deliverable rfl delivers created unmarked).mpr (by decide)⟩

/-- Without references and retry categories, which validation accepts, the repeated delivery fails. -/
theorem not_redelivered_empty_lists :
    Deliverable sampleEvent samplePayload (sampleDesired [] []) (sampleWorld (sampleDesired [] [])) ∧
      ∃ c, Delivers sampleEvent samplePayload (sampleWorld (sampleDesired [] [])) c ∧
        c.world.agentRuns (runKey sampleEvent samplePayload) ≠ none ∧ ¬ Marked sampleEvent c.world ∧
        ¬ Redelivered sampleEvent c.world := by
  have executed : (execute server (deliver sampleEvent) notMove crashedDelivery
      ⟨sampleWorld (sampleDesired [] []), none⟩).any (leavesUnmarked false) = true := by decide +kernel
  obtain ⟨c, delivers, created, unmarked, ended⟩ := exists_crashed executed
  refine ⟨sampleWorld_deliverable (by decide +kernel), c, delivers, created, unmarked, ?_⟩
  rintro ⟨w', ran, -⟩
  rw [ran] at ended
  cases ended

end AgentForge.Handoff
