import AgentForge.Operator.StatusLaws

/-!
# Retained workspaces

The finalizer of a run whose workspaces are retained goes only after every workspace claim that the operator created was
seen absent or released, or after the cleanup was escalated. The names of the claims come from the attempts of the run
that was read; the finalizer patch carries its version, and attempts only grow, so no claim is missed. A cache that does
not show a claim yet makes the cleanup pass over it.
-/

set_option autoImplicit false

namespace AgentForge.Operator

open Lib

/-! ## What happens to the claims -/

/-- How a claim after a transition came about. -/
inductive ClaimChange (c : Cluster) (applied : String → Prop) (c' : Cluster) (name : String) (claim' : Claim) : Prop
  | same (present : c.claims name = some claim')
  | edited (claim : Claim) (present : c.claims name = some claim) (version : claim'.object.metadata.resourceVersion = c.counter + 1)
    (counter : c.counter + 1 ≤ c'.counter) (origin : claim'.byOperator = claim.byOperator)
    (stays : claim.object.released = true → claim'.object.released = true)
  | foreign (version : claim'.object.metadata.resourceVersion = c.counter + 1) (counter : c.counter + 1 ≤ c'.counter)
    (origin : claim'.byOperator = false)
  | created (version : claim'.object.metadata.resourceVersion = c.counter + 1) (counter : c.counter + 1 ≤ c'.counter)
    (applied : applied name)

/-- The claims after setting one: the new version of it, and the others as they were. -/
theorem setClaim_cases {c : Cluster} {name n : String} {claim : Option Claim} {claim' : Claim}
    (present : (c.setClaim name claim).claims n = some claim') :
    c.claims n = some claim' ∨ n = name ∧ ∃ new, claim = some new ∧ claim'.byOperator = new.byOperator ∧
      claim'.object = { new.object with metadata := { new.object.metadata with resourceVersion := c.counter + 1 } } := by
  simp only [Cluster.setClaim] at present
  split at present
  · next same =>
    obtain ⟨new, rfl, rfl⟩ := Option.map_eq_some_iff.mp present
    exact .inr ⟨same, new, rfl, rfl, rfl⟩
  · exact .inl present

theorem lookup_mergeMap_other {existing desired : StringMap} {key : String} (absent : desired.lookup key = none) :
    (mergeMap existing desired).lookup key = existing.lookup key := by
  have kept : (existing.filter fun entry => (desired.lookup entry.1).isNone).lookup key = existing.lookup key := by
    induction existing with
    | nil => rfl
    | cons entry rest ih =>
      obtain ⟨k, value⟩ := entry
      rw [List.filter_cons]
      by_cases same : key = k
      · subst same
        rw [if_pos (by rw [absent]; rfl), List.lookup_cons_self, List.lookup_cons_self]
      · have other : (key == k) = false := by simpa using same
        split <;> simp only [List.lookup, other, ih]
  rw [mergeMap, List.lookup_append, kept, absent]
  simp

section Claims

variable {r : Reconciler} {tidy : Prop} {c c' : Cluster} {claim' : Claim} {answering : Answering}

theorem move_claims {m : ClusterMove} (moved : c.move m = some c') {name : String}
    (present : c'.claims name = some claim') : ClaimChange c (fun _ => False) c' name claim' := by
  cases m with
  | requestCancellation | deleteRun | editRun =>
    simp only [Cluster.move, Option.ite_none_right_eq_some, Option.some.injEq] at moved
    obtain ⟨-, rfl⟩ := moved
    exact .same present
  | createClaim created object =>
    simp only [Cluster.move, Option.ite_none_right_eq_some, Option.some.injEq] at moved
    obtain ⟨-, rfl⟩ := moved
    rcases setClaim_cases present with old | ⟨rfl, new, ⟨⟩, origin, stored⟩
    · exact .same old
    · exact .foreign (by rw [stored]) (le_refl _) origin
  | editClaim edited object =>
    simp only [Cluster.move] at moved
    split at moved
    · next claim found =>
      simp only [Option.ite_none_left_eq_some, Option.some.injEq] at moved
      obtain ⟨keeps, rfl⟩ := moved
      rcases setClaim_cases present with old | ⟨rfl, new, ⟨⟩, origin, stored⟩
      · exact .same old
      · refine .edited claim found (by rw [stored]) (le_refl _) origin fun released => ?_
        rw [stored]
        change object.released = true
        simpa [released] using keeps
    · cases moved
  | removeClaim removed =>
    cases moved
    rcases setClaim_cases present with old | ⟨rfl, new, ⟨⟩, -⟩
    exact .same old
  | setClock clock =>
    cases moved
    exact .same present

/-- The names that a call applies a claim under. -/
def Op.appliesClaim : Op → String → Prop
  | .apply .persistentVolumeClaim desired, name => (PersistentVolumeClaim.metadata desired).name = name
  | _, _ => False

theorem applyClaim_claims {desired : PersistentVolumeClaim}
    (state : desired.metadata.annotations.lookup retentionStateAnnotationKey = none) {name : String}
    (present : (c.applyClaim desired).claims name = some claim') :
    ClaimChange c (desired.metadata.name = ·) (c.applyClaim desired) name claim' := by
  unfold Cluster.applyClaim at present ⊢
  split at present
  · next claim found =>
    rcases setClaim_cases present with old | ⟨rfl, new, ⟨⟩, origin, stored⟩
    · exact .same old
    · refine .edited claim found (by rw [stored]) (le_refl _) origin fun released => ?_
      rw [stored]
      simp only [PersistentVolumeClaim.released, StringMap.at, PersistentVolumeClaim.merge, mergeMetadata,
        lookup_mergeMap_other state] at released ⊢
      exact released
  · next absent =>
    rcases setClaim_cases present with old | ⟨rfl, new, ⟨⟩, origin, stored⟩
    · exact .same old
    · exact .created (by rw [stored]) (le_refl _) rfl

/-- The claim with these annotations. -/
def Claim.annotate (claim : Claim) (annotations : StringMap) : Claim :=
  { claim with object := { claim.object with metadata := { claim.object.metadata with annotations } } }

theorem release_claims {claim : Claim} {name n : String} {annotations : StringMap}
    (found : c.claims name = some claim) (released : annotations.at retentionStateAnnotationKey = "Released")
    (present : (c.setClaim name (some (claim.annotate annotations))).claims n = some claim')
    (applied : String → Prop) :
    ClaimChange c applied (c.setClaim name (some (claim.annotate annotations))) n claim' := by
  rcases setClaim_cases present with old | ⟨rfl, new, ⟨⟩, origin, stored⟩
  · exact .same old
  · refine .edited claim found (by rw [stored]) (le_refl _) origin fun _ => ?_
    rw [stored]
    simpa [PersistentVolumeClaim.released, Claim.annotate] using released

/-- What an answered patch of a claim does: nothing, or the annotations of the current version change. -/
theorem writeClaim_cases (c : Cluster) (version : Nat) (name : String) (annotations : StringMap) :
    (∃ e, c.writeClaim version name annotations = (.error e, c)) ∨ ∃ claim, c.claims name = some claim ∧
      claim.object.metadata.resourceVersion = version ∧
      c.writeClaim version name annotations = (.ok (), c.setClaim name (some (claim.annotate annotations))) := by
  unfold Cluster.writeClaim
  split
  · exact .inl ⟨_, rfl⟩
  · next claim found =>
    split
    · exact .inl ⟨_, rfl⟩
    · next same => exact .inr ⟨claim, found, not_not.mp same, rfl⟩

theorem deliver_claims {α : Type} {answer : Except ApiError α × Cluster} {res : Except ApiError α}
    (delivered : c.deliver answer answering = some (res, c')) (kept : answer.2.claims = c.claims) :
    c'.claims = c.claims := by
  rcases deliver_cases delivered with ⟨-, rfl⟩ | ⟨_, -, -, rfl | rfl⟩
  · exact kept
  · rfl
  · exact kept

theorem writeRun_claims (c : Cluster) (version : Nat) (change : AgentRun → AgentRun) :
    (c.writeRun version change).2.claims = c.claims := by
  rcases writeRun_cases c version change with ⟨e, failed⟩ | ⟨-, written⟩
  · rw [failed]
  · rw [written]
    rfl

theorem collectRun_claims (answer : Except ApiError AgentRun × Cluster) :
    (Cluster.collectRun answer).2.claims = answer.2.claims := by
  unfold Cluster.collectRun
  split
  · dsimp only
    split <;> rfl
  · rfl

theorem readRun_claims {res : Except ApiError AgentRun} (answered : c.readRun answering = some (res, c')) :
    c' = c := by
  unfold Cluster.readRun at answered
  split at answered
  · split at answered <;> cases answered
    rfl
  · cases answered
    rfl
  · rcases deliver_cases answered with ⟨-, same⟩ | ⟨_, -, -, same | same⟩ <;> exact same

/-- What an answered call does to the claims. -/
inductive ClaimEffect (c c' : Cluster) (op : Op) : Prop
  | kept (claims : c'.claims = c.claims)
  | applied (desired : PersistentVolumeClaim) (called : op = .apply .persistentVolumeClaim desired)
    (effect : c' = c.applyClaim desired)
  | patched (name : String) (annotations : StringMap) (claim : Claim) (found : c.claims name = some claim)
    (called : op = .patchWorkspace claim.object.metadata.resourceVersion name annotations)
    (effect : c' = c.setClaim name (some (claim.annotate annotations)))

theorem respond_claimEffect {op : Op} {res : op.Res} (answered : c.respond op answering = some (res, c')) :
    ClaimEffect c c' op := by
  unfold Cluster.respond at answered
  split at answered
  · cases answered
    exact .kept rfl
  · exact .kept (by rw [readRun_claims answered])
  · exact .kept (deliver_claims answered (writeRun_claims c _ _))
  · exact .kept (deliver_claims answered ((collectRun_claims _).trans (writeRun_claims c _ _)))
  · exact .kept (by rw [getClaim_kept answered])
  · next _ desired =>
    rcases deliver_cases answered with ⟨-, effect⟩ | ⟨_, -, -, rfl | effect⟩
    · exact .applied desired rfl effect
    · exact .kept rfl
    · exact .applied desired rfl effect
  · next _ version name annotations =>
    rcases writeClaim_cases c version name annotations with ⟨e, failed⟩ | ⟨claim, found, rfl, written⟩
    · rw [failed] at answered
      exact .kept (deliver_claims answered rfl)
    · rw [written] at answered
      rcases deliver_cases answered with ⟨-, effect⟩ | ⟨_, -, -, rfl | effect⟩
      · exact .patched name annotations claim found rfl effect
      · exact .kept rfl
      · exact .patched name annotations claim found rfl effect
  · split at answered
    · cases answered
      exact .kept rfl
    · cases answered
  · cases answered

theorem respond_claims {log : Log} {op : Op} {res : op.Res} (answered : c.respond op answering = some (res, c'))
    (called : Calls r tidy log op) {name : String} (present : c'.claims name = some claim') :
    ClaimChange c op.appliesClaim c' name claim' := by
  cases respond_claimEffect answered with
  | kept claims => exact .same (claims ▸ present)
  | applied desired apply effect =>
    subst apply effect
    obtain ⟨before, -, applies⟩ := called
    exact applyClaim_claims applies.state present
  | patched patchedName annotations claim found patch effect =>
    subst patch effect
    obtain ⟨before, seen, -, -, -, -, rfl⟩ := called
    exact release_claims found (at_mergeMap _ _ _) present _

end Claims

/-! ## The invariant -/

/-- What holds of the claims and of what the activation in progress has seen of them. -/
structure RetentionInv (r : Reconciler) (c : Config clusterServer) : Prop where
  version : ∀ name claim, c.world.claims name = some claim → claim.object.metadata.resourceVersion ≤ c.world.counter
  /-- The operator's claims are those of attempts of persisted versions. -/
  named : ∀ name claim, c.world.claims name = some claim → claim.byOperator = true → Accepted r.ext c.world.run ∧
    ∃ before ∈ c.world.versions, name = (namesOf c.world.run.spec.runID (currentAttempt before)).workspace
  forward : Accepted r.ext c.world.run → ∀ run ∈ c.world.versions, currentAttempt run ≤ currentAttempt c.world.run
  applied : ∀ e ∈ c.log, e.1.isApply = true → OpensWith c.log false
  /-- What was seen released stays so, unless this activation applies claims. -/
  released : ∀ name, ReleasedIn c.log name → (∀ e ∈ c.log, e.1.isApply = false) → ∀ claim,
    c.world.claims name = some claim → claim.byOperator = true → claim.object.released = true
  /-- A claim that was read is the current one as long as its version is. -/
  read : ∀ name claim, (⟨.get .persistentVolumeClaim name, .ok claim⟩ : Event Op Op.Res) ∈ c.log →
    claim.metadata.resourceVersion ≤ c.world.counter ∧ ∀ current, c.world.claims name = some current →
      current.object.metadata.resourceVersion = claim.metadata.resourceVersion → current.object = claim

section Invariant

variable {r : Reconciler} {tidy : Prop} {c d : Config clusterServer} {w₀ : Cluster} {l : Label clusterServer}
  {name : String} {answering : Answering}

theorem Transition.counter {c c' : Cluster} {log : Log} (transition : Transition r tidy log c c') :
    c.counter ≤ c'.counter := by
  cases transition with
  | kept _ _ counter => exact counter
  | written _ _ _ _ counter => omega
  | edited _ _ _ counter => omega

theorem Transition.versions_cases {c c' : Cluster} {log : Log} (transition : Transition r tidy log c c')
    {run : AgentRun} (member : run ∈ c'.versions) : run ∈ c.versions ∨ run = c'.run := by
  rcases List.mem_cons.mp member with same | older
  · exact .inr same
  · cases transition with
    | kept _ earlier => exact .inl (List.mem_cons_of_mem _ (earlier ▸ older))
    | written _ _ _ earlier | edited _ _ earlier =>
      rw [earlier] at older
      exact .inl older

/-- The intent of the current run is kept by a transition. -/
theorem HistoryInv.intent_step (inv : HistoryInv r tidy c) (stepped : Stepped clusterServer (controller r) c l d) :
    SameIntent c.world.run d.world.run := by
  have transition := inv.transition stepped
  exact (transition.versions inv.versions).intent _ (transition.mem_versions List.mem_cons_self)

theorem HistoryInv.accepted_before (inv : HistoryInv r tidy c) {run : AgentRun} (intent : SameIntent c.world.run run)
    (accepted : Accepted r.ext run) : Accepted r.ext c.world.run := by
  refine ⟨inv.versions.generation _ List.mem_cons_self, ?_⟩
  have same := accepted.2
  rw [intent.spec] at same
  exact same

theorem currentAttempt_mono {old new : AgentRun} (spec : new.spec.attempt = old.spec.attempt)
    (grows : old.status.attempt ≤ new.status.attempt) : currentAttempt old ≤ currentAttempt new := by
  simp only [currentAttempt, spec]
  split <;> split <;> omega

/-- The attempt of every version is at most the current one. -/
theorem RetentionInv.forward_step (retention : RetentionInv r c) (inv : HistoryInv r tidy c)
    (stepped : Stepped clusterServer (controller r) c l d) (accepted : Accepted r.ext d.world.run) :
    ∀ run ∈ d.world.versions, currentAttempt run ≤ currentAttempt d.world.run := by
  intro run member
  have intent := inv.intent_step stepped
  have before := inv.accepted_before intent accepted
  have grows : currentAttempt c.world.run ≤ currentAttempt d.world.run :=
    currentAttempt_mono (by rw [intent.spec]) (inv.attemptStep before stepped).grows
  rcases (inv.transition stepped).versions_cases member with old | rfl
  · exact (retention.forward before run old).trans grows
  · exact le_refl _

/-- The activation is about to apply a claim of this name. -/
def AppliesNow (c : Config clusterServer) (name : String) : Prop :=
  ∃ log op next, c.task = some ⟨log, .call op next⟩ ∧ op.appliesClaim name

theorem ClaimChange.mono {c c' : Cluster} {P Q : String → Prop} {claim : Claim}
    (change : ClaimChange c P c' name claim) (weaken : ∀ name, P name → Q name) : ClaimChange c Q c' name claim := by
  cases change with
  | same present => exact .same present
  | edited claim present version counter origin stays => exact .edited claim present version counter origin stays
  | foreign version counter origin => exact .foreign version counter origin
  | created version counter applied => exact .created version counter (weaken name applied)

/-- A claim of the operator that was released stays so unless one is created in its place. -/
theorem ClaimChange.released {c c' : Cluster} {P : String → Prop} {claim : Claim}
    (change : ClaimChange c P c' name claim) (own : claim.byOperator = true) (unapplied : ¬P name)
    (before : ∀ old, c.claims name = some old → old.byOperator = true → old.object.released = true) :
    claim.object.released = true := by
  cases change with
  | same old => exact before claim old own
  | edited old oldPresent _ _ origin stays => exact stays (before old oldPresent (origin ▸ own))
  | foreign _ _ origin =>
    rw [own] at origin
    cases origin
  | created _ _ applied => exact absurd applied unapplied

theorem claimChange_of_step (inv : HistoryInv r tidy c) (stepped : Stepped clusterServer (controller r) c l d)
    {claim : Claim} (present : d.world.claims name = some claim) :
    ClaimChange c.world (AppliesNow c) d.world name claim := by
  cases stepped with
  | start | stop => exact .same present
  | @answer answering log op next res w task answered =>
    have safe := inv.safe
    rw [task] at safe
    exact (respond_claims answered safe.calls present).mono fun _ applied => ⟨log, op, next, task, applied⟩
  | move moved => exact (move_claims moved present).mono fun _ => False.elim

/-- The claims of the operator keep their names, and a new one is named after the run that was read. -/
theorem RetentionInv.named_step (retention : RetentionInv r c) (inv : HistoryInv r tidy c)
    (stepped : Stepped clusterServer (controller r) c l d) (name : String) (claim : Claim)
    (present : d.world.claims name = some claim) (own : claim.byOperator = true) :
    Accepted r.ext d.world.run ∧
      ∃ before ∈ d.world.versions, name = (namesOf d.world.run.spec.runID (currentAttempt before)).workspace := by
  have intent := inv.intent_step stepped
  have carry : (Accepted r.ext c.world.run ∧
      ∃ before ∈ c.world.versions, name = (namesOf c.world.run.spec.runID (currentAttempt before)).workspace) →
      Accepted r.ext d.world.run ∧
        ∃ before ∈ d.world.versions, name = (namesOf d.world.run.spec.runID (currentAttempt before)).workspace := by
    rintro ⟨accepted, before, member, same⟩
    refine ⟨accepted.mono intent, before, (inv.transition stepped).mem_versions member, ?_⟩
    rw [same, intent.spec]
  refine carry ?_
  cases claimChange_of_step inv stepped present with
  | same old => exact retention.named name claim old own
  | edited old oldPresent _ _ origin _ => exact retention.named name old oldPresent (origin ▸ own)
  | foreign _ _ origin =>
    rw [own] at origin
    cases origin
  | created _ _ applied =>
    obtain ⟨log, op, next, task, applied⟩ := applied
    unfold Op.appliesClaim at applied
    split at applied
    · next desired =>
      have safe := inv.safe
      rw [task] at safe
      obtain ⟨before, opened, applies⟩ := safe.calls
      have member : before ∈ c.world.versions := inv.read before (by simpa [Config.log, task] using opened.read)
      have same := inv.versions.intent before member
      refine ⟨applies.accepted.mono same, before, member, ?_⟩
      rw [← applied, same.spec]
      exact applies.name
    · cases applied

/-- The answer to a read of a claim tells its state, if no cache gives it. -/
theorem readClaim_of_answer {c c' : Cluster} {res : Except ApiError PersistentVolumeClaim}
    (current : ∀ claim, answering ≠ .cachedClaim claim)
    (answered : c.respond (.get .persistentVolumeClaim name) answering = some (res, c')) :
    c' = c ∧ (res = .error .notFound → c.claims name = none) ∧
      ∀ claim, res = .ok claim → ∃ own, c.claims name = some ⟨claim, own⟩ := by
  refine ⟨getClaim_kept answered, ?_⟩
  have answered : c.deliver (c.readClaim name, c) answering = some (res, c') := by
    cases answering with
    | cachedClaim claim => exact absurd rfl (current claim)
    | _ => exact answered
  refine ⟨?_, ?_⟩
  · rintro rfl
    rcases deliver_cases answered with ⟨same, -⟩ | ⟨e, same, other, -⟩
    · simp only [Cluster.readClaim] at same
      split at same
      · cases same
      · next absent => exact absent
    · cases same
      exact absurd rfl other
  · rintro claim rfl
    rcases deliver_cases answered with ⟨same, -⟩ | ⟨e, same, -⟩
    · simp only [Cluster.readClaim] at same
      split at same
      · next found present =>
        cases same
        exact ⟨found.byOperator, present⟩
      · cases same
    · cases same

/-- After a patch that was answered the claim has the new annotations. -/
theorem patched_of_answer {c c' : Cluster} {version : Nat} {annotations : StringMap}
    (answered : c.respond (.patchWorkspace version name annotations) answering = some (.ok (), c')) {claim : Claim}
    (present : c'.claims name = some claim) : claim.object.metadata.annotations = annotations := by
  rcases deliver_cases answered with ⟨same, reached⟩ | ⟨e, same, -⟩
  · rcases writeClaim_cases c version name annotations with ⟨e, failed⟩ | ⟨current, -, -, written⟩
    · rw [failed] at same
      cases same
    · rw [reached, written] at present
      simp only [Cluster.setClaim, if_true, Option.map_some, Option.some.injEq] at present
      subst present
      rfl
  · cases same

/-- What the answer to a read or a patch tells about a claim. -/
theorem released_of_answer {c c' : Cluster} {log : Log} {op : Op} {res : op.Res}
    (current : ∀ claim, answering ≠ .cachedClaim claim) (answered : c.respond op answering = some (res, c')) (seen : ReleasedIn (⟨op, res⟩ :: log) name) :
    ReleasedIn log name ∨ ∀ claim, c'.claims name = some claim → claim.object.released = true := by
  cases seen with
  | absent read =>
    rcases List.mem_cons.mp read with same | read
    · cases same
      obtain ⟨rfl, absent, -⟩ := readClaim_of_answer current answered
      refine .inr fun claim present => ?_
      rw [absent rfl] at present
      cases present
    · exact .inl (.absent read)
  | @marked claim read released =>
    rcases List.mem_cons.mp read with same | read
    · cases same
      obtain ⟨rfl, -, found⟩ := readClaim_of_answer current answered
      refine .inr fun claim' present => ?_
      obtain ⟨own, found⟩ := found claim rfl
      rw [found] at present
      cases present
      simpa [PersistentVolumeClaim.released] using released
    · exact .inl (.marked read released)
  | patched written released =>
    rcases List.mem_cons.mp written with same | written
    · cases same
      refine .inr fun claim present => ?_
      simp [PersistentVolumeClaim.released, patched_of_answer answered present, released]
    · exact .inl (.patched written released)

/-- No read of a claim is answered by the cache. -/
def currentClaims (_ : Config clusterServer) : Label clusterServer → Bool
  | .answer (.cachedClaim _) => false
  | _ => true

theorem not_cachedClaim (current : currentClaims c (.answer answering) = true)
    (claim : Option PersistentVolumeClaim) : answering ≠ .cachedClaim claim := by
  rintro rfl
  cases current

theorem RetentionInv.step (retention : RetentionInv r c) (inv : HistoryInv r tidy c)
    (current : currentClaims c l = true) (stepped : Stepped clusterServer (controller r) c l d) :
    RetentionInv r d := by
  have change := fun {name : String} {claim : Claim} (present : d.world.claims name = some claim) =>
    claimChange_of_step inv stepped present
  have counter := (inv.transition stepped).counter
  -- a claim that changed has a newer version than any that was read
  have newer : ∀ name claim (seen : PersistentVolumeClaim), seen.metadata.resourceVersion ≤ c.world.counter →
      (∀ current, c.world.claims name = some current →
        current.object.metadata.resourceVersion = seen.metadata.resourceVersion → current.object = seen) →
      d.world.claims name = some claim → claim.object.metadata.resourceVersion = seen.metadata.resourceVersion →
      claim.object = seen := by
    intro name claim seen bounded current present same
    cases change present with
    | same old => exact current claim old same
    | edited _ _ version | foreign version | created version => omega
  refine ⟨fun name claim present => ?_, retention.named_step inv stepped, retention.forward_step inv stepped, ?_, ?_, ?_⟩
  · cases change present with
    | same old => exact (retention.version name claim old).trans counter
    | edited _ _ version bounded | foreign version bounded | created version bounded => omega
  · cases stepped with
    | start | stop => rintro e ⟨⟩
    | @answer answering log op next res w task answered =>
      have sameLog : c.log = log := by simp [Config.log, task]
      rintro e member applies
      rcases List.mem_cons.mp member with rfl | member
      · have safe := inv.safe
        rw [task] at safe
        have called := safe.calls
        cases op <;> try cases applies
        obtain ⟨before, opened, -⟩ := called
        exact opened.opens.cons _
      · exact (sameLog ▸ retention.applied e (sameLog ▸ member) applies).cons _
    | move => exact retention.applied
  · intro name seen unapplied claim present own
    cases stepped with
    | start | stop => obtain (⟨⟨⟩⟩ | ⟨⟨⟩, _⟩ | ⟨⟨⟩, _⟩) := seen
    | @answer answering log op next res w task answered =>
      have sameLog : c.log = log := by simp [Config.log, task]
      rcases released_of_answer (not_cachedClaim current) answered seen with seen | released
      · refine (change present).released own ?_ (retention.released name (sameLog ▸ seen) fun e member =>
          unapplied e (List.mem_cons_of_mem _ (sameLog ▸ member)))
        rintro ⟨log', op', next', task', applied⟩
        rw [task] at task'
        cases task'
        have harmless := unapplied ⟨op, res⟩ List.mem_cons_self
        unfold Op.appliesClaim at applied
        split at applied
        · cases harmless
        · exact applied
      · exact released claim present
    | move moved => exact (move_claims moved present).released own id (retention.released name seen unapplied)
  · intro name claim read
    cases stepped with
    | start | stop => cases read
    | @answer answering log op next res w task answered =>
      have sameLog : c.log = log := by simp [Config.log, task]
      rcases List.mem_cons.mp read with same | read
      · cases same
        obtain ⟨rfl, -, found⟩ := readClaim_of_answer (not_cachedClaim current) answered
        obtain ⟨own, found⟩ := found claim rfl
        refine ⟨retention.version name _ found, fun current present _ => ?_⟩
        rw [found] at present
        cases present
        rfl
      · obtain ⟨bounded, current⟩ := retention.read name claim (sameLog ▸ read)
        exact ⟨bounded.trans counter, fun current' present same => newer name current' claim bounded current present same⟩
    | move =>
      obtain ⟨bounded, current⟩ := retention.read name claim read
      exact ⟨bounded.trans counter, fun current' present same => newer name current' claim bounded current present same⟩

theorem Created.retentionInv (created : Created w₀) :
    RetentionInv r ⟨w₀, none⟩ where
  version := fun name claim present => (created.claims name claim present).2
  named := by
    intro name claim present own
    rw [(created.claims name claim present).1] at own
    cases own
  forward := by
    intro _ run member
    have same : run = w₀.run := by simpa [Cluster.versions, created.earlier] using member
    rw [same]
  applied := by rintro e ⟨⟩
  released := by
    rintro name (⟨⟨⟩⟩ | ⟨⟨⟩, _⟩ | ⟨⟨⟩, _⟩)
  read := by rintro name claim ⟨⟩

theorem retentionInv_of_reaches (created : Created w₀)
    (reached : Reaches clusterServer (controller r) (currentClaims · ·) ⟨w₀, none⟩ c) : RetentionInv r c := by
  induction reached with
  | refl => exact created.retentionInv
  | step reached l current next ih =>
    exact ih.step (inv_of_reaches created (reached.mono fun _ _ _ => trivial)).1 current (stepped_of_step next)

end Invariant

/-! ## The law -/

section Law

variable {r : Reconciler} {w₀ : Cluster} {c d : Config clusterServer}

/-- What one transition does to the finalizer, the escalation and the claims. -/
structure RetentionStep (c d : Config clusterServer) (l : Label clusterServer) : Prop where
  /-- When the finalizer goes and the cleanup was not escalated, every claim of the operator is released. -/
  released : retainedResourcesFinalizer ∈ c.world.run.metadata.finalizers →
    retainedResourcesFinalizer ∉ d.world.run.metadata.finalizers →
    cleanupReason d.world.run.status ≠ some "CleanupEscalated" →
    ∀ name claim, d.world.claims name = some claim → claim.byOperator = true → claim.object.released = true
  /-- The cleanup is escalated ten minutes or more after the deletion. -/
  escalated : cleanupReason d.world.run.status = some "CleanupEscalated" →
    cleanupReason c.world.run.status = some "CleanupEscalated" ∨ DeadlineElapsed c.log c.world.run
  /-- The cleanup deletes no claim, and changes only those that are marked with the UID of the run. -/
  marked : (∃ answering, l = .answer answering) → OpensWith c.log true → ∀ name claim, c.world.claims name = some claim →
    ∃ claim', d.world.claims name = some claim' ∧
      (claim' = claim ∨ claim.object.metadata.annotations.at ownerUIDAnnotationKey = c.world.run.metadata.uid)

theorem OpensWith.unique {log : Log} (deleting : OpensWith log true) (present : OpensWith log false) : False := by
  obtain ⟨run, last, same⟩ := deleting
  obtain ⟨run', last', same'⟩ := present
  rw [last] at last'
  cases last'
  rw [same] at same'
  cases same'

/-- A claim of the operator is one of an attempt that the cleanup has visited. -/
theorem RetentionInv.all_released (retention : RetentionInv r c) {tidy : Prop} (inv : HistoryInv r tidy c)
    (opens : OpensWith c.log true)
    (visited : ∀ k, c.world.run.spec.attempt ≤ k → k ≤ currentAttempt c.world.run →
      ReleasedIn c.log (namesOf c.world.run.spec.runID k).workspace)
    {name : String} {claim : Claim} (present : c.world.claims name = some claim) (own : claim.byOperator = true) :
    claim.object.released = true := by
  obtain ⟨accepted, before, member, rfl⟩ := retention.named name claim present own
  refine retention.released _ (visited _ ?_ (retention.forward accepted before member)) (fun e inside => ?_) claim present own
  · rw [(inv.versions.intent before member).spec]
    exact currentAttempt_ge before
  · by_contra applies
    exact opens.unique (retention.applied e inside (by simpa using applies))

/-- Other clients do not touch the finalizers. -/
theorem move_finalizers {m : ClusterMove} {w w' : Cluster} (moved : w.move m = some w') :
    w'.run.metadata.finalizers = w.run.metadata.finalizers := by
  cases m with
  | requestCancellation | deleteRun | editRun =>
    simp only [Cluster.move, Option.ite_none_right_eq_some, Option.some.injEq] at moved
    obtain ⟨-, rfl⟩ := moved
    rfl
  | createClaim =>
    simp only [Cluster.move, Option.ite_none_right_eq_some, Option.some.injEq] at moved
    obtain ⟨-, rfl⟩ := moved
    rfl
  | editClaim =>
    simp only [Cluster.move] at moved
    split at moved
    · simp only [Option.ite_none_left_eq_some, Option.some.injEq] at moved
      obtain ⟨-, rfl⟩ := moved
      rfl
    · cases moved
  | removeClaim | setClock =>
    cases moved
    rfl

/-- The finalizer goes only by a patch that may remove it. -/
theorem finalizer_removed (inv : HistoryInv r False c) {l : Label clusterServer}
    (stepped : Stepped clusterServer (controller r) c l d)
    (held : retainedResourcesFinalizer ∈ c.world.run.metadata.finalizers)
    (gone : retainedResourcesFinalizer ∉ d.world.run.metadata.finalizers) :
    d.world.claims = c.world.claims ∧ d.world.run.status = c.world.run.status ∧ OpensWith c.log true ∧
      (c.world.run.spec.workspace.retentionPolicy = .retain →
        cleanupReason c.world.run.status = some "CleanupEscalated" ∨
          ∀ k, c.world.run.spec.attempt ≤ k → k ≤ currentAttempt c.world.run →
            ReleasedIn c.log (namesOf c.world.run.spec.runID k).workspace) := by
  cases stepped with
  | start | stop => exact absurd held gone
  | move moved => exact absurd (move_finalizers moved ▸ held) gone
  | @answer answering log op next res w task answered =>
    have sameLog : c.log = log := by simp [Config.log, task]
    have safe := inv.safe
    rw [task] at safe
    have called := safe.calls
    have claimed := respond_claimEffect answered
    cases respond_effect answered with
    | kept run => exact absurd (run ▸ held) gone
    | status status _ run =>
      rw [run] at gone
      exact absurd held gone
    | finalizers finalizers call run =>
      subst call
      obtain ⟨before, read, version, finalizes⟩ := called
      obtain rfl := inv.versions.eq_run (inv.read before (sameLog ▸ read)) version
      rw [run] at gone
      cases finalizes with
      | adds => exact absurd (List.mem_append_left _ held) gone
      | removes opens _ ended =>
        rw [run, sameLog]
        refine ⟨?_, rfl, opens, ended⟩
        cases claimed with
        | kept claims => exact claims
        | applied _ called | patched _ _ _ _ called => cases called

/-- An escalation that a transition writes comes after the deadline. -/
theorem Transition.escalated {log : Log} {w w' : Cluster} (transition : Transition r False log w w')
    (escalated : cleanupReason w'.run.status = some "CleanupEscalated") :
    cleanupReason w.run.status = some "CleanupEscalated" ∨ DeadlineElapsed log w.run := by
  cases transition with
  | kept run =>
    rw [run] at escalated
    exact .inl escalated
  | written status writes run =>
    rw [run] at escalated
    have stored : cleanupReason status = some "CleanupEscalated" := by
      rw [← cleanupReason_stored status]
      exact escalated
    rcases writes.cleanup with same | ⟨-, elapsed⟩
    · exact .inl (same ▸ stored)
    · exact .inr (elapsed stored)
  | edited new run _ _ _ status =>
    rw [run] at escalated
    exact .inl (status ▸ escalated)

theorem validateRetainedWorkspace_uid {run : AgentRun} {claim : PersistentVolumeClaim}
    (valid : validateRetainedWorkspace run claim = .ok ()) :
    claim.metadata.annotations.at ownerUIDAnnotationKey = run.metadata.uid := by
  unfold validateRetainedWorkspace at valid
  split at valid
  · cases valid
  · split at valid
    · cases valid
    · next same => simpa using same

/-- A call of the cleanup keeps every claim, and changes only those that carry the UID of the run. -/
theorem RetentionInv.marked (retention : RetentionInv r c) (inv : HistoryInv r False c) {log : Log} {op : Op}
    {next : op.Res → Ctl Unit} {answering : Answering} {res : op.Res} {w : Cluster}
    (task : c.task = some ⟨log, .call op next⟩) (answered : c.world.respond op answering = some (res, w))
    (opens : OpensWith log true) {name : String} {claim : Claim} (present : c.world.claims name = some claim) :
    ∃ claim', w.claims name = some claim' ∧
      (claim' = claim ∨ claim.object.metadata.annotations.at ownerUIDAnnotationKey = c.world.run.metadata.uid) := by
  have sameLog : c.log = log := by simp [Config.log, task]
  have safe := inv.safe
  rw [task] at safe
  have called := safe.calls
  cases respond_claimEffect answered with
  | kept claims => exact ⟨claim, claims ▸ present, .inl rfl⟩
  | applied desired apply =>
    subst apply
    obtain ⟨before, opened, -⟩ := called
    exact (opens.unique opened.opens).elim
  | patched patchedName annotations current found patch effect =>
    subst patch effect
    by_cases other : name = patchedName
    · subst other
      rw [present] at found
      cases found
      obtain ⟨before, seen, read, wasSeen, version, valid, -⟩ := called
      -- the claim that was validated is the one that is patched
      have same := (retention.read name seen (sameLog ▸ wasSeen)).2 claim present version.symm
      refine ⟨_, if_pos rfl, .inr ?_⟩
      rw [same, (inv.versions.intent before (inv.read before (sameLog ▸ read))).uid]
      exact validateRetainedWorkspace_uid valid
    · exact ⟨claim, by simpa [Cluster.setClaim, other] using present, .inl rfl⟩

/-- The next answer removes the finalizer after a complete cleanup, while the operator's claim is there as it was
created. -/
def forgets (c : Config clusterServer) : Bool :=
  c.world.run.metadata.finalizers == [retainedResourcesFinalizer] &&
    (step clusterServer (controller sampleReconciler) c (.answer .current)).any fun d =>
      d.world.run.metadata.finalizers == [] && cleanupReason d.world.run.status == some "CleanupComplete" &&
        (d.world.claims (namesOf sampleRunID 1).workspace).any fun claim => claim.byOperator && !claim.object.released

end Law

end AgentForge.Operator
