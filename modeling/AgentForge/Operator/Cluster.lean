import AgentForge.Operator.Calls

/-!
# The cluster as the history of one AgentRun

The server keeps every version of the run that it persisted and the workspace claims. A read of the run may be answered
from a cache with any earlier version, and a read of a claim with whatever the cache shows. Every write of the run or of a
claim makes a new version, and a write under a stale version is refused. What all other objects show is arbitrary: an answer about them is any object or error, with the times
that JSON carries. Other clients request cancellation, delete or edit the run, and create, edit and remove claims; they do
not take back the release of a claim.
-/

set_option autoImplicit false

namespace AgentForge.Operator

open Lib

/-! ## Times on the wire -/

/-- A time, if any, as it is decoded from JSON: in whole seconds. -/
def decodedTime (time : Option Time) : Option Time := time.map Time.stored

def Job.decoded (job : Job) : Job :=
  { job with status :=
      { job.status with
        startTime := decodedTime job.status.startTime
        completionTime := decodedTime job.status.completionTime
        conditions := job.status.conditions.map fun c => { c with lastTransitionTime := c.lastTransitionTime.stored } } }

def ContainerStatus.decoded (container : ContainerStatus) : ContainerStatus :=
  { container with
    running := decodedTime container.running
    terminated := container.terminated.map fun t => { t with finishedAt := t.finishedAt.stored } }

def Pod.decoded (pod : Pod) : Pod :=
  { pod with
    startTime := decodedTime pod.startTime
    containerStatuses := pod.containerStatuses.map ContainerStatus.decoded }

theorem whole_decodedTime (time : Option Time) : Whole (decodedTime time) := by
  intro value decoded
  obtain ⟨original, -, rfl⟩ := Option.map_eq_some_iff.mp decoded
  exact Time.stored_stored original

theorem Job.decoded_whole (job : Job) : job.decoded.WholeTimes where
  start := whole_decodedTime _
  completion := whole_decodedTime _
  conditions := by
    intro condition member
    obtain ⟨original, -, rfl⟩ := List.mem_map.mp member
    exact Time.stored_stored _

theorem Pod.decoded_whole (pod : Pod) : pod.decoded.WholeTimes where
  start := whole_decodedTime _
  running := by
    intro container member
    obtain ⟨original, -, rfl⟩ := List.mem_map.mp member
    exact whole_decodedTime _
  terminated := by
    intro container member state terminated
    obtain ⟨original, -, rfl⟩ := List.mem_map.mp member
    obtain ⟨ended, -, rfl⟩ := Option.map_eq_some_iff.mp terminated
    exact Time.stored_stored _

/-- An answer as it is decoded. -/
def Op.decoded : (op : Op) → op.Res → op.Res
  | .get .job _, .ok job => .ok (Job.decoded job)
  | .listPods _, .ok pods => .ok (pods.map Pod.decoded)
  | _, res => res

/-! ## The state -/

/-- A workspace claim, and whether the operator created it. -/
structure Claim where
  object : PersistentVolumeClaim
  byOperator : Bool

/-- The claim is marked as released. -/
def PersistentVolumeClaim.released (claim : PersistentVolumeClaim) : Bool :=
  claim.metadata.annotations.at retentionStateAnnotationKey == "Released"

structure Cluster where
  /-- The AgentRun, or its last version once it has been removed. -/
  run : AgentRun
  runPresent : Bool
  /-- The earlier versions of the run, the newest first. -/
  earlier : List AgentRun
  claims : String → Option Claim
  clock : Time
  /-- The last resource version handed out. -/
  counter : Nat

namespace Cluster

variable (c : Cluster)

/-- Every version that was persisted, the newest first. -/
def versions : List AgentRun := c.run :: c.earlier

/-- The run as a new version. -/
def version (run : AgentRun) : AgentRun :=
  { run with metadata := { run.metadata with resourceVersion := c.counter + 1 } }

def setRun (run : AgentRun) : Cluster :=
  { c with run := c.version run, earlier := c.run :: c.earlier, counter := c.counter + 1 }

/-- The cluster with another claim, as a new version, or none under this name. -/
def setClaim (name : String) (claim : Option Claim) : Cluster :=
  let stored := claim.map fun claim =>
    { claim with object :=
        { claim.object with metadata := { claim.object.metadata with resourceVersion := c.counter + 1 } } }
  { c with claims := fun n => if n = name then stored else c.claims n, counter := c.counter + 1 }

/-- An optimistic-lock write of the run. -/
def writeRun (resourceVersion : Nat) (change : AgentRun → AgentRun) : Except ApiError AgentRun × Cluster :=
  if !c.runPresent then (.error .notFound, c)
  else if c.run.metadata.resourceVersion ≠ resourceVersion then (.error .conflict, c)
  else
    let c' := c.setRun (change c.run)
    (.ok c'.run, c')

/-- Removing the last finalizer of a run that is being deleted removes the run. -/
def collectRun : Except ApiError AgentRun × Cluster → Except ApiError AgentRun × Cluster
  | (.ok run, c) =>
    (.ok run, if run.metadata.deleting && run.metadata.finalizers.isEmpty then { c with runPresent := false } else c)
  | (.error e, c) => (.error e, c)

def readClaim (name : String) : Except ApiError PersistentVolumeClaim :=
  match c.claims name with
  | some claim => .ok claim.object
  | none => .error .notFound

/-- An applied claim is merged into the existing one, or created with a fresh identity. -/
def applyClaim (desired : PersistentVolumeClaim) : Cluster :=
  match c.claims desired.metadata.name with
  | some claim =>
    c.setClaim desired.metadata.name (some { claim with object := PersistentVolumeClaim.merge claim.object desired })
  | none =>
    let metadata := { desired.metadata with uid := toString (c.counter + 1), creationTimestamp := c.clock }
    c.setClaim desired.metadata.name (some ⟨{ desired with metadata }, true⟩)

/-- An optimistic-lock write of the annotations of a claim. -/
def writeClaim (resourceVersion : Nat) (name : String) (annotations : StringMap) : Except ApiError Unit × Cluster :=
  match c.claims name with
  | none => (.error .notFound, c)
  | some claim =>
    if claim.object.metadata.resourceVersion ≠ resourceVersion then (.error .conflict, c)
    else
      let metadata := { claim.object.metadata with annotations }
      (.ok (), c.setClaim name (some { claim with object := { claim.object with metadata } }))

end Cluster

/-! ## Calls -/

/-- How the environment answers a call. -/
inductive Answering
  | current
  /-- The call has no effect. -/
  | refused (e : ApiError)
  /-- The call takes effect and its answer is lost. -/
  | lost (e : ApiError)
  /-- The cache answers a read of the run with a version that was persisted, or has not seen the run. -/
  | cached (run : Option AgentRun)
  /-- The cache answers a read of a claim, or has not seen the claim. -/
  | cachedClaim (claim : Option PersistentVolumeClaim)
  /-- An answer about an object that the history does not track. -/
  | observed (answer : (op : Op) → op.Res)

/-- The call is about objects other than the run and the workspace claims. -/
def Op.elsewhere : Op → Bool
  | .get kind _ | .apply kind _ => kind ≠ .persistentVolumeClaim
  | .getSecret _ | .getStorageClass _ | .listPods _ | .deletePod _ | .deleteJob _ _ => true
  | .now | .getRun | .patchRunStatus _ _ | .patchRunFinalizers _ _ | .patchWorkspace _ _ _ => false

/-- An answer under a fault. Absence is never reported for an object that is present. -/
def Cluster.deliver {α : Type} (c : Cluster) (answer : Except ApiError α × Cluster) :
    Answering → Option (Except ApiError α × Cluster)
  | .current => some answer
  | .refused e => if e = .notFound then none else some (.error e, c)
  | .lost e => if e.indefinite then some (.error e, answer.2) else none
  | .cached _ | .cachedClaim _ | .observed _ => none

/-- A read of the run, from the server or from the cache. -/
def Cluster.readRun (c : Cluster) : Answering → Option (Except ApiError AgentRun × Cluster)
  | .cached (some run) => if run ∈ c.versions then some (.ok run, c) else none
  | .cached none => some (.error .notFound, c)
  | answering => c.deliver (if c.runPresent then .ok c.run else .error .notFound, c) answering

/-- A read of a claim, from the server or from the cache. -/
def Cluster.getClaim (c : Cluster) (name : String) :
    Answering → Option (Except ApiError PersistentVolumeClaim × Cluster)
  | .cachedClaim (some claim) => some (.ok claim, c)
  | .cachedClaim none => some (.error .notFound, c)
  | answering => c.deliver (c.readClaim name, c) answering

def Cluster.respond (c : Cluster) : (op : Op) → Answering → Option (op.Res × Cluster)
  | .now, .current => some (c.clock, c)
  | .getRun, answering => c.readRun answering
  | .patchRunStatus version status, answering =>
    c.deliver (c.writeRun version fun run => { run with status := status.stored }) answering
  | .patchRunFinalizers version finalizers, answering =>
    c.deliver
      (Cluster.collectRun (c.writeRun version fun run => { run with metadata := { run.metadata with finalizers } }))
      answering
  | .get .persistentVolumeClaim name, answering => c.getClaim name answering
  | .apply .persistentVolumeClaim desired, answering => c.deliver (.ok (), c.applyClaim desired) answering
  | .patchWorkspace version name annotations, answering => c.deliver (c.writeClaim version name annotations) answering
  | op, .observed answer => if op.elsewhere then some (op.decoded (answer op), c) else none
  | _, _ => none

/-! ## Other clients -/

inductive ClusterMove
  /-- The only ordinary spec update: `desiredState` becomes `Cancelled`. -/
  | requestCancellation
  | deleteRun
  | editRun (labels annotations : StringMap)
  | createClaim (name : String) (object : PersistentVolumeClaim)
  | editClaim (name : String) (object : PersistentVolumeClaim)
  | removeClaim (name : String)
  | setClock (time : Time)

/-- Deleting the run marks it, and removes it when no finalizer holds it. -/
def Cluster.markDeleted (c : Cluster) : Cluster :=
  let metadata := { c.run.metadata with deletionTimestamp := c.run.metadata.deletionTimestamp.or (some c.clock) }
  { c.setRun { c.run with metadata } with runPresent := !c.run.metadata.finalizers.isEmpty }

/-- The effect of a move, if the server accepts it. -/
def Cluster.move : ClusterMove → Cluster → Option Cluster
  | .requestCancellation, c =>
    if c.runPresent then
      some (c.setRun { c.run with
        metadata := { c.run.metadata with generation := c.run.metadata.generation + 1 }
        spec := { c.run.spec with desiredState := .cancelled } })
    else none
  | .deleteRun, c => if c.runPresent then some c.markDeleted else none
  | .editRun labels annotations, c =>
    if c.runPresent then some (c.setRun { c.run with metadata := { c.run.metadata with labels, annotations } }) else none
  | .createClaim name object, c =>
    if (c.claims name).isNone then some (c.setClaim name (some ⟨object, false⟩)) else none
  | .editClaim name object, c =>
    match c.claims name with
    | some claim =>
      if claim.object.released && !object.released then none else some (c.setClaim name (some { claim with object }))
    | none => none
  | .removeClaim name, c => some (c.setClaim name none)
  | .setClock clock, c => some { c with clock }

/-- The API server and its cache, with the history of the run. -/
abbrev clusterServer : Server Op Op.Res where
  World := Cluster
  Fault := Answering
  Move := ClusterMove
  respond := Cluster.respond
  move := Cluster.move

/-! ## What an answer does to the run -/

/-- An answer leaves the run and carries a persisted version, or is the effect of a write of the current version. -/
inductive RunEffect (c : Cluster) (op : Op) (res : op.Res) (c' : Cluster) : Prop
  | kept (run : c'.run = c.run) (earlier : c'.earlier = c.earlier) (counter : c.counter ≤ c'.counter)
    (read : ∀ run, op.answeredRun res = some run → op = .getRun ∧ run ∈ c.versions)
  | status (status : AgentRunStatus) (called : op = .patchRunStatus c.run.metadata.resourceVersion status)
    (run : c'.run = c.version { c.run with status := status.stored }) (earlier : c'.earlier = c.run :: c.earlier)
    (counter : c'.counter = c.counter + 1) (answer : ∀ run, op.answeredRun res = some run → run = c'.run)
  | finalizers (finalizers : List String)
    (called : op = .patchRunFinalizers c.run.metadata.resourceVersion finalizers)
    (run : c'.run = c.version { c.run with metadata := { c.run.metadata with finalizers } })
    (earlier : c'.earlier = c.run :: c.earlier) (counter : c'.counter = c.counter + 1)
    (answer : ∀ run, op.answeredRun res = some run → run = c'.run)

section Effects

variable {c c' : Cluster} {answering : Answering}

/-- A delivered answer is the intended one, or an error with or without its effect. -/
theorem deliver_cases {α : Type} {answer : Except ApiError α × Cluster} {res : Except ApiError α}
    (delivered : c.deliver answer answering = some (res, c')) :
    (res = answer.1 ∧ c' = answer.2) ∨ ∃ e, res = .error e ∧ e ≠ .notFound ∧ (c' = c ∨ c' = answer.2) := by
  unfold Cluster.deliver at delivered
  split at delivered
  · cases delivered
    exact .inl ⟨rfl, rfl⟩
  · next e =>
    split at delivered
    · cases delivered
    · next other =>
      cases delivered
      exact .inr ⟨e, rfl, other, .inl rfl⟩
  · next e =>
    split at delivered
    · next indefinite =>
      cases delivered
      refine .inr ⟨e, rfl, ?_, .inr rfl⟩
      rintro rfl
      cases indefinite
    · cases delivered
  · cases delivered
  · cases delivered
  · cases delivered

theorem deliver_failed {α : Type} {e : ApiError} {res : Except ApiError α}
    (delivered : c.deliver (.error e, c) answering = some (res, c')) : c' = c ∧ ∃ e', res = .error e' := by
  rcases deliver_cases delivered with ⟨rfl, same⟩ | ⟨e', rfl, -, same | same⟩
  · exact ⟨same, e, rfl⟩
  · exact ⟨same, e', rfl⟩
  · exact ⟨same, e', rfl⟩

/-- A write of the run fails without effect, or makes a new version of the current one. -/
theorem writeRun_cases (c : Cluster) (version : Nat) (change : AgentRun → AgentRun) :
    (∃ e, c.writeRun version change = (.error e, c)) ∨
      c.run.metadata.resourceVersion = version ∧
        c.writeRun version change = (.ok (c.version (change c.run)), c.setRun (change c.run)) := by
  unfold Cluster.writeRun
  split
  · exact .inl ⟨_, rfl⟩
  · split
    · exact .inl ⟨_, rfl⟩
    · next same => exact .inr ⟨not_not.mp same, rfl⟩

theorem setClaim_run (c : Cluster) (name : String) (claim : Option Claim) :
    (c.setClaim name claim).run = c.run ∧ (c.setClaim name claim).earlier = c.earlier ∧
      c.counter ≤ (c.setClaim name claim).counter := ⟨rfl, rfl, Nat.le_succ _⟩

theorem applyClaim_run (c : Cluster) (desired : PersistentVolumeClaim) :
    (c.applyClaim desired).run = c.run ∧ (c.applyClaim desired).earlier = c.earlier ∧
      c.counter ≤ (c.applyClaim desired).counter := by
  unfold Cluster.applyClaim
  split <;> exact setClaim_run _ _ _

theorem writeClaim_run (c : Cluster) (version : Nat) (name : String) (annotations : StringMap) :
    (c.writeClaim version name annotations).2.run = c.run ∧ (c.writeClaim version name annotations).2.earlier = c.earlier ∧
      c.counter ≤ (c.writeClaim version name annotations).2.counter := by
  unfold Cluster.writeClaim
  split
  · exact ⟨rfl, rfl, le_refl _⟩
  · split
    · exact ⟨rfl, rfl, le_refl _⟩
    · exact setClaim_run _ _ _

/-- An effect on claims keeps the run. -/
theorem RunEffect.of_claims {op : Op} {res : op.Res} (quiet : op.answeredRun res = none) {claimed : Cluster}
    (kept : claimed.run = c.run ∧ claimed.earlier = c.earlier ∧ c.counter ≤ claimed.counter)
    (reached : c' = c ∨ c' = claimed) : RunEffect c op res c' := by
  have none_read : ∀ run, op.answeredRun res = some run → op = .getRun ∧ run ∈ c.versions := by
    intro run carried
    rw [quiet] at carried
    cases carried
  rcases reached with rfl | rfl
  · exact .kept rfl rfl (le_refl _) none_read
  · exact .kept kept.1 kept.2.1 kept.2.2 none_read

theorem readRun_effect {res : Except ApiError AgentRun} (answered : c.readRun answering = some (res, c')) :
    RunEffect c .getRun res c' := by
  unfold Cluster.readRun at answered
  split at answered
  · next run =>
    split at answered
    · next persisted =>
      cases answered
      refine .kept rfl rfl (le_refl _) ?_
      rintro run' ⟨⟩
      exact ⟨rfl, persisted⟩
    · cases answered
  · cases answered
    exact .kept rfl rfl (le_refl _) (by rintro run ⟨⟩)
  · have unchanged : c' = c := by
      rcases deliver_cases answered with ⟨-, same⟩ | ⟨_, -, -, same | same⟩ <;> exact same
    subst unchanged
    refine .kept rfl rfl (le_refl _) fun run carried => ⟨rfl, ?_⟩
    rcases deliver_cases answered with ⟨rfl, -⟩ | ⟨e, rfl, -⟩
    · split at carried
      · cases carried
        exact List.mem_cons_self
      · cases carried
    · cases carried

theorem getClaim_kept {name : String} {res : Except ApiError PersistentVolumeClaim}
    (answered : c.getClaim name answering = some (res, c')) : c' = c := by
  unfold Cluster.getClaim at answered
  split at answered
  · cases answered
    rfl
  · cases answered
    rfl
  · rcases deliver_cases answered with ⟨-, same⟩ | ⟨_, -, -, same | same⟩ <;> exact same

theorem patchStatus_effect {version : Nat} {status : AgentRunStatus} {res : Except ApiError AgentRun}
    (answered : c.deliver (c.writeRun version fun run => { run with status := status.stored }) answering = some (res, c')) :
    RunEffect c (.patchRunStatus version status) res c' := by
  rcases writeRun_cases c version fun run => { run with status := status.stored } with ⟨e, failed⟩ | ⟨rfl, written⟩
  · obtain ⟨rfl, e', rfl⟩ := deliver_failed (failed ▸ answered)
    exact .kept rfl rfl (le_refl _) (by rintro run ⟨⟩)
  · rw [written] at answered
    rcases deliver_cases answered with ⟨rfl, rfl⟩ | ⟨e', rfl, -, rfl | rfl⟩
    · refine .status status rfl rfl rfl rfl ?_
      rintro run ⟨⟩
      rfl
    · exact .kept rfl rfl (le_refl _) (by rintro run ⟨⟩)
    · exact .status status rfl rfl rfl rfl (by rintro run ⟨⟩)

theorem patchFinalizers_effect {version : Nat} {finalizers : List String}
    {res : Except ApiError AgentRun}
    (answered : c.deliver (Cluster.collectRun
      (c.writeRun version fun run => { run with metadata := { run.metadata with finalizers } })) answering = some (res, c')) :
    RunEffect c (.patchRunFinalizers version finalizers) res c' := by
  rcases writeRun_cases c version fun run => { run with metadata := { run.metadata with finalizers } } with
    ⟨e, failed⟩ | ⟨rfl, written⟩
  · obtain ⟨rfl, e', rfl⟩ := deliver_failed (failed ▸ answered)
    exact .kept rfl rfl (le_refl _) (by rintro run ⟨⟩)
  · rw [written] at answered
    have collected : ∀ run : AgentRun, ∀ d : Cluster, ∃ present,
        Cluster.collectRun (.ok run, d) = (.ok run, { d with runPresent := present }) := by
      intro run d
      simp only [Cluster.collectRun]
      split
      · exact ⟨false, rfl⟩
      · exact ⟨d.runPresent, rfl⟩
    obtain ⟨present, same⟩ := collected (c.version { c.run with metadata := { c.run.metadata with finalizers } })
      (c.setRun { c.run with metadata := { c.run.metadata with finalizers } })
    rw [same] at answered
    rcases deliver_cases answered with ⟨rfl, rfl⟩ | ⟨e', rfl, -, rfl | rfl⟩
    · refine .finalizers finalizers rfl rfl rfl rfl ?_
      rintro run ⟨⟩
      rfl
    · exact .kept rfl rfl (le_refl _) (by rintro run ⟨⟩)
    · exact .finalizers finalizers rfl rfl rfl rfl (by rintro run ⟨⟩)

theorem Op.answeredRun_elsewhere {op : Op} (elsewhere : op.elsewhere = true) (res : op.Res) : op.answeredRun res = none := by
  cases op <;> first | rfl | cases elsewhere

theorem respond_effect {op : Op} {res : op.Res} (answered : c.respond op answering = some (res, c')) :
    RunEffect c op res c' := by
  unfold Cluster.respond at answered
  split at answered
  · cases answered
    exact .kept rfl rfl (le_refl _) (by rintro run ⟨⟩)
  · exact readRun_effect answered
  · exact patchStatus_effect answered
  · exact patchFinalizers_effect answered
  · exact .of_claims rfl ⟨rfl, rfl, le_refl _⟩ (.inl (getClaim_kept answered))
  · exact .of_claims rfl (applyClaim_run c _) (by
      rcases deliver_cases answered with ⟨-, same⟩ | ⟨_, -, -, same⟩
      · exact .inr same
      · exact same)
  · exact .of_claims rfl (writeClaim_run c _ _ _) (by
      rcases deliver_cases answered with ⟨-, same⟩ | ⟨_, -, -, same⟩
      · exact .inr same
      · exact same)
  · next op answer _ _ _ _ _ _ _ =>
    split at answered
    · next elsewhere =>
      cases answered
      exact .of_claims (Op.answeredRun_elsewhere elsewhere _) ⟨rfl, rfl, le_refl _⟩ (.inl rfl)
    · cases answered
  · cases answered

end Effects

end AgentForge.Operator
