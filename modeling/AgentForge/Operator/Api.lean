import AgentForge.Lib.Program
import AgentForge.Operator.Lifecycle

/-!
# The Kubernetes API server as one reconciler sees it

The world holds one AgentRun with its children, the Pods, and what the run refers to. A read is
answered from the current state or from the informer cache, which may show any other state. A write
under a resource version is refused when the version is stale, and a server-side apply creates an
absent object. A fault refuses a call without effect, or loses the answer of a call that took
effect. Moves are the other clients: users, the Job controller, the kubelets, the garbage collector.
They never create a Job under a name of this run, and a finished Job stays finished.
-/

set_option autoImplicit false

namespace AgentForge.Operator

open Lib

/-- The classes of API errors that the controller tells apart. -/
inductive ApiError
  | notFound
  | conflict
  | serverTimeout
  | timeout
  | tooManyRequests
  | serviceUnavailable
  | invalid
  | badRequest
  | forbidden
  | unauthorized
  | methodNotSupported
  | other
  deriving DecidableEq

/-- The call may have taken effect although it reports this error. -/
def ApiError.indefinite : ApiError → Bool
  | serverTimeout | timeout | serviceUnavailable | other => true
  | _ => false

/-! ## Child objects by kind -/

inductive Kind
  | serviceAccount
  | configMap
  | persistentVolumeClaim
  | networkPolicy
  | job
  deriving DecidableEq

@[reducible] def Kind.Object : Kind → Type
  | serviceAccount => ServiceAccount
  | configMap => ConfigMap
  | persistentVolumeClaim => PersistentVolumeClaim
  | networkPolicy => NetworkPolicy
  | job => Job

def Kind.metadata : (kind : Kind) → kind.Object → ObjectMeta
  | serviceAccount, object => ServiceAccount.metadata object
  | configMap, object => ConfigMap.metadata object
  | persistentVolumeClaim, object => PersistentVolumeClaim.metadata object
  | networkPolicy, object => NetworkPolicy.metadata object
  | job, object => Job.metadata object

/-! ## The world -/

/-- `batchv1.JobNameLabel`. -/
def jobNameLabel : String := "batch.kubernetes.io/job-name"

structure World where
  /-- The AgentRun, or its last version once it has been removed. -/
  run : AgentRun
  runPresent : Bool
  objects : (kind : Kind) → String → Option kind.Object
  pods : List Pod
  secrets : List String
  storageClasses : List (String × StorageClass)
  clock : Time
  /-- The last resource version and object UID handed out. -/
  counter : Nat

namespace World

/-- The Job of this name. -/
def job (w : World) (name : String) : Option Job := w.objects .job name

/-- The Pods that carry the label of this Job. -/
def podsOf (w : World) (jobName : String) : List Pod :=
  w.pods.filter fun pod => pod.metadata.labels.at jobNameLabel == jobName

/-- The world with another object, or none, under this kind and name. -/
def setObject (w : World) (kind : Kind) (name : String) (object : Option kind.Object) : World :=
  { w with
    objects := fun k n =>
      if same : kind = k then (if n = name then same ▸ object else w.objects k n) else w.objects k n }

/-- The world with a new version of the run. -/
def setRun (w : World) (run : AgentRun) : World :=
  { w with
    run := { run with metadata := { run.metadata with resourceVersion := w.counter + 1 } }
    counter := w.counter + 1 }

end World

/-! ## Calls -/

inductive Op
  | now
  | getRun
  | patchRunStatus (resourceVersion : Nat) (status : AgentRunStatus)
  | patchRunFinalizers (resourceVersion : Nat) (finalizers : List String)
  | get (kind : Kind) (name : String)
  | apply (kind : Kind) (object : kind.Object)
  | patchWorkspace (resourceVersion : Nat) (name : String) (annotations : StringMap)
  | getSecret (name : String)
  | getStorageClass (name : String)
  | listPods (jobName : String)
  | deletePod (name : String)
  | deleteJob (name : String) (zeroGrace : Bool)

/-- What a successful call returns. -/
@[reducible] def Op.Answer : Op → Type
  | now => Time
  | getRun | patchRunStatus .. | patchRunFinalizers .. => AgentRun
  | get kind _ => kind.Object
  | apply .. | patchWorkspace .. | getSecret _ | deletePod _ | deleteJob .. => Unit
  | getStorageClass _ => StorageClass
  | listPods _ => List Pod

/-- Reading the clock cannot fail. -/
@[reducible] def Op.Res : Op → Type
  | now => Time
  | op => Except ApiError op.Answer

/-- How the environment treats a call. -/
inductive Fault
  | none
  /-- The call has no effect. -/
  | refused (e : ApiError)
  /-- The call takes effect and its answer is lost. -/
  | lost (e : ApiError)
  /-- The call is a read, and the cache answers it from the state that it shows. -/
  | cached (seen : World)

/-- The call is answered by the server itself. -/
def Fault.current : Fault → Bool
  | cached _ => false
  | _ => true

/-- An answer under a fault. Absence is never reported for an object that is present. -/
def faulty {α : Type} (w : World) (answer : Except ApiError α × World) : Fault → Option (Except ApiError α × World)
  | .none => some answer
  | .refused e => if e = .notFound then none else some (.error e, w)
  | .lost e => if e.indefinite then some (.error e, answer.2) else none
  | .cached _ => none

/-- The answer to a read, by the server or by the cache. -/
def faultyRead {α : Type} (w : World) (answer : World → Except ApiError α) : Fault → Option (Except ApiError α × World)
  | .cached seen => some (answer seen, w)
  | fault => faulty w (answer w, w) fault

/-! ## Effects of the calls -/

section Effects

variable (w : World)

/-- An optimistic-lock write of the run. -/
def writeRun (resourceVersion : Nat) (change : AgentRun → AgentRun) : Except ApiError AgentRun × World :=
  if !w.runPresent then (.error .notFound, w)
  else if w.run.metadata.resourceVersion ≠ resourceVersion then (.error .conflict, w)
  else
    let w' := w.setRun (change w.run)
    (.ok w'.run, w')

/-- Removing the last finalizer of a run that is being deleted removes the run. -/
def collectRun : Except ApiError AgentRun × World → Except ApiError AgentRun × World
  | (.ok run, w) =>
    (.ok run, if run.metadata.deleting && run.metadata.finalizers.isEmpty then { w with runPresent := false } else w)
  | (.error e, w) => (.error e, w)

def readRun : Except ApiError AgentRun := if w.runPresent then .ok w.run else .error .notFound

def readObject (kind : Kind) (name : String) : Except ApiError kind.Object :=
  match w.objects kind name with
  | some object => .ok object
  | none => .error .notFound

def readSecret (name : String) : Except ApiError Unit :=
  if w.secrets.contains name then .ok () else .error .notFound

def readStorageClass (name : String) : Except ApiError StorageClass :=
  match w.storageClasses.lookup name with
  | some storageClass => .ok storageClass
  | none => .error .notFound

/-- Entries of `desired` replace entries of `existing` with the same key. -/
def mergeMap (existing desired : StringMap) : StringMap :=
  existing.filter (fun entry => (desired.lookup entry.1).isNone) ++ desired

/-- Applied metadata: the identity stays, the declared maps and owners are merged in. -/
def mergeMetadata (existing desired : ObjectMeta) : ObjectMeta :=
  { existing with
    labels := mergeMap existing.labels desired.labels
    annotations := mergeMap existing.annotations desired.annotations
    ownerReferences :=
      existing.ownerReferences.filter (fun owner => desired.ownerReferences.all (·.uid != owner.uid)) ++
        desired.ownerReferences }

def ServiceAccount.merge (existing desired : ServiceAccount) : ServiceAccount :=
  { existing with
    metadata := mergeMetadata existing.metadata desired.metadata
    automountServiceAccountToken := desired.automountServiceAccountToken }

def ConfigMap.merge (existing desired : ConfigMap) : ConfigMap :=
  { existing with
    metadata := mergeMetadata existing.metadata desired.metadata
    immutable := desired.immutable
    data := mergeMap existing.data desired.data }

def PersistentVolumeClaim.merge (existing desired : PersistentVolumeClaim) : PersistentVolumeClaim :=
  { existing with
    metadata := mergeMetadata existing.metadata desired.metadata
    spec := { existing.spec with storage := desired.spec.storage } }

def NetworkPolicy.merge (existing desired : NetworkPolicy) : NetworkPolicy where
  metadata := mergeMetadata existing.metadata desired.metadata
  spec := desired.spec

def Job.merge (existing desired : Job) : Job :=
  { existing with
    metadata := mergeMetadata existing.metadata desired.metadata
    spec := desired.spec }

/-- A server-side apply over an existing object: what the server owns, such as the status, stays. -/
def Kind.merge : (kind : Kind) → kind.Object → kind.Object → kind.Object
  | serviceAccount, existing, desired => ServiceAccount.merge existing desired
  | configMap, existing, desired => ConfigMap.merge existing desired
  | persistentVolumeClaim, existing, desired => PersistentVolumeClaim.merge existing desired
  | networkPolicy, existing, desired => NetworkPolicy.merge existing desired
  | job, existing, desired => Job.merge existing desired

/-- The object with other metadata. -/
def Kind.withMetadata : (kind : Kind) → kind.Object → ObjectMeta → kind.Object
  | serviceAccount, object, metadata => { (object : ServiceAccount) with metadata }
  | configMap, object, metadata => { (object : ConfigMap) with metadata }
  | persistentVolumeClaim, object, metadata => { (object : PersistentVolumeClaim) with metadata }
  | networkPolicy, object, metadata => { (object : NetworkPolicy) with metadata }
  | job, object, metadata => { (object : Job) with metadata }

/-- An applied object is merged into the existing one, or created with a fresh identity. -/
def applyObject (kind : Kind) (desired : kind.Object) : World :=
  let version := w.counter + 1
  let metadata := kind.metadata desired
  let stored :=
    match w.objects kind metadata.name with
    | some existing =>
      let merged := kind.merge existing desired
      kind.withMetadata merged { kind.metadata merged with resourceVersion := version }
    | none =>
      kind.withMetadata desired
        { metadata with uid := toString version, creationTimestamp := w.clock, resourceVersion := version }
  { w.setObject kind metadata.name (some stored) with counter := version }

/-- The retention handoff: an optimistic-lock write of the annotations of a claim. -/
def writeWorkspace (resourceVersion : Nat) (name : String) (annotations : StringMap) :
    Except ApiError Unit × World :=
  match w.objects .persistentVolumeClaim name with
  | none => (.error .notFound, w)
  | some claim =>
    if claim.metadata.resourceVersion ≠ resourceVersion then (.error .conflict, w)
    else
      let version := w.counter + 1
      let metadata := { claim.metadata with annotations, resourceVersion := version }
      (.ok (), { w.setObject .persistentVolumeClaim name (some { claim with metadata }) with counter := version })

/-- The Job is marked for deletion and stays until its Pods are gone. -/
def markJobDeleted (name : String) : Except ApiError Unit × World :=
  match w.job name with
  | none => (.error .notFound, w)
  | some job =>
    let metadata := { job.metadata with deletionTimestamp := job.metadata.deletionTimestamp.or (some w.clock) }
    (.ok (), w.setObject .job name (some { job with metadata }))

/-- A Pod deleted without grace is gone. -/
def removePod (name : String) : Except ApiError Unit × World :=
  if w.pods.any (·.metadata.name == name) then
    (.ok (), { w with pods := w.pods.filter (·.metadata.name != name) })
  else (.error .notFound, w)

end Effects

/-- The answer of the server to a call under a fault. -/
def respond (w : World) : (op : Op) → Fault → Option (op.Res × World)
  | .now, .none => some (w.clock, w)
  | .now, _ => none
  | .getRun, fault => faultyRead w readRun fault
  | .patchRunStatus version status, fault =>
    faulty w (writeRun w version fun run => { run with status := status.stored }) fault
  | .patchRunFinalizers version finalizers, fault =>
    faulty w
      (collectRun (writeRun w version fun run => { run with metadata := { run.metadata with finalizers } })) fault
  | .get kind name, fault => faultyRead w (fun seen => readObject seen kind name) fault
  | .apply kind object, fault => faulty w (.ok (), applyObject w kind object) fault
  | .patchWorkspace version name annotations, fault => faulty w (writeWorkspace w version name annotations) fault
  | .getSecret name, fault => faultyRead w (fun seen => readSecret seen name) fault
  | .getStorageClass name, fault => faultyRead w (fun seen => readStorageClass seen name) fault
  | .listPods jobName, fault => faultyRead w (fun seen => .ok (seen.podsOf jobName)) fault
  | .deletePod name, fault => faulty w (removePod w name) fault
  | .deleteJob name _, fault => faulty w (markJobDeleted w name) fault

/-! ## Other clients -/

/-- A step of a client other than the reconciler. -/
inductive Move
  /-- The only ordinary spec update: `desiredState` becomes `Cancelled`. -/
  | requestCancellation
  | deleteRun
  | editRun (labels annotations : StringMap)
  | jobStatus (name : String) (status : JobStatus)
  | editJob (name : String) (labels annotations : StringMap) (owners : List OwnerReference) (spec : JobSpec)
  | deleteJob (name : String)
  | removeJob (name : String)
  | setPods (pods : List Pod)
  | setServiceAccount (name : String) (object : Option ServiceAccount)
  | setConfigMap (name : String) (object : Option ConfigMap)
  | setWorkspace (name : String) (object : Option PersistentVolumeClaim)
  | setNetworkPolicy (name : String) (object : Option NetworkPolicy)
  | setSecrets (names : List String)
  | setStorageClasses (classes : List (String × StorageClass))
  | setClock (time : Time)

/-- Deleting the run marks it, and removes it when no finalizer holds it. -/
def markRunDeleted (w : World) : World :=
  let metadata := { w.run.metadata with deletionTimestamp := w.run.metadata.deletionTimestamp.or (some w.clock) }
  { w.setRun { w.run with metadata } with runPresent := !w.run.metadata.finalizers.isEmpty }

/-- The effect of a move, if the server accepts it. -/
def applyMove : Move → World → Option World
  | .requestCancellation, w =>
    if w.runPresent then
      some (w.setRun { w.run with
        metadata := { w.run.metadata with generation := w.run.metadata.generation + 1 }
        spec := { w.run.spec with desiredState := .cancelled } })
    else none
  | .deleteRun, w => if w.runPresent then some (markRunDeleted w) else none
  | .editRun labels annotations, w =>
    if w.runPresent then
      some (w.setRun { w.run with metadata := { w.run.metadata with labels, annotations } })
    else none
  | .jobStatus name status, w =>
    match w.job name with
    | some job =>
      let updated := { job with status }
      if job.finished && !updated.finished then none else some (w.setObject .job name (some updated))
    | none => none
  | .editJob name labels annotations ownerReferences spec, w =>
    match w.job name with
    | some job =>
      let metadata := { job.metadata with labels, annotations, ownerReferences }
      some (w.setObject .job name (some { job with metadata, spec }))
    | none => none
  | .deleteJob name, w =>
    match markJobDeleted w name with
    | (.ok (), w') => some w'
    | (.error _, _) => none
  | .removeJob name, w => some (w.setObject .job name none)
  | .setPods pods, w => some { w with pods }
  | .setServiceAccount name object, w => some (w.setObject .serviceAccount name object)
  | .setConfigMap name object, w => some (w.setObject .configMap name object)
  | .setWorkspace name object, w => some (w.setObject .persistentVolumeClaim name object)
  | .setNetworkPolicy name object, w => some (w.setObject .networkPolicy name object)
  | .setSecrets secrets, w => some { w with secrets }
  | .setStorageClasses storageClasses, w => some { w with storageClasses }
  | .setClock clock, w => some { w with clock }

/-- The API server. -/
abbrev apiServer : Server Op Op.Res where
  World := World
  Fault := Fault
  Move := Move
  respond := respond
  move := applyMove

end AgentForge.Operator
