import Mathlib.Data.List.Sort

/-!
# The Kubernetes objects of an execution

The part of the core, batch and networking API groups that the operator reads or writes. Strings
that Kubernetes enumerates are inductive types; maps are association lists, and reading a missing
key gives the empty string, as in Go.
-/

set_option autoImplicit false

namespace AgentForge.Operator

/-- Nanoseconds since the zero time of Go. -/
abbrev Time := Int

/-- `time.Duration` in nanoseconds. -/
abbrev Duration := Int

def second : Duration := 1000000000

/-- The zero time stands for an absent one. -/
def Time.isZero (t : Time) : Bool := t == 0

/-- A string map. -/
abbrev StringMap := List (String × String)

/-- `m[key]` in Go. -/
def StringMap.at (m : StringMap) (key : String) : String := (m.lookup key).getD ""

/-- Every entry of `wanted` is an entry of `actual`. -/
def StringMap.within (wanted actual : StringMap) : Bool :=
  wanted.all fun entry => actual.lookup entry.1 == some entry.2

/-- The two maps have the same entries. -/
def StringMap.same (a b : StringMap) : Bool := a.within b && b.within a

structure OwnerReference where
  apiVersion : String
  kind : String
  name : String
  uid : String
  controller : Bool
  blockOwnerDeletion : Bool
  deriving DecidableEq

structure ObjectMeta where
  name : String
  ns : String := ""
  uid : String := ""
  resourceVersion : Nat := 0
  generation : Int := 0
  creationTimestamp : Time := 0
  deletionTimestamp : Option Time := none
  finalizers : List String := []
  labels : StringMap := []
  annotations : StringMap := []
  ownerReferences : List OwnerReference := []
  deriving DecidableEq

/-- The object is being deleted. -/
def ObjectMeta.deleting (m : ObjectMeta) : Bool := m.deletionTimestamp.isSome

/-- `metav1.GetControllerOf`. -/
def ObjectMeta.controllerOf (m : ObjectMeta) : Option OwnerReference :=
  m.ownerReferences.find? (·.controller)

inductive ConditionStatus
  | true
  | false
  | unknown
  deriving DecidableEq

/-! ## Identity, configuration, storage and network objects -/

structure ServiceAccount where
  metadata : ObjectMeta
  automountServiceAccountToken : Option Bool := none
  secrets : List String := []
  imagePullSecrets : List String := []
  deriving DecidableEq

structure ConfigMap where
  metadata : ObjectMeta
  immutable : Option Bool := none
  data : StringMap := []
  binaryData : StringMap := []
  deriving DecidableEq

inductive ClaimPhase
  | pending
  | bound
  | lost
  deriving DecidableEq

structure PersistentVolumeClaimSpec where
  accessModes : List String
  /-- Requested storage in bytes. -/
  storage : Int
  storageClassName : Option String := none
  volumeName : String := ""
  deriving DecidableEq

structure PersistentVolumeClaim where
  metadata : ObjectMeta
  spec : PersistentVolumeClaimSpec
  phase : Option ClaimPhase := none
  deriving DecidableEq

inductive VolumeBindingMode
  | immediate
  | waitForFirstConsumer
  deriving DecidableEq

structure StorageClass where
  volumeBindingMode : Option VolumeBindingMode := none
  deriving DecidableEq

structure LabelSelector where
  matchLabels : StringMap := []
  matchExpressions : List String := []
  deriving DecidableEq

structure IPBlock where
  cidr : String
  except : List String := []
  deriving DecidableEq

structure NetworkPolicyPeer where
  ipBlock : Option IPBlock := none
  namespaceSelector : Option LabelSelector := none
  podSelector : Option LabelSelector := none
  deriving DecidableEq

structure NetworkPolicyPort where
  protocol : Option String := none
  port : Option String := none
  endPort : Option Int := none
  deriving DecidableEq

structure NetworkPolicyRule where
  peers : List NetworkPolicyPeer
  ports : List NetworkPolicyPort
  deriving DecidableEq

inductive PolicyType
  | ingress
  | egress
  deriving DecidableEq

structure NetworkPolicySpec where
  podSelector : LabelSelector
  policyTypes : List PolicyType
  /-- `none` is the nil slice, which `ValidateSecurity` tells apart from the empty one. -/
  ingress : Option (List NetworkPolicyRule)
  egress : List NetworkPolicyRule
  deriving DecidableEq

structure NetworkPolicy where
  metadata : ObjectMeta
  spec : NetworkPolicySpec
  deriving DecidableEq

/-! ## Pod templates and Jobs -/

structure Toleration where
  key : String
  operator : String
  value : String
  effect : String
  deriving DecidableEq

structure TopologySpreadConstraint where
  maxSkew : Int
  topologyKey : String
  whenUnsatisfiable : String
  labelSelector : LabelSelector
  deriving DecidableEq

structure NodeSelectorRequirement where
  key : String
  operator : String
  deriving DecidableEq

structure PodSecurityContext where
  runAsNonRoot : Option Bool
  runAsUser : Option Int
  runAsGroup : Option Int
  fsGroup : Option Int
  fsGroupChangePolicy : Option String
  seccompProfile : Option String
  deriving DecidableEq

structure Capabilities where
  add : List String := []
  drop : List String := []
  deriving DecidableEq

structure SecurityContext where
  runAsNonRoot : Option Bool
  runAsUser : Option Int
  runAsGroup : Option Int
  privileged : Option Bool
  allowPrivilegeEscalation : Option Bool
  readOnlyRootFilesystem : Option Bool
  capabilities : Option Capabilities
  seccompProfile : Option String
  deriving DecidableEq

inductive VolumeSource
  | persistentVolumeClaim (claimName : String)
  | configMap (name : String) (defaultMode : Nat)
  | secret (secretName : String) (defaultMode : Nat)
  | emptyDir (sizeLimit : Int)
  | hostPath (path : String)
  /-- A projected volume; the flag says that one of its sources is a service account token. -/
  | projected (serviceAccountToken : Bool)
  deriving DecidableEq

structure Volume where
  name : String
  source : VolumeSource
  deriving DecidableEq

structure VolumeMount where
  name : String
  mountPath : String
  readOnly : Bool := false
  deriving DecidableEq

structure EnvVar where
  name : String
  value : String
  deriving DecidableEq

/-- CPU in millicores and memory in bytes. -/
structure ResourceList where
  cpu : Int
  memory : Int
  deriving DecidableEq

structure Container where
  name : String
  image : String
  imagePullPolicy : String
  env : List EnvVar
  requests : ResourceList
  limits : ResourceList
  securityContext : Option SecurityContext
  volumeMounts : List VolumeMount
  terminationMessagePolicy : String
  deriving DecidableEq

structure PodSpec where
  serviceAccountName : String
  automountServiceAccountToken : Option Bool
  restartPolicy : String
  terminationGracePeriodSeconds : Option Int
  enableServiceLinks : Option Bool
  hostNetwork : Bool
  hostPID : Bool
  hostIPC : Bool
  nodeSelector : StringMap
  tolerations : List Toleration
  topologySpreadConstraints : List TopologySpreadConstraint
  priorityClassName : String
  nodeAffinity : List NodeSelectorRequirement
  securityContext : Option PodSecurityContext
  containers : List Container
  initContainers : List String := []
  ephemeralContainers : List String := []
  volumes : List Volume
  runtimeClassName : Option String := none
  deriving DecidableEq

structure PodTemplateSpec where
  labels : StringMap
  annotations : StringMap
  spec : PodSpec
  deriving DecidableEq

structure JobSpec where
  parallelism : Option Int
  completions : Option Int
  backoffLimit : Option Int
  activeDeadlineSeconds : Option Int
  template : PodTemplateSpec
  deriving DecidableEq

inductive JobConditionType
  | complete
  | failed
  | failureTarget
  | suspended
  | successCriteriaMet
  deriving DecidableEq

structure JobCondition where
  type : JobConditionType
  status : ConditionStatus
  reason : String := ""
  lastTransitionTime : Time := 0
  deriving DecidableEq

structure JobStatus where
  conditions : List JobCondition := []
  startTime : Option Time := none
  completionTime : Option Time := none
  active : Int := 0
  succeeded : Int := 0
  failed : Int := 0
  deriving DecidableEq

structure Job where
  metadata : ObjectMeta
  spec : JobSpec
  status : JobStatus := {}
  deriving DecidableEq

/-! ## Pods -/

structure ContainerStateTerminated where
  exitCode : Int
  reason : String := ""
  message : String := ""
  finishedAt : Time := 0
  deriving DecidableEq

structure ContainerStatus where
  name : String
  /-- The reason of a waiting container. -/
  waiting : Option String := none
  /-- The start time of a running container. -/
  running : Option Time := none
  terminated : Option ContainerStateTerminated := none
  deriving DecidableEq

inductive PodPhase
  | pending
  | running
  | succeeded
  | failed
  | unknown
  deriving DecidableEq

structure PodCondition where
  type : String
  status : ConditionStatus
  reason : String := ""
  deriving DecidableEq

structure Pod where
  metadata : ObjectMeta
  phase : Option PodPhase := none
  reason : String := ""
  startTime : Option Time := none
  conditions : List PodCondition := []
  containerStatuses : List ContainerStatus := []
  deriving DecidableEq

end AgentForge.Operator
