import AgentForge.Operator.Api
import AgentForge.Operator.Builder

/-!
# Ownership and drift of existing children

Before it applies a child, the controller checks that an existing one is its own
(`validateExistingOwnership`) and whether it already has the desired content
(`managedObjectMatches`).
-/

set_option autoImplicit false

namespace AgentForge.Operator

/-! ## `equality.Semantic.DeepDerivative`

Fields that `wanted` leaves empty are not compared, and a list may continue beyond the wanted one. -/

namespace Derivative

def string (wanted actual : String) : Bool := wanted == "" || wanted == actual

def option {α : Type} (element : α → α → Bool) : Option α → Option α → Bool
  | none, _ => true
  | some wanted, some actual => element wanted actual
  | some _, none => false

def list {α : Type} (element : α → α → Bool) : List α → List α → Bool
  | [], _ => true
  | wanted :: rest, actual :: more => element wanted actual && list element rest more
  | _ :: _, [] => false

def map (wanted actual : StringMap) : Bool :=
  wanted.all fun (key, value) => (actual.lookup key).any (string value)

def selector (wanted actual : LabelSelector) : Bool :=
  map wanted.matchLabels actual.matchLabels && list string wanted.matchExpressions actual.matchExpressions

def toleration (wanted actual : Toleration) : Bool :=
  string wanted.key actual.key && string wanted.operator actual.operator && string wanted.value actual.value &&
    string wanted.effect actual.effect

def topologySpreadConstraint (wanted actual : TopologySpreadConstraint) : Bool :=
  wanted.maxSkew == actual.maxSkew && string wanted.topologyKey actual.topologyKey &&
    string wanted.whenUnsatisfiable actual.whenUnsatisfiable && selector wanted.labelSelector actual.labelSelector

def nodeSelectorRequirement (wanted actual : NodeSelectorRequirement) : Bool :=
  string wanted.key actual.key && string wanted.operator actual.operator

def podSecurityContext (wanted actual : PodSecurityContext) : Bool :=
  option (· == ·) wanted.runAsNonRoot actual.runAsNonRoot && option (· == ·) wanted.runAsUser actual.runAsUser &&
    option (· == ·) wanted.runAsGroup actual.runAsGroup && option (· == ·) wanted.fsGroup actual.fsGroup &&
    option string wanted.fsGroupChangePolicy actual.fsGroupChangePolicy &&
    option string wanted.seccompProfile actual.seccompProfile

def capabilities (wanted actual : Capabilities) : Bool :=
  list string wanted.add actual.add && list string wanted.drop actual.drop

def securityContext (wanted actual : SecurityContext) : Bool :=
  option (· == ·) wanted.runAsNonRoot actual.runAsNonRoot && option (· == ·) wanted.runAsUser actual.runAsUser &&
    option (· == ·) wanted.runAsGroup actual.runAsGroup && option (· == ·) wanted.privileged actual.privileged &&
    option (· == ·) wanted.allowPrivilegeEscalation actual.allowPrivilegeEscalation &&
    option (· == ·) wanted.readOnlyRootFilesystem actual.readOnlyRootFilesystem &&
    option capabilities wanted.capabilities actual.capabilities &&
    option string wanted.seccompProfile actual.seccompProfile

def volumeSource : VolumeSource → VolumeSource → Bool
  | .persistentVolumeClaim wanted, .persistentVolumeClaim actual => string wanted actual
  | .configMap wanted mode, .configMap actual mode' => string wanted actual && mode == mode'
  | .secret wanted mode, .secret actual mode' => string wanted actual && mode == mode'
  | .emptyDir wanted, .emptyDir actual => wanted == actual
  | .hostPath wanted, .hostPath actual => string wanted actual
  | .projected wanted, .projected actual => wanted == actual
  | _, _ => false

def volume (wanted actual : Volume) : Bool :=
  string wanted.name actual.name && volumeSource wanted.source actual.source

def volumeMount (wanted actual : VolumeMount) : Bool :=
  string wanted.name actual.name && string wanted.mountPath actual.mountPath && wanted.readOnly == actual.readOnly

def envVar (wanted actual : EnvVar) : Bool :=
  string wanted.name actual.name && string wanted.value actual.value

def container (wanted actual : Container) : Bool :=
  string wanted.name actual.name && string wanted.image actual.image &&
    string wanted.imagePullPolicy actual.imagePullPolicy && list envVar wanted.env actual.env &&
    wanted.requests == actual.requests && wanted.limits == actual.limits &&
    option securityContext wanted.securityContext actual.securityContext &&
    list volumeMount wanted.volumeMounts actual.volumeMounts &&
    string wanted.terminationMessagePolicy actual.terminationMessagePolicy

def podSpec (wanted actual : PodSpec) : Bool :=
  string wanted.serviceAccountName actual.serviceAccountName &&
    option (· == ·) wanted.automountServiceAccountToken actual.automountServiceAccountToken &&
    string wanted.restartPolicy actual.restartPolicy &&
    option (· == ·) wanted.terminationGracePeriodSeconds actual.terminationGracePeriodSeconds &&
    option (· == ·) wanted.enableServiceLinks actual.enableServiceLinks &&
    wanted.hostNetwork == actual.hostNetwork && wanted.hostPID == actual.hostPID && wanted.hostIPC == actual.hostIPC &&
    map wanted.nodeSelector actual.nodeSelector && list toleration wanted.tolerations actual.tolerations &&
    list topologySpreadConstraint wanted.topologySpreadConstraints actual.topologySpreadConstraints &&
    string wanted.priorityClassName actual.priorityClassName &&
    list nodeSelectorRequirement wanted.nodeAffinity actual.nodeAffinity &&
    option podSecurityContext wanted.securityContext actual.securityContext &&
    list container wanted.containers actual.containers && list string wanted.initContainers actual.initContainers &&
    list string wanted.ephemeralContainers actual.ephemeralContainers && list volume wanted.volumes actual.volumes &&
    option string wanted.runtimeClassName actual.runtimeClassName

def jobSpec (wanted actual : JobSpec) : Bool :=
  option (· == ·) wanted.parallelism actual.parallelism && option (· == ·) wanted.completions actual.completions &&
    option (· == ·) wanted.backoffLimit actual.backoffLimit &&
    option (· == ·) wanted.activeDeadlineSeconds actual.activeDeadlineSeconds &&
    map wanted.template.labels actual.template.labels &&
    map wanted.template.annotations actual.template.annotations && podSpec wanted.template.spec actual.template.spec

def claimSpec (wanted actual : PersistentVolumeClaimSpec) : Bool :=
  list string wanted.accessModes actual.accessModes && wanted.storage == actual.storage &&
    option string wanted.storageClassName actual.storageClassName && string wanted.volumeName actual.volumeName

end Derivative

/-! ## Drift -/

/-- Every wanted label and annotation has its wanted value. -/
def metadataContains (labels annotations wantedLabels wantedAnnotations : StringMap) : Bool :=
  (wantedLabels.all fun (key, value) => labels.at key == value) &&
    (wantedAnnotations.all fun (key, value) => annotations.at key == value)

/-- An existing Job still passes the security checks that concern it alone. -/
def jobSecure (ext : Externals) (job : Job) : Bool :=
  (validateSecurity ext (some false)
    { podSelector := {}, policyTypes := [.ingress, .egress], ingress := some [], egress := [] } job.spec).isOk

/-- Semantic equality of network policies: a nil list equals an empty one. -/
def sameNetworkPolicySpec (wanted actual : NetworkPolicySpec) : Bool :=
  wanted.podSelector.matchLabels.same actual.podSelector.matchLabels &&
    wanted.podSelector.matchExpressions == actual.podSelector.matchExpressions &&
    wanted.policyTypes == actual.policyTypes && wanted.ingress.getD [] == actual.ingress.getD [] &&
    wanted.egress == actual.egress

/-- The content check of each kind. -/
def contentMatches (ext : Externals) : (kind : Kind) → kind.Object → kind.Object → Bool
  | .serviceAccount, (wanted : ServiceAccount), (actual : ServiceAccount) =>
    wanted.automountServiceAccountToken == actual.automountServiceAccountToken && wanted.secrets == actual.secrets &&
      wanted.imagePullSecrets == actual.imagePullSecrets
  | .configMap, (wanted : ConfigMap), (actual : ConfigMap) =>
    wanted.immutable == actual.immutable && wanted.data.same actual.data && wanted.binaryData.same actual.binaryData
  | .persistentVolumeClaim, (wanted : PersistentVolumeClaim), (actual : PersistentVolumeClaim) =>
    Derivative.claimSpec wanted.spec actual.spec
  | .networkPolicy, (wanted : NetworkPolicy), (actual : NetworkPolicy) => sameNetworkPolicySpec wanted.spec actual.spec
  | .job, (wanted : Job), (actual : Job) =>
    jobSecure ext actual &&
      metadataContains actual.spec.template.labels actual.spec.template.annotations wanted.spec.template.labels
        wanted.spec.template.annotations &&
      Derivative.jobSpec wanted.spec actual.spec

def managedObjectMatches (ext : Externals) (kind : Kind) (desired existing : kind.Object) : Bool :=
  let actual := kind.metadata existing
  let wanted := kind.metadata desired
  metadataContains actual.labels actual.annotations wanted.labels wanted.annotations &&
    contentMatches ext kind desired existing

/-! ## Ownership -/

/-- The existing child belongs to this AgentRun; a retained one has no controller. -/
def validateExistingOwnership (run : AgentRun) (desired existing : ObjectMeta) : Except String Unit :=
  match desired.controllerOf, existing.controllerOf with
  | some _, none => .error "resource is not controlled by this AgentRun"
  | some _, some owner =>
    if owner.uid != run.metadata.uid || owner.name != run.metadata.name || owner.kind != "AgentRun" ||
        owner.apiVersion != groupVersion then
      .error "resource is not controlled by this AgentRun"
    else annotated
  | none, some _ => .error "retained resource has an unexpected controller owner"
  | none, none => annotated
where
  annotated : Except String Unit :=
    if existing.annotations.at ownerUIDAnnotationKey != run.metadata.uid then
      .error "resource owner identity annotation does not match"
    else .ok ()

end AgentForge.Operator
