import Mathlib.Algebra.Group.Nat.Defs
import AgentForge.Lib.Except
import AgentForge.Operator.Validation

/-!
# The trusted resource builder (`internal/resources`)

`Builder.buildAll` turns an AgentRun into the five objects of its current attempt and checks them
with `validateSecurity`. It reads the run's identity, its immutable spec and its current attempt,
and nothing else of it.
-/

set_option autoImplicit false

namespace AgentForge.Operator

/-! ## Names accepted by the API server -/

def isLowerAlphanumeric (c : Char) : Bool := ('a' ≤ c && c ≤ 'z') || ('0' ≤ c && c ≤ '9')

def isAlphanumeric (c : Char) : Bool := isLowerAlphanumeric c || ('A' ≤ c && c ≤ 'Z')

/-- One label of a DNS name. -/
def isDNSLabel (label : List Char) : Bool :=
  label.all (fun c => isLowerAlphanumeric c || c == '-') && (label.head?.any isLowerAlphanumeric) &&
    (label.getLast?.any isLowerAlphanumeric)

/-- `validation.IsDNS1123Subdomain` reports no problem. -/
def isDNS1123Subdomain (value : String) : Bool :=
  value.utf8ByteSize ≤ 253 && (value.toList.splitOn '.').all isDNSLabel

/-- `validation.IsValidLabelValue` reports no problem. -/
def isValidLabelValue (value : String) : Bool :=
  let characters := value.toList
  value.utf8ByteSize ≤ 63 && characters.all (fun c => isAlphanumeric c || ['-', '_', '.'].contains c) &&
    (characters.isEmpty || (characters.head?.any isAlphanumeric && characters.getLast?.any isAlphanumeric))

/-! ## Profiles -/

/-- Trusted cluster configuration selected by `spec.executionProfile`. -/
structure ExecutionProfile where
  name : String
  nodeSelector : StringMap
  tolerations : List Toleration
  topologyKeys : List String
  runtimeClassName : String
  priorityClassName : String
  terminationGracePeriodSeconds : Int

structure EgressPolicy where
  name : String
  rules : List NetworkPolicyRule

def requiredNodePoolLabel : String := "agentforge.dev/node-pool"

/-- The default scheduling policy on dedicated agent nodes. -/
def standardProfile : ExecutionProfile where
  name := "standard"
  nodeSelector := [(requiredNodePoolLabel, "agents")]
  tolerations := [⟨requiredNodePoolLabel, "Equal", "agents", "NoSchedule"⟩]
  topologyKeys := ["topology.kubernetes.io/zone", "kubernetes.io/hostname"]
  runtimeClassName := ""
  priorityClassName := "agentforge-agent"
  terminationGracePeriodSeconds := 30

structure Builder where
  profiles : List ExecutionProfile
  egressPolicies : List EgressPolicy

/-- `NewDefaultBuilder`: isolated workloads on the standard profile. -/
def newDefaultBuilder : Builder := ⟨[standardProfile], []⟩

/-! ## Security checks -/

/-- The address width of a prefix. -/
def IPPrefix.width (p : IPPrefix) : Nat := if p.is4 then 32 else 128

/-- The two prefixes agree on their first `n` bits. -/
def IPPrefix.agree (p q : IPPrefix) (n : Nat) : Bool :=
  p.is4 == q.is4 && p.address / 2 ^ (p.width - n) == q.address / 2 ^ (q.width - n)

/-- `netip.Prefix.Overlaps`. -/
def IPPrefix.overlaps (p q : IPPrefix) : Bool := p.agree q (min p.bits q.bits)

/-- `netip.Prefix.Contains` of the address of `q`. -/
def IPPrefix.contains (p q : IPPrefix) : Bool := p.agree q p.bits

/-- `0.0.0.0/0`, `::/0`, `169.254.0.0/16` and `fe80::/10`. -/
def prohibitedEgressPrefixes : List IPPrefix :=
  [⟨true, 0, 0⟩, ⟨false, 0, 0⟩, ⟨true, 169 * 2 ^ 24 + 254 * 2 ^ 16, 16⟩, ⟨false, 0xfe80 * 2 ^ 112, 10⟩]

def checkProhibited (cidr : IPPrefix) : List IPPrefix → Except String Unit
  | [] => .ok ()
  | prohibited :: rest =>
    if prohibited.bits == 0 && cidr.bits == 0 && prohibited.is4 == cidr.is4 then
      .error "internet-wide egress is prohibited"
    else if prohibited.bits != 0 && cidr.overlaps prohibited then
      .error "link-local and metadata-service egress is prohibited"
    else checkProhibited cidr rest

def checkExceptions (ext : Externals) (cidr : IPPrefix) : List String → Except String Unit
  | [] => .ok ()
  | exception :: rest =>
    match ext.parseIPPrefix exception with
    | none => .error "egress IPBlock exception must be contained by its CIDR"
    | some inner =>
      if !cidr.contains inner || inner.bits < cidr.bits then
        .error "egress IPBlock exception must be contained by its CIDR"
      else checkExceptions ext cidr rest

def checkSelectors (ext : Externals) : List (Option LabelSelector) → Except String Unit
  | [] => .ok ()
  | none :: rest => checkSelectors ext rest
  | some selector :: rest =>
    if selector.matchLabels.isEmpty && selector.matchExpressions.isEmpty then
      .error "empty egress selectors are prohibited"
    else if !ext.acceptsSelector selector then .error "egress selector is invalid"
    else checkSelectors ext rest

def validateNetworkPeer (ext : Externals) (peer : NetworkPolicyPeer) : Except String Unit :=
  match peer.ipBlock with
  | none =>
    if peer.namespaceSelector.isNone && peer.podSelector.isNone then
      .error "wildcard egress peers are prohibited"
    else checkSelectors ext [peer.namespaceSelector, peer.podSelector]
  | some block =>
    if peer.namespaceSelector.isSome || peer.podSelector.isSome then
      .error "IPBlock cannot be combined with selector peers"
    else match ext.parseIPPrefix block.cidr with
      | none => .error "egress IPBlock must use canonical CIDR notation"
      | some cidr =>
        if ext.formatIPPrefix cidr != block.cidr then
          .error "egress IPBlock must use canonical CIDR notation"
        else if (cidr.is4 && cidr.bits < 8) || (!cidr.is4 && cidr.bits < 32) then
          .error "egress IPBlock is broader than the approved minimum prefix"
        else do
          checkProhibited cidr prohibitedEgressPrefixes
          checkExceptions ext cidr block.except

def validateEgressRules (ext : Externals) : List NetworkPolicyRule → Except String Unit
  | [] => .ok ()
  | rule :: rest => do
    if rule.peers.isEmpty || rule.ports.isEmpty then throw "wildcard egress is prohibited"
    rule.peers.forM (validateNetworkPeer ext)
    validateEgressRules ext rest

def validateNetworkPolicySecurity (ext : Externals) (policy : NetworkPolicySpec) : Except String Unit := do
  if policy.policyTypes.length != 2 || !policy.policyTypes.contains .ingress ||
      !policy.policyTypes.contains .egress then
    throw "NetworkPolicy must govern ingress and egress"
  if policy.ingress != some [] then throw "workload ingress must be denied"
  validateEgressRules ext policy.egress

/-- The runner's security context obeys the restricted policy. -/
def SecurityContext.restricted (c : SecurityContext) : Bool :=
  c.runAsNonRoot == some true && c.privileged == some false && c.allowPrivilegeEscalation == some false &&
    c.readOnlyRootFilesystem == some true && c.seccompProfile == some "RuntimeDefault"

def VolumeSource.check : VolumeSource → Except String Unit
  | .hostPath _ => .error "hostPath volumes are prohibited"
  | .projected true => .error "projected Kubernetes API tokens are prohibited"
  | _ => .ok ()

/-- The text occurs in the characters. -/
def occursIn (pattern : List Char) (characters : List Char) : Bool :=
  (lastIndexOf pattern characters).isSome

def VolumeMount.check (mount : VolumeMount) : Except String Unit :=
  if occursIn "docker.sock".toList (mount.mountPath.toList.map Char.toLower) ||
      mount.mountPath == "/var/run/docker" then
    .error "docker socket mounts are prohibited"
  else .ok ()

def validateContainerSecurity (container : Container) : Except String Unit :=
  match container.securityContext with
  | none => .error "runner security context violates the restricted policy"
  | some context =>
    if !context.restricted then .error "runner security context violates the restricted policy"
    else if context.capabilities != some { add := [], drop := ["ALL"] } then
      .error "runner must drop all Linux capabilities"
    else .ok ()

/-- `ValidateSecurity` on the service account, network policy and Job of one execution. -/
def validateSecurity (ext : Externals) (automount : Option Bool) (policy : NetworkPolicySpec)
    (job : JobSpec) : Except String Unit := do
  if automount != some false then throw "workload ServiceAccount token automount must be disabled"
  validateNetworkPolicySecurity ext policy
  let pod := job.template.spec
  if pod.hostNetwork || pod.hostPID || pod.hostIPC then throw "host namespace access is prohibited"
  if pod.automountServiceAccountToken != some false then
    throw "pod service account token automount must be disabled"
  if !pod.securityContext.any (fun c => c.runAsNonRoot == some true && c.seccompProfile == some "RuntimeDefault") then
    throw "pod must run as non-root with RuntimeDefault seccomp"
  match pod.containers, pod.initContainers, pod.ephemeralContainers with
  | [container], [], [] =>
    validateContainerSecurity container
    if !job.activeDeadlineSeconds.any (1 ≤ ·) || job.backoffLimit != some 0 then
      throw "job must have an active deadline and Kubernetes retries disabled"
    pod.volumes.forM (·.source.check)
    container.volumeMounts.forM VolumeMount.check
  | _, _, _ => throw "execution Pod must contain exactly one validated runner container"

/-! ## Construction -/

structure ExecutionResources where
  serviceAccount : ServiceAccount
  configuration : ConfigMap
  workspace : PersistentVolumeClaim
  networkPolicy : NetworkPolicy
  job : Job

structure BuildContext where
  run : AgentRun
  names : ResourceNames
  profile : ExecutionProfile
  egress : Option EgressPolicy
  labels : StringMap
  owner : OwnerReference

/-- `executionv1alpha1.GroupVersion`. -/
def groupVersion : String := "execution.agentforge.dev/v1alpha1"

def ownerUIDAnnotationKey : String := "execution.agentforge.dev/owner-uid"

def retentionAnnotationKey : String := "execution.agentforge.dev/retention-policy"

/-- A label value, replaced by a digest of it when the API server would refuse it. -/
def safeLabelValue (ext : Externals) (value : String) : String :=
  if isValidLabelValue value then value
  else "sha256-" ++ (((ext.sha256 value).extractLsb' 192 64).toHex)

def labelsForRun (ext : Externals) (run : AgentRun) : StringMap :=
  [("app.kubernetes.io/name", "agentforge-runner"),
    ("app.kubernetes.io/managed-by", "agentforge-operator"),
    ("execution.agentforge.dev/tenant-id", run.spec.tenantID),
    ("execution.agentforge.dev/project-id", run.spec.projectID),
    ("execution.agentforge.dev/run-id", run.spec.runID),
    ("execution.agentforge.dev/attempt", toString (currentAttempt run)),
    ("execution.agentforge.dev/runtime", safeLabelValue ext run.spec.runtime),
    ("execution.agentforge.dev/workload", "agent-run")]

def workloadSelectorLabels (run : AgentRun) : StringMap :=
  [("execution.agentforge.dev/run-id", run.spec.runID),
    ("execution.agentforge.dev/attempt", toString (currentAttempt run))]

def NetworkProfile.text : NetworkProfile → String
  | isolated => "Isolated"
  | restrictedEgress => "RestrictedEgress"

def annotationsForRun (run : AgentRun) : StringMap :=
  [("execution.agentforge.dev/attempt-id", run.spec.attemptID),
    ("execution.agentforge.dev/execution-profile", run.spec.executionProfile),
    ("execution.agentforge.dev/network-profile", run.spec.network.profile.text),
    (ownerUIDAnnotationKey, run.metadata.uid)]

def ownerReference (run : AgentRun) : OwnerReference where
  apiVersion := groupVersion
  kind := "AgentRun"
  name := run.metadata.name
  uid := run.metadata.uid
  controller := true
  blockOwnerDeletion := true

/-- References in name order. -/
def sortedReferences (references : List LocalObjectReference) : List LocalObjectReference :=
  references.insertionSort fun left right => left.name ≤ right.name

def referenceNames (references : List LocalObjectReference) : List String :=
  (sortedReferences references).map (·.name)

def validateRunForBuild (spec : AgentRunSpec) : Except String Unit := do
  let characters := spec.runnerImage.toList
  match lastIndexOf "@sha256:".toList characters with
  | none => throw "runner image must use an immutable sha256 digest"
  | some separator =>
    if separator < 1 || separator + 8 + 64 != characters.length then
      throw "runner image must use an immutable sha256 digest"
    if !(characters.drop (separator + 8)).all isLowerHex then
      throw "runner image digest must be lowercase hexadecimal"
    if spec.timeoutSeconds < 1 || spec.timeoutSeconds > 86400 || spec.workspace.sizeGiB < 1 then
      throw "execution timeout and workspace size must be positive and bounded"
    if spec.resources.requests.cpuMillis < 1 || spec.resources.requests.memoryMiB < 1 ||
        spec.resources.limits.cpuMillis < spec.resources.requests.cpuMillis ||
        spec.resources.limits.memoryMiB < spec.resources.requests.memoryMiB then
      throw "resource requests and limits are invalid"
    match (spec.configurationRefs.items ++ spec.secretRefs.items ++ [spec.artifactDestinationRef]).find?
        (fun reference => !isDNS1123Subdomain reference.name) with
    | some reference => throw ("resource reference \"" ++ reference.name ++ "\" is not a DNS subdomain")
    | none => pure ()

def profileForRun (profiles : List ExecutionProfile) (spec : AgentRunSpec) : Except String ExecutionProfile :=
  match profiles.find? (·.name == spec.executionProfile) with
  | some profile => .ok profile
  | none => .error ("execution profile \"" ++ spec.executionProfile ++ "\" is not configured")

def egressForRun (policies : List EgressPolicy) (spec : AgentRunSpec) : Except String (Option EgressPolicy) :=
  match spec.network.profile, spec.network.allowedDestinationsRef with
  | .isolated, some _ => .error "isolated network cannot reference allowed destinations"
  | .isolated, none => .ok none
  | .restrictedEgress, none => .error "network profile is not supported"
  | .restrictedEgress, some reference =>
    match policies.find? (·.name == reference.name) with
    | some policy => .ok (some policy)
    | none => .error ("allowed destination policy \"" ++ reference.name ++ "\" is not configured")

/-- The checks of `resolve`, and the names, profile and egress policy they select. -/
def Builder.select (b : Builder) (run : AgentRun) :
    Except String (ResourceNames × ExecutionProfile × Option EgressPolicy) := do
  if run.metadata.ns == "" || run.metadata.name == "" || run.metadata.uid == "" then
    throw "AgentRun must be persisted with namespace, name, and UID"
  if !isDNS1123Subdomain run.metadata.ns || !isDNS1123Subdomain run.metadata.name then
    throw "AgentRun metadata is not a valid Kubernetes identity"
  validateRunForBuild run.spec
  let names ← forAgentRun run
  let profile ← profileForRun b.profiles run.spec
  let egress ← egressForRun b.egressPolicies run.spec
  return (names, profile, egress)

def Builder.resolve (ext : Externals) (b : Builder) (run : AgentRun) : Except String BuildContext := do
  let (names, profile, egress) ← b.select run
  return { run, names, profile, egress, labels := labelsForRun ext run, owner := ownerReference run }

/-- The metadata every owned child shares. -/
def BuildContext.metadata (context : BuildContext) (name : String) : ObjectMeta where
  name := name
  ns := context.run.metadata.ns
  labels := context.labels
  annotations := annotationsForRun context.run
  ownerReferences := [context.owner]

def buildServiceAccount (context : BuildContext) : ServiceAccount where
  metadata := context.metadata context.names.serviceAccount
  automountServiceAccountToken := some false

/-- The runner configuration, with its keys in the order `json.Marshal` sorts a map. -/
def runnerConfiguration (run : AgentRun) : Lib.Json :=
  .obj
    [("artifactDestinationRef", .str run.spec.artifactDestinationRef.name),
      ("attempt", .num (currentAttempt run)),
      ("attemptId", .str run.spec.attemptID),
      ("configurationRefs", .arr ((referenceNames run.spec.configurationRefs.items).map .str)),
      ("projectId", .str run.spec.projectID),
      ("runId", .str run.spec.runID),
      ("schemaVersion", .num 1),
      ("secretRefs", .arr ((referenceNames run.spec.secretRefs.items).map .str)),
      ("taskRef", .str run.spec.taskRef),
      ("tenantId", .str run.spec.tenantID),
      ("timeoutSeconds", .num run.spec.timeoutSeconds)]

def buildConfigMap (ext : Externals) (context : BuildContext) : ConfigMap where
  metadata := context.metadata context.names.configuration
  immutable := some true
  data := [("config.json", ext.marshalJSON (runnerConfiguration context.run))]

def gibibyte : Int := 1024 * 1024 * 1024

def mebibyte : Int := 1024 * 1024

/-- The workspace claim; a retained one has no owner and says so in an annotation. -/
def buildPVC (context : BuildContext) : PersistentVolumeClaim :=
  let owned := context.metadata context.names.workspace
  let workspace := context.run.spec.workspace
  { metadata :=
      if workspace.retentionPolicy = .delete then owned
      else { owned with ownerReferences := [], annotations := owned.annotations ++ [(retentionAnnotationKey, "Retain")] }
    spec :=
      { accessModes := ["ReadWriteOnce"]
        storage := workspace.sizeGiB * gibibyte
        storageClassName := if workspace.storageClassName != "" then some workspace.storageClassName else none } }

def buildNetworkPolicy (context : BuildContext) : NetworkPolicy where
  metadata := context.metadata context.names.networkPolicy
  spec :=
    { podSelector := { matchLabels := workloadSelectorLabels context.run }
      policyTypes := [.ingress, .egress]
      ingress := some []
      egress := (context.egress.map (·.rules)).getD [] }

def resourceList (values : ResourceValues) : ResourceList where
  cpu := values.cpuMillis
  memory := values.memoryMiB * mebibyte

/-- `%02d`. -/
def twoDigits (n : Nat) : String := if n < 10 then "0" ++ toString n else toString n

/-- The volumes and mounts of the referenced objects of one kind. -/
def externalVolumes (stem root : String) (source : String → VolumeSource)
    (references : List LocalObjectReference) : List (Volume × VolumeMount) :=
  (sortedReferences references).zipIdx.map fun (reference, index) =>
    let name := stem ++ twoDigits index
    (⟨name, source reference.name⟩, { name, mountPath := root ++ "/" ++ reference.name, readOnly := true })

def volumesAndMounts (context : BuildContext) : List (Volume × VolumeMount) :=
  let readOnlyMode := 0o444
  let secretMode := 0o440
  [(⟨"workspace", .persistentVolumeClaim context.names.workspace⟩,
      { name := "workspace", mountPath := "/workspace" }),
    (⟨"runtime-config", .configMap context.names.configuration readOnlyMode⟩,
      { name := "runtime-config", mountPath := "/etc/agentforge/runtime", readOnly := true }),
    (⟨"artifact-destination", .configMap context.run.spec.artifactDestinationRef.name readOnlyMode⟩,
      { name := "artifact-destination", mountPath := "/etc/agentforge/artifacts", readOnly := true }),
    (⟨"tmp", .emptyDir (64 * mebibyte)⟩, { name := "tmp", mountPath := "/tmp" }),
    (⟨"home", .emptyDir (256 * mebibyte)⟩, { name := "home", mountPath := "/home/agent" })] ++
  externalVolumes "external-config-" "/etc/agentforge/config" (.configMap · readOnlyMode)
    context.run.spec.configurationRefs.items ++
  externalVolumes "external-secret-" "/var/run/agentforge/secrets" (.secret · secretMode)
    context.run.spec.secretRefs.items

def nonRootUID : Int := 65532

def buildContainer (context : BuildContext) : Container where
  name := "runner"
  image := context.run.spec.runnerImage
  imagePullPolicy := "IfNotPresent"
  env := [⟨"AGENTFORGE_RUN_CONFIG", "/etc/agentforge/runtime/config.json"⟩, ⟨"AGENTFORGE_WORKSPACE", "/workspace"⟩]
  requests := resourceList context.run.spec.resources.requests
  limits := resourceList context.run.spec.resources.limits
  securityContext := some
    { runAsNonRoot := some true, runAsUser := some nonRootUID, runAsGroup := some nonRootUID
      privileged := some false, allowPrivilegeEscalation := some false, readOnlyRootFilesystem := some true
      capabilities := some { drop := ["ALL"] }, seccompProfile := some "RuntimeDefault" }
  volumeMounts := (volumesAndMounts context).map (·.2)
  terminationMessagePolicy := "File"

def buildPodSpec (context : BuildContext) : PodSpec where
  serviceAccountName := context.names.serviceAccount
  automountServiceAccountToken := some false
  restartPolicy := "Never"
  terminationGracePeriodSeconds := some context.profile.terminationGracePeriodSeconds
  enableServiceLinks := some false
  hostNetwork := false
  hostPID := false
  hostIPC := false
  nodeSelector := context.profile.nodeSelector
  tolerations := context.profile.tolerations
  topologySpreadConstraints := context.profile.topologyKeys.map fun topologyKey =>
    { maxSkew := 1, topologyKey, whenUnsatisfiable := "ScheduleAnyway"
      labelSelector := { matchLabels := workloadSelectorLabels context.run } }
  priorityClassName := context.profile.priorityClassName
  nodeAffinity :=
    [⟨"node-role.kubernetes.io/control-plane", "DoesNotExist"⟩, ⟨"node-role.kubernetes.io/master", "DoesNotExist"⟩]
  securityContext := some
    { runAsNonRoot := some true, runAsUser := some nonRootUID, runAsGroup := some nonRootUID
      fsGroup := some nonRootUID, fsGroupChangePolicy := some "OnRootMismatch"
      seccompProfile := some "RuntimeDefault" }
  containers := [buildContainer context]
  volumes := (volumesAndMounts context).map (·.1)
  runtimeClassName := if context.profile.runtimeClassName != "" then some context.profile.runtimeClassName else none

def buildJob (context : BuildContext) : Job where
  metadata := context.metadata context.names.job
  spec :=
    { parallelism := some 1, completions := some 1, backoffLimit := some 0
      activeDeadlineSeconds := some context.run.spec.timeoutSeconds
      template :=
        { labels := context.labels, annotations := annotationsForRun context.run, spec := buildPodSpec context } }

/-- The five objects of the current attempt. -/
def buildResources (ext : Externals) (context : BuildContext) : ExecutionResources where
  serviceAccount := buildServiceAccount context
  configuration := buildConfigMap ext context
  workspace := buildPVC context
  networkPolicy := buildNetworkPolicy context
  job := buildJob context

/-- `BuildAll`: the objects of the current attempt, once they pass the security checks. -/
def Builder.buildAll (ext : Externals) (b : Builder) (run : AgentRun) : Except String ExecutionResources := do
  let context ← b.resolve ext run
  let built := buildResources ext context
  match validateSecurity ext built.serviceAccount.automountServiceAccountToken built.networkPolicy.spec
      built.job.spec with
  | .error reason => throw ("validate built resources: " ++ reason)
  | .ok () => return built

/-! ## What the builder depends on -/

section Dependence

variable {ext : Externals} {b : Builder} {run run' : AgentRun}

/-- The two runs agree on everything the builder reads. -/
structure SameBuild (run run' : AgentRun) : Prop where
  name : run'.metadata.name = run.metadata.name
  ns : run'.metadata.ns = run.metadata.ns
  uid : run'.metadata.uid = run.metadata.uid
  spec : run'.spec = { run.spec with desiredState := run'.spec.desiredState }
  attempt : currentAttempt run' = currentAttempt run

theorem SameBuild.forAgentRun (same : SameBuild run run') :
    Operator.forAgentRun run' = Operator.forAgentRun run := by
  have runID : run'.spec.runID = run.spec.runID := by rw [same.spec]
  have retryPolicy : run'.spec.retryPolicy = run.spec.retryPolicy := by rw [same.spec]
  simp only [Operator.forAgentRun, same.attempt, runID, retryPolicy]

theorem SameBuild.select (same : SameBuild run run') : b.select run' = b.select run := by
  have validated : validateRunForBuild run'.spec = validateRunForBuild run.spec := by rw [same.spec]; rfl
  have profile : profileForRun b.profiles run'.spec = profileForRun b.profiles run.spec := by rw [same.spec]; rfl
  have egress : egressForRun b.egressPolicies run'.spec = egressForRun b.egressPolicies run.spec := by
    rw [same.spec]; rfl
  simp only [Builder.select, same.ns, same.name, same.uid, same.forAgentRun, validated, profile, egress]

/-- The objects built for a selection. -/
def buildSelected (ext : Externals) (run : AgentRun)
    (selected : ResourceNames × ExecutionProfile × Option EgressPolicy) : ExecutionResources :=
  buildResources ext
    { run, names := selected.1, profile := selected.2.1, egress := selected.2.2
      labels := labelsForRun ext run, owner := ownerReference run }

theorem SameBuild.buildSelected (same : SameBuild run run')
    (selected : ResourceNames × ExecutionProfile × Option EgressPolicy) :
    buildSelected ext run' selected = buildSelected ext run selected := by
  obtain ⟨metadata, spec, status⟩ := run'
  obtain ⟨name, ns, uid, sameSpec, attempt⟩ := same
  dsimp only at name ns uid sameSpec
  generalize spec.desiredState = d at sameSpec
  subst sameSpec
  simp only [Operator.buildSelected, buildResources, buildServiceAccount, buildConfigMap, buildPVC,
    buildNetworkPolicy, buildJob, buildPodSpec, buildContainer, volumesAndMounts, BuildContext.metadata,
    runnerConfiguration, labelsForRun, workloadSelectorLabels, annotationsForRun, ownerReference, name, ns, uid, attempt]

theorem Builder.buildAll_eq :
    b.buildAll ext run = (b.select run).bind fun selected =>
      match validateSecurity ext (buildSelected ext run selected).serviceAccount.automountServiceAccountToken
        (buildSelected ext run selected).networkPolicy.spec (buildSelected ext run selected).job.spec with
      | .error reason => .error ("validate built resources: " ++ reason)
      | .ok () => .ok (buildSelected ext run selected) := by
  cases selected : b.select run with
  | error reason => simp only [Builder.buildAll, Builder.resolve, selected]; rfl
  | ok choice => simp only [Builder.buildAll, Builder.resolve, selected]; rfl

/-- The builder reads the identity, the spec but for `desiredState`, and the current attempt. -/
theorem SameBuild.buildAll (same : SameBuild run run') : b.buildAll ext run' = b.buildAll ext run := by
  simp only [Builder.buildAll_eq, same.select, same.buildSelected]

theorem Builder.select_names {selected : ResourceNames × ExecutionProfile × Option EgressPolicy}
    (h : b.select run = .ok selected) : Operator.forAgentRun run = .ok selected.1 := by
  simp only [Builder.select, Lib.guard_eq_ok, Lib.bind_eq_ok] at h
  obtain ⟨-, -, -, -, names, named, profile, -, egress, -, last⟩ := h
  cases last
  exact named

/-- Every built object belongs to the current attempt. -/
theorem Builder.buildAll_names {built : ExecutionResources} (h : b.buildAll ext run = .ok built) :
    ∃ selected, b.select run = .ok selected ∧ built = Operator.buildSelected ext run selected ∧
      Operator.forAgentRun run = .ok selected.1 := by
  rw [Builder.buildAll_eq] at h
  obtain ⟨selected, chosen, checked⟩ := Lib.bind_eq_ok.mp h
  refine ⟨selected, chosen, ?_, Builder.select_names chosen⟩
  split at checked
  · cases checked
  · cases checked; rfl

end Dependence

end AgentForge.Operator
