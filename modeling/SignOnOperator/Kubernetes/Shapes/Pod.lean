import SignOnOperator.Kubernetes.Shapes.Container
/-!
# Shapes of pods

A pod, the template of one, and what the cluster reports of it.
-/
namespace SignOnOperator.Kubernetes.Shapes

def nodeSelectorRequirement : Shape :=
  .lenient "NodeSelectorRequirement"
    [required "key" .text, required "operator" .text, optional "values" (.list .text)]

def nodeSelectorTerm : Shape :=
  .lenient "NodeSelectorTerm"
    [optional "matchExpressions" (.list nodeSelectorRequirement),
      optional "matchFields" (.list nodeSelectorRequirement)]

def nodeSelector : Shape :=
  .lenient "NodeSelector"
    [required "nodeSelectorTerms" (.list nodeSelectorTerm)]

def preferredSchedulingTerm : Shape :=
  .lenient "PreferredSchedulingTerm"
    [required "preference" nodeSelectorTerm, required "weight" .int32]

def nodeAffinity : Shape :=
  .lenient "NodeAffinity"
    [optional "preferredDuringSchedulingIgnoredDuringExecution" (.list preferredSchedulingTerm),
      optional "requiredDuringSchedulingIgnoredDuringExecution" nodeSelector]

def podAffinityTerm : Shape :=
  .lenient "PodAffinityTerm"
    [optional "labelSelector" labelSelector, optional "matchLabelKeys" (.list .text),
      optional "mismatchLabelKeys" (.list .text), optional "namespaceSelector" labelSelector,
      optional "namespaces" (.list .text), required "topologyKey" .text]

def weightedPodAffinityTerm : Shape :=
  .lenient "WeightedPodAffinityTerm"
    [required "podAffinityTerm" podAffinityTerm, required "weight" .int32]

def podAffinity : Shape :=
  .lenient "PodAffinity"
    [optional "preferredDuringSchedulingIgnoredDuringExecution" (.list weightedPodAffinityTerm),
      optional "requiredDuringSchedulingIgnoredDuringExecution" (.list podAffinityTerm)]

def podAntiAffinity : Shape :=
  .lenient "PodAntiAffinity"
    [optional "preferredDuringSchedulingIgnoredDuringExecution" (.list weightedPodAffinityTerm),
      optional "requiredDuringSchedulingIgnoredDuringExecution" (.list podAffinityTerm)]

def affinity : Shape :=
  .lenient "Affinity"
    [optional "nodeAffinity" nodeAffinity, optional "podAffinity" podAffinity,
      optional "podAntiAffinity" podAntiAffinity]

def podDNSConfigOption : Shape :=
  .lenient "PodDNSConfigOption"
    [optional "name" .text, optional "value" .text]

def podDNSConfig : Shape :=
  .lenient "PodDNSConfig"
    [optional "nameservers" (.list .text), optional "options" (.list podDNSConfigOption),
      optional "searches" (.list .text)]

def hostAlias : Shape :=
  .lenient "HostAlias"
    [optional "hostnames" (.list .text), required "ip" .text]

def podOS : Shape :=
  .lenient "PodOS"
    [required "name" .text]

def podReadinessGate : Shape :=
  .lenient "PodReadinessGate"
    [required "conditionType" .text]

def podResourceClaim : Shape :=
  .lenient "PodResourceClaim"
    [required "name" .text, optional "resourceClaimName" .text, optional "resourceClaimTemplateName" .text]

def podSchedulingGate : Shape :=
  .lenient "PodSchedulingGate"
    [required "name" .text]

def sysctl : Shape :=
  .lenient "Sysctl"
    [required "name" .text, required "value" .text]

def podSecurityContext : Shape :=
  .lenient "PodSecurityContext"
    [optional "appArmorProfile" appArmorProfile, optional "fsGroup" .int64, optional "fsGroupChangePolicy" .text,
      optional "runAsGroup" .int64, optional "runAsNonRoot" .boolean, optional "runAsUser" .int64,
      optional "seLinuxChangePolicy" .text, optional "seLinuxOptions" seLinuxOptions,
      optional "seccompProfile" seccompProfile, optional "supplementalGroups" (.list .int64),
      optional "supplementalGroupsPolicy" .text, optional "sysctls" (.list sysctl),
      optional "windowsOptions" windowsSecurityContextOptions]

def toleration : Shape :=
  .lenient "Toleration"
    [optional "effect" .text, optional "key" .text, optional "operator" .text, optional "tolerationSeconds" .int64,
      optional "value" .text]

def topologySpreadConstraint : Shape :=
  .lenient "TopologySpreadConstraint"
    [optional "labelSelector" labelSelector, optional "matchLabelKeys" (.list .text), required "maxSkew" .int32,
      optional "minDomains" .int32, optional "nodeAffinityPolicy" .text, optional "nodeTaintsPolicy" .text,
      required "topologyKey" .text, required "whenUnsatisfiable" .text]

def podSpec : Shape :=
  .lenient "PodSpec"
    [optional "activeDeadlineSeconds" .int64, optional "affinity" affinity,
      optional "automountServiceAccountToken" .boolean, required "containers" (.list container),
      optional "dnsConfig" podDNSConfig, optional "dnsPolicy" .text, optional "enableServiceLinks" .boolean,
      optional "ephemeralContainers" (.list ephemeralContainer), optional "hostAliases" (.list hostAlias),
      optional "hostIPC" .boolean, optional "hostNetwork" .boolean, optional "hostPID" .boolean,
      optional "hostUsers" .boolean, optional "hostname" .text,
      optional "imagePullSecrets" (.list localObjectReference), optional "initContainers" (.list container),
      optional "nodeName" .text, optional "nodeSelector" (.map .text), optional "os" podOS,
      optional "overhead" (.map .text), optional "preemptionPolicy" .text, optional "priority" .int32,
      optional "priorityClassName" .text, optional "readinessGates" (.list podReadinessGate),
      optional "resourceClaims" (.list podResourceClaim), optional "resources" resourceRequirements,
      optional "restartPolicy" .text, optional "runtimeClassName" .text, optional "schedulerName" .text,
      optional "schedulingGates" (.list podSchedulingGate), optional "securityContext" podSecurityContext,
      optional "serviceAccount" .text, optional "serviceAccountName" .text, optional "setHostnameAsFQDN" .boolean,
      optional "shareProcessNamespace" .boolean, optional "subdomain" .text,
      optional "terminationGracePeriodSeconds" .int64, optional "tolerations" (.list toleration),
      optional "topologySpreadConstraints" (.list topologySpreadConstraint), optional "volumes" (.list volume)]

def podTemplateSpec : Shape :=
  .lenient "PodTemplateSpec"
    [optional "metadata" objectMeta, optional "spec" podSpec]

def podCondition : Shape :=
  .lenient "PodCondition"
    [optional "lastProbeTime" timestamp, optional "lastTransitionTime" timestamp, optional "message" .text,
      optional "observedGeneration" .int64, optional "reason" .text, required "status" .text, required "type" .text]

def resourceHealth : Shape :=
  .lenient "ResourceHealth"
    [optional "health" .text, required "resourceID" .text]

def resourceStatus : Shape :=
  .lenient "ResourceStatus"
    [required "name" .text, optional "resources" (.list resourceHealth)]

def containerStateRunning : Shape :=
  .lenient "ContainerStateRunning"
    [optional "startedAt" timestamp]

def containerStateTerminated : Shape :=
  .lenient "ContainerStateTerminated"
    [optional "containerID" .text, required "exitCode" .int32, optional "finishedAt" timestamp,
      optional "message" .text, optional "reason" .text, optional "signal" .int32, optional "startedAt" timestamp]

def containerStateWaiting : Shape :=
  .lenient "ContainerStateWaiting"
    [optional "message" .text, optional "reason" .text]

def containerState : Shape :=
  .lenient "ContainerState"
    [optional "running" containerStateRunning, optional "terminated" containerStateTerminated,
      optional "waiting" containerStateWaiting]

def linuxContainerUser : Shape :=
  .lenient "LinuxContainerUser"
    [required "gid" .int64, optional "supplementalGroups" (.list .int64), required "uid" .int64]

def containerUser : Shape :=
  .lenient "ContainerUser"
    [optional "linux" linuxContainerUser]

def volumeMountStatus : Shape :=
  .lenient "VolumeMountStatus"
    [required "mountPath" .text, required "name" .text, optional "readOnly" .boolean,
      optional "recursiveReadOnly" .text]

def containerStatus : Shape :=
  .lenient "ContainerStatus"
    [optional "allocatedResources" (.map .text), optional "allocatedResourcesStatus" (.list resourceStatus),
      optional "containerID" .text, required "image" .text, required "imageID" .text,
      optional "lastState" containerState, required "name" .text, required "ready" .boolean,
      optional "resources" resourceRequirements, required "restartCount" .int32, optional "started" .boolean,
      optional "state" containerState, optional "stopSignal" .text, optional "user" containerUser,
      optional "volumeMounts" (.list volumeMountStatus)]

def hostIP : Shape :=
  .lenient "HostIP"
    [required "ip" .text]

def podIP : Shape :=
  .lenient "PodIP"
    [required "ip" .text]

def podResourceClaimStatus : Shape :=
  .lenient "PodResourceClaimStatus"
    [required "name" .text, optional "resourceClaimName" .text]

def podStatus : Shape :=
  .lenient "PodStatus"
    [optional "conditions" (.list podCondition), optional "containerStatuses" (.list containerStatus),
      optional "ephemeralContainerStatuses" (.list containerStatus), optional "hostIP" .text,
      optional "hostIPs" (.list hostIP), optional "initContainerStatuses" (.list containerStatus),
      optional "message" .text, optional "nominatedNodeName" .text, optional "observedGeneration" .int64,
      optional "phase" .text, optional "podIP" .text, optional "podIPs" (.list podIP), optional "qosClass" .text,
      optional "reason" .text, optional "resize" .text,
      optional "resourceClaimStatuses" (.list podResourceClaimStatus), optional "startTime" timestamp]

def pod : Shape :=
  .marked "Pod" [⟨"apiVersion", "v1"⟩, ⟨"kind", "Pod"⟩]
    [required "metadata" objectMeta, optional "spec" podSpec, optional "status" podStatus]

end SignOnOperator.Kubernetes.Shapes
