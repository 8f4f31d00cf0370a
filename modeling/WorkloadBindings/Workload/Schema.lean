import WorkloadBindings.Resource.Metadata

/-!
# What pods are made of

The wire shapes of the parts of a pod specification that no binding looks into. They are read, so that
what does not fit is refused, and carried along in their written form. `Workload.Pod` has the shapes
of the parts that bindings act on, which are made from these.
-/

namespace WorkloadBindings.Schema

/-- A member of an object: its name, how it may be absent, and its shape. -/
abbrev Member : Type := String × Presence × Shape

/-- A member that may be absent. -/
def maybe (name : String) (shape : Shape) : Member := (name, .nullable, shape)

/-- A text that is always written, empty when it is absent. -/
def always (name : String) : Member := (name, .filled (.str ""), .text)

/-- An integer that is always written, zero when it is absent. -/
def count (name : String) (shape : Shape) : Member := (name, .filled (.int 0), shape)

/-- A list that is always written, empty when it is absent. -/
def items (name : String) (shape : Shape) : Member := (name, .filled (.arr []), .list shape)

/-! ## References -/

/-- An object of the same namespace. -/
def localReference : Shape := .api "LocalObjectReference" [always "name"]

/-- A key of an object that holds named values. -/
def keySelector (type : String) : Shape :=
  .api type [always "key", always "name", maybe "optional" .flag]

/-- A field of the pod itself. -/
def fieldSelector : Shape :=
  .api "ObjectFieldSelector" [maybe "apiVersion" .text, always "fieldPath"]

/-- A resource of a container. -/
def resourceSelector : Shape :=
  .api "ResourceFieldSelector"
    [maybe "containerName" .text, maybe "divisor" .text, always "resource"]

/-! ## Containers -/

/-- Where the value of a variable comes from. -/
def envVarSource : Shape :=
  .api "EnvVarSource"
    [maybe "configMapKeyRef" (keySelector "ConfigMapKeySelector"),
     maybe "fieldRef" fieldSelector,
     maybe "resourceFieldRef" resourceSelector,
     maybe "secretKeyRef" (keySelector "SecretKeySelector")]

/-- Where many variables come from. -/
def envFromSource : Shape :=
  .api "EnvFromSource"
    [maybe "configMapRef" (.api "ConfigMapEnvSource" [always "name", maybe "optional" .flag]),
     maybe "prefix" .text,
     maybe "secretRef" (.api "SecretEnvSource" [always "name", maybe "optional" .flag])]

/-- A command inside a container. -/
def execAction : Shape := .api "ExecAction" [maybe "command" (.list .text)]

/-- A request to a container. -/
def httpGetAction : Shape :=
  .api "HTTPGetAction"
    [maybe "host" .text,
     maybe "httpHeaders" (.list (.api "HTTPHeader" [always "name", always "value"])),
     maybe "path" .text,
     count "port" .integerOrText,
     maybe "scheme" .text]

/-- A connection to a container. -/
def tcpSocketAction : Shape :=
  .api "TCPSocketAction" [maybe "host" .text, count "port" .integerOrText]

/-- What is done when a container starts or stops. -/
def lifecycleHandler : Shape :=
  .api "LifecycleHandler"
    [maybe "exec" execAction,
     maybe "httpGet" httpGetAction,
     maybe "sleep" (.api "SleepAction" [count "seconds" Shape.int64]),
     maybe "tcpSocket" tcpSocketAction]

/-- What is done along the life of a container. -/
def lifecycle : Shape :=
  .api "Lifecycle"
    [maybe "postStart" lifecycleHandler, maybe "preStop" lifecycleHandler,
     maybe "stopSignal" .text]

/-- How it is found out whether a container is well. -/
def probe : Shape :=
  .api "Probe"
    [maybe "exec" execAction,
     maybe "failureThreshold" Shape.int32,
     maybe "grpc" (.api "GRPCAction" [count "port" Shape.int32, maybe "service" .text]),
     maybe "httpGet" httpGetAction,
     maybe "initialDelaySeconds" Shape.int32,
     maybe "periodSeconds" Shape.int32,
     maybe "successThreshold" Shape.int32,
     maybe "tcpSocket" tcpSocketAction,
     maybe "terminationGracePeriodSeconds" Shape.int64,
     maybe "timeoutSeconds" Shape.int32]

/-- A port of a container. -/
def containerPort : Shape :=
  .api "ContainerPort"
    [count "containerPort" Shape.int32,
     maybe "hostIP" .text,
     maybe "hostPort" Shape.int32,
     maybe "name" .text,
     maybe "protocol" .text]

/-- What happens when a resource of a container changes. -/
def resizePolicy : Shape :=
  .api "ContainerResizePolicy" [always "resourceName", always "restartPolicy"]

/-- What a container or a pod needs and may use. -/
def resourceRequirements : Shape :=
  .api "ResourceRequirements"
    [maybe "claims" (.list (.api "ResourceClaim" [always "name", maybe "request" .text])),
     maybe "limits" (.map .text),
     maybe "requests" (.map .text)]

/-- A profile that confines a container. -/
def confinement (type : String) : Shape :=
  .api type [maybe "localhostProfile" .text, always "type"]

/-- The labels of a process under SELinux. -/
def seLinuxOptions : Shape :=
  .api "SELinuxOptions"
    [maybe "level" .text, maybe "role" .text, maybe "type" .text, maybe "user" .text]

/-- How a process runs under Windows. -/
def windowsOptions : Shape :=
  .api "WindowsSecurityContextOptions"
    [maybe "gmsaCredentialSpec" .text, maybe "gmsaCredentialSpecName" .text,
     maybe "hostProcess" .flag, maybe "runAsUserName" .text]

/-- The rights of a container. -/
def securityContext : Shape :=
  .api "SecurityContext"
    [maybe "allowPrivilegeEscalation" .flag,
     maybe "appArmorProfile" (confinement "AppArmorProfile"),
     maybe "capabilities"
       (.api "Capabilities" [maybe "add" (.list .text), maybe "drop" (.list .text)]),
     maybe "privileged" .flag,
     maybe "procMount" .text,
     maybe "readOnlyRootFilesystem" .flag,
     maybe "runAsGroup" Shape.int64,
     maybe "runAsNonRoot" .flag,
     maybe "runAsUser" Shape.int64,
     maybe "seLinuxOptions" seLinuxOptions,
     maybe "seccompProfile" (confinement "SeccompProfile"),
     maybe "windowsOptions" windowsOptions]

/-- A volume without a file system. -/
def volumeDevice : Shape := .api "VolumeDevice" [always "devicePath", always "name"]

/-! ## Scheduling -/

/-- A condition on a label or a field of a node. -/
def nodeSelectorRequirement : Shape :=
  .api "NodeSelectorRequirement"
    [always "key", always "operator", maybe "values" (.list .text)]

/-- Conditions on a node. -/
def nodeSelectorTerm : Shape :=
  .api "NodeSelectorTerm"
    [maybe "matchExpressions" (.list nodeSelectorRequirement),
     maybe "matchFields" (.list nodeSelectorRequirement)]

/-- Which nodes a pod is drawn to. -/
def nodeAffinity : Shape :=
  .api "NodeAffinity"
    [maybe "preferredDuringSchedulingIgnoredDuringExecution"
       (.list (.api "PreferredSchedulingTerm"
         [("preference", .filled (.obj []), nodeSelectorTerm), count "weight" Shape.int32])),
     maybe "requiredDuringSchedulingIgnoredDuringExecution"
       (.api "NodeSelector" [items "nodeSelectorTerms" nodeSelectorTerm])]

/-- Other pods, and what counts as one place. -/
def podAffinityTerm : Shape :=
  .api "PodAffinityTerm"
    [maybe "labelSelector" Labels.selectorShape,
     maybe "matchLabelKeys" (.list .text),
     maybe "mismatchLabelKeys" (.list .text),
     maybe "namespaceSelector" Labels.selectorShape,
     maybe "namespaces" (.list .text),
     always "topologyKey"]

/-- Which other pods a pod is drawn to, or kept away from. -/
def podAffinity (type : String) : Shape :=
  .api type
    [maybe "preferredDuringSchedulingIgnoredDuringExecution"
       (.list (.api "WeightedPodAffinityTerm"
         [("podAffinityTerm", .filled (.obj [("topologyKey", .str "")]), podAffinityTerm),
          count "weight" Shape.int32])),
     maybe "requiredDuringSchedulingIgnoredDuringExecution" (.list podAffinityTerm)]

/-- What a pod is drawn to and kept away from. -/
def affinity : Shape :=
  .api "Affinity"
    [maybe "nodeAffinity" nodeAffinity,
     maybe "podAffinity" (podAffinity "PodAffinity"),
     maybe "podAntiAffinity" (podAffinity "PodAntiAffinity")]

/-- A taint that a pod puts up with. -/
def toleration : Shape :=
  .api "Toleration"
    [maybe "effect" .text,
     maybe "key" .text,
     maybe "operator" .text,
     maybe "tolerationSeconds" Shape.int64,
     maybe "value" .text]

/-- How pods are spread over places. -/
def topologySpreadConstraint : Shape :=
  .api "TopologySpreadConstraint"
    [maybe "labelSelector" Labels.selectorShape,
     maybe "matchLabelKeys" (.list .text),
     count "maxSkew" Shape.int32,
     maybe "minDomains" Shape.int32,
     maybe "nodeAffinityPolicy" .text,
     maybe "nodeTaintsPolicy" .text,
     always "topologyKey",
     always "whenUnsatisfiable"]

/-! ## Pods -/

/-- How names are looked up. -/
def dnsConfig : Shape :=
  .api "PodDNSConfig"
    [maybe "nameservers" (.list .text),
     maybe "options" (.list (.api "PodDNSConfigOption" [maybe "name" .text, maybe "value" .text])),
     maybe "searches" (.list .text)]

/-- More names of an address. -/
def hostAlias : Shape := .api "HostAlias" [maybe "hostnames" (.list .text), always "ip"]

/-- A claim to a resource. -/
def resourceClaim : Shape :=
  .api "PodResourceClaim"
    [always "name", maybe "resourceClaimName" .text, maybe "resourceClaimTemplateName" .text]

/-- The rights of a pod. -/
def podSecurityContext : Shape :=
  .api "PodSecurityContext"
    [maybe "appArmorProfile" (confinement "AppArmorProfile"),
     maybe "fsGroup" Shape.int64,
     maybe "fsGroupChangePolicy" .text,
     maybe "runAsGroup" Shape.int64,
     maybe "runAsNonRoot" .flag,
     maybe "runAsUser" Shape.int64,
     maybe "seLinuxChangePolicy" .text,
     maybe "seLinuxOptions" seLinuxOptions,
     maybe "seccompProfile" (confinement "SeccompProfile"),
     maybe "supplementalGroups" (.list Shape.int64),
     maybe "supplementalGroupsPolicy" .text,
     maybe "sysctls" (.list (.api "Sysctl" [always "name", always "value"])),
     maybe "windowsOptions" windowsOptions]

/-! ## Volumes -/

/-- An entry of an object that becomes a file. -/
def keyToPath : Shape :=
  .api "KeyToPath" [always "key", maybe "mode" Shape.int32, always "path"]

/-- Something about the pod that becomes a file. -/
def downwardFile : Shape :=
  .api "DownwardAPIVolumeFile"
    [maybe "fieldRef" fieldSelector,
     maybe "mode" Shape.int32,
     always "path",
     maybe "resourceFieldRef" resourceSelector]

/-- An object whose entries are files among those of other sources. -/
def projectedEntries (type : String) : Shape :=
  .api type [maybe "items" (.list keyToPath), always "name", maybe "optional" .flag]

/-- One of the sources of a volume. -/
def volumeProjection : Shape :=
  .api "VolumeProjection"
    [maybe "clusterTrustBundle"
       (.api "ClusterTrustBundleProjection"
         [maybe "labelSelector" Labels.selectorShape, maybe "name" .text, maybe "optional" .flag,
          always "path", maybe "signerName" .text]),
     maybe "configMap" (projectedEntries "ConfigMapProjection"),
     maybe "downwardAPI" (.api "DownwardAPIProjection" [maybe "items" (.list downwardFile)]),
     maybe "secret" (projectedEntries "SecretProjection"),
     maybe "serviceAccountToken"
       (.api "ServiceAccountTokenProjection"
         [maybe "audience" .text, maybe "expirationSeconds" Shape.int64, always "path"])]

/-- What is asked of storage that is claimed. -/
def claimSpec : Shape :=
  .api "PersistentVolumeClaimSpec"
    [maybe "accessModes" (.list .text),
     maybe "dataSource"
       (.api "TypedLocalObjectReference" [maybe "apiGroup" .text, always "kind", always "name"]),
     maybe "dataSourceRef"
       (.api "TypedObjectReference"
         [maybe "apiGroup" .text, always "kind", always "name", maybe "namespace" .text]),
     maybe "resources"
       (.api "VolumeResourceRequirements"
         [maybe "limits" (.map .text), maybe "requests" (.map .text)]),
     maybe "selector" Labels.selectorShape,
     maybe "storageClassName" .text,
     maybe "volumeAttributesClassName" .text,
     maybe "volumeMode" .text,
     maybe "volumeName" .text]

/-- Storage that is claimed for the life of the pod. -/
def ephemeral : Shape :=
  .api "EphemeralVolumeSource"
    [maybe "volumeClaimTemplate"
       (.api "PersistentVolumeClaimTemplate"
         [maybe "metadata" Metadata.shape, ("spec", .filled (.obj []), claimSpec)])]

/-- Files of several sources. -/
def projected : Shape :=
  .api "ProjectedVolumeSource"
    [maybe "defaultMode" Shape.int32, maybe "sources" (.list volumeProjection)]

end WorkloadBindings.Schema
