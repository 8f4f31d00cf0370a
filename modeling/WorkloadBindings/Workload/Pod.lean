import WorkloadBindings.Json.Rest
import WorkloadBindings.Workload.Schema

/-!
# Pod specifications

The part of a workload that its pods are made from. Bindings act on volumes and, in the regular and
the initialising containers, on mounts and environment variables; these have types of their own.
All other members are checked by their shapes and carried along in their written form, and what no
member is known for is dropped.
-/

namespace WorkloadBindings

open Schema

/-! ## Environment variables and mounts -/

/-- A variable in the environment of a container. -/
structure EnvVar where
  name : String
  value : Option String := none
  valueFrom : Option Json := none
  deriving DecidableEq

namespace EnvVar

/-- The wire shape of a variable. -/
def shape : Shape :=
  .api "EnvVar" [always "name", maybe "value" .text, maybe "valueFrom" envVarSource]

/-- The variable that a value of its shape writes. -/
def ofJson (j : Json) : EnvVar where
  name := ((j.get? "name").bind Json.str?).getD ""
  value := (j.get? "value").bind Json.str?
  valueFrom := j.get? "valueFrom"

/-- The variable as an object. -/
def toJson (v : EnvVar) : Json :=
  .record
    [("name", some (.str v.name)), ("value", v.value.map .str), ("valueFrom", v.valueFrom)]

end EnvVar

/-- A volume made visible in a container. -/
structure VolumeMount where
  mountPath : String
  mountPropagation : Option String := none
  name : String
  readOnly : Option Bool := none
  recursiveReadOnly : Option String := none
  subPath : Option String := none
  subPathExpr : Option String := none
  deriving DecidableEq

namespace VolumeMount

/-- The wire shape of a mount. -/
def shape : Shape :=
  .api "VolumeMount"
    [always "mountPath",
     maybe "mountPropagation" .text,
     always "name",
     maybe "readOnly" .flag,
     maybe "recursiveReadOnly" .text,
     maybe "subPath" .text,
     maybe "subPathExpr" .text]

/-- The mount that a value of its shape writes. -/
def ofJson (j : Json) : VolumeMount where
  mountPath := ((j.get? "mountPath").bind Json.str?).getD ""
  mountPropagation := (j.get? "mountPropagation").bind Json.str?
  name := ((j.get? "name").bind Json.str?).getD ""
  readOnly := (j.get? "readOnly").bind Json.bool?
  recursiveReadOnly := (j.get? "recursiveReadOnly").bind Json.str?
  subPath := (j.get? "subPath").bind Json.str?
  subPathExpr := (j.get? "subPathExpr").bind Json.str?

/-- The mount as an object. -/
def toJson (m : VolumeMount) : Json :=
  .record
    [("mountPath", some (.str m.mountPath)),
     ("mountPropagation", m.mountPropagation.map .str),
     ("name", some (.str m.name)),
     ("readOnly", m.readOnly.map .bool),
     ("recursiveReadOnly", m.recursiveReadOnly.map .str),
     ("subPath", m.subPath.map .str),
     ("subPathExpr", m.subPathExpr.map .str)]

end VolumeMount

/-! ## Volumes -/

/-- A secret whose entries are the files of a volume. -/
structure SecretSource where
  defaultMode : Option Int := none
  items : Option Json := none
  «optional» : Option Bool := none
  secretName : Option String := none
  deriving DecidableEq

namespace SecretSource

/-- The wire shape of a secret as a volume. -/
def shape : Shape :=
  .api "SecretVolumeSource"
    [maybe "defaultMode" Shape.int32,
     maybe "items" (.list keyToPath),
     maybe "optional" .flag,
     maybe "secretName" .text]

/-- The source that a value of its shape writes. -/
def ofJson (j : Json) : SecretSource where
  defaultMode := (j.get? "defaultMode").bind Json.int?
  items := j.get? "items"
  «optional» := (j.get? "optional").bind Json.bool?
  secretName := (j.get? "secretName").bind Json.str?

/-- The source as an object. -/
def toJson (s : SecretSource) : Json :=
  .record
    [("defaultMode", s.defaultMode.map .int),
     ("items", s.items),
     ("optional", s.optional.map .bool),
     ("secretName", s.secretName.map .str)]

end SecretSource

namespace Volume

/-- The members of a volume: its name and its sources. -/
def fields : List Member :=
  [maybe "awsElasticBlockStore"
     (.api "AWSElasticBlockStoreVolumeSource"
       [maybe "fsType" .text, maybe "partition" Shape.int32, maybe "readOnly" .flag,
        always "volumeID"]),
   maybe "azureDisk"
     (.api "AzureDiskVolumeSource"
       [maybe "cachingMode" .text, always "diskName", always "diskURI", maybe "fsType" .text,
        maybe "kind" .text, maybe "readOnly" .flag]),
   maybe "azureFile"
     (.api "AzureFileVolumeSource"
       [maybe "readOnly" .flag, always "secretName", always "shareName"]),
   maybe "cephfs"
     (.api "CephFSVolumeSource"
       [items "monitors" .text, maybe "path" .text, maybe "readOnly" .flag,
        maybe "secretFile" .text, maybe "secretRef" localReference, maybe "user" .text]),
   maybe "cinder"
     (.api "CinderVolumeSource"
       [maybe "fsType" .text, maybe "readOnly" .flag, maybe "secretRef" localReference,
        always "volumeID"]),
   maybe "configMap"
     (.api "ConfigMapVolumeSource"
       [maybe "defaultMode" Shape.int32, maybe "items" (.list keyToPath), always "name",
        maybe "optional" .flag]),
   maybe "csi"
     (.api "CSIVolumeSource"
       [always "driver", maybe "fsType" .text, maybe "nodePublishSecretRef" localReference,
        maybe "readOnly" .flag, maybe "volumeAttributes" (.map .text)]),
   maybe "downwardAPI"
     (.api "DownwardAPIVolumeSource"
       [maybe "defaultMode" Shape.int32, maybe "items" (.list downwardFile)]),
   maybe "emptyDir"
     (.api "EmptyDirVolumeSource" [maybe "medium" .text, maybe "sizeLimit" .text]),
   maybe "ephemeral" ephemeral,
   maybe "fc"
     (.api "FCVolumeSource"
       [maybe "fsType" .text, maybe "lun" Shape.int32, maybe "readOnly" .flag,
        maybe "targetWWNs" (.list .text), maybe "wwids" (.list .text)]),
   maybe "flexVolume"
     (.api "FlexVolumeSource"
       [always "driver", maybe "fsType" .text, maybe "options" (.map .text),
        maybe "readOnly" .flag, maybe "secretRef" localReference]),
   maybe "flocker"
     (.api "FlockerVolumeSource" [maybe "datasetName" .text, maybe "datasetUUID" .text]),
   maybe "gcePersistentDisk"
     (.api "GCEPersistentDiskVolumeSource"
       [maybe "fsType" .text, maybe "partition" Shape.int32, always "pdName",
        maybe "readOnly" .flag]),
   maybe "gitRepo"
     (.api "GitRepoVolumeSource"
       [maybe "directory" .text, always "repository", maybe "revision" .text]),
   maybe "glusterfs"
     (.api "GlusterfsVolumeSource" [always "endpoints", always "path", maybe "readOnly" .flag]),
   maybe "hostPath" (.api "HostPathVolumeSource" [always "path", maybe "type" .text]),
   maybe "image" (.api "ImageVolumeSource" [maybe "pullPolicy" .text, maybe "reference" .text]),
   maybe "iscsi"
     (.api "ISCSIVolumeSource"
       [maybe "chapAuthDiscovery" .flag, maybe "chapAuthSession" .flag, maybe "fsType" .text,
        maybe "initiatorName" .text, always "iqn", maybe "iscsiInterface" .text,
        count "lun" Shape.int32, maybe "portals" (.list .text), maybe "readOnly" .flag,
        maybe "secretRef" localReference, always "targetPortal"]),
   always "name",
   maybe "nfs"
     (.api "NFSVolumeSource" [always "path", maybe "readOnly" .flag, always "server"]),
   maybe "persistentVolumeClaim"
     (.api "PersistentVolumeClaimVolumeSource" [always "claimName", maybe "readOnly" .flag]),
   maybe "photonPersistentDisk"
     (.api "PhotonPersistentDiskVolumeSource" [maybe "fsType" .text, always "pdID"]),
   maybe "portworxVolume"
     (.api "PortworxVolumeSource"
       [maybe "fsType" .text, maybe "readOnly" .flag, always "volumeID"]),
   maybe "projected" projected,
   maybe "quobyte"
     (.api "QuobyteVolumeSource"
       [maybe "group" .text, maybe "readOnly" .flag, always "registry", maybe "tenant" .text,
        maybe "user" .text, always "volume"]),
   maybe "rbd"
     (.api "RBDVolumeSource"
       [maybe "fsType" .text, always "image", maybe "keyring" .text, items "monitors" .text,
        maybe "pool" .text, maybe "readOnly" .flag, maybe "secretRef" localReference,
        maybe "user" .text]),
   maybe "scaleIO"
     (.api "ScaleIOVolumeSource"
       [maybe "fsType" .text, always "gateway", maybe "protectionDomain" .text,
        maybe "readOnly" .flag,
        ("secretRef", .filled (.obj [("name", .str "")]), localReference),
        maybe "sslEnabled" .flag, maybe "storageMode" .text, maybe "storagePool" .text,
        always "system", maybe "volumeName" .text]),
   maybe "secret" SecretSource.shape,
   maybe "storageos"
     (.api "StorageOSVolumeSource"
       [maybe "fsType" .text, maybe "readOnly" .flag, maybe "secretRef" localReference,
        maybe "volumeName" .text, maybe "volumeNamespace" .text]),
   maybe "vsphereVolume"
     (.api "VsphereVirtualDiskVolumeSource"
       [maybe "fsType" .text, maybe "storagePolicyID" .text, maybe "storagePolicyName" .text,
        always "volumePath"])]

/-- The names of the sources of a volume that is made from no secret. -/
def restNames : List String := (fields.map Prod.fst).filter (· ∉ ["name", "secret"])

end Volume

/-- A volume of a pod; its sources other than a secret are in `rest`. -/
structure Volume where
  name : String
  secret : Option SecretSource := none
  rest : Rest Volume.restNames := ∅
  deriving DecidableEq

namespace Volume

/-- The wire shape of a volume. -/
def shape : Shape := .api "Volume" fields

/-- The member of a volume with a name. -/
def part (v : Volume) (name : String) : Option Json :=
  if name = "name" then some (.str v.name)
  else if name = "secret" then v.secret.map SecretSource.toJson
  else v.rest.get? name

/-- The volume that a value of its shape writes. -/
def ofJson (j : Json) : Volume where
  name := ((j.get? "name").bind Json.str?).getD ""
  secret := (j.get? "secret").map SecretSource.ofJson
  rest := .ofJson restNames j

/-- The volume as an object. -/
def toJson (v : Volume) : Json := .record (fields.map fun f => (f.1, v.part f.1))

end Volume

/-! ## Containers -/

namespace Container

/-- The members of containers, but for what only a container added for debugging has. -/
def fields : List Member :=
  [maybe "args" (.list .text),
   maybe "command" (.list .text),
   maybe "env" (.list EnvVar.shape),
   maybe "envFrom" (.list envFromSource),
   maybe "image" .text,
   maybe "imagePullPolicy" .text,
   maybe "lifecycle" lifecycle,
   maybe "livenessProbe" probe,
   always "name",
   maybe "ports" (.list containerPort),
   maybe "readinessProbe" probe,
   maybe "resizePolicy" (.list resizePolicy),
   maybe "resources" resourceRequirements,
   maybe "restartPolicy" .text,
   maybe "securityContext" securityContext,
   maybe "startupProbe" probe,
   maybe "stdin" .flag,
   maybe "stdinOnce" .flag,
   maybe "terminationMessagePath" .text,
   maybe "terminationMessagePolicy" .text,
   maybe "tty" .flag,
   maybe "volumeDevices" (.list volumeDevice),
   maybe "volumeMounts" (.list VolumeMount.shape),
   maybe "workingDir" .text]

/-- The names of the members that no binding looks into. -/
def restNames : List String :=
  (fields.map Prod.fst).filter (· ∉ ["env", "name", "volumeMounts"])

end Container

/-- A container of a pod. -/
structure Container where
  env : Option (List EnvVar) := none
  name : String
  volumeMounts : Option (List VolumeMount) := none
  rest : Rest Container.restNames := ∅
  deriving DecidableEq

namespace Container

/-- The wire shape of a container. -/
def shape : Shape := .api "Container" fields

/-- The wire shape of a container added for debugging, which names the one it looks into. -/
def ephemeralShape : Shape :=
  .api "EphemeralContainer"
    (Assoc.insert "targetContainerName" (Presence.nullable, Shape.text) fields)

/-- The member of a container with a name. -/
def part (c : Container) (name : String) : Option Json :=
  if name = "env" then c.env.map fun vs => .arr (vs.map EnvVar.toJson)
  else if name = "name" then some (.str c.name)
  else if name = "volumeMounts" then c.volumeMounts.map fun ms => .arr (ms.map VolumeMount.toJson)
  else c.rest.get? name

/-- The container that a value of its shape writes. -/
def ofJson (j : Json) : Container where
  env := (j.get? "env").map fun xs => xs.items.map EnvVar.ofJson
  name := ((j.get? "name").bind Json.str?).getD ""
  volumeMounts := (j.get? "volumeMounts").map fun xs => xs.items.map VolumeMount.ofJson
  rest := .ofJson restNames j

/-- The container as an object. -/
def toJson (c : Container) : Json := .record (fields.map fun f => (f.1, c.part f.1))

end Container

/-! ## Pods -/

namespace PodSpec

/-- The members of a pod specification. -/
def fields : List Member :=
  [maybe "activeDeadlineSeconds" Shape.int64,
   maybe "affinity" affinity,
   maybe "automountServiceAccountToken" .flag,
   items "containers" Container.shape,
   maybe "dnsConfig" dnsConfig,
   maybe "dnsPolicy" .text,
   maybe "enableServiceLinks" .flag,
   maybe "ephemeralContainers" (.list Container.ephemeralShape),
   maybe "hostAliases" (.list hostAlias),
   maybe "hostIPC" .flag,
   maybe "hostNetwork" .flag,
   maybe "hostPID" .flag,
   maybe "hostUsers" .flag,
   maybe "hostname" .text,
   maybe "imagePullSecrets" (.list localReference),
   maybe "initContainers" (.list Container.shape),
   maybe "nodeName" .text,
   maybe "nodeSelector" (.map .text),
   maybe "os" (.api "PodOS" [always "name"]),
   maybe "overhead" (.map .text),
   maybe "preemptionPolicy" .text,
   maybe "priority" Shape.int32,
   maybe "priorityClassName" .text,
   maybe "readinessGates" (.list (.api "PodReadinessGate" [always "conditionType"])),
   maybe "resourceClaims" (.list resourceClaim),
   maybe "resources" resourceRequirements,
   maybe "restartPolicy" .text,
   maybe "runtimeClassName" .text,
   maybe "schedulerName" .text,
   maybe "schedulingGates" (.list (.api "PodSchedulingGate" [always "name"])),
   maybe "securityContext" podSecurityContext,
   maybe "serviceAccount" .text,
   maybe "serviceAccountName" .text,
   maybe "setHostnameAsFQDN" .flag,
   maybe "shareProcessNamespace" .flag,
   maybe "subdomain" .text,
   maybe "terminationGracePeriodSeconds" Shape.int64,
   maybe "tolerations" (.list toleration),
   maybe "topologySpreadConstraints" (.list topologySpreadConstraint),
   maybe "volumes" (.list Volume.shape)]

/-- The names of the members that no binding looks into. -/
def restNames : List String :=
  (fields.map Prod.fst).filter (· ∉ ["containers", "initContainers", "volumes"])

end PodSpec

/-- What the pods of a workload are made of. -/
structure PodSpec where
  containers : List Container := []
  initContainers : Option (List Container) := none
  volumes : Option (List Volume) := none
  rest : Rest PodSpec.restNames := ∅
  deriving DecidableEq

namespace PodSpec

/-- The wire shape of a pod specification. -/
def shape : Shape := .api "PodSpec" fields

/-- The member of a specification with a name. -/
def part (p : PodSpec) (name : String) : Option Json :=
  if name = "containers" then some (.arr (p.containers.map Container.toJson))
  else if name = "initContainers" then
    p.initContainers.map fun cs => .arr (cs.map Container.toJson)
  else if name = "volumes" then p.volumes.map fun vs => .arr (vs.map Volume.toJson)
  else p.rest.get? name

/-- The specification that a value of its shape writes. -/
def ofJson (j : Json) : PodSpec where
  containers := ((j.get? "containers").map fun xs => xs.items.map Container.ofJson).getD []
  initContainers := (j.get? "initContainers").map fun xs => xs.items.map Container.ofJson
  volumes := (j.get? "volumes").map fun xs => xs.items.map Volume.ofJson
  rest := .ofJson restNames j

/-- The specification as an object. -/
def toJson (p : PodSpec) : Json := .record (fields.map fun f => (f.1, p.part f.1))

end PodSpec

end WorkloadBindings
