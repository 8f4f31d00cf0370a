import WorkloadBindings.Api.Reply
import WorkloadBindings.Lease.Basic
import WorkloadBindings.Workload.Basic

/-!
# Competing for the lease

When it starts, a replica makes sure that the lease exists, owned by the controller's deployment,
and claims it unless another claim on it is current. Writes name the version of the lease that was
read, so that of two replicas that claim it at once only one succeeds; the other reads it again. A
replica that gives up clears its claim, if it still counts.
-/

namespace WorkloadBindings

/-- Why a replica cannot compete for the lease. -/
inductive ElectionError where
  /-- The lease could not be made ready. -/
  | preparing (cause : ApiFailure)
  /-- The lease could not be read or written. -/
  | lease (cause : ApiFailure)
  /-- The lease says nothing. -/
  | missingSpec
  /-- The lease has no version. -/
  | missingResourceVersion
  /-- The claim on the lease would end in a year that is not counted. -/
  | endlessClaim
  deriving DecidableEq, Repr

/-- The words for the failure to compete. -/
def ElectionError.message : ElectionError → String
  | preparing cause => cause.message
  | lease cause => "failed to get lease: " ++ cause.message
  | missingSpec => "lease does not have a spec"
  | missingResourceVersion => "lease does not have a resource version"
  | endlessClaim => "lease is claimed for too long"

/-- A lease to compete for. -/
structure Election where
  «namespace» : String
  name : String
  /-- The deployment that is to own the lease. -/
  deployment : String
  /-- The name of this replica. -/
  host : String
  deriving DecidableEq, Repr

/-- The claim on a lease as a replica saw it last. -/
structure Standing where
  claim : LeaseClaim
  /-- The version of the lease. -/
  version : String
  deriving DecidableEq, Repr

namespace Deployment

/-- The `apiVersion` of deployments. -/
def apiVersion : String := "apps/v1"

/-- The kind of deployments. -/
def kind : String := "Deployment"

/-- The wire shape of the way in which pods are replaced. -/
def strategyShape : Shape :=
  .api "DeploymentStrategy"
    [("rollingUpdate", .nullable,
       .api "RollingUpdateDeployment"
         [("maxSurge", .nullable, .integerOrText), ("maxUnavailable", .nullable, .integerOrText)]),
     ("type", .nullable, .text)]

/-- The wire shape of an observation about a deployment. -/
def conditionShape : Shape :=
  .api "DeploymentCondition"
    [("lastTransitionTime", .nullable, .instant false),
     ("lastUpdateTime", .nullable, .instant false),
     ("message", .nullable, .text),
     ("reason", .nullable, .text),
     ("status", .filled (.str ""), .text),
     ("type", .filled (.str ""), .text)]

/-- The wire shape of the status of a deployment. -/
def statusShape : Shape :=
  .api "DeploymentStatus"
    [("availableReplicas", .nullable, Shape.int32),
     ("collisionCount", .nullable, Shape.int32),
     ("conditions", .nullable, .list conditionShape),
     ("observedGeneration", .nullable, Shape.int64),
     ("readyReplicas", .nullable, Shape.int32),
     ("replicas", .nullable, Shape.int32),
     ("terminatingReplicas", .nullable, Shape.int32),
     ("unavailableReplicas", .nullable, Shape.int32),
     ("updatedReplicas", .nullable, Shape.int32)]

/-- The wire shape of a deployment. -/
def shape : Shape :=
  .api kind
    [("apiVersion", .lenient (.str apiVersion), .literal apiVersion),
     ("kind", .lenient (.str kind), .literal kind),
     ("metadata", .filled (.obj []), Metadata.shape),
     ("spec", .nullable,
       .api "DeploymentSpec"
         [("minReadySeconds", .nullable, Shape.int32),
          ("paused", .nullable, .flag),
          ("progressDeadlineSeconds", .nullable, Shape.int32),
          ("replicas", .nullable, Shape.int32),
          ("revisionHistoryLimit", .nullable, Shape.int32),
          ("selector", .filled (.obj []), Labels.selectorShape),
          ("strategy", .nullable, strategyShape),
          ("template", .filled (.obj []), PodTemplate.shape)]),
     ("status", .nullable, statusShape)]

/-- The metadata of a deployment that has its shape. -/
def metadataOf (j : Json) : Metadata := Metadata.ofJson ((j.get? "metadata").getD (.obj []))

/-- The reference by which a deployment owns an object, if it has a name and an identifier. -/
def owner? (m : Metadata) : Option OwnerReference := do
  let name ← m.name
  let uid ← m.uid
  some
    { apiVersion, blockOwnerDeletion := none, controller := some true, kind, name, uid }

end Deployment

namespace Election

/-- The manager of the fields that make the lease ready. -/
def controllerManager : String := "bindings-controller"

/-- The manager of the fields that hold a claim. -/
def claimManager : String := "kubert"

/-- How long a claim counts, in seconds. -/
def duration : Nat := 30

/-- The path of the leases in the namespace. -/
def leasesPath (e : Election) : String :=
  namespacedPath "coordination.k8s.io" "v1" e.namespace "leases"

/-- A lease with some metadata and some contents. -/
def leaseJson (metadata : Metadata) (spec : Option Json) : Json :=
  .record
    [("apiVersion", some (.str Lease.apiVersion)),
     ("kind", some (.str Lease.kind)),
     ("metadata", some metadata.toJson),
     ("spec", spec)]

/-! ## Making the lease ready -/

/-- The deployment that is to own the lease, if there is one. -/
def readOwner (e : Election) : Exchange (Except ApiFailure (Option OwnerReference)) := do
  let found ← Request.send
    (Request.get (namespacedPath "apps" "v1" e.namespace "deployments") e.deployment)
    Deployment.shape Deployment.metadataOf
  pure ((foundOrNone found).map fun m => m.bind Deployment.owner?)

/-- The lease as it is created. Version zero is that of no lease, so that one that exists is left
alone. -/
def created (e : Election) (owner : Option OwnerReference) : Json :=
  leaseJson
    { name := some e.name
      «namespace» := some e.namespace
      resourceVersion := some "0"
      ownerReferences := owner.map fun o => [o]
      labels := some (SortedMap.ofList [("app.kubernetes.io/name", "bindings-controller")]) }
    none

/-- Creates the lease; any refusal means that it exists. -/
def create (e : Election) (owner : Option OwnerReference) :
    Exchange (Except ElectionError Unit) := do
  let answer ← Request.send
    (Request.patch e.leasesPath e.name [("fieldManager", controllerManager)] Request.applyPatch
      (e.created owner))
    Lease.shape Lease.ofJson
  pure (
    match answer with
    | .ok _ => .ok ()
    | .error (.refused _) => .ok ()
    | .error cause => .error (.preparing cause))

/-! ## Claiming it -/

/-- What a replica reads of a lease: what it says, and its version. -/
def readable (l : Lease) : Except ElectionError (LeaseSpec × String) :=
  match l.spec, l.metadata.resourceVersion with
  | none, _ => .error .missingSpec
  | some _, none => .error .missingResourceVersion
  | some spec, some version =>
    if spec.claim?.all fun c => c.expiry.isCounted then .ok (spec, version)
    else .error .endlessClaim

/-- Reads the lease. -/
def read (e : Election) : Exchange (Except ElectionError (LeaseSpec × String)) := do
  match ← Request.send (Request.get e.leasesPath e.name) Lease.shape Lease.ofJson with
  | .error cause => pure (.error (.lease cause))
  | .ok l => pure (readable l)

/-- The lease as a replica claims it. -/
def claimed (e : Election) (now : Timestamp) (version : String) (transitions : Nat) : Json :=
  leaseJson { resourceVersion := some version }
    (some (.obj
      [("acquireTime", .str now.renderMicros),
       ("holderIdentity", .str e.host),
       ("leaseDurationSeconds", .int duration),
       ("leaseTransitions", .int (transitions + 1)),
       ("renewTime", .str now.renderMicros)]))

/-- Claims the lease that has a version. -/
def claim (e : Election) (now : Timestamp) (version : String) (transitions : Nat) :
    Exchange (Except ApiFailure Lease) :=
  Request.send
    (Request.patch e.leasesPath e.name [("force", "true"), ("fieldManager", claimManager)]
      Request.applyPatch (e.claimed now version transitions))
    Lease.shape Lease.ofJson

/-- The standing after a claim was written. -/
def standing (e : Election) (now : Timestamp) (l : Lease) : Except ElectionError Standing :=
  match l.metadata.resourceVersion with
  | none => .error .missingResourceVersion
  | some version => .ok ⟨⟨e.host, now.addSeconds duration⟩, version⟩

/-- Reads the lease, and claims it unless a claim on it is current. When somebody else wrote it in
between, it is read again, at most `attempts` times. -/
def compete (e : Election) (now : Timestamp) :
    (attempts : Nat) → Exchange (Except ElectionError Standing)
  | 0 => pure (.error .missingResourceVersion)
  | attempts + 1 => do
    match ← e.read with
    | .error cause => pure (.error cause)
    | .ok (spec, version) =>
      match spec.claim?.filter (·.isCurrent now) with
      | some current => pure (.ok ⟨current, version⟩)
      | none =>
        match ← e.claim now version spec.transitionCount with
        | .ok l => pure (e.standing now l)
        | .error (.refused cause) =>
          if cause.code = 409 ∧ 0 < attempts then compete e now attempts
          else pure (.error (.lease (.refused cause)))
        | .error cause => pure (.error (.lease cause))

/-- How often a lease is read before a conflict counts as a failure. -/
def mostAttempts : Nat := 16

/-- Makes the lease ready and competes for it. -/
def enter (e : Election) (now : Timestamp) : Exchange (Except ElectionError Standing) := do
  match ← e.readOwner with
  | .error cause => pure (.error (.preparing cause))
  | .ok owner =>
    match ← e.create owner with
    | .error cause => pure (.error cause)
    | .ok () => e.compete now mostAttempts

/-! ## Giving it up -/

/-- The change that clears the claim on the lease that has a version. -/
def cleared (version : String) : Json :=
  leaseJson { resourceVersion := some version }
    (some (.obj
      [("acquireTime", .null), ("holderIdentity", .null), ("leaseDurationSeconds", .null),
       ("renewTime", .null)]))

/-- Gives the lease up, if this replica's claim still counts. -/
def leave (e : Election) (now : Timestamp) (s : Standing) : Exchange Unit := do
  if s.claim.isCurrentFor e.host now then
    let _ ← Request.send
      (Request.patch e.leasesPath e.name [("fieldManager", claimManager)] Request.strategicPatch
        (cleared s.version))
      Lease.shape Lease.ofJson
    pure ()
  else pure ()

end Election

end WorkloadBindings
