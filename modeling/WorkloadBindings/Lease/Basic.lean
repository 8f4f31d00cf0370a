import WorkloadBindings.Resource.Metadata

/-!
# Claims on a lease

Of several replicas of the controller only the one that holds the lease writes. A lease names its
holder and says when it was last renewed and for how long it then counts; a `LeaseClaim` is what
follows from that, and it is current until its expiry.
-/

namespace WorkloadBindings

/-- A replica's hold on the lease. -/
structure LeaseClaim where
  holder : String
  /-- The time up to which it counts. -/
  expiry : Timestamp
  deriving DecidableEq, Repr

namespace LeaseClaim

/-- The claim counts at a time. -/
def isCurrent (c : LeaseClaim) (now : Timestamp) : Bool := c.expiry.isAfter now

/-- The claim counts at a time, and it is that of a replica. -/
def isCurrentFor (c : LeaseClaim) (host : String) (now : Timestamp) : Bool :=
  c.holder == host && c.isCurrent now

end LeaseClaim

/-- What a lease says about its holder. -/
structure LeaseSpec where
  holder : Option String
  renewTime : Option Timestamp
  /-- How long the holder holds it from then on, in seconds. -/
  duration : Option Int
  /-- How often the holder changed. -/
  transitions : Option Int
  deriving DecidableEq

/-- A lease. -/
structure Lease where
  metadata : Metadata
  spec : Option LeaseSpec
  deriving DecidableEq

namespace LeaseSpec

/-- The wire shape of what a lease says. -/
def shape : Shape :=
  .api "LeaseSpec"
    [("acquireTime", .nullable, .instant true),
     ("holderIdentity", .nullable, .text),
     ("leaseDurationSeconds", .nullable, Shape.int32),
     ("leaseTransitions", .nullable, Shape.int32),
     ("preferredHolder", .nullable, .text),
     ("renewTime", .nullable, .instant true),
     ("strategy", .nullable, .text)]

/-- What a value of its shape writes. -/
def ofJson (j : Json) : LeaseSpec where
  holder := (j.get? "holderIdentity").bind Json.str?
  renewTime := ((j.get? "renewTime").bind Json.str?).bind fun s => (Timestamp.parse s).toOption
  duration := (j.get? "leaseDurationSeconds").bind Json.int?
  transitions := (j.get? "leaseTransitions").bind Json.int?

/-- The claim of the holder, when all parts of it are there. -/
def claim? (s : LeaseSpec) : Option LeaseClaim := do
  let holder ← s.holder
  let renewed ← s.renewTime
  let duration ← s.duration
  some ⟨holder, renewed.addSeconds duration⟩

/-- How often the holder changed, as far as that is counted. -/
def transitionCount (s : LeaseSpec) : Nat :=
  let n := s.transitions.getD 0
  if 0 ≤ n ∧ n ≤ 65535 then n.toNat else 0

end LeaseSpec

namespace Lease

/-- The `apiVersion` of leases. -/
def apiVersion : String := "coordination.k8s.io/v1"

/-- The kind of leases. -/
def kind : String := "Lease"

/-- The wire shape of a lease. -/
def shape : Shape :=
  .api kind
    [("apiVersion", .lenient (.str apiVersion), .literal apiVersion),
     ("kind", .lenient (.str kind), .literal kind),
     ("metadata", .filled (.obj []), Metadata.shape),
     ("spec", .nullable, LeaseSpec.shape)]

/-- The lease that a value of its shape writes. -/
def ofJson (j : Json) : Lease where
  metadata := Metadata.ofJson ((j.get? "metadata").getD (.obj []))
  spec := (j.get? "spec").map LeaseSpec.ofJson

end Lease

end WorkloadBindings
