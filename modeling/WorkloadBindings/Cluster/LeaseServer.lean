import WorkloadBindings.Cluster.WebhookServer
import WorkloadBindings.Json.Patch
import WorkloadBindings.Lease.Election

/-!
# An API that holds a lease

Answers the requests of replicas that compete for a lease out of a deployment and a lease in memory.
Every accepted write gives the lease a new version, and a write that names another version than the
present one is refused.
-/

namespace WorkloadBindings

/-- The replies that certain sorts of request get in place of their own. -/
structure LeaseFaults where
  deployment : Option Reply := none
  /-- A write that would create the lease. -/
  create : Option Reply := none
  /-- A write that applies a claim. -/
  apply : Option Reply := none
  get : Option Reply := none
  /-- A write that merges into the lease. -/
  merge : Option Reply := none
  deriving DecidableEq

/-- A deployment and a lease, and the requests so far. -/
structure LeaseServer where
  deployment : Option Json
  lease : Option Json
  faults : LeaseFaults := {}
  /-- The version that the last write gave. -/
  version : Nat := 100
  requests : List Request := []
  deriving DecidableEq

namespace LeaseServer

/-- The lease that is there before anything is written into it. -/
def blank : Json :=
  .obj
    [("apiVersion", .str Lease.apiVersion), ("kind", .str Lease.kind), ("metadata", .obj []),
     ("spec", .obj [])]

/-- The version that an object carries. -/
def versionOf (j : Json) : Option String :=
  ((j.get? "metadata").bind (·.get? "resourceVersion")).bind Json.str?

/-- The reply to a request that reads something. -/
def read (fault : Option Reply) (value : Option Json) : Reply :=
  match fault, value with
  | some r, _ => r
  | none, none => .refusal (.notFound "not found")
  | none, some j => .bringing j

/-- Merges a change into a lease under the next version. -/
def write (s : LeaseServer) (lease change : Json) : Reply × LeaseServer :=
  let version := s.version + 1
  let merged := Json.merge lease change
  let metadata := (merged.get? "metadata").getD (.obj [])
  let written := merged.set "metadata" (metadata.set "resourceVersion" (.str (toString version)))
  (.bringing written, { s with lease := some written, version })

/-- The refusal of a write that names another version than the present one. -/
def conflict : ApiError :=
  { message := "resource version mismatch", reason := "Conflict", code := 409 }

/-- The reply to a write, and the server after it. -/
def patch (s : LeaseServer) (applies : Bool) (change : Json) : Reply × LeaseServer :=
  match s.lease with
  | none =>
    match if applies then s.faults.create else s.faults.merge with
    | some r => (r, s)
    | none => if applies then s.write blank change else (.refusal (.notFound "not found"), s)
  | some lease =>
    match if applies then s.faults.apply else s.faults.merge with
    | some r => (r, s)
    | none =>
      if versionOf change = versionOf lease then s.write lease change else (.refusal conflict, s)

/-- The reply to a request, and the server after it. -/
def answer (r : Request) (s : LeaseServer) : Reply × LeaseServer :=
  let s := { s with requests := s.requests ++ [r] }
  match r.method, r.body with
  | .patch, some change => s.patch (decide (r.contentType = some Request.applyPatch)) change
  | _, _ =>
    if "/apis/apps/".toList.isPrefixOf r.path.toList then (read s.faults.deployment s.deployment, s)
    else (read s.faults.get s.lease, s)

end LeaseServer

end WorkloadBindings
