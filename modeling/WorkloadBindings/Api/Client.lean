import WorkloadBindings.Api.Reply
import WorkloadBindings.Reconcile.Call
import WorkloadBindings.Resource.Metadata

/-!
# Reconcile calls as API requests

How the calls of a reconcile pass that read or write objects are put to the API. All writes name the
controller as the manager of the fields. Finalizers and status are merged into the binding; what the
status leaves out stays as it is.
-/

namespace WorkloadBindings

/-- A client of the API, by the name under which it manages fields. -/
structure Client where
  fieldManager : String
  deriving DecidableEq, Repr

namespace Client

/-- The parameter that names the manager of the fields. -/
def manager (c : Client) : List (String × String) := [("fieldManager", c.fieldManager)]

/-- The workload with a name, if there is one. -/
def get (type : ResourceType) (ns name : String) :
    Exchange (Except ApiFailure (Option Workload)) := do
  let found ← Request.send (Request.get (type.namespacedPath ns) name) Dynamic.shape id
  pure (
    match foundOrNone found with
    | .ok none => .ok none
    | .ok (some j) => (Reply.decoded (Workload.decode j)).map some
    | .error cause => .error cause)

/-- The workloads that a selector picks. -/
def list (type : ResourceType) (ns : String) (selector : Selector) :
    Exchange (Except ApiFailure (List Workload)) := do
  let found ← Request.send (Request.list (type.namespacedPath ns) selector.query)
    Dynamic.listShape Dynamic.itemsOf
  pure (found.bind fun objects => Reply.decoded (objects.mapM Workload.decode))

/-- Patches a workload. -/
def patch (c : Client) (p : WorkloadPatch) : Exchange (Except ApiFailure Unit) :=
  Request.send
    (Request.patch (p.type.namespacedPath p.namespace) p.name c.manager Request.jsonPatch
      p.patch.toJson)
    Dynamic.shape fun _ => ()

/-- The path of the bindings of a kind in a namespace. -/
def bindingsPath (id : BindingId) : String :=
  namespacedPath BindingKind.group BindingKind.version id.namespace id.kind.plural

/-- The change that replaces the finalizers of a binding. -/
def finalizersBody (resourceVersion : Option String) (finalizers : List String) : Json :=
  .obj
    [("metadata",
      .record
        [("finalizers", some (.strings finalizers)),
         ("resourceVersion", resourceVersion.map .str)])]

/-- Replaces the finalizers of a binding. -/
def patchFinalizers (c : Client) (id : BindingId) (resourceVersion : Option String)
    (finalizers : List String) : Exchange (Except ApiFailure Unit) :=
  Request.send
    (Request.patch (bindingsPath id) id.name c.manager Request.mergePatch
      (finalizersBody resourceVersion finalizers))
    Dynamic.shape fun _ => ()

/-- The change that writes the status of a binding. -/
def statusBody (status : BindingStatus) : Json := .obj [("status", status.toJson)]

/-- Writes the status of a binding. -/
def patchStatus (c : Client) (id : BindingId) (status : BindingStatus) :
    Exchange (Except ApiFailure Unit) :=
  let request : Except ApiFailure Request := do
    let path ← Request.named (bindingsPath id) id.name
    Request.make .patch (path ++ "/status") (some c.manager)
      (some (Request.mergePatch, statusBody status))
  Request.send request Dynamic.shape fun _ => ()

end Client

end WorkloadBindings
