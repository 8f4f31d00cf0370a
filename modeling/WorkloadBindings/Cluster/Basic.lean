import WorkloadBindings.Reconcile.Memory
import WorkloadBindings.Reconcile.Pass

/-!
# A cluster in memory

A `Cluster` answers the calls of reconcile passes out of a map of workloads. A patch changes the
workload it is for, what is written of a binding is kept, and every call but the notes is logged, a
call for several patches as one entry for each. Requests can be made to fail by rules. It serves to
carry passes out without an API.
-/

namespace WorkloadBindings

/-- Which requests of one sort fail. -/
inductive Fault where
  /-- All of them. -/
  | always (e : ApiError)
  /-- Those about certain names. -/
  | named (errors : List (String × ApiError))
  deriving DecidableEq

namespace Fault

/-- The failure of a request about a name. -/
def of (f : Fault) (name : String) : Option ApiError :=
  match f with
  | always e => some e
  | named errors => Assoc.get? name errors

end Fault

/-- Which requests fail. -/
structure Faults where
  get : Fault := .named []
  list : Fault := .named []
  patch : Fault := .named []
  finalizers : Fault := .named []
  status : Fault := .named []
  deriving DecidableEq

/-- What a request changed. -/
inductive Touch where
  /-- A workload of some plural, as it is now. -/
  | workload (plural : String) (w : Workload)
  /-- The finalizers of a binding. -/
  | finalizers (id : BindingId) (finalizers : List String)
  /-- The status of a binding. -/
  | status (id : BindingId) (status : BindingStatus)
  deriving DecidableEq

/-- Workloads, and what passes wrote and asked. -/
structure Cluster where
  /-- The workloads by plural, namespace and name. -/
  workloads : SortedMap String Workload := .empty
  /-- The finalizers last written of a binding. -/
  finalizers : SortedMap BindingId (List String) := .empty
  /-- The status last written of a binding. -/
  statuses : SortedMap BindingId BindingStatus := .empty
  faults : Faults := {}
  memory : Memory := {}
  /-- The calls, in order. -/
  log : List Call := []
  /-- What the calls changed, in order. -/
  touched : List Touch := []

namespace Cluster

/-- The key of a workload. -/
def key (plural ns name : String) : String := plural ++ "/" ++ ns ++ "/" ++ name

/-- The key under which a workload of some plural is kept. -/
def keyOf (plural : String) (w : Workload) : String :=
  key plural w.metadata.namespaceOrEmpty (w.metadata.name.getD "")

/-- The cluster with a workload put in. -/
def put (s : Cluster) (plural : String) (w : Workload) : Cluster :=
  { s with workloads := s.workloads.insert (keyOf plural w) w }

/-- The cluster with a call logged. -/
def logged (s : Cluster) (c : Call) : Cluster := { s with log := s.log ++ [c] }

/-- The cluster with a change recorded. -/
def touch (s : Cluster) (t : Touch) : Cluster := { s with touched := s.touched ++ [t] }

/-- A refusal if a rule asks for one, and otherwise what the request answers. -/
def unlessFaulty {α : Type} (fault : Option ApiError) (answer : α) : Except ApiFailure α :=
  match fault with
  | some e => .error (.refused e)
  | none => .ok answer

/-- The workloads of a plural in a namespace that a selector picks, in the order of their keys. -/
def select (s : Cluster) (plural ns : String) (selector : Selector) : List Workload :=
  (s.workloads.entries.filter fun e =>
    (key plural ns "").toList.isPrefixOf e.1.toList && selector.accepts e.2.metadata.labelSet).map
    Prod.snd

/-- The workload after a patch of its JSON form. -/
def patched? (w : Workload) (patch : Patch) : Option Workload :=
  match w.toJson.applyPatch patch with
  | none => none
  | some j => (Workload.decode j).toOption

/-- The answer to one patch, and the cluster after it. -/
def patchOne (s : Cluster) (p : WorkloadPatch) : Except ApiFailure Unit × Cluster :=
  let t := s.logged (.patchAll [p])
  let target := key p.type.plural p.namespace p.name
  match s.faults.patch.of p.name, s.workloads.get? target with
  | some e, _ => (.error (.refused e), t)
  | none, none => (.error (.refused (.notFound "gone")), t)
  | none, some w =>
    match patched? w p.patch with
    | some w =>
      (.ok (),
        { t with workloads := t.workloads.insert target w }.touch (.workload p.type.plural w))
    | none => (.ok (), t)

/-- The answers to some patches, carried out in their order, and the cluster after them. -/
def patchEach (s : Cluster) :
    (patches : List WorkloadPatch) → PatchResults patches × Cluster
  | [] => (⟨[], rfl⟩, s)
  | p :: rest =>
    let (first, s) := s.patchOne p
    let (others, s) := s.patchEach rest
    (⟨first :: others.val, by simp [others.property]⟩, s)

/-- The cluster after the finalizers of a binding are written. -/
def writeFinalizers (s : Cluster) (id : BindingId) (finalizers : List String) : Cluster :=
  { s with finalizers := s.finalizers.insert id finalizers }.touch (.finalizers id finalizers)

/-- The cluster after the status of a binding is written. -/
def writeStatus (s : Cluster) (id : BindingId) (status : BindingStatus) : Cluster :=
  { s with statuses := s.statuses.insert id status }.touch (.status id status)

/-- The answer to a call, and the cluster after it. -/
def answer : (c : Call) → Cluster → c.Answer × Cluster
  | .get type ns name, s =>
    (unlessFaulty (s.faults.get.of name) (s.workloads.get? (key type.plural ns name)),
      s.logged (.get type ns name))
  | .list type ns selector, s =>
    (unlessFaulty (s.faults.list.of "") (s.select type.plural ns selector),
      s.logged (.list type ns selector))
  | .patchAll patches, s => s.patchEach patches
  | .finalizers id resourceVersion finalizers, s =>
    let t := s.logged (.finalizers id resourceVersion finalizers)
    match s.faults.finalizers.of id.name with
    | some e => (.error (.refused e), t)
    | none => (.ok (), t.writeFinalizers id finalizers)
  | .status id status, s =>
    let t := s.logged (.status id status)
    match s.faults.status.of id.name with
    | some e => (.error (.refused e), t)
    | none => (.ok (), t.writeStatus id status)
  | .event e, s => ((), s.logged (.event e))
  | .note n, s => ((), { s with memory := s.memory.record n })

/-- The outcome of a pass in the cluster, and the cluster after it. -/
def reconcile (s : Cluster) (leads : Bool) (resync : Nat) (now : Timestamp)
    (r : BindingResource) : Except Abort (Except ReconcileError Action) × Cluster :=
  (Reconcile.pass leads resync now r).run answer s

/-- A binding with the finalizers and the status that were last written of it. -/
def carry (s : Cluster) (r : BindingResource) (id : BindingId) : BindingResource :=
  { r with
    metadata := { r.metadata with finalizers := (s.finalizers.get? id).or r.metadata.finalizers }
    status := (s.statuses.get? id).or r.status }

end Cluster

end WorkloadBindings
