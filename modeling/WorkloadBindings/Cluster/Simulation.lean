import WorkloadBindings.Cluster.Basic
import WorkloadBindings.Index.Tracker

/-!
# Controllers at work in a cluster

A `Simulation` lets the controllers of both kinds act on a cluster that also holds the bindings. A
change of a binding, or of a workload that is watched, puts bindings into a queue; `settle` takes
them out one at a time and reconciles each as it is stored then, until the queue is empty. A clock
that moves only when it is told to brings passes back whose time has come. Every write gives the
object that it changes the next version.
-/

namespace WorkloadBindings

/-- A cluster with its bindings and the controllers that act on it. -/
structure Simulation where
  cluster : Cluster := {}
  bindings : SortedMap BindingId BindingResource := .empty
  /-- The version that the last write gave. -/
  version : Nat := 0
  /-- The present, in nanoseconds. -/
  clock : Nat := 0
  /-- The bindings to reconcile now. -/
  queue : List BindingId := []
  /-- When bindings are to be reconciled again. -/
  due : SortedMap BindingId Nat := .empty
  /-- This replica holds the lease. -/
  leads : Bool := true
  /-- The controllers have come to an end. -/
  finished : Bool := false

namespace Simulation

/-! ## Changes -/

/-- Puts a binding into the queue, in place of a later turn. -/
def trigger (s : Simulation) (id : BindingId) : Simulation :=
  { s with
    queue := if s.queue.contains id then s.queue else s.queue ++ [id]
    due := s.due.erase id }

/-- The bindings to look at upon an event about a workload of some plural. -/
def triggeredBy (s : Simulation) (plural : String) (w : Workload) : List BindingId :=
  (Controller.watched.filter fun type => type.plural == plural).flatMap fun type =>
    BindingKind.all.flatMap fun k =>
      Controller.triggered k s.cluster.memory.tracker type w.metadata

/-- Lets the controllers see an event about a workload. -/
def seeWorkload (s : Simulation) (plural : String) (w : Workload) : Simulation :=
  (s.triggeredBy plural w).foldl trigger s

/-- The simulation without a binding. -/
def forget (s : Simulation) (id : BindingId) : Simulation :=
  { s with
    bindings := s.bindings.erase id
    due := s.due.erase id
    queue := s.queue.filter (· != id) }

/-- Stores a binding under the next version. One that is being deleted and that no finalizer keeps
is gone. -/
def store (s : Simulation) (id : BindingId) (r : BindingResource) : Simulation :=
  let version := s.version + 1
  if r.isDeleting && r.finalizers.isEmpty then { s with version }.forget id
  else
    let versioned := { r.metadata with resourceVersion := some (toString version) }
    { s with
      version
      bindings := s.bindings.insert id { r with metadata := versioned } }.trigger id

/-- Stores a change of a binding, if it is there. -/
def restore (s : Simulation) (id : BindingId) (f : BindingResource → BindingResource) :
    Simulation :=
  match s.bindings.get? id with
  | some r => s.store id (f r)
  | none => s

/-- Lets the controllers see what a request changed. -/
def see (s : Simulation) : Touch → Simulation
  | .workload plural w => { s with version := s.version + 1 }.seeWorkload plural w
  | .finalizers id finalizers =>
    s.restore id fun r => { r with metadata := { r.metadata with finalizers := some finalizers } }
  | .status id status => s.restore id fun r => { r with status := some status }

/-- Puts a workload of some plural into the cluster. -/
def putWorkload (s : Simulation) (plural : String) (w : Workload) : Simulation :=
  { s with cluster := s.cluster.put plural w, version := s.version + 1 }.seeWorkload plural w

/-- The plural that the key of a workload begins with. -/
def pluralOfKey (key : String) : String := String.ofList (key.toList.takeWhile (· ≠ '/'))

/-- Takes a workload out of the cluster. -/
def removeWorkload (s : Simulation) (key : String) : Simulation :=
  match s.cluster.workloads.get? key with
  | none => s
  | some w =>
    { s with
      version := s.version + 1
      cluster := { s.cluster with workloads := s.cluster.workloads.erase key } }.seeWorkload
        (pluralOfKey key) w

/-- Puts a binding into the cluster; one that is there keeps its finalizers and status. -/
def putBinding (s : Simulation) (id : BindingId) (r : BindingResource) : Simulation :=
  match s.bindings.get? id with
  | none => s.store id r
  | some old =>
    s.store id
      { r with
        metadata := { r.metadata with finalizers := old.metadata.finalizers }
        status := old.status }

/-- Asks for the deletion of a binding. -/
def deleteBinding (s : Simulation) (id : BindingId) (time : String) : Simulation :=
  s.restore id fun r => { r with metadata := { r.metadata with deletionTimestamp := some time } }

/-! ## Passes -/

/-- Sets when a binding is to be reconciled again. -/
def schedule (s : Simulation) (id : BindingId) (delay : Nat) : Simulation :=
  if s.queue.contains id then s else { s with due := s.due.insert id (s.clock + delay) }

/-- Reconciles a binding as it is stored. -/
def reconcile (s : Simulation) (p : ReconcileParams) (now : Timestamp) (id : BindingId) :
    Except Abort Simulation := do
  match s.bindings.get? id with
  | none => .ok s
  | some r =>
    let (outcome, cluster) := { s.cluster with touched := [] }.reconcile s.leads p.resync now r
    let after := cluster.touched.foldl see { s with cluster }
    match ← outcome with
    | .ok .awaitChange => .ok after
    | .ok (.requeue delay) => .ok (after.schedule id delay)
    | .error _ =>
      let (delay, memory) := after.cluster.memory.backoff p id
      .ok ({ after with cluster := { after.cluster with memory } }.schedule id delay)

/-- Reconciles the bindings in the queue, and those that this puts there, at most `patience`
times. -/
def settle (p : ReconcileParams) (now : Timestamp) :
    (patience : Nat) → Simulation → Except Abort Simulation
  | 0, s => .ok s
  | patience + 1, s =>
    match s.queue with
    | [] => .ok s
    | id :: rest => do
      let s ← { s with queue := rest }.reconcile p now id
      settle p now patience s

/-- The next binding whose turn comes until some time, and when. -/
def next? (s : Simulation) (limit : Nat) : Option (BindingId × Nat) :=
  (s.due.entries.filter fun e => e.2 ≤ limit).foldl
    (fun best e =>
      match best with
      | some b => if e.2 < b.2 then some e else some b
      | none => some e)
    none

/-- Moves the clock to a time, and reconciles the bindings whose turn comes on the way. -/
def advance (p : ReconcileParams) (now : Timestamp) (limit : Nat) :
    (patience : Nat) → Simulation → Except Abort Simulation
  | 0, s => .ok s
  | patience + 1, s => do
    let s ← settle p now (patience + 1) s
    match s.next? limit with
    | none => .ok { s with clock := limit }
    | some (id, time) =>
      advance p now limit patience ({ s with clock := max s.clock time }.trigger id)

/-- Moves the clock on, unless the controllers have come to an end. -/
def pass (p : ReconcileParams) (now : Timestamp) (patience delay : Nat) (s : Simulation) :
    Except Abort Simulation :=
  if s.finished then .ok s else advance p now (s.clock + delay) patience s

end Simulation

end WorkloadBindings
