import WorkloadBindings.Index.Dispatch
import WorkloadBindings.Index.Rule
import WorkloadBindings.Metrics

/-!
# The store of bindings

The store holds the bindings of both kinds as the API reports them: one at a time, or a whole
listing with what is gone since the one before. A binding that is being deleted, or whose reference
resolves to no subject, is not held. Whenever the bindings change, or a kind has been listed for the
first time, a snapshot of them is published and whoever waits for changes is notified; otherwise
nothing happens. The order of the bindings is that of their identities, which decides between two
that name the same workload.
-/

namespace WorkloadBindings

/-- The counts last published. -/
structure IndexGauges where
  bindings : PerKind Nat
  exact : Nat
  inexact : Nat
  deriving DecidableEq

/-- The counts of the store. -/
structure IndexMetrics where
  malformed : PerKind Nat := .both 0
  rebuilds : Nat := 0
  gauges : Option IndexGauges := none
  deriving DecidableEq

namespace IndexMetrics

/-- The samples of the store. -/
def samples (m : IndexMetrics) : List String :=
  let gauges :=
    match m.gauges with
    | none => []
    | some g =>
      (BindingKind.all.map fun k =>
        Metrics.sample "bindings" [("kind", k.name)] (g.bindings.get k)) ++
      [Metrics.sample "dispatch_entries" [("selection", "name")] g.exact,
       Metrics.sample "dispatch_entries" [("selection", "selector")] g.inexact]
  Metrics.sorted
    (gauges ++ (BindingKind.all.flatMap fun k =>
      Metrics.counted "malformed_total" [("kind", k.name)] (m.malformed.get k)) ++
    [Metrics.sample "rebuilds_total" [] m.rebuilds])

end IndexMetrics

/-- The bindings of both kinds, with what was published of them. -/
structure Store where
  bindings : SortedMap BindingId Binding := .empty
  /-- The kinds that have been listed. -/
  listed : PerKind Bool := .both false
  /-- The snapshot last published. -/
  snapshot : Snapshot := {}
  /-- How often whoever waits for changes was notified. -/
  notifications : Nat := 0
  metrics : IndexMetrics := {}
  deriving DecidableEq

namespace Store

/-- Both kinds have been listed. -/
def isSynced (s : Store) : Bool := BindingKind.all.all s.listed.get

/-- The subjects of the bindings, in the order of their identities. -/
def subjects (s : Store) : List Subject := s.bindings.values.map Binding.subject

/-- The requests to intercept for the bindings. -/
def rules (s : Store) : List Rule := Rule.synthesize s.subjects

/-- The number of bindings of a kind. -/
def count (s : Store) (k : BindingKind) : Nat :=
  (s.bindings.keys.filter fun id => id.kind == k).length

/-- Takes a binding out, and tells whether it was there. -/
def take (s : Store) (id : BindingId) : Bool × Store :=
  (s.bindings.contains id, { s with bindings := s.bindings.erase id })

/-- Records what the API reports of a binding, and tells whether the bindings changed. -/
def record (s : Store) (r : BindingResource) : Except Abort (Bool × Store) := do
  let id ← r.id
  if r.isDeleting then .ok (s.take id)
  else
    match ← Binding.ofResource r with
    | .ok b =>
      if s.bindings.get? id = some b then .ok (false, s)
      else .ok (true, { s with bindings := s.bindings.insert id b })
    | .error _ =>
      let counted := { s.metrics with malformed := s.metrics.malformed.modify r.kind (· + 1) }
      .ok ({ s with metrics := counted }.take id)

/-- Publishes a snapshot of the bindings and notifies. -/
def publish (s : Store) : Store :=
  let snapshot := Snapshot.rebuild s.bindings.values
  let gauges : IndexGauges :=
    ⟨⟨s.count .secret, s.count .env⟩, snapshot.exactCount, snapshot.inexactCount⟩
  { s with
    snapshot := snapshot
    notifications := s.notifications + 1
    metrics := { s.metrics with rebuilds := s.metrics.rebuilds + 1, gauges := some gauges } }

/-- Publishes if something changed. -/
def publishIf (changed : Bool) (s : Store) : Store := if changed then s.publish else s

/-- The store after the API reported a binding. -/
def apply (s : Store) (r : BindingResource) : Except Abort Store :=
  (s.record r).map fun (changed, s) => publishIf changed s

/-- The store after the API reported that a binding is gone. -/
def delete (s : Store) (id : BindingId) : Store :=
  let (changed, s) := s.take id
  publishIf changed s

/-- Records a list of bindings, and tells whether any of them changed the store. -/
def recordAll (s : Store) : List BindingResource → Except Abort (Bool × Store)
  | [] => .ok (false, s)
  | r :: rest => do
    let (changed, s) ← s.record r
    let (more, s) ← s.recordAll rest
    .ok (changed || more, s)

/-- Takes bindings out, and tells whether any of them was there. -/
def takeAll (s : Store) : List BindingId → Bool × Store
  | [] => (false, s)
  | id :: rest =>
    let (changed, s) := s.take id
    let (more, s) := s.takeAll rest
    (changed || more, s)

/-- The store after the API listed the bindings of a kind, with those that are gone since the last
listing, by namespace and name. The first listing of a kind is a change even when it is empty. -/
def reset (s : Store) (k : BindingKind) (listing : List BindingResource)
    (removed : List (String × String)) : Except Abort Store := do
  let first := !s.listed.get k
  let s := { s with listed := s.listed.modify k fun _ => true }
  let (changed, s) ← s.recordAll listing
  let (gone, s) := s.takeAll (removed.map fun e => ⟨k, e.1, e.2⟩)
  .ok (publishIf (first || changed || gone) s)

end Store

end WorkloadBindings
