import WorkloadBindings.Binding.Basic

/-!
# Which bindings to look at when a workload changes

The tracker remembers the subject that each binding had when it was last reconciled, so that a
change of a workload leads back to the bindings that are about it. There is a controller for each kind
of binding, and both watch workloads of five kinds. When one of these changes, appears or goes, each
controller looks at the bindings of its own kind that the tracker knows to be about it.
-/

namespace WorkloadBindings

/-- The subjects of the bindings that were reconciled. -/
structure Tracker where
  subjects : SortedMap BindingId Subject := .empty
  deriving DecidableEq

namespace Tracker

/-- Remembers the subject of a binding. -/
def track (t : Tracker) (id : BindingId) (s : Subject) : Tracker := ⟨t.subjects.insert id s⟩

/-- Forgets a binding. -/
def untrack (t : Tracker) (id : BindingId) : Tracker := ⟨t.subjects.erase id⟩

/-- The binding is remembered. -/
def isTracked (t : Tracker) (id : BindingId) : Bool := t.subjects.contains id

/-- The bindings whose subject selects a workload, in the order of their identities. -/
def bindingsFor (t : Tracker) (workload : Target) : List BindingId :=
  (t.subjects.entries.filter fun e => e.2.selects workload).map Prod.fst

end Tracker

/-! ## What the controllers watch -/

namespace Controller

/-- The types of workload that are watched. -/
def watched : List ResourceType :=
  [⟨"apps", "v1", "Deployment"⟩, ⟨"apps", "v1", "StatefulSet"⟩, ⟨"apps", "v1", "DaemonSet"⟩,
   ⟨"apps", "v1", "ReplicaSet"⟩, ⟨"batch", "v1", "Job"⟩]

/-- What a selection looks at in an object of a type. -/
def targetOf (type : ResourceType) (m : Metadata) : Target :=
  ⟨⟨type.group, type.kind⟩, m.namespaceOrEmpty, m.nameAny, m.labelSet⟩

/-- The bindings of a kind to look at upon an event about an object of a type. -/
def triggered (k : BindingKind) (t : Tracker) (type : ResourceType) (m : Metadata) :
    List BindingId :=
  (t.bindingsFor (targetOf type m)).filter fun id => id.kind == k

/-- The path under which all objects of a type are listed. -/
def listPath (type : ResourceType) : String := "/apis/" ++ type.apiVersion ++ "/" ++ type.plural

/-- The path under which all bindings of a kind are listed. -/
def bindingListPath (k : BindingKind) : String :=
  "/apis/" ++ BindingKind.apiVersion ++ "/" ++ k.plural

/-- The paths that the controllers list and watch. -/
def watchedPaths : List String :=
  watched.map listPath ++ BindingKind.all.map bindingListPath

end Controller

end WorkloadBindings
