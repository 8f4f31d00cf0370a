import WorkloadBindings.Subject.Basic

/-!
# Which requests to intercept

The admission webhook is asked about the kinds of workload that some binding is about, and always
about the four most usual ones. There is one rule for each kind, with all versions that were seen of
it, and the rules are listed in an order that does not depend on that of the bindings.
-/

namespace WorkloadBindings

/-- Requests to intercept: all versions of one type of resource. -/
structure Rule where
  group : String
  /-- The versions, ascending. -/
  versions : List String
  /-- The plural that names the resources. -/
  resource : String
  deriving DecidableEq, Repr

namespace Rule

/-- The kinds that are intercepted whatever the bindings are about. -/
def baseline : List ResourceType :=
  [⟨"apps", "v1", "Deployment"⟩, ⟨"apps", "v1", "StatefulSet"⟩, ⟨"apps", "v1", "DaemonSet"⟩,
   ⟨"batch", "v1", "Job"⟩]

/-- The versions seen of each kind. -/
abbrev Seen : Type := SortedMap GroupKind (SortedSet String)

/-- The versions with one more seen. -/
def see (seen : Seen) (r : ResourceType) : Seen :=
  seen.alter ⟨r.group, r.kind⟩ fun versions => (versions.getD .empty).insert r.version ()

/-- The rule for a kind in the versions seen of it. -/
def ofKind (gk : GroupKind) (versions : SortedSet String) : Rule :=
  ⟨gk.group, versions.toList, plural gk.kind⟩

/-- The order of rules: by group, then first version, then resource. -/
def order (a b : Rule) : Ordering :=
  (compare a.group b.group).then <|
    (compare a.versions.head? b.versions.head?).then (compare a.resource b.resource)

/-- The rules for certain subjects. -/
def synthesize (subjects : List Subject) : List Rule :=
  let seen := (baseline ++ subjects.map Subject.resourceType).foldl see .empty
  (seen.entries.map fun e => ofKind e.1 e.2).mergeSort fun a b => (order a b).isLE

/-- The requests that a rule is about. -/
def operations : List String := ["CREATE", "UPDATE"]

/-- The rule as a webhook configuration holds it: for the resources and everything below them, in
any scope, which is spelled out because the API would fill it in. -/
def toJson (r : Rule) : Json :=
  .obj
    [("apiGroups", .strings [r.group]),
     ("apiVersions", .strings r.versions),
     ("operations", .strings operations),
     ("resources", .strings [r.resource, r.resource ++ "/*"]),
     ("scope", .str "*")]

end Rule

end WorkloadBindings
