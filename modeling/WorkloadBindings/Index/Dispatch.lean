import WorkloadBindings.Binding.Basic

/-!
# Which bindings apply to a workload

A snapshot indexes a list of bindings so that those of a workload are found without a scan. For each
kind of binding there are two indexes. One holds the bindings that name their workload, and of
several that name the same workload the last one in the list counts; the other holds those that
select by labels, and the first one in the list that matches counts. A binding that names a workload
comes before any that selects it, so that at most one binding of each kind applies.
-/

namespace WorkloadBindings

/-- A kind of workload in a namespace. -/
structure Place where
  groupKind : GroupKind
  «namespace» : String
  deriving DecidableEq, Repr

namespace Place

/-- The order of places: by kind, then namespace. -/
def order : Place → Place → Ordering :=
  compareLex (compareOn Place.groupKind) (compareOn Place.namespace)

instance : Ord Place := ⟨order⟩

instance : Std.TransOrd Place :=
  inferInstanceAs (Std.TransCmp
    (compareLex (compareOn Place.groupKind) (compareOn Place.namespace)))

instance : Std.LawfulEqOrd Place where
  compare_self := Std.ReflCmp.compare_self
  eq_of_compare {a b} h := by
    obtain ⟨h₁, h₂⟩ := (Ordering.then_eq_eq.1 h : _ ∧ _)
    obtain ⟨ga, sa⟩ := a
    obtain ⟨gb, sb⟩ := b
    obtain rfl : ga = gb := Std.LawfulEqCmp.eq_of_compare h₁
    obtain rfl : sa = sb := Std.LawfulEqCmp.eq_of_compare h₂
    rfl

end Place

/-- A workload named by its place and name. -/
structure Claim where
  place : Place
  name : String
  deriving DecidableEq, Repr

namespace Claim

/-- The order of claims: by place, then name. -/
def order : Claim → Claim → Ordering := compareLex (compareOn Claim.place) (compareOn Claim.name)

instance : Ord Claim := ⟨order⟩

instance : Std.TransOrd Claim :=
  inferInstanceAs (Std.TransCmp (compareLex (compareOn Claim.place) (compareOn Claim.name)))

instance : Std.LawfulEqOrd Claim where
  compare_self := Std.ReflCmp.compare_self
  eq_of_compare {a b} h := by
    obtain ⟨h₁, h₂⟩ := (Ordering.then_eq_eq.1 h : _ ∧ _)
    obtain ⟨pa, na⟩ := a
    obtain ⟨pb, nb⟩ := b
    obtain rfl : pa = pb := Std.LawfulEqCmp.eq_of_compare h₁
    obtain rfl : na = nb := Std.LawfulEqCmp.eq_of_compare h₂
    rfl

end Claim

/-- The place of the workloads a subject is about. -/
def Subject.place (s : Subject) : Place := ⟨s.groupKind, s.namespace⟩

/-- The place of a workload. -/
def Target.place (t : Target) : Place := ⟨t.groupKind, t.namespace⟩

/-- The claim that names a workload. -/
def Target.claim (t : Target) : Claim := ⟨t.place, t.name⟩

/-- The bindings of one kind, indexed. -/
structure KindIndex where
  /-- The binding that names a workload. -/
  exact : SortedMap Claim Binding := .empty
  /-- The bindings that select workloads of a place, in the order of the list. -/
  inexact : SortedMap Place (List (Selector × Binding)) := .empty
  deriving DecidableEq

namespace KindIndex

/-- The index with one more binding at the end of the list. -/
def add (index : KindIndex) (b : Binding) : KindIndex :=
  match b.subject.selection with
  | .name name => { index with exact := index.exact.insert ⟨b.subject.place, name⟩ b }
  | .selector s =>
    { index with
      inexact := index.inexact.alter b.subject.place fun old => old.getD [] ++ [(s, b)] }

/-- The binding that applies to a workload: the one that names it, or else the first whose selector
matches. -/
def lookup (index : KindIndex) (t : Target) : Option Binding :=
  match index.exact.get? t.claim with
  | some b => some b
  | none =>
    (((index.inexact.get? t.place).getD []).find? fun e => e.1.accepts t.labels).map Prod.snd

/-- The number of workloads named. -/
def exactCount (index : KindIndex) : Nat := index.exact.size

/-- The number of bindings that select by labels. -/
def inexactCount (index : KindIndex) : Nat :=
  index.inexact.values.foldr (fun entries n => entries.length + n) 0

end KindIndex

/-- A list of bindings, indexed by kind. -/
structure Snapshot where
  kinds : PerKind KindIndex := .both {}
  deriving DecidableEq

namespace Snapshot

/-- The snapshot of no bindings. -/
def empty : Snapshot := {}

/-- The snapshot with one more binding at the end of the list. -/
def add (s : Snapshot) (b : Binding) : Snapshot := ⟨s.kinds.modify b.id.kind (·.add b)⟩

/-- The snapshot of a list of bindings. -/
def rebuild (bindings : List Binding) : Snapshot := bindings.foldl add empty

/-- The binding of a kind that applies to a workload. -/
def lookupKind (s : Snapshot) (k : BindingKind) (t : Target) : Option Binding :=
  (s.kinds.get k).lookup t

/-- The bindings that apply to a workload, at most one of each kind, in the order of the kinds. -/
def lookup (s : Snapshot) (t : Target) : List Binding :=
  BindingKind.all.filterMap fun k => s.lookupKind k t

/-- The binding of a kind that names a workload. -/
def exactClaim (s : Snapshot) (k : BindingKind) (c : Claim) : Option BindingId :=
  ((s.kinds.get k).exact.get? c).map Binding.id

/-- The number of workloads named, counted for each kind. -/
def exactCount (s : Snapshot) : Nat := s.kinds.secret.exactCount + s.kinds.env.exactCount

/-- The number of bindings that select by labels. -/
def inexactCount (s : Snapshot) : Nat := s.kinds.secret.inexactCount + s.kinds.env.inexactCount

end Snapshot

end WorkloadBindings
