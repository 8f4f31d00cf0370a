import WorkloadBindings.SortedMap

/-!
# Kinds and identities of bindings

There are two kinds of binding, one that mounts a secret and one that sets environment variables. A
binding is identified by its kind, its namespace and its name, and identities are ordered in this
order, the secret bindings first.
-/

namespace WorkloadBindings

/-- A kind of binding. -/
inductive BindingKind where
  | secret
  | env
  deriving DecidableEq, Repr

namespace BindingKind

/-- The kinds, in order. -/
def all : List BindingKind := [secret, env]

/-- The group of the binding kinds. -/
def group : String := "bindings.podspec.dev"

/-- The version of the binding kinds. -/
def version : String := "v1alpha1"

/-- The `apiVersion` of the binding kinds. -/
def apiVersion : String := group ++ "/" ++ version

/-- The label that, set to `true`, keeps an object from being changed by bindings. -/
def excludeLabel : String := "bindings.podspec.dev/exclude"

/-- The name of the kind. -/
def name : BindingKind → String
  | secret => "SecretBinding"
  | env => "EnvBinding"

/-- The plural that names the resources of the kind. -/
def plural : BindingKind → String
  | secret => "secretbindings"
  | env => "envbindings"

/-- The finalizer by which the kind keeps its bindings until they are undone. -/
def finalizer (k : BindingKind) : String := k.plural ++ "." ++ group

/-- The place of the kind in the order. -/
def rank : BindingKind → Nat
  | secret => 0
  | env => 1

theorem rank_injective {a b : BindingKind} (h : a.rank = b.rank) : a = b := by
  cases a <;> cases b <;> simp_all [rank]

instance : Ord BindingKind := ⟨compareOn rank⟩

end BindingKind

/-- A value for each kind of binding. -/
structure PerKind (α : Type) where
  secret : α
  env : α
  deriving DecidableEq

namespace PerKind

/-- The same value for both kinds. -/
def both {α : Type} (a : α) : PerKind α := ⟨a, a⟩

/-- The value for a kind. -/
def get {α : Type} (p : PerKind α) : BindingKind → α
  | .secret => p.secret
  | .env => p.env

/-- The values with that of one kind changed. -/
def modify {α : Type} (p : PerKind α) (k : BindingKind) (f : α → α) : PerKind α :=
  match k with
  | .secret => { p with secret := f p.secret }
  | .env => { p with env := f p.env }

/-- A change of one kind's value leaves that of the other kind. -/
theorem get_modify {α : Type} (p : PerKind α) (k l : BindingKind) (f : α → α) :
    (p.modify k f).get l = if k = l then f (p.get l) else p.get l := by
  cases k <;> cases l <;> rfl

/-- A value that is there already is not changed by putting it in. -/
theorem modify_of_get {α : Type} {p : PerKind α} {k : BindingKind} {a : α} (h : p.get k = a) :
    p.modify k (fun _ => a) = p := by
  subst h
  cases k <;> rfl

end PerKind

/-- The identity of a binding. -/
structure BindingId where
  kind : BindingKind
  «namespace» : String
  name : String
  deriving DecidableEq, Repr

namespace BindingId

/-- The order of identities: by kind, then namespace, then name. -/
def order : BindingId → BindingId → Ordering :=
  compareLex (compareOn fun id => id.kind.rank)
    (compareLex (compareOn BindingId.namespace) (compareOn BindingId.name))

instance : Ord BindingId := ⟨order⟩

instance : Std.TransOrd BindingId :=
  inferInstanceAs (Std.TransCmp
    (compareLex (compareOn fun id : BindingId => id.kind.rank)
      (compareLex (compareOn BindingId.namespace) (compareOn BindingId.name))))

instance : Std.LawfulEqOrd BindingId where
  compare_self := Std.ReflCmp.compare_self
  eq_of_compare {a b} h := by
    obtain ⟨h₁, h₂⟩ := (Ordering.then_eq_eq.1 h : _ ∧ _)
    obtain ⟨h₂, h₃⟩ := (Ordering.then_eq_eq.1 h₂ : _ ∧ _)
    obtain ⟨ka, sa, na⟩ := a
    obtain ⟨kb, sb, nb⟩ := b
    obtain rfl : ka = kb := BindingKind.rank_injective (Std.LawfulEqCmp.eq_of_compare h₁)
    obtain rfl : sa = sb := Std.LawfulEqCmp.eq_of_compare h₂
    obtain rfl : na = nb := Std.LawfulEqCmp.eq_of_compare h₃
    rfl

/-- The identity in messages. -/
def render (id : BindingId) : String := id.kind.name ++ "/" ++ id.namespace ++ "." ++ id.name

/-- The identity with its version and group, as logs refer to the resource. -/
def objectRef (id : BindingId) : String :=
  id.kind.name ++ "." ++ BindingKind.version ++ "." ++ BindingKind.group ++ "/" ++ id.name ++ "." ++
    id.namespace

end BindingId

end WorkloadBindings
