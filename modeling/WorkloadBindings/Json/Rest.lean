import WorkloadBindings.Json.Basic

/-!
# What is carried along

Some objects have many members of which only a few are ever looked into. `Rest` holds the others, in
their written form and by their names, and nothing beside them: members are taken from an object
(`Rest.get?_ofJson`), and what is found by the names is all there is (`Rest.ext_get?`). A `Verbatim`
is a value of any form that is kept as it is.
-/

namespace WorkloadBindings

/-- The members of an object with some names, in written form. -/
structure Rest (names : List String) where
  members : SortedMap String Json
  known : ∀ m ∈ members.entries, m.1 ∈ names
  deriving DecidableEq

namespace Rest

variable {names : List String}

/-- The member with a name. -/
def get? (r : Rest names) (name : String) : Option Json := r.members.get? name

/-- No members. -/
def empty : Rest names := ⟨.empty, nofun⟩

instance : EmptyCollection (Rest names) := ⟨empty⟩

@[simp] theorem get?_empty (name : String) : (∅ : Rest names).get? name = none := rfl

/-- The members of an object that have one of the names. -/
def ofJson (names : List String) (j : Json) : Rest names where
  members := .collect names j.get?
  known m hm := by
    have hfound : (SortedMap.collect names j.get?).get? m.1 = some m.2 :=
      (SortedMap.sorted _).get?_eq_some_iff.2 hm
    exact (SortedMap.get?_collect_eq_some_iff.1 hfound).1

/-- The members are those of the object. -/
theorem get?_ofJson {name : String} (h : name ∈ names) (j : Json) :
    (ofJson names j).get? name = j.get? name :=
  Option.ext fun _ => SortedMap.get?_collect_eq_some_iff.trans (and_iff_right h)

/-- There are no members with other names. -/
theorem get?_eq_none (r : Rest names) {name : String} (h : name ∉ names) : r.get? name = none :=
  Option.eq_none_iff_forall_ne_some.2 fun _ hv =>
    h (r.known _ (r.members.sorted.get?_eq_some_iff.1 hv))

/-- Members that are found alike by their names are the same. -/
theorem ext_get? {a b : Rest names} (h : ∀ name ∈ names, a.get? name = b.get? name) : a = b := by
  have hmembers : a.members = b.members := by
    refine SortedMap.ext_get? fun name => ?_
    by_cases hname : name ∈ names
    · exact h name hname
    · exact (a.get?_eq_none hname).trans (b.get?_eq_none hname).symm
  cases a
  cases b
  cases hmembers
  rfl

end Rest

/-- Any value; its objects list their members in ascending order of their names, as all do that are
read. -/
structure Verbatim where
  value : Json
  ordered : value.isOrdered = true
  deriving DecidableEq

namespace Verbatim

/-- The value as it is. Objects with their names out of order stand for nothing. -/
def ofJson (j : Json) : Verbatim :=
  if h : j.isOrdered = true then ⟨j, h⟩ else ⟨.null, rfl⟩

/-- A value that was written is read as it was. -/
theorem ofJson_value (v : Verbatim) : ofJson v.value = v := dif_pos v.ordered

end Verbatim

end WorkloadBindings
