import WorkloadBindings.Json.Patch
import WorkloadBindings.Proofs.Json.Ordered

/-!
# What merge patches leave

A merge patch of an object is carried out member by member: a member that the patch names is merged
with what is there, or taken away by a null, and all others stay (`get?_mergeMembers`). So a patch
that leaves a member out does not clear it.
-/

namespace WorkloadBindings.Json

/-- A change that is not null is merged with what is there. -/
theorem mergeMembers_cons (ms : Members) (name : String) {change : Json} (h : change ≠ .null)
    (rest : Members) :
    mergeMembers ms ((name, change) :: rest) =
      mergeMembers (Assoc.insert name (merge ((Assoc.get? name ms).getD .null) change) ms) rest := by
  cases change with
  | null => exact absurd rfl h
  | _ => rfl

/-- What is found in members after a merge patch. -/
theorem get?_mergeMembers {changes : Members} (h : Assoc.Sorted changes) (ms : Members)
    (name : String) :
    Assoc.get? name (mergeMembers ms changes) =
      (Assoc.get? name changes).elim (Assoc.get? name ms) fun change =>
        if change = .null then none
        else some (merge ((Assoc.get? name ms).getD .null) change) := by
  induction changes generalizing ms with
  | nil => rfl
  | cons hd rest ih =>
    obtain ⟨n, change⟩ := hd
    obtain ⟨hfirst, hrest⟩ := List.pairwise_cons.1 h
    by_cases hname : name = n
    · -- None of the other changes is for the name.
      subst hname
      have hnone : Assoc.get? name rest = none := Assoc.get?_eq_none_of_lt hfirst
      rw [Assoc.get?, if_pos rfl, Option.elim_some]
      by_cases hnull : change = .null
      · subst hnull
        rw [mergeMembers, ih hrest, hnone, Option.elim_none, Assoc.get?_erase,
          if_pos Std.ReflCmp.compare_self, if_pos rfl]
      · rw [mergeMembers_cons ms name hnull, ih hrest, hnone, Option.elim_none,
          Assoc.get?_insert_self, if_neg hnull]
    · have hne : compare name n ≠ .eq := fun heq => hname (Std.LawfulEqCmp.eq_of_compare heq)
      rw [Assoc.get?_cons, if_neg hne]
      by_cases hnull : change = .null
      · subst hnull
        rw [mergeMembers, ih hrest, Assoc.get?_erase, if_neg hne]
      · rw [mergeMembers_cons ms n hnull, ih hrest, Assoc.get?_insert_of_ne hname]

/-- A merge patch of one member changes that member. -/
theorem merge_member (ms : Members) (name : String) {change : Json} (h : change ≠ .null) :
    merge (.obj ms) (.obj [(name, change)]) =
      .obj (Assoc.insert name (merge ((Assoc.get? name ms).getD .null) change) ms) :=
  congrArg obj (mergeMembers_cons ms name h [])

end WorkloadBindings.Json
