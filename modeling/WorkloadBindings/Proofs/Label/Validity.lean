import Mathlib.Data.List.Basic
import WorkloadBindings.Label.Selector
import WorkloadBindings.Proofs.Except

/-!
# Well-formed selectors

A selector is well-formed when no key in it is empty and its requirements have values with the operators
`In` and `NotIn` and none with `Exists` and `DoesNotExist`. Every other selector has a first fault: that
of the first requirement that has one, or an empty name of a pair. `Selector.validate` tells the former
from the latter, and names the fault (`Selector.decided_validate`).
-/

namespace WorkloadBindings

/-- A set has no members just when it is of size zero. -/
theorem SortedSet.size_eq_zero_iff {κ : Type} [Ord κ] [Std.TransOrd κ] {s : SortedSet κ} :
    s.size = 0 ↔ s.toList = [] := by
  rw [SortedMap.size, List.length_eq_zero_iff, SortedSet.toList, List.map_eq_nil_iff]

/-! ## Requirements -/

namespace Requirement

variable {r : Requirement}

/-- The requirement has a key, and values if its operator is `In` or `NotIn`, none if it is `Exists` or
`DoesNotExist`. -/
inductive IsWellFormed (r : Requirement) : Prop where
  | oneOf (hkey : r.key ≠ "") (hoperator : r.operator = .oneOf) (hvalues : r.values.toList ≠ [])
  | noneOf (hkey : r.key ≠ "") (hoperator : r.operator = .noneOf) (hvalues : r.values.toList ≠ [])
  | present (hkey : r.key ≠ "") (hoperator : r.operator = .present) (hvalues : r.values.toList = [])
  | absent (hkey : r.key ≠ "") (hoperator : r.operator = .absent) (hvalues : r.values.toList = [])

/-- A well-formed requirement has a key. -/
theorem IsWellFormed.key (h : r.IsWellFormed) : r.key ≠ "" := by
  cases h <;> assumption

/-- A well-formed requirement has values just when its operator compares with them. -/
theorem IsWellFormed.values_ne_iff (h : r.IsWellFormed) :
    r.values.toList ≠ [] ↔ r.operator.takesValues = true := by
  cases h with
  | oneOf _ hoperator hvalues => exact iff_of_true hvalues (hoperator ▸ rfl)
  | noneOf _ hoperator hvalues => exact iff_of_true hvalues (hoperator ▸ rfl)
  | present _ hoperator hvalues =>
    exact iff_of_false (not_not.2 hvalues) (by rw [hoperator]; decide)
  | absent _ hoperator hvalues =>
    exact iff_of_false (not_not.2 hvalues) (by rw [hoperator]; decide)

/-- What is wrong with a requirement: the key counts before the values. -/
inductive HasFault (r : Requirement) : SelectorFault → Prop where
  | emptyKey (hkey : r.key = "") : r.HasFault .emptyKey
  | oneOf (hkey : r.key ≠ "") (hoperator : r.operator = .oneOf) (hvalues : r.values.toList = []) :
      r.HasFault (.valuesMissing .oneOf r.key)
  | noneOf (hkey : r.key ≠ "") (hoperator : r.operator = .noneOf) (hvalues : r.values.toList = []) :
      r.HasFault (.valuesMissing .noneOf r.key)
  | present (hkey : r.key ≠ "") (hoperator : r.operator = .present) (hvalues : r.values.toList ≠ []) :
      r.HasFault (.valuesGiven .present r.key)
  | absent (hkey : r.key ≠ "") (hoperator : r.operator = .absent) (hvalues : r.values.toList ≠ []) :
      r.HasFault (.valuesGiven .absent r.key)

/-- A requirement is well-formed, or there is something wrong with it. -/
theorem isWellFormed_or_hasFault (r : Requirement) : r.IsWellFormed ∨ ∃ fault, r.HasFault fault := by
  by_cases hkey : r.key = ""
  · exact Or.inr ⟨_, .emptyKey hkey⟩
  by_cases hvalues : r.values.toList = []
  · cases hoperator : r.operator with
    | oneOf => exact Or.inr ⟨_, .oneOf hkey hoperator hvalues⟩
    | noneOf => exact Or.inr ⟨_, .noneOf hkey hoperator hvalues⟩
    | present => exact Or.inl (.present hkey hoperator hvalues)
    | absent => exact Or.inl (.absent hkey hoperator hvalues)
  · cases hoperator : r.operator with
    | oneOf => exact Or.inl (.oneOf hkey hoperator hvalues)
    | noneOf => exact Or.inl (.noneOf hkey hoperator hvalues)
    | present => exact Or.inr ⟨_, .present hkey hoperator hvalues⟩
    | absent => exact Or.inr ⟨_, .absent hkey hoperator hvalues⟩

/-- A requirement with a key is validated by whether it has values. -/
theorem validate_of_key (hkey : r.key ≠ "") : r.validate =
    if r.values.toList = [] then
      if r.operator.takesValues then .error (.valuesMissing r.operator r.key) else .ok ()
    else if r.operator.takesValues then .ok () else .error (.valuesGiven r.operator r.key) := by
  have hsize : r.values.size = 0 ↔ r.values.toList = [] := SortedSet.size_eq_zero_iff
  rw [validate, if_neg hkey]
  by_cases hvalues : r.values.toList = [] <;> cases r.operator.takesValues <;> simp [hsize, hvalues]

/-- Well-formed requirements are accepted, and of others the fault is named. -/
theorem decided_validate (r : Requirement) :
    Decided r.validate (fun _ => r.IsWellFormed) r.HasFault := by
  refine .of_total ?ok ?error ?total
  case ok =>
    rintro ⟨⟩ (⟨hkey, hoperator, hvalues⟩ | ⟨hkey, hoperator, hvalues⟩ | ⟨hkey, hoperator, hvalues⟩ |
      ⟨hkey, hoperator, hvalues⟩)
    all_goals rw [validate_of_key hkey, hoperator]
    · exact if_neg hvalues
    · exact if_neg hvalues
    · exact if_pos hvalues
    · exact if_pos hvalues
  case error =>
    rintro fault (hkey | ⟨hkey, hoperator, hvalues⟩ | ⟨hkey, hoperator, hvalues⟩ |
      ⟨hkey, hoperator, hvalues⟩ | ⟨hkey, hoperator, hvalues⟩)
    · rw [validate, if_pos hkey]
    all_goals rw [validate_of_key hkey, hoperator]
    · exact if_pos hvalues
    · exact if_pos hvalues
    · exact if_neg hvalues
    · exact if_neg hvalues
  case total => exact r.isWellFormed_or_hasFault.imp_left fun h => ⟨(), h⟩

/-- The first requirement among some that has a fault, behind well-formed ones. -/
def FirstFault (rs : List Requirement) (fault : SelectorFault) : Prop :=
  ∃ before r after, rs = before ++ r :: after ∧ (∀ r' ∈ before, r'.IsWellFormed) ∧ r.HasFault fault

/-- Some requirements are all well-formed, or there is a first one that is not. -/
theorem forall_isWellFormed_or_firstFault (rs : List Requirement) :
    (∀ r ∈ rs, r.IsWellFormed) ∨ ∃ fault, FirstFault rs fault := by
  induction rs with
  | nil => exact Or.inl (List.forall_mem_nil _)
  | cons r rs ih =>
    obtain hr | ⟨fault, hr⟩ := r.isWellFormed_or_hasFault
    · obtain hrs | ⟨fault, before, r', after, rfl, hbefore, hr'⟩ := ih
      · exact Or.inl (List.forall_mem_cons.2 ⟨hr, hrs⟩)
      · exact Or.inr ⟨fault, r :: before, r', after, rfl, List.forall_mem_cons.2 ⟨hr, hbefore⟩, hr'⟩
    · exact Or.inr ⟨fault, [], r, rs, rfl, List.forall_mem_nil _, hr⟩

/-- Requirements are looked at one after the other. -/
theorem forM_validate_cons (r : Requirement) (rs : List Requirement) :
    (r :: rs).forM validate = (r.validate >>= fun _ => rs.forM validate) := rfl

/-- Well-formed requirements are passed over. -/
theorem forM_validate_append {before : List Requirement} (h : ∀ r ∈ before, r.IsWellFormed)
    (rs : List Requirement) : (before ++ rs).forM validate = rs.forM validate := by
  induction before with
  | nil => rfl
  | cons r before ih =>
    obtain ⟨hr, hbefore⟩ := List.forall_mem_cons.1 h
    rw [List.cons_append, forM_validate_cons, (r.decided_validate.ok_iff ()).2 hr]
    exact ih hbefore

/-- Of some requirements the first fault counts. -/
theorem decided_forM_validate (rs : List Requirement) :
    Decided (rs.forM validate) (fun _ => ∀ r ∈ rs, r.IsWellFormed) (FirstFault rs) := by
  refine .of_total ?ok ?error ?total
  case ok =>
    rintro ⟨⟩ h
    rw [← List.append_nil rs, forM_validate_append h []]
    rfl
  case error =>
    rintro fault ⟨before, r, after, rfl, hbefore, hr⟩
    rw [forM_validate_append hbefore, forM_validate_cons, (r.decided_validate.error_iff fault).2 hr]
    rfl
  case total => exact (forall_isWellFormed_or_firstFault rs).imp_left fun h => ⟨(), h⟩

end Requirement

/-! ## Selectors -/

namespace Selector

variable {s : Selector}

/-- Every requirement of `matchExpressions` is well-formed, and no name in `matchLabels` is empty. -/
structure IsWellFormed (s : Selector) : Prop where
  matchExpressions : ∀ rs, s.matchExpressions = some rs → ∀ r ∈ rs, r.IsWellFormed
  matchLabels : ∀ labels, s.matchLabels = some labels → ∀ e ∈ labels.entries, e.1 ≠ ""

/-- What is wrong with a selector: the requirements count before the pairs. -/
inductive HasFault (s : Selector) : SelectorFault → Prop where
  | matchExpressions {rs : List Requirement} {fault : SelectorFault}
      (hrequirements : s.matchExpressions = some rs) (h : Requirement.FirstFault rs fault) :
      s.HasFault fault
  | matchLabels {labels : Labels}
      (hrequirements : ∀ rs, s.matchExpressions = some rs → ∀ r ∈ rs, r.IsWellFormed)
      (hlabels : s.matchLabels = some labels) (hempty : ∃ e ∈ labels.entries, e.1 = "") :
      s.HasFault .emptyLabelKey

/-- The requirements of a well-formed selector are well-formed. -/
theorem IsWellFormed.requirements (h : s.IsWellFormed) : ∀ r ∈ s.requirements, r.IsWellFormed := by
  unfold Selector.requirements
  cases hrequirements : s.matchExpressions with
  | none => exact List.forall_mem_nil _
  | some rs => exact h.matchExpressions rs hrequirements

/-- The pairs of a well-formed selector have names. -/
theorem IsWellFormed.pairs (h : s.IsWellFormed) : ∀ p ∈ s.pairs, p.1 ≠ "" := by
  unfold Selector.pairs
  cases hlabels : s.matchLabels with
  | none => exact List.forall_mem_nil _
  | some labels => exact h.matchLabels labels hlabels

/-- A selector is well-formed, or there is something wrong with it. -/
theorem isWellFormed_or_hasFault (s : Selector) : s.IsWellFormed ∨ ∃ fault, s.HasFault fault := by
  obtain ⟨matchLabels, matchExpressions⟩ := s
  obtain hrs | ⟨fault, hfault⟩ :=
    Requirement.forall_isWellFormed_or_firstFault (matchExpressions.getD [])
  · have hrequirements : ∀ rs, matchExpressions = some rs → ∀ r ∈ rs, r.IsWellFormed := by
      rintro rs rfl
      exact hrs
    by_cases hempty : ∃ labels, matchLabels = some labels ∧ ∃ e ∈ labels.entries, e.1 = ""
    · obtain ⟨labels, hlabels, hempty⟩ := hempty
      exact Or.inr ⟨_, .matchLabels hrequirements hlabels hempty⟩
    · refine Or.inl ⟨hrequirements, fun labels hlabels e he hname => hempty ?_⟩
      exact ⟨labels, hlabels, e, he, hname⟩
  · cases matchExpressions with
    | none =>
      -- There is no fault in no requirements.
      obtain ⟨before, r, after, hnil, -⟩ := hfault
      cases List.append_ne_nil_of_right_ne_nil before (List.cons_ne_nil _ _) hnil.symm
    | some rs => exact Or.inr ⟨fault, .matchExpressions rfl hfault⟩

/-- Well-formed requirements of a selector are accepted. -/
theorem forM_validate_requirements
    (h : ∀ rs, s.matchExpressions = some rs → ∀ r ∈ rs, r.IsWellFormed) :
    s.requirements.forM Requirement.validate = .ok () := by
  unfold requirements
  cases hrequirements : s.matchExpressions with
  | none => rfl
  | some rs => exact ((Requirement.decided_forM_validate rs).ok_iff ()).2 (h rs hrequirements)

/-- A pair with an empty name is found among the pairs. -/
theorem any_pairs_iff : (s.pairs.any fun p => p.1 == "") = true ↔
    ∃ labels, s.matchLabels = some labels ∧ ∃ e ∈ labels.entries, e.1 = "" := by
  unfold pairs
  cases s.matchLabels with
  | none => exact iff_of_false nofun nofun
  | some labels =>
    simp only [Option.map_some, Option.getD_some, List.any_eq_true, beq_iff_eq, Option.some.injEq,
      exists_eq_left']

/-- Well-formed selectors are accepted, and of others the first fault is named. -/
theorem decided_validate (s : Selector) :
    Decided s.validate (fun _ => s.IsWellFormed) s.HasFault := by
  refine .of_total ?ok ?error ?total
  case ok =>
    rintro ⟨⟩ ⟨hrequirements, hlabels⟩
    have hnone : ¬ (s.pairs.any fun p => p.1 == "") = true := by
      rw [any_pairs_iff]
      rintro ⟨labels, hsome, e, he, hempty⟩
      exact hlabels labels hsome e he hempty
    rw [validate, forM_validate_requirements hrequirements]
    exact if_neg hnone
  case error =>
    rintro fault (⟨hrequirements, hfault⟩ | ⟨hrequirements, hlabels, hempty⟩)
    · have herror := ((Requirement.decided_forM_validate _).error_iff fault).2 hfault
      rw [validate, requirements, hrequirements, Option.getD_some, herror]
      rfl
    · rw [validate, forM_validate_requirements hrequirements]
      exact if_pos (any_pairs_iff.2 ⟨_, hlabels, hempty⟩)
  case total => exact s.isWellFormed_or_hasFault.imp_left fun h => ⟨(), h⟩

end Selector

end WorkloadBindings
