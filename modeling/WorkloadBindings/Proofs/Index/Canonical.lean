import WorkloadBindings.Proofs.Index.Rule
import WorkloadBindings.Proofs.Text.ByteOrder

/-!
# The rules are canonical

A webhook configuration is written again whenever its rules differ from those in it, so that the rules
must not depend on the order in which the subjects come. They do not: what is seen of each kind depends
on the set of types only (`Rule.IsSeen.unique`), and a sorted map is determined by what is found in it
(`Rule.seenOf_eq_of_mem_iff`). The rules are one for each kind that was seen, in the order of the kinds
first and in their own order then; the latter is said of the bytes of texts (`Rule.Precedes`). Two
kinds may have one plural, so that it is the kinds and not the rules that are distinct
(`Rule.synthesize_canonical`).
-/

namespace WorkloadBindings

/-- The members of a set of texts are in the order of their bytes. -/
theorem SortedSet.pairwise_bytes (s : SortedSet String) :
    s.toList.Pairwise fun a b => Text.bytes a < Text.bytes b := by
  have hsorted : s.entries.Pairwise fun a b => compare a.1 b.1 = .lt := s.sorted
  refine List.pairwise_map.2 (hsorted.imp fun hlt => ?_)
  exact Text.bytes_lt_iff.2 (compare_lt_iff_lt.1 hlt)

namespace Rule

variable {types types' : List ResourceType} {subjects : List Subject}

/-! ## What the rules depend on -/

/-- What is kept for a kind depends on the types of the kind only. -/
theorem IsSeen.unique {gk : GroupKind} {kept kept' : Option (SortedSet String)}
    (h : IsSeen types gk kept) (h' : IsSeen types' gk kept')
    (hsame : ∀ v, gk.inVersion v ∈ types ↔ gk.inVersion v ∈ types') : kept = kept' := by
  -- A set that is kept has a member, and so it is not kept for a kind that has no types.
  have hclash : ∀ {types types' : List ResourceType} {versions : SortedSet String},
      (∀ v, gk.inVersion v ∈ types → gk.inVersion v ∈ types') →
      IsSeen types gk (some versions) → ¬IsSeen types' gk none := by
    intro types types' versions himp hsome hnone
    obtain ⟨v, hv⟩ := List.exists_mem_of_ne_nil _ hsome.1
    exact hnone v (himp v ((hsome.2 v).1 hv))
  cases kept with
  | none =>
    cases kept' with
    | none => rfl
    | some versions' => exact absurd h (hclash (fun v => (hsame v).2) h')
  | some versions =>
    cases kept' with
    | none => exact absurd h' (hclash (fun v => (hsame v).1) h)
    | some versions' =>
      have hmem : ∀ v, v ∈ versions.toList ↔ v ∈ versions'.toList := fun v =>
        (h.2 v).trans ((hsame v).trans (h'.2 v).symm)
      rw [SortedSet.ext_mem hmem]

/-- What is seen depends on the set of types only. -/
theorem seenOf_eq_of_mem_iff (h : ∀ r, r ∈ types ↔ r ∈ types') : seenOf types = seenOf types' := by
  refine SortedMap.ext_get? fun gk => ?_
  have hseen := isSeen_seenOf types gk
  exact hseen.unique (isSeen_seenOf types' gk) fun v => h (gk.inVersion v)

/-! ## The order of the rules -/

/-- The rule may stand before another one: its group comes before the other's, or is the same, and then
its first version, or is the same, and then its resource, or is the same too. Texts come in the order
of their bytes. -/
def Precedes (a b : Rule) : Prop :=
  Text.bytes a.group < Text.bytes b.group ∨
    a.group = b.group ∧ ∃ v ∈ a.versions.head?, ∃ w ∈ b.versions.head?,
      Text.bytes v < Text.bytes w ∨
        v = w ∧ (Text.bytes a.resource < Text.bytes b.resource ∨ a.resource = b.resource)

instance : Std.TransCmp order :=
  inferInstanceAs (Std.TransCmp (compareLex (compareOn Rule.group)
    (compareLex (compareOn fun r => r.versions.head?) (compareOn Rule.resource))))

/-- Rules with versions may stand in the order of their texts. -/
theorem precedes_of_isLE {a b : Rule} (ha : a.versions ≠ []) (hb : b.versions ≠ [])
    (h : (order a b).isLE = true) : a.Precedes b := by
  obtain ⟨v, vs, hv⟩ := List.exists_cons_of_ne_nil ha
  obtain ⟨w, ws, hw⟩ := List.exists_cons_of_ne_nil hb
  have hlt : ∀ {s t : String}, compare s t = .lt → Text.bytes s < Text.bytes t := fun hst =>
    Text.bytes_lt_iff.2 (compare_lt_iff_lt.1 hst)
  have heq : ∀ {s t : String}, compare s t = .eq → s = t := Std.LawfulEqCmp.eq_of_compare
  rw [order, hv, hw, Ordering.isLE_then_iff_or] at h
  unfold Precedes
  rw [hv, hw]
  rcases h with hgroup | ⟨hgroup, h⟩
  · exact Or.inl (hlt hgroup)
  · refine Or.inr ⟨heq hgroup, v, rfl, w, rfl, ?_⟩
    rcases Ordering.isLE_then_iff_or.1 h with hversion | ⟨hversion, hresource⟩
    · exact Or.inl (hlt hversion)
    · refine Or.inr ⟨heq hversion, ?_⟩
      rcases Ordering.isLE_iff_eq_lt_or_eq_eq.1 hresource with hresource | hresource
      · exact Or.inl (hlt hresource)
      · exact Or.inr (heq hresource)

/-- The rules are in their order. -/
theorem pairwise_precedes_synthesize (subjects : List Subject) :
    (synthesize subjects).Pairwise Precedes := by
  have htrans : ∀ a b c : Rule, (order a b).isLE = true → (order b c).isLE = true →
      (order a c).isLE = true := fun _ _ _ => Std.TransCmp.isLE_trans
  have htotal : ∀ a b : Rule, ((order a b).isLE || (order b a).isLE) = true := by
    intro a b
    have hswap : order b a = (order a b).swap := Std.OrientedCmp.eq_swap
    rw [hswap]
    cases order a b <;> rfl
  have hsorted := List.pairwise_mergeSort htrans htotal
    ((seenOf (typesOf subjects)).entries.map fun e => ofKind e.1 e.2)
  have hversions : ∀ rule ∈ synthesize subjects, rule.versions ≠ [] := by
    intro rule hrule
    obtain ⟨gk, hfor⟩ := isFor_of_mem hrule
    exact hfor.versions
  exact List.Pairwise.imp_of_mem (fun ha hb h => precedes_of_isLE (hversions _ ha) (hversions _ hb) h)
    hsorted

/-! ## One rule for each kind -/

/-- The rules are those of distinct kinds, namely the kinds of the types. -/
theorem exists_kinds (subjects : List Subject) :
    ∃ kinds : List GroupKind, kinds.Nodup ∧
      (∀ gk, gk ∈ kinds ↔ ∃ v, gk.inVersion v ∈ typesOf subjects) ∧
      List.Forall₂ (fun gk rule => rule.IsFor gk (typesOf subjects)) kinds
        (synthesize subjects) := by
  -- Sorting the rules is sorting what was seen by the rules of it, so that the kinds come along.
  have hrules : synthesize subjects =
      ((seenOf (typesOf subjects)).entries.mergeSort fun e f =>
        (order (ofKind e.1 e.2) (ofKind f.1 f.2)).isLE).map fun e => ofKind e.1 e.2 := by
    unfold synthesize
    refine Eq.symm ?_
    exact List.map_mergeSort fun _ _ _ _ => rfl
  have hperm := List.mergeSort_perm (seenOf (typesOf subjects)).entries fun e f =>
    (order (ofKind e.1 e.2) (ofKind f.1 f.2)).isLE
  rw [hrules]
  generalize ((seenOf (typesOf subjects)).entries.mergeSort fun e f =>
    (order (ofKind e.1 e.2) (ofKind f.1 f.2)).isLE) = sorted at hperm
  refine ⟨sorted.map Prod.fst, ?_, fun gk => ?_, ?_⟩
  · exact (hperm.map Prod.fst).nodup_iff.2 (SortedMap.nodup_keys _)
  · have hkept : gk ∈ sorted.map Prod.fst ↔
        ((seenOf (typesOf subjects)).get? gk).isSome = true :=
      (hperm.map Prod.fst).mem_iff.trans SortedMap.mem_keys_iff
    have hseen := isSeen_seenOf (typesOf subjects) gk
    rw [hkept]
    cases hget : (seenOf (typesOf subjects)).get? gk with
    | none =>
      rw [hget] at hseen
      exact iff_of_false Bool.false_ne_true fun ⟨v, hv⟩ => hseen v hv
    | some versions =>
      rw [hget] at hseen
      obtain ⟨v, hv⟩ := List.exists_mem_of_ne_nil _ hseen.1
      exact iff_of_true rfl ⟨v, (hseen.2 v).1 hv⟩
  · rw [List.forall₂_map_left_iff, List.forall₂_map_right_iff, List.forall₂_same]
    intro e he
    exact isFor_ofKind ((SortedMap.sorted _).get?_eq_some_iff.2 (hperm.mem_iff.1 he))

/-- The rules for certain subjects do not depend on how often and in which order the types of these
come, nor on what else the subjects are. There is one rule for each kind among those that are always
intercepted and those of the subjects, and no other; it has just the versions that the kind has among
them, each of them once and in the order of their bytes. The rules stand in the order of their groups,
then of their first versions, then of their resources. -/
theorem synthesize_canonical (subjects : List Subject) :
    (∀ others : List Subject,
      (∀ r, r ∈ others.map Subject.resourceType ↔ r ∈ subjects.map Subject.resourceType) →
        synthesize others = synthesize subjects) ∧
    (∃ kinds : List GroupKind, kinds.Nodup ∧
      (∀ gk, gk ∈ kinds ↔ ∃ v, gk.inVersion v ∈ baseline ++ subjects.map Subject.resourceType) ∧
      List.Forall₂
        (fun gk rule => rule.IsFor gk (baseline ++ subjects.map Subject.resourceType)) kinds
        (synthesize subjects)) ∧
    (∀ rule ∈ synthesize subjects,
      rule.versions.Pairwise fun v w => Text.bytes v < Text.bytes w) ∧
    (synthesize subjects).Pairwise Precedes := by
  refine ⟨fun others h => ?_, exists_kinds subjects, fun rule hrule => ?_,
    pairwise_precedes_synthesize subjects⟩
  · have hseen : seenOf (typesOf others) = seenOf (typesOf subjects) := by
      refine seenOf_eq_of_mem_iff fun r => ?_
      unfold typesOf
      rw [List.mem_append, List.mem_append, h r]
    unfold seenOf typesOf at hseen
    unfold synthesize
    rw [hseen]
  · obtain ⟨gk, versions, -, rfl⟩ := mem_synthesize_iff.1 hrule
    exact SortedSet.pairwise_bytes versions

/-- The workload of a kind with a name, in a group where two kinds have one plural. -/
def widgetSubject (kind name : String) : Subject := ⟨⟨"example.com", kind⟩, "v1", "shop", .name name⟩

/-- Two kinds with one plural have two rules, and always the same ones, although neither rule has to
stand before the other one. -/
theorem synthesize_canonical_widgets :
    (synthesize [widgetSubject "Widget" "a", widgetSubject "widget" "b"]).length = 6 ∧
      synthesize [widgetSubject "widget" "c", widgetSubject "Widget" "d", widgetSubject "widget" "e"] =
        synthesize [widgetSubject "Widget" "a", widgetSubject "widget" "b"] := by
  obtain ⟨hsame, -⟩ :=
    synthesize_canonical [widgetSubject "Widget" "a", widgetSubject "widget" "b"]
  constructor
  · unfold synthesize
    rw [List.length_mergeSort, List.length_map]
    decide
  · refine hsame _ fun r => ?_
    simp only [List.map_cons, List.map_nil, List.mem_cons, List.not_mem_nil, or_false, widgetSubject,
      Subject.resourceType]
    tauto

end Rule

end WorkloadBindings
