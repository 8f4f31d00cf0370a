import WorkloadBindings.Index.Store
import WorkloadBindings.Proofs.Binding.Basic
import WorkloadBindings.Proofs.Index.Dispatch
import WorkloadBindings.Proofs.Index.Store

/-!
# Every workload with a binding is intercepted

The snapshot finds the bindings of a workload by its kind, whatever the version, while the rules
list versions for each kind. What is seen of a kind in a list of types are just the versions of the
types of that kind (`Rule.isSeen_seenOf`), so that there is a rule for each kind of the list with
these versions, and no other rule (`Rule.exists_isFor`, `Rule.isFor_of_mem`). Since a snapshot finds
nothing but bindings of the store, the rules of the store cover what it finds
(`Store.intercepts_of_handleAll`).
-/

namespace WorkloadBindings

/-- The kind of a type, whatever its version. -/
def ResourceType.groupKind (r : ResourceType) : GroupKind := ⟨r.group, r.kind⟩

/-- The type of a kind in a version. -/
def GroupKind.inVersion (gk : GroupKind) (version : String) : ResourceType :=
  ⟨gk.group, version, gk.kind⟩

namespace Rule

/-! ## Versions -/

/-- What is seen of the kinds of a list of types. -/
def seenOf (types : List ResourceType) : Seen := types.foldl see .empty

/-- The versions that are kept for a kind, if any are, are those of the types of the kind. -/
def IsSeen (types : List ResourceType) (gk : GroupKind) : Option (SortedSet String) → Prop
  | none => ∀ v, gk.inVersion v ∉ types
  | some versions =>
    versions.toList ≠ [] ∧ ∀ v, v ∈ versions.toList ↔ gk.inVersion v ∈ types

variable {types : List ResourceType} {subjects : List Subject} {gk : GroupKind} {rule : Rule}

/-- One more type adds its version to those of its kind. -/
theorem get?_see (seen : Seen) (r : ResourceType) (gk : GroupKind) :
    (see seen r).get? gk =
      if gk = r.groupKind then some (((seen.get? gk).getD .empty).insert r.version ())
      else seen.get? gk := by
  unfold see SortedMap.alter
  rw [SortedMap.get?_insert]
  by_cases hgk : gk = r.groupKind
  · subst hgk
    rw [if_pos rfl]
    exact if_pos Std.compare_self
  · rw [if_neg hgk]
    exact if_neg fun heq => hgk (Std.LawfulEqCmp.eq_of_compare heq)

/-- A set with one more member has this member and the others. -/
theorem mem_toList_insert (versions : SortedSet String) (v w : String) :
    w ∈ SortedSet.toList (versions.insert v ()) ↔ w = v ∨ w ∈ versions.toList := by
  have hmem : ∀ set : SortedSet String, w ∈ set.toList ↔ (set.get? w).isSome = true :=
    fun set => SortedMap.mem_keys_iff
  rw [hmem, hmem, SortedMap.get?_insert]
  by_cases hw : w = v
  · subst hw
    simp
  · rw [if_neg fun heq => hw (Std.LawfulEqCmp.eq_of_compare heq)]
    simp [hw]

/-- The versions kept for a kind are those of its types. -/
theorem isSeen_seenOf (types : List ResourceType) (gk : GroupKind) :
    IsSeen types gk ((seenOf types).get? gk) := by
  -- The types are seen from the beginning, so the induction is from the end, at the one seen last.
  induction types using List.reverseRecOn with
  | nil => exact fun v => List.not_mem_nil
  | append_singleton types r ih =>
    have hsee : seenOf (types ++ [r]) = see (seenOf types) r := by
      unfold seenOf
      rw [List.foldl_append, List.foldl_cons, List.foldl_nil]
    have hmem : ∀ v, gk.inVersion v ∈ types ++ [r] ↔
        gk.inVersion v ∈ types ∨ gk = r.groupKind ∧ v = r.version := by
      intro v
      obtain ⟨group, kind⟩ := gk
      obtain ⟨rgroup, rversion, rkind⟩ := r
      simp only [List.mem_append, List.mem_singleton, GroupKind.inVersion, ResourceType.groupKind,
        ResourceType.mk.injEq, GroupKind.mk.injEq]
      tauto
    rw [hsee, get?_see]
    by_cases hgk : gk = r.groupKind
    · rw [if_pos hgk]
      -- The versions before are those kept, or none were.
      have hold : ∀ v, v ∈ (((seenOf types).get? gk).getD .empty).toList ↔
          gk.inVersion v ∈ types := by
        intro v
        cases hkept : (seenOf types).get? gk with
        | none =>
          rw [hkept] at ih
          exact iff_of_false List.not_mem_nil (ih v)
        | some versions =>
          rw [hkept] at ih
          exact ih.2 v
      constructor
      · intro hnil
        have hself := (mem_toList_insert (((seenOf types).get? gk).getD .empty) r.version r.version).2
          (Or.inl rfl)
        rw [hnil] at hself
        cases hself
      · intro v
        rw [mem_toList_insert, hold, hmem, and_iff_right hgk, or_comm]
    · -- A type of another kind leaves what is kept for this one.
      rw [if_neg hgk]
      have hsame : ∀ v, gk.inVersion v ∈ types ++ [r] ↔ gk.inVersion v ∈ types := by
        intro v
        rw [hmem]
        exact or_iff_left fun h => hgk h.1
      cases hkept : (seenOf types).get? gk with
      | none =>
        rw [hkept] at ih
        exact fun v hv => ih v ((hsame v).1 hv)
      | some versions =>
        rw [hkept] at ih
        exact ⟨ih.1, fun v => (ih.2 v).trans (hsame v).symm⟩

/-! ## Rules -/

/-- The rule is about a kind, in just the versions that some types have of it, of which there are
some. -/
structure IsFor (rule : Rule) (gk : GroupKind) (types : List ResourceType) : Prop where
  group : rule.group = gk.group
  resource : rule.resource = plural gk.kind
  versions : rule.versions ≠ []
  mem_versions_iff : ∀ v, v ∈ rule.versions ↔ gk.inVersion v ∈ types

/-- The types that the rules for certain subjects are about. -/
def typesOf (subjects : List Subject) : List ResourceType :=
  baseline ++ subjects.map Subject.resourceType

/-- There is a rule for each kind that was seen, and no other. -/
theorem mem_synthesize_iff :
    rule ∈ synthesize subjects ↔
      ∃ gk versions, (seenOf (typesOf subjects)).get? gk = some versions ∧
        ofKind gk versions = rule := by
  unfold synthesize
  rw [(List.mergeSort_perm _ _).mem_iff, List.mem_map]
  constructor
  · rintro ⟨⟨gk, versions⟩, hmem, rfl⟩
    exact ⟨gk, versions, (SortedMap.sorted _).get?_eq_some_iff.2 hmem, rfl⟩
  · rintro ⟨gk, versions, hget, rfl⟩
    exact ⟨(gk, versions), (SortedMap.sorted _).get?_eq_some_iff.1 hget, rfl⟩

/-- The rule for a kind that was seen is about it in the versions seen. -/
theorem isFor_ofKind {versions : SortedSet String} (hget : (seenOf types).get? gk = some versions) :
    (ofKind gk versions).IsFor gk types := by
  have hseen := isSeen_seenOf types gk
  rw [hget] at hseen
  exact ⟨rfl, rfl, hseen.1, hseen.2⟩

/-- Every rule is about a kind in the versions seen of it. -/
theorem isFor_of_mem (h : rule ∈ synthesize subjects) :
    ∃ gk, rule.IsFor gk (typesOf subjects) := by
  obtain ⟨gk, versions, hget, rfl⟩ := mem_synthesize_iff.1 h
  exact ⟨gk, isFor_ofKind hget⟩

/-- There is a rule about the kind of every type. -/
theorem exists_isFor {v : String} (h : gk.inVersion v ∈ typesOf subjects) :
    ∃ rule ∈ synthesize subjects, rule.IsFor gk (typesOf subjects) := by
  have hseen := isSeen_seenOf (typesOf subjects) gk
  cases hget : (seenOf (typesOf subjects)).get? gk with
  | none =>
    rw [hget] at hseen
    exact absurd h (hseen v)
  | some versions =>
    exact ⟨ofKind gk versions, mem_synthesize_iff.2 ⟨gk, versions, hget, rfl⟩, isFor_ofKind hget⟩

end Rule

namespace Store

/-- The rules of a store are about the types that are always intercepted and those of its bindings'
subjects. -/
theorem mem_typesOf_subjects_iff {s : Store} {gk : GroupKind} {v : String} :
    gk.inVersion v ∈ Rule.typesOf s.subjects ↔
      gk.inVersion v ∈ Rule.baseline ∨
        ∃ b ∈ s.bindings.values, b.subject.groupKind = gk ∧ b.subject.version = v := by
  unfold Rule.typesOf subjects
  rw [List.mem_append, List.map_map, List.mem_map]
  refine or_congr_right ⟨?_, ?_⟩
  · rintro ⟨b, hb, htype⟩
    exact ⟨b, hb, congrArg ResourceType.groupKind htype, congrArg ResourceType.version htype⟩
  · rintro ⟨b, hb, rfl, rfl⟩
    exact ⟨b, hb, rfl⟩

/-- What a published snapshot finds for a workload are bindings that are held, whose subjects are of
its kind. -/
theorem IsPublished.of_mem_lookup {s : Store} (h : s.IsPublished) {t : Target} {b : Binding}
    (hb : b ∈ s.snapshot.lookup t) :
    b ∈ s.bindings.values ∧ b.subject.groupKind = t.groupKind := by
  rw [h.snapshot, Snapshot.mem_lookup_iff] at hb
  obtain ⟨hheld, -, hselects⟩ := Snapshot.of_scan hb
  have hplace := ((b.subject.selects_iff t).1 hselects).1
  exact ⟨hheld, congrArg Place.groupKind hplace⟩

/-- Whatever reports were handled, a workload for which the snapshot has bindings is intercepted: a
rule of the store is about its kind, under the plural that the bindings' subjects are requested by,
in the versions of all these bindings, for the creation and the change of a workload and of what is
below it. Every rule is about a kind in the versions, of which there are some, that the kind has
among those that are always intercepted or in the subjects of the bindings held. -/
theorem intercepts_of_handleAll {reports : List Report} {s : Store}
    (h : ({} : Store).handleAll reports = .ok s) :
    (∀ t : Target, s.snapshot.lookup t ≠ [] →
      ∃ rule ∈ s.rules, rule.group = t.groupKind.group ∧ rule.resource = plural t.groupKind.kind ∧
        (∀ b ∈ s.snapshot.lookup t, b.subject.version ∈ rule.versions ∧
          b.subject.resourceType.plural = rule.resource) ∧
        rule.toJson = .obj
          [("apiGroups", .strings [t.groupKind.group]),
           ("apiVersions", .strings rule.versions),
           ("operations", .strings ["CREATE", "UPDATE"]),
           ("resources", .strings [plural t.groupKind.kind, plural t.groupKind.kind ++ "/*"]),
           ("scope", .str "*")]) ∧
    ∀ rule ∈ s.rules, ∃ gk : GroupKind, rule.group = gk.group ∧ rule.resource = plural gk.kind ∧
      rule.versions ≠ [] ∧
      ∀ v, v ∈ rule.versions ↔
        ⟨gk.group, v, gk.kind⟩ ∈ Rule.baseline ∨
          ∃ b ∈ s.bindings.values, b.subject.groupKind = gk ∧ b.subject.version = v := by
  have hpublished : s.IsPublished := isPublished_empty.handleAll h
  -- The types of what a lookup finds are seen, all of one kind.
  have hseen : ∀ (t : Target) (b : Binding), b ∈ s.snapshot.lookup t →
      t.groupKind.inVersion b.subject.version ∈ Rule.typesOf s.subjects := by
    intro t b hb
    obtain ⟨hheld, hkind⟩ := hpublished.of_mem_lookup hb
    exact mem_typesOf_subjects_iff.2 (Or.inr ⟨b, hheld, hkind, rfl⟩)
  constructor
  · intro t hlookup
    obtain ⟨b, hb⟩ := List.exists_mem_of_ne_nil _ hlookup
    obtain ⟨rule, hrule, hfor⟩ := Rule.exists_isFor (hseen t b hb)
    refine ⟨rule, hrule, hfor.group, hfor.resource, fun c hc => ?_, ?_⟩
    · refine ⟨(hfor.mem_versions_iff _).2 (hseen t c hc), ?_⟩
      rw [hfor.resource, ← (hpublished.of_mem_lookup hc).2]
      rfl
    · unfold Rule.toJson Rule.operations
      rw [hfor.group, hfor.resource]
  · intro rule hrule
    obtain ⟨gk, hfor⟩ := Rule.isFor_of_mem hrule
    refine ⟨gk, hfor.group, hfor.resource, hfor.versions, fun v => ?_⟩
    rw [hfor.mem_versions_iff]
    exact mem_typesOf_subjects_iff

/-- A binding to a kind that is not intercepted on its own. -/
def rolloutBinding : BindingResource where
  metadata := { name := some "mode", «namespace» := some "shop" }
  spec := .env
    { subject :=
        { apiVersion := "argoproj.io/v1alpha1", kind := "Rollout", «namespace» := none
          name := some "web", selector := none }
      env := [⟨"MODE", "fast"⟩] }

/-- The store after a listing of the binding. -/
def rolloutStore : Store :=
  (({} : Store).handleAll [.listed .env [rolloutBinding] []]).toOption.getD {}

/-- The workload that the binding names. -/
def rolloutTarget : Target := ⟨⟨"argoproj.io", "Rollout"⟩, "shop", "web", .empty⟩

/-- The kind of the binding is intercepted in the version of the binding. -/
theorem intercepts_of_handleAll_rolloutStore :
    ({} : Store).handleAll [.listed .env [rolloutBinding] []] = .ok rolloutStore ∧
      rolloutStore.snapshot.lookup rolloutTarget ≠ [] ∧
      ∃ rule ∈ rolloutStore.rules, rule.group = "argoproj.io" ∧ rule.resource = plural "Rollout" ∧
        "v1alpha1" ∈ rule.versions := by
  have hmode : rolloutBinding.IsResolvable := BindingResource.isResolvable_of_name rfl rfl
  have hresolvable : ∀ report ∈ [Report.listed .env [rolloutBinding] []], ∀ r ∈ report.resources,
      r.IsResolvable :=
    List.forall_mem_singleton.2 (List.forall_mem_singleton.2 hmode)
  obtain ⟨s, hs⟩ := exists_handleAll {} hresolvable
  obtain rfl : rolloutStore = s := by rw [rolloutStore, hs]; rfl
  obtain ⟨hlookup, -⟩ := intercepts_of_handleAll hs
  have hfound : rolloutStore.snapshot.lookup rolloutTarget ≠ [] := by decide
  obtain ⟨rule, hrule, hgroup, hresource, hversions, -⟩ := hlookup rolloutTarget hfound
  obtain ⟨b, hb⟩ := List.exists_mem_of_ne_nil _ hfound
  have hversion : ∀ b ∈ rolloutStore.snapshot.lookup rolloutTarget,
      b.subject.version = "v1alpha1" := by decide
  refine ⟨hs, hfound, rule, hrule, hgroup, hresource, ?_⟩
  rw [← hversion b hb]
  exact (hversions b hb).1

end Store

end WorkloadBindings
