import Mathlib.Data.List.Dedup
import Mathlib.Data.List.Induction
import WorkloadBindings.Index.Dispatch

/-!
# The index finds what a scan finds

A snapshot answers every query as a scan of the list of bindings would (`Snapshot.scan`): of the
bindings of a kind, the last one that names the workload, or else the first one whose selector
accepts it. Each of the two indexes of a kind holds just what of the list belongs there
(`KindIndex.get?_exact_build`, `KindIndex.get?_inexact_build`), by induction over the list from its
end, where a binding is added. From there follow what a lookup finds, who holds a claim, and how many
entries the indexes have (`Snapshot.lookup_rebuild`).
-/

namespace WorkloadBindings

/-- A subject selects the workloads of its place that have its name, or labels that match. -/
theorem Subject.selects_iff (subject : Subject) (t : Target) :
    subject.selects t = true ↔
      subject.place = t.place ∧
        match subject.selection with
        | .name name => name = t.name
        | .selector selector => selector.accepts t.labels = true := by
  unfold selects place Target.place
  rw [Bool.and_eq_true, Bool.and_eq_true, beq_iff_eq, beq_iff_eq, Place.mk.injEq]
  cases subject.selection with
  | name name => rw [beq_iff_eq]
  | selector selector => rfl

namespace Binding

/-- The claim of a binding that names its workload. -/
def claim? (b : Binding) : Option Claim := b.subject.name?.map fun name => ⟨b.subject.place, name⟩

/-- The selector of a binding that selects workloads of a place by their labels. -/
def selectorAt? (b : Binding) (place : Place) : Option Selector :=
  match b.subject.selection with
  | .name _ => none
  | .selector selector => if b.subject.place = place then some selector else none

/-- The binding names the workload of a claim. -/
def claims (b : Binding) (c : Claim) : Bool := b.claim? == some c

/-- The binding selects a workload by its labels. -/
def picks (b : Binding) (t : Target) : Bool :=
  (b.selectorAt? t.place).any fun selector => selector.accepts t.labels

/-- A subject selects a workload when its binding names it or selects it by its labels. -/
theorem selects_eq (b : Binding) (t : Target) :
    b.subject.selects t = (b.claims t.claim || b.picks t) := by
  rw [Bool.eq_iff_iff, Subject.selects_iff, Bool.or_eq_true]
  unfold claims picks claim? selectorAt? Subject.name? Target.claim
  cases b.subject.selection with
  | name name =>
    simp only [Option.map_some, beq_iff_eq, Option.some.injEq, Claim.mk.injEq, Option.any_none,
      Bool.false_eq_true, or_false]
  | selector selector =>
    by_cases hplace : b.subject.place = t.place <;> simp [hplace]

end Binding

namespace KindIndex

/-- The index of a list of bindings of one kind. -/
def build (bindings : List Binding) : KindIndex := bindings.foldl add {}

/-- An index is built by adding the bindings at the end of the list. -/
theorem build_append (bindings : List Binding) (b : Binding) :
    build (bindings ++ [b]) = (build bindings).add b := by
  unfold build
  rw [List.foldl_append, List.foldl_cons, List.foldl_nil]

/-! ## One more binding -/

/-- A binding that names its workload takes the claim over. -/
theorem get?_exact_add (index : KindIndex) (b : Binding) (c : Claim) :
    (index.add b).exact.get? c = if b.claims c then some b else index.exact.get? c := by
  unfold add Binding.claims Binding.claim? Subject.name?
  cases b.subject.selection with
  | name name =>
    simp only [SortedMap.get?_insert, Option.map_some, beq_iff_eq, Option.some.injEq]
    by_cases hc : (⟨b.subject.place, name⟩ : Claim) = c
    · subst hc
      rw [if_pos Std.compare_self, if_pos rfl]
    · rw [if_neg hc, if_neg fun heq => hc (Std.LawfulEqCmp.eq_of_compare heq).symm]
  | selector selector => rfl

/-- A binding that selects by labels comes after those of its place. -/
theorem get?_inexact_add (index : KindIndex) (b : Binding) (place : Place) :
    ((index.add b).inexact.get? place).getD [] =
      (index.inexact.get? place).getD [] ++ ((b.selectorAt? place).map fun s => (s, b)).toList := by
  unfold add Binding.selectorAt?
  cases b.subject.selection with
  | name name => simp
  | selector selector =>
    simp only [SortedMap.alter, SortedMap.get?_insert]
    by_cases hplace : b.subject.place = place
    · subst hplace
      rw [if_pos Std.compare_self, if_pos rfl]
      rfl
    · rw [if_neg hplace, if_neg fun heq => hplace (Std.LawfulEqCmp.eq_of_compare heq).symm]
      simp

/-- A binding that selects by labels is one more entry. -/
theorem inexactCount_add (index : KindIndex) (b : Binding) :
    (index.add b).inexactCount = index.inexactCount + if b.subject.name?.isNone then 1 else 0 := by
  have hsum : ∀ m : SortedMap Place (List (Selector × Binding)),
      m.values.foldr (fun entries n => entries.length + n) 0 =
        m.entries.foldr (fun e n => e.2.length + n) 0 := by
    intro m
    unfold SortedMap.values
    rw [List.foldr_map]
  unfold inexactCount add Subject.name?
  cases b.subject.selection with
  | name name => rfl
  | selector selector =>
    simp only [hsum, SortedMap.alter]
    -- The entries of the place are one more, those of other places stay.
    have hinsert := index.inexact.sorted.sum_insert List.length b.subject.place
      ((index.inexact.get? b.subject.place).getD [] ++ [(selector, b)])
    unfold SortedMap.insert
    change _ + ((index.inexact.get? b.subject.place).map List.length).getD 0 = _ at hinsert
    have hold : (((index.inexact.get? b.subject.place).getD []).length) =
        ((index.inexact.get? b.subject.place).map List.length).getD 0 := by
      cases index.inexact.get? b.subject.place <;> rfl
    rw [List.length_append, hold] at hinsert
    simp only [List.length_cons, List.length_nil] at hinsert
    simp only [Option.isNone_none, if_true]
    omega

/-! ## All bindings -/

/-- A claim is held by the last binding that names its workload. -/
theorem get?_exact_build (bindings : List Binding) (c : Claim) :
    (build bindings).exact.get? c = (bindings.filter (·.claims c)).getLast? := by
  induction bindings using List.reverseRecOn with
  | nil => rfl
  | append_singleton bindings b ih =>
    rw [build_append, get?_exact_add, ih, List.filter_append, List.getLast?_append,
      List.filter_singleton]
    cases b.claims c <;> rfl

/-- The bindings that select workloads of a place by labels are held in the order of the list. -/
theorem get?_inexact_build (bindings : List Binding) (place : Place) :
    ((build bindings).inexact.get? place).getD [] =
      bindings.filterMap fun b => (b.selectorAt? place).map fun s => (s, b) := by
  induction bindings using List.reverseRecOn with
  | nil => rfl
  | append_singleton bindings b ih =>
    rw [build_append, get?_inexact_add, ih, List.filterMap_append]
    cases hb : b.selectorAt? place <;> simp [hb]

/-- The first binding that selects a workload by its labels is found in the place of the workload. -/
theorem find?_picks (bindings : List Binding) (t : Target) :
    ((bindings.filterMap fun b => (b.selectorAt? t.place).map fun s => (s, b)).find? fun e =>
      e.1.accepts t.labels).map Prod.snd = bindings.find? (·.picks t) := by
  induction bindings with
  | nil => rfl
  | cons b rest ih =>
    rw [List.find?_cons]
    cases hb : b.selectorAt? t.place with
    | none =>
      have hpicks : b.picks t = false := by
        unfold Binding.picks
        rw [hb, Option.any_none]
      rw [List.filterMap_cons_none (by rw [hb, Option.map_none]), hpicks]
      exact ih
    | some selector =>
      have hpicks : b.picks t = selector.accepts t.labels := by
        unfold Binding.picks
        rw [hb, Option.any_some]
      rw [List.filterMap_cons_some (by rw [hb, Option.map_some]), List.find?_cons, hpicks]
      cases selector.accepts t.labels with
      | true => rfl
      | false => exact ih

/-- The binding that applies to a workload is the last one that names it, or else the first one that
selects it by its labels. -/
theorem lookup_build (bindings : List Binding) (t : Target) :
    (build bindings).lookup t =
      ((bindings.filter (·.claims t.claim)).getLast?).or (bindings.find? (·.picks t)) := by
  unfold lookup
  rw [get?_exact_build, get?_inexact_build, find?_picks]
  cases (bindings.filter (·.claims t.claim)).getLast? <;> rfl

end KindIndex

namespace Snapshot

/-! ## Both kinds -/

/-- What a scan of a list of bindings finds for a workload: of the bindings of a kind, the last one
that names it, or else the first one that selects it by its labels. -/
def scan (bindings : List Binding) (k : BindingKind) (t : Target) : Option Binding :=
  let ofKind := bindings.filter fun b => b.id.kind == k
  ((ofKind.filter (·.claims t.claim)).getLast?).or (ofKind.find? (·.picks t))

/-- The claim of a binding that names its workload, with the kind of the binding. -/
def claimOf? (b : Binding) : Option (BindingKind × Claim) := b.claim?.map fun c => (b.id.kind, c)

/-- A snapshot is built by adding the bindings at the end of the list. -/
theorem rebuild_append (bindings : List Binding) (b : Binding) :
    rebuild (bindings ++ [b]) = (rebuild bindings).add b := by
  unfold rebuild
  rw [List.foldl_append, List.foldl_cons, List.foldl_nil]

/-- The index of a kind is that of the bindings of the kind. -/
theorem get_rebuild (bindings : List Binding) (k : BindingKind) :
    (rebuild bindings).kinds.get k = .build (bindings.filter fun b => b.id.kind == k) := by
  induction bindings using List.reverseRecOn with
  | nil => cases k <;> rfl
  | append_singleton bindings b ih =>
    rw [rebuild_append, List.filter_append, List.filter_singleton]
    unfold add
    rw [PerKind.get_modify, ih]
    by_cases hk : b.id.kind = k
    · rw [if_pos hk, beq_iff_eq.2 hk, ← KindIndex.build_append]
      rfl
    · rw [if_neg hk, beq_eq_false_iff_ne.2 hk]
      exact congrArg KindIndex.build (List.append_nil _).symm

/-- The binding of a kind that applies to a workload is the one that a scan finds. -/
theorem lookupKind_rebuild (bindings : List Binding) (k : BindingKind) (t : Target) :
    (rebuild bindings).lookupKind k t = scan bindings k t := by
  unfold lookupKind scan
  rw [get_rebuild, KindIndex.lookup_build]

/-- What a scan finds is a binding of the kind, whose subject selects the workload. -/
theorem of_scan {bindings : List Binding} {k : BindingKind} {t : Target} {b : Binding}
    (h : scan bindings k t = some b) :
    b ∈ bindings ∧ b.id.kind = k ∧ b.subject.selects t = true := by
  have hkind : ∀ b, b ∈ bindings.filter (fun b => b.id.kind == k) → b ∈ bindings ∧ b.id.kind = k := by
    intro b hb
    rw [List.mem_filter, beq_iff_eq] at hb
    exact hb
  unfold scan at h
  rcases Option.or_eq_some_iff.1 h with hnamed | ⟨-, hpicked⟩
  · obtain ⟨hmem, hclaims⟩ := List.mem_filter.1 (List.mem_of_getLast? hnamed)
    obtain ⟨hb, hk⟩ := hkind b hmem
    exact ⟨hb, hk, by rw [b.selects_eq, hclaims, Bool.true_or]⟩
  · obtain ⟨hb, hk⟩ := hkind b (List.mem_of_find?_eq_some hpicked)
    have hpicks := List.find?_some (p := fun b : Binding => b.picks t) hpicked
    exact ⟨hb, hk, by rw [b.selects_eq, hpicks, Bool.or_true]⟩

/-- A scan finds nothing when no binding of the kind selects the workload, and only then. -/
theorem scan_eq_none_iff {bindings : List Binding} {k : BindingKind} {t : Target} :
    scan bindings k t = none ↔
      ∀ b ∈ bindings, b.id.kind = k → b.subject.selects t = false := by
  unfold scan
  rw [Option.or_eq_none_iff, List.getLast?_eq_none_iff, List.filter_eq_nil_iff, List.find?_eq_none]
  constructor
  · rintro ⟨hnamed, hpicked⟩ b hb hk
    have hmem : b ∈ bindings.filter fun b => b.id.kind == k :=
      List.mem_filter.2 ⟨hb, beq_iff_eq.2 hk⟩
    rw [b.selects_eq, Bool.eq_false_iff.2 (hnamed b hmem), Bool.eq_false_iff.2 (hpicked b hmem)]
    rfl
  · intro h
    have hneither : ∀ b ∈ bindings.filter (fun b => b.id.kind == k),
        b.claims t.claim = false ∧ b.picks t = false := by
      intro b hmem
      obtain ⟨hb, hk⟩ := List.mem_filter.1 hmem
      have hselects := h b hb (beq_iff_eq.1 hk)
      rw [b.selects_eq, Bool.or_eq_false_iff] at hselects
      exact hselects
    constructor
    · exact fun b hb => Bool.eq_false_iff.1 (hneither b hb).1
    · exact fun b hb => Bool.eq_false_iff.1 (hneither b hb).2

/-- The bindings that apply to a workload are those that scans for the kinds find. -/
theorem mem_lookup_iff {bindings : List Binding} {t : Target} {b : Binding} :
    b ∈ (rebuild bindings).lookup t ↔ scan bindings b.id.kind t = some b := by
  unfold lookup
  rw [List.mem_filterMap]
  constructor
  · rintro ⟨k, -, hk⟩
    rw [lookupKind_rebuild] at hk
    rwa [(of_scan hk).2.1]
  · intro h
    refine ⟨b.id.kind, ?_, (lookupKind_rebuild bindings _ t).trans h⟩
    cases b.id.kind <;> decide

/-- The binding of a kind that applies to a workload is the one of the kind among all that apply. -/
theorem lookupKind_eq_find? (bindings : List Binding) (k : BindingKind) (t : Target) :
    (rebuild bindings).lookupKind k t =
      ((rebuild bindings).lookup t).find? fun b => b.id.kind == k := by
  have hfind : ∀ found, ((rebuild bindings).lookup t).find? (fun b => b.id.kind == k) = some found →
      scan bindings k t = some found := by
    intro found hfound
    have hk := beq_iff_eq.1 (List.find?_some (p := fun b : Binding => b.id.kind == k) hfound)
    rw [← hk]
    exact mem_lookup_iff.1 (List.mem_of_find?_eq_some hfound)
  rw [lookupKind_rebuild]
  cases hscan : scan bindings k t with
  | none =>
    -- What a lookup finds of the kind the scan would have found.
    refine (Option.eq_none_iff_forall_ne_some.2 fun found hfound => ?_).symm
    cases hscan.symm.trans (hfind found hfound)
  | some b =>
    have hk := (of_scan hscan).2.1
    have hmem : b ∈ (rebuild bindings).lookup t := mem_lookup_iff.2 (by rwa [hk])
    cases hfound : ((rebuild bindings).lookup t).find? fun b => b.id.kind == k with
    | none => exact absurd (beq_iff_eq.2 hk) (List.find?_eq_none.1 hfound b hmem)
    | some found => exact hscan.symm.trans (hfind found hfound)

/-- A claim is held by the last binding of the kind that names its workload. -/
theorem exactClaim_rebuild (bindings : List Binding) (k : BindingKind) (c : Claim) :
    (rebuild bindings).exactClaim k c =
      (((bindings.filter fun b => b.id.kind == k).filter (·.claims c)).getLast?).map Binding.id := by
  unfold exactClaim
  rw [get_rebuild, KindIndex.get?_exact_build]

/-- A claim is in the index of a kind when a binding of the kind names its workload. -/
theorem mem_keys_rebuild {bindings : List Binding} {k : BindingKind} {c : Claim} :
    c ∈ ((rebuild bindings).kinds.get k).exact.keys ↔ (k, c) ∈ bindings.filterMap claimOf? := by
  have hclaimOf : ∀ b, claimOf? b = some (k, c) ↔ b.id.kind = k ∧ b.claims c = true := by
    intro b
    unfold claimOf? Binding.claims
    rw [Option.map_eq_some_iff, beq_iff_eq]
    constructor
    · rintro ⟨c', hc', heq⟩
      obtain ⟨rfl, rfl⟩ := Prod.mk.inj heq
      exact ⟨rfl, hc'⟩
    · rintro ⟨rfl, hc⟩
      exact ⟨c, hc, rfl⟩
  rw [SortedMap.mem_keys_iff, get_rebuild, KindIndex.get?_exact_build, Option.isSome_iff_ne_none,
    ne_eq, List.getLast?_eq_none_iff, List.mem_filterMap]
  constructor
  · intro hne
    -- Any of the bindings that hold the claim one after the other will do.
    obtain ⟨b, hb⟩ := List.exists_mem_of_ne_nil _ hne
    obtain ⟨hmem, hclaims⟩ := List.mem_filter.1 hb
    obtain ⟨hb, hk⟩ := List.mem_filter.1 hmem
    exact ⟨b, hb, (hclaimOf b).2 ⟨beq_iff_eq.1 hk, hclaims⟩⟩
  · rintro ⟨b, hb, hclaim⟩
    obtain ⟨hk, hclaims⟩ := (hclaimOf b).1 hclaim
    refine List.ne_nil_of_mem (List.mem_filter.2 ⟨?_, hclaims⟩)
    exact List.mem_filter.2 ⟨hb, beq_iff_eq.2 hk⟩

/-- The workloads that bindings name are counted once for each kind. -/
theorem exactCount_rebuild (bindings : List Binding) :
    (rebuild bindings).exactCount = (bindings.filterMap claimOf?).dedup.length := by
  -- The keys of the two indexes are the different claims, in another order.
  have hperm : (bindings.filterMap claimOf?).dedup.Perm
      (((rebuild bindings).kinds.get .secret).exact.keys.map (fun c => (BindingKind.secret, c)) ++
        ((rebuild bindings).kinds.get .env).exact.keys.map fun c => (BindingKind.env, c)) := by
    refine (List.perm_ext_iff_of_nodup (List.nodup_dedup _) (List.nodup_append.2 ⟨?_, ?_, ?_⟩)).2 ?_
    · exact (SortedMap.nodup_keys _).map fun c c' heq => (Prod.mk.inj heq).2
    · exact (SortedMap.nodup_keys _).map fun c c' heq => (Prod.mk.inj heq).2
    · intro x hx y hy heq
      obtain ⟨c, -, rfl⟩ := List.mem_map.1 hx
      obtain ⟨c', -, rfl⟩ := List.mem_map.1 hy
      cases heq
    · rintro ⟨k, c⟩
      rw [List.mem_dedup, ← mem_keys_rebuild, List.mem_append, List.mem_map, List.mem_map]
      cases k <;> simp
  rw [hperm.length_eq, List.length_append, List.length_map, List.length_map]
  unfold exactCount KindIndex.exactCount SortedMap.size SortedMap.keys
  rw [List.length_map, List.length_map]
  rfl

/-- The bindings that select by labels are counted. -/
theorem inexactCount_rebuild (bindings : List Binding) :
    (rebuild bindings).inexactCount = bindings.countP fun b => b.subject.name?.isNone := by
  induction bindings using List.reverseRecOn with
  | nil => rfl
  | append_singleton bindings b ih =>
    rw [rebuild_append, List.countP_append, List.countP_singleton, ← ih]
    unfold add inexactCount
    cases b.id.kind with
    | secret =>
      simp only [PerKind.modify, KindIndex.inexactCount_add]
      omega
    | env =>
      simp only [PerKind.modify, KindIndex.inexactCount_add]
      omega

/-- The snapshot of a list of bindings agrees with a plain scan of the list. A lookup finds what scans
for the kinds find: bindings whose subjects select the workload, and of a kind none only when no
binding of the kind selects it. A lookup for one kind finds the one of the kind. A claim is held by
the last binding of the kind that names its workload. The counts are those of the different claims
of each kind, and of the bindings that select by labels. -/
theorem lookup_rebuild (bindings : List Binding) :
    (∀ t, (rebuild bindings).lookup t = BindingKind.all.filterMap fun k => scan bindings k t) ∧
    (∀ t, ∀ b ∈ (rebuild bindings).lookup t, b.subject.selects t = true) ∧
    (∀ k t, (∀ b ∈ (rebuild bindings).lookup t, b.id.kind ≠ k) ↔
      ∀ b ∈ bindings, b.id.kind = k → b.subject.selects t = false) ∧
    (∀ k t, (rebuild bindings).lookupKind k t =
      ((rebuild bindings).lookup t).find? fun b => b.id.kind == k) ∧
    (∀ k c, (rebuild bindings).exactClaim k c =
      (((bindings.filter fun b => b.id.kind == k).filter (·.claims c)).getLast?).map Binding.id) ∧
    (rebuild bindings).exactCount = (bindings.filterMap claimOf?).dedup.length ∧
    (rebuild bindings).inexactCount = bindings.countP fun b => b.subject.name?.isNone := by
  refine ⟨fun t => ?_, fun t b hb => ?_, fun k t => ?_, lookupKind_eq_find? bindings,
    exactClaim_rebuild bindings, exactCount_rebuild bindings, inexactCount_rebuild bindings⟩
  · unfold lookup
    exact List.filterMap_congr fun k _ => lookupKind_rebuild bindings k t
  · exact (of_scan (mem_lookup_iff.1 hb)).2.2
  · rw [← scan_eq_none_iff]
    constructor
    · refine fun h => Option.eq_none_iff_forall_ne_some.2 fun b hb => ?_
      have hk := (of_scan hb).2.1
      exact h b (mem_lookup_iff.2 (by rwa [hk])) hk
    · rintro h b hb rfl
      cases h.symm.trans (mem_lookup_iff.1 hb)

end Snapshot

end WorkloadBindings
