import WorkloadBindings.Proofs.Index.Dispatch
import WorkloadBindings.Proofs.Reconcile.Guarded

/-!
# Locating the workloads of a subject

A pass looks for the workloads of its subject before it patches them. Whatever it finds it finds
complete: the workloads that the subject selects (`World.Finds`), a workload that carries an item of
the mutation among them, and those that are found are still as they were found, unless they are gone
(`World.Listing`). When the API says that there is
nothing to find, no workload carries an item (`Reconcile.locate_safe`).
-/

namespace WorkloadBindings

/-- A subject selects the workload under a claim when the claim is in its place, with its name or
with labels that match. -/
theorem Subject.selects_target_iff (subject : Subject) (k : Claim) (w : Workload) :
    subject.selects (k.target w) = true ↔
      k.place = subject.place ∧
        match subject.selection with
        | .name name => k.name = name
        | .selector selector => selector.accepts w.metadata.labelSet = true := by
  rw [subject.selects_iff]
  unfold Claim.target Target.place
  cases subject.selection with
  | name name => exact and_congr eq_comm eq_comm
  | selector selector => exact and_congr_left' eq_comm

/-- A subject that names a workload selects nothing but what is under its claim. -/
theorem Subject.eq_of_selects {subject : Subject} {name : String}
    (hname : subject.selection = .name name) {k : Claim} {w : Workload}
    (h : subject.selects (k.target w) = true) : k = ⟨subject.place, name⟩ := by
  have hparts := (subject.selects_target_iff k w).1 h
  rw [hname] at hparts
  rw [← hparts.1, ← hparts.2]

namespace World

/-- Every workload is stored under its own name. -/
def IsKeyed (s : World) : Prop :=
  ∀ k w, s.workloads.get? k = some w → k = w.claim k.place.groupKind

/-- The workloads that were found for a subject are those that it selects, each as it is stored. -/
structure Finds (s : World) (subject : Subject) (found : List Workload) : Prop where
  distinct : (found.map fun w => w.claim subject.groupKind).Nodup
  stored : ∀ w ∈ found, s.workloads.get? (w.claim subject.groupKind) = some w
  selected : ∀ w ∈ found, subject.selects ((w.claim subject.groupKind).target w) = true
  all : ∀ k w, s.workloads.get? k = some w → subject.selects (k.target w) = true →
    w ∈ found ∧ k = w.claim subject.groupKind

/-- The workloads that were found for a subject: each is still as it was found, unless it is gone,
and every workload that carries an item of the mutation is among them. -/
structure Listing (subject : Subject) (m : Mutation) (found : List Workload) (s : World) : Prop where
  distinct : (found.map fun w => w.claim subject.groupKind).Nodup
  written : ∀ w ∈ found, w.IsWritten
  selected : ∀ w ∈ found, subject.selects ((w.claim subject.groupKind).target w) = true
  current : ∀ w ∈ found, ∀ v, s.workloads.get? (w.claim subject.groupKind) = some v → v = w
  complete : ∀ k w, s.workloads.get? k = some w → m.isIn w = true →
    w ∈ found ∧ k = w.claim subject.groupKind

variable {subject : Subject} {r : BindingResource} {m : Mutation} {found : List Workload} {s : World}

/-- A workload is picked when it is stored in the place with labels that the selector accepts. -/
theorem mem_picked_iff {place : Place} {selector : Selector} {w : Workload} :
    w ∈ s.picked place selector ↔
      ∃ k, s.workloads.get? k = some w ∧ k.place = place ∧
        selector.accepts w.metadata.labelSet = true := by
  unfold picked
  constructor
  · intro hw
    obtain ⟨⟨k, v⟩, hmem, rfl⟩ := List.mem_map.1 hw
    obtain ⟨hentry, htest⟩ := List.mem_filter.1 hmem
    rw [Bool.and_eq_true, beq_iff_eq] at htest
    exact ⟨k, s.workloads.sorted.get?_eq_some_iff.2 hentry, htest⟩
  · rintro ⟨k, hk, hplace, haccepts⟩
    refine List.mem_map.2 ⟨(k, w), List.mem_filter.2 ⟨?_, ?_⟩, rfl⟩
    · exact s.workloads.sorted.get?_eq_some_iff.1 hk
    · rw [Bool.and_eq_true, beq_iff_eq]
      exact ⟨hplace, haccepts⟩

/-- No two workloads that are picked have one name. -/
theorem IsKeyed.nodup_picked (h : s.IsKeyed) (place : Place) (selector : Selector) :
    ((s.picked place selector).map fun w => w.claim place.groupKind).Nodup := by
  have hkeys : (s.picked place selector).map (fun w => w.claim place.groupKind) =
      (s.workloads.entries.filter fun e =>
        e.1.place == place && selector.accepts e.2.metadata.labelSet).map Prod.fst := by
    unfold picked
    rw [List.map_map]
    refine List.map_congr_left fun e he => ?_
    obtain ⟨hentry, htest⟩ := List.mem_filter.1 he
    rw [Bool.and_eq_true, beq_iff_eq] at htest
    -- What is stored in the place under its own name has the claim that it is stored under.
    have hkeyed := h e.1 e.2 (s.workloads.sorted.get?_eq_some_iff.2 hentry)
    rw [Function.comp_apply, ← htest.1]
    exact hkeyed.symm
  rw [hkeys]
  have hkept := List.filter_sublist (p := fun e : Claim × Workload =>
    e.1.place == place && selector.accepts e.2.metadata.labelSet) (l := s.workloads.entries)
  exact s.workloads.nodup_keys.sublist (hkept.map Prod.fst)

/-- The workload under the claim that the subject names is the one that it selects. -/
theorem IsKeyed.finds_of_name (h : s.IsKeyed) {name : String}
    (hname : subject.selection = .name name) {w : Workload}
    (hw : s.workloads.get? ⟨subject.place, name⟩ = some w) : s.Finds subject [w] := by
  have hclaim : w.claim subject.groupKind = ⟨subject.place, name⟩ := (h _ w hw).symm
  refine ⟨List.pairwise_singleton _ _, ?_, ?_, fun k v hv hselects => ?_⟩
  · exact List.forall_mem_singleton.2 (hclaim ▸ hw)
  · refine List.forall_mem_singleton.2 ((subject.selects_target_iff _ _).2 ?_)
    rw [hclaim, hname]
    exact ⟨rfl, rfl⟩
  · obtain rfl := Subject.eq_of_selects hname hselects
    obtain rfl := Option.some.inj (hw.symm.trans hv)
    exact ⟨List.mem_singleton.2 rfl, hclaim.symm⟩

/-- The workloads that the selector of the subject picks are those that it selects. -/
theorem IsKeyed.finds_of_selector (h : s.IsKeyed) {selector : Selector}
    (hselector : subject.selection = .selector selector)
    (hfound : found.Perm (s.picked subject.place selector)) : s.Finds subject found := by
  have hpicked : ∀ w ∈ found, ∃ k, s.workloads.get? k = some w ∧ k = w.claim subject.groupKind ∧
      k.place = subject.place ∧ selector.accepts w.metadata.labelSet = true := by
    intro w hw
    obtain ⟨k, hk, hplace, haccepts⟩ := mem_picked_iff.1 (hfound.mem_iff.1 hw)
    have hkeyed := h k w hk
    rw [hplace] at hkeyed
    exact ⟨k, hk, hkeyed, hplace, haccepts⟩
  refine ⟨?_, fun w hw => ?_, fun w hw => ?_, fun k w hw hselects => ?_⟩
  · exact (hfound.map _).nodup_iff.2 (h.nodup_picked subject.place selector)
  · obtain ⟨k, hk, rfl, -⟩ := hpicked w hw
    exact hk
  · obtain ⟨k, -, rfl, hplace, haccepts⟩ := hpicked w hw
    refine (subject.selects_target_iff _ _).2 ?_
    rw [hselector]
    exact ⟨hplace, haccepts⟩
  · have hparts := (subject.selects_target_iff k w).1 hselects
    rw [hselector] at hparts
    have hkeyed := h k w hw
    rw [hparts.1] at hkeyed
    exact ⟨hfound.mem_iff.2 (mem_picked_iff.2 ⟨k, hw, hparts⟩), hkeyed⟩

/-! ## Workloads that carry an item -/

/-- While a binding is at work every workload is stored under its own name. -/
theorem Coherent.isKeyed (h : s.Coherent r m) : s.IsKeyed := fun k w hw => (h.entries k w hw).keyed

/-- The workloads that carry an item are selected by the subject of the binding. -/
theorem Coherent.selects (h : s.Coherent r m) (hsubject : r.subject = .ok subject) {k : Claim}
    {w : Workload} (hw : s.workloads.get? k = some w) (hm : m.isIn w = true) :
    subject.selects (k.target w) = true := by
  obtain ⟨subject', hsubject', hselects⟩ := (h.entries k w hw).selected hm
  obtain rfl := Except.ok.inj (hsubject.symm.trans hsubject')
  exact hselects

/-- What was found for the subject of the binding is all there is to find. -/
theorem Finds.listing (hfinds : s.Finds subject found) (h : s.Coherent r m)
    (hsubject : r.subject = .ok subject) : s.Listing subject m found where
  distinct := hfinds.distinct
  written w hw := (h.entries _ w (hfinds.stored w hw)).written
  selected := hfinds.selected
  current w hw _ hv := Option.some.inj (hv.symm.trans (hfinds.stored w hw))
  complete k w hw hm := hfinds.all k w hw (h.selects hsubject hw hm)

/-- When there is no workload of the name that the subject gives, none carries an item. -/
theorem clear_of_name (h : s.Coherent r m) (hsubject : r.subject = .ok subject) {name : String}
    (hname : subject.selection = .name name)
    (hnone : s.workloads.get? ⟨subject.place, name⟩ = none) : s.Clear m := by
  intro k w hw
  refine Bool.eq_false_iff.2 fun hm => ?_
  obtain rfl := Subject.eq_of_selects hname (h.selects hsubject hw hm)
  rw [hnone] at hw
  cases hw

/-- When the selector of the subject picks no workload, none carries an item. -/
theorem clear_of_selector (h : s.Coherent r m) (hsubject : r.subject = .ok subject)
    {selector : Selector} (hselector : subject.selection = .selector selector)
    (hnone : s.picked subject.place selector = []) : s.Clear m := by
  intro k w hw
  refine Bool.eq_false_iff.2 fun hm => ?_
  have hfinds : s.Finds subject [] := h.isKeyed.finds_of_selector hselector (.of_eq hnone.symm)
  exact List.not_mem_nil (hfinds.all k w hw (h.selects hsubject hw hm)).1

end World

namespace Reconcile

open World

variable {subject : Subject} {r : BindingResource} {m : Mutation} {s : World} {ended : World → Prop}

/-- Looking for the workloads of a binding finds those that carry an item, and finds nothing only
when there are none. -/
theorem locate_safe (h : s.Armed r m) (hsubject : r.subject = .ok subject) :
    Step.Safe (Call.Watched r m) ended
      (fun found t => t.Armed r m ∧ t.Listing subject m found)
      (fun e t => t.Armed r m ∧ (e.isNotFound = true → t.Clear m)) (locate subject) s := by
  unfold locate
  split
  · rename_i name hname
    refine .bind (.ask (fun t ht => (Armed.drifts ht h).guarded) fun answer t ht => ?_)
    obtain ⟨t, hdrift, hanswer, rfl⟩ := ht
    have harmed := h.drifts hdrift
    -- The call is for the claim that the subject names.
    have hgets : t.Gets ⟨subject.place, name⟩ answer := hanswer
    match answer, hgets with
    | .ok (some w), hfound =>
      have hfinds := harmed.coherent.isKeyed.finds_of_name hname hfound.symm
      exact .pure ⟨harmed, hfinds.listing harmed.coherent hsubject⟩
    | .ok none, hfound =>
      exact .throw ⟨harmed, fun _ => clear_of_name harmed.coherent hsubject hname hfound.symm⟩
    | .error e, hgone =>
      exact .throw
        ⟨harmed, fun he => clear_of_name harmed.coherent hsubject hname (hgone he)⟩
  · rename_i selector hselector
    refine .bind (.ask (fun t ht => (Armed.drifts ht h).guarded) fun answer t ht => ?_)
    obtain ⟨t, hdrift, hanswer, rfl⟩ := ht
    have harmed := h.drifts hdrift
    have hlists : t.Lists subject.place selector answer := hanswer
    refine .orFail (fun found hok => ?_) fun e herror => ?_
    · subst hok
      have hfinds := harmed.coherent.isKeyed.finds_of_selector hselector hlists
      exact ⟨harmed, hfinds.listing harmed.coherent hsubject⟩
    · subst herror
      exact ⟨harmed, fun he =>
        clear_of_selector harmed.coherent hsubject hselector (hlists he)⟩

end Reconcile

end WorkloadBindings
