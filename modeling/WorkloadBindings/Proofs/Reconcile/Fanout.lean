import Mathlib.Data.List.Nodup
import WorkloadBindings.Proofs.Reconcile.Located

/-!
# Patching the workloads that were found

The patches of a change are under way together and answered in any order, while workloads may be
removed. `World.Fanout` is what every step of them keeps: a workload is either as it was found, with
no answer to its patch but a failure, or it has its changed form and its patch was answered with
success. So when an undo is over and nothing failed but for workloads that are gone, no workload
carries an item of the mutation any more (`Reconcile.change_safe`).
-/

namespace WorkloadBindings

/-! ## Changes -/

namespace Change

/-- A change leaves the metadata of a workload. -/
theorem metadata_apply (c : Change) (m : Mutation) (w : Workload) :
    (c.apply m w).metadata = w.metadata := by
  cases c <;> rfl

/-- A change leaves the name of a workload. -/
theorem claim_apply (c : Change) (m : Mutation) (w : Workload) (gk : GroupKind) :
    (c.apply m w).claim gk = w.claim gk := by
  unfold Workload.claim
  rw [metadata_apply]

/-- A change leaves what the selection of a workload depends on. -/
theorem target_apply (c : Change) (m : Mutation) (w : Workload) (k : Claim) :
    k.target (c.apply m w) = k.target w := by
  unfold Claim.target
  rw [metadata_apply]

/-- A change keeps the written form. -/
theorem isWritten_apply (c : Change) (m : Mutation) {w : Workload} (h : w.IsWritten) :
    (c.apply m w).IsWritten := by
  cases c with
  | bind => exact Mutation.isWritten_apply m h
  | unbind => exact Mutation.isWritten_undo m h

end Change

namespace WorkloadPatch

variable {c : Change} {m : Mutation} {type : ResourceType} {w : Workload} {p : WorkloadPatch}

/-- The patch of a change is the difference that it makes, for the workload itself. -/
theorem eq_of_forChange? (h : forChange? c m type w = some p) :
    p = ⟨type, w.metadata.namespaceOrEmpty, w.metadata.name.getD "",
      Json.diff w.toJson (c.apply m w).toJson⟩ := by
  unfold forChange? at h
  simp only at h
  split at h
  · cases h
  · exact (Option.some.inj h).symm

/-- The patch of a change is for the workload. -/
theorem claim_of_forChange? (h : forChange? c m type w = some p) :
    p.claim = w.claim ⟨type.group, type.kind⟩ := by
  rw [eq_of_forChange? h]
  rfl

/-- The patch of a change carries it out. -/
theorem applyPatch_of_forChange? (hw : w.IsWritten) (h : forChange? c m type w = some p) :
    w.toJson.applyPatch p.patch = some (c.apply m w).toJson := by
  rw [eq_of_forChange? h]
  exact Json.applyPatch_diff_self hw.ordered (c.isWritten_apply m hw).ordered

/-- A workload that a change changes gets a patch. -/
theorem exists_forChange? (type : ResourceType) (hw : w.IsWritten) (h : c.apply m w ≠ w) :
    ∃ p, forChange? c m type w = some p := by
  unfold forChange?
  simp only
  split
  · rename_i hempty
    have hdiff := (Json.diff_eq_nil_iff hw.ordered (c.isWritten_apply m hw).ordered).1
      (List.isEmpty_iff.1 hempty)
    exact absurd (Workload.toJson_injective hdiff).symm h
  · exact ⟨_, rfl⟩

/-- A workload that a change leaves as it is gets none. -/
theorem forChange?_eq_none (hw : w.IsWritten) (h : c.apply m w = w) :
    forChange? c m type w = none := by
  unfold forChange?
  simp only
  rw [h, Json.diff_self hw.ordered, List.isEmpty_nil, if_pos rfl]

/-- The patches of a change for different workloads are for different workloads. -/
theorem nodup_claims {workloads : List Workload}
    (h : (workloads.map fun w => w.claim ⟨type.group, type.kind⟩).Nodup) :
    ((workloads.filterMap (forChange? c m type)).map claim).Nodup := by
  have hdistinct : workloads.Pairwise fun v w =>
      v.claim ⟨type.group, type.kind⟩ ≠ w.claim ⟨type.group, type.kind⟩ := List.pairwise_map.1 h
  refine List.pairwise_map.2 (List.pairwise_filterMap.2 (hdistinct.imp ?_))
  intro v w hne p hp q hq heq
  rw [claim_of_forChange? hp, claim_of_forChange? hq] at heq
  exact hne heq

end WorkloadPatch

namespace Reconcile

/-- A patch that failed is among the failures. -/
theorem mem_patchFailures {p : WorkloadPatch} {e : ApiFailure} {patches : List WorkloadPatch}
    {results : List (Except ApiFailure Unit)}
    (h : (p, some (Except.error e)) ∈ patches.zip (results.map some)) :
    ReconcileError.patch p.type.plural p.namespace p.name e ∈ patchFailures patches results := by
  induction patches generalizing results with
  | nil => cases h
  | cons q rest ih =>
    match results with
    | [] => cases h
    | .error cause :: results =>
      rw [patchFailures]
      rcases List.mem_cons.1 h with heq | htail
      · obtain ⟨rfl, hcause⟩ := Prod.mk.inj heq
        obtain rfl := Except.error.inj (Option.some.inj hcause)
        exact List.mem_cons_self
      · exact List.mem_cons_of_mem _ (ih htail)
    | .ok () :: results =>
      rw [patchFailures]
      rcases List.mem_cons.1 h with heq | htail
      · cases heq
      · exact ih htail

end Reconcile

namespace PatchProgress

/-- An answer that a patch has it keeps. -/
theorem mem_answered {before after : PatchProgress} {p q : WorkloadPatch}
    {answer other : Except ApiFailure Unit}
    (h : (q, some other) ∈ before ++ (p, none) :: after) :
    (q, some other) ∈ before ++ (p, some answer) :: after := by
  rcases List.mem_append.1 h with hbefore | hrest
  · exact List.mem_append_left _ hbefore
  · rcases List.mem_cons.1 hrest with heq | hafter
    · -- The patch had no answer before.
      cases heq
    · exact List.mem_append_right _ (List.mem_cons_of_mem _ hafter)

/-- An answer is that of the patch that was answered, or it was there before. -/
theorem mem_of_answered {before after : PatchProgress} {p q : WorkloadPatch}
    {answer other : Except ApiFailure Unit}
    (h : (q, some other) ∈ before ++ (p, some answer) :: after) :
    (q = p ∧ other = answer) ∨ (q, some other) ∈ before ++ (p, none) :: after := by
  rcases List.mem_append.1 h with hbefore | hrest
  · exact Or.inr (List.mem_append_left _ hbefore)
  · rcases List.mem_cons.1 hrest with heq | hafter
    · obtain ⟨rfl, hanswer⟩ := Prod.mk.inj heq
      exact Or.inl ⟨rfl, Option.some.inj hanswer⟩
    · exact Or.inr (List.mem_append_right _ (List.mem_cons_of_mem _ hafter))

end PatchProgress

namespace World

variable {r : BindingResource} {m : Mutation} {c : Change} {subject : Subject}
  {found : List Workload} {progress : PatchProgress} {s t : World}

/-! ## Patches under way -/

/-- The workload under a claim is as it was found: its patch has no answer but a failure that does
not say that it is gone, and when it carries an item it is one of those that were found. -/
structure AsFound (m : Mutation) (gk : GroupKind) (found : List Workload) (progress : PatchProgress)
    (k : Claim) (w : Workload) : Prop where
  same : ∀ v ∈ found, v.claim gk = k → w = v
  complete : m.isIn w = true → w ∈ found ∧ k = w.claim gk
  failed : ∀ p answer, (p, some answer) ∈ progress → p.claim = k →
    ∃ e, answer = .error e ∧ e.isNotFound = false

/-- The workload under a claim has the changed form of one that was found, whose patch was answered
with success. -/
def IsChanged (c : Change) (m : Mutation) (gk : GroupKind) (found : List Workload)
    (progress : PatchProgress) (k : Claim) (w : Workload) : Prop :=
  ∃ v ∈ found, k = v.claim gk ∧ w = c.apply m v ∧
    ∃ p, (p, some (Except.ok ())) ∈ progress ∧ p.claim = k

/-- What holds while the patches of a change are under way. -/
structure Fanout (r : BindingResource) (m : Mutation) (c : Change) (subject : Subject)
    (found : List Workload) (progress : PatchProgress) (s : World) : Prop where
  armed : s.Armed r m
  patches : progress.map Prod.fst =
    found.filterMap (WorkloadPatch.forChange? c m subject.resourceType)
  workloads : ∀ k w, s.workloads.get? k = some w →
    AsFound m subject.groupKind found progress k w ∨
      IsChanged c m subject.groupKind found progress k w

/-- Patches that have no answer yet leave the workloads as they were found. -/
theorem Listing.fanout (h : s.Listing subject m found) (harmed : s.Armed r m) :
    s.Fanout r m c subject found (PatchProgress.start
      (found.filterMap (WorkloadPatch.forChange? c m subject.resourceType))) where
  armed := harmed
  patches := by
    unfold PatchProgress.start
    rw [List.map_map]
    exact List.map_id _
  workloads k w hw := by
    refine Or.inl ⟨fun v hv hk => ?_, h.complete k w hw, fun p answer hmem _ => ?_⟩
    · exact h.current v hv w (hk ▸ hw)
    · obtain ⟨q, -, heq⟩ := List.mem_map.1 hmem
      cases heq

/-- Others remove workloads and change none. -/
theorem Fanout.outside (hst : s.Outside t) (h : s.Fanout r m c subject found progress) :
    t.Fanout r m c subject found progress :=
  ⟨h.armed.outside hst, h.patches, fun k w hw => h.workloads k w (hst.get? hw)⟩

/-- A patch that fails leaves its workload as it was found, or there is none. -/
theorem Fanout.failed {before after : PatchProgress} {p : WorkloadPatch} {e : ApiFailure}
    (hgone : e.isNotFound = true → s.workloads.get? p.claim = none)
    (h : s.Fanout r m c subject found (before ++ (p, none) :: after)) :
    s.Fanout r m c subject found (before ++ (p, some (.error e)) :: after) := by
  refine ⟨h.armed, ?_, fun k w hw => ?_⟩
  · rw [← h.patches, List.map_append, List.map_append, List.map_cons, List.map_cons]
  · rcases h.workloads k w hw with hfound | ⟨v, hv, hk, hchanged, q, hq, hclaim⟩
    · refine Or.inl ⟨hfound.same, hfound.complete, fun q answer hmem hclaim => ?_⟩
      rcases PatchProgress.mem_of_answered hmem with ⟨rfl, rfl⟩ | hold
      · -- The workload is there, so that the failure does not say that it is gone.
        refine ⟨e, rfl, Bool.eq_false_iff.2 fun he => ?_⟩
        rw [← hclaim, hgone he] at hw
        cases hw
      · exact hfound.failed q answer hold hclaim
    · exact Or.inr ⟨v, hv, hk, hchanged, q, PatchProgress.mem_answered hq, hclaim⟩

/-- The workload that a patch under way is for was found, and it is still as it was found. -/
theorem Fanout.exists_found {before after : PatchProgress} {p : WorkloadPatch} {w : Workload}
    (hnodup : ((found.filterMap (WorkloadPatch.forChange? c m subject.resourceType)).map
      WorkloadPatch.claim).Nodup)
    (h : s.Fanout r m c subject found (before ++ (p, none) :: after))
    (hw : s.workloads.get? p.claim = some w) :
    w ∈ found ∧ WorkloadPatch.forChange? c m subject.resourceType w = some p := by
  have hmem : (p, none) ∈ before ++ (p, none) :: after :=
    List.mem_append_right _ List.mem_cons_self
  have hp : p ∈ found.filterMap (WorkloadPatch.forChange? c m subject.resourceType) :=
    h.patches ▸ List.mem_map_of_mem hmem
  obtain ⟨v, hv, hpatch⟩ := List.mem_filterMap.1 hp
  rcases h.workloads p.claim w hw with hfound | ⟨-, -, -, -, q, hq, hclaim⟩
  · obtain rfl := hfound.same v hv (WorkloadPatch.claim_of_forChange? hpatch).symm
    exact ⟨hv, hpatch⟩
  · -- Another patch for the workload would have been answered, but there is only one.
    rw [← h.patches, List.map_map] at hnodup
    have heq := List.inj_on_of_nodup_map hnodup hq hmem hclaim
    cases heq

/-- A patch that succeeds gives its workload its changed form. -/
theorem Fanout.patched {before after : PatchProgress} {p : WorkloadPatch} {w : Workload} {j : Json}
    (hlisting : ∀ v ∈ found, v.IsWritten ∧
      subject.selects ((v.claim subject.groupKind).target v) = true)
    (hsubject : r.subject = .ok subject)
    (hnodup : ((found.filterMap (WorkloadPatch.forChange? c m subject.resourceType)).map
      WorkloadPatch.claim).Nodup)
    (hw : s.workloads.get? p.claim = some w) (hj : w.toJson.applyPatch p.patch = some j)
    (h : s.Fanout r m c subject found (before ++ (p, none) :: after)) :
    (s.put p.claim (.ofJson j)).Fanout r m c subject found
      (before ++ (p, some (.ok ())) :: after) := by
  obtain ⟨hmem, hpatch⟩ := h.exists_found hnodup hw
  obtain ⟨hwritten, hselects⟩ := hlisting w hmem
  have hclaim : p.claim = w.claim subject.groupKind := WorkloadPatch.claim_of_forChange? hpatch
  obtain rfl : (c.apply m w).toJson = j :=
    Option.some.inj ((WorkloadPatch.applyPatch_of_forChange? hwritten hpatch).symm.trans hj)
  rw [Workload.ofJson_toJson]
  -- The changed workload has the name and the labels of the one that was found.
  have hentry : IsEntry r m p.claim (c.apply m w) := by
    refine ⟨?_, c.isWritten_apply m hwritten, fun _ => ⟨subject, hsubject, ?_⟩⟩
    · rw [c.claim_apply, hclaim]
      rfl
    · rw [c.target_apply, hclaim]
      exact hselects
  refine ⟨⟨⟨h.armed.coherent.binding, fun k v hv => ?_⟩, h.armed.held⟩, ?_, fun k v hv => ?_⟩
  · rcases get?_put hv with ⟨rfl, rfl⟩ | ⟨-, hold⟩
    · exact hentry
    · exact h.armed.coherent.entries k v hold
  · rw [← h.patches, List.map_append, List.map_append, List.map_cons, List.map_cons]
  · rcases get?_put hv with ⟨rfl, rfl⟩ | ⟨hne, hold⟩
    · exact Or.inr ⟨w, hmem, hclaim, rfl, p, List.mem_append_right _ List.mem_cons_self, rfl⟩
    · rcases h.workloads k v hold with hfound | ⟨u, hu, hk, hchanged, q, hq, hqclaim⟩
      · refine Or.inl ⟨hfound.same, hfound.complete, fun q answer hmem hqclaim => ?_⟩
        rcases PatchProgress.mem_of_answered hmem with ⟨rfl, rfl⟩ | hold
        · exact absurd hqclaim.symm hne
        · exact hfound.failed q answer hold hqclaim
      · exact Or.inr ⟨u, hu, hk, hchanged, q, PatchProgress.mem_answered hq, hqclaim⟩

/-- Every step of the patches keeps what holds while they are under way. -/
theorem Fanout.step {x y : PatchProgress × World} (hstep : PatchStep x y)
    (hlisting : ∀ v ∈ found, v.IsWritten ∧
      subject.selects ((v.claim subject.groupKind).target v) = true)
    (hsubject : r.subject = .ok subject)
    (hnodup : ((found.filterMap (WorkloadPatch.forChange? c m subject.resourceType)).map
      WorkloadPatch.claim).Nodup)
    (h : x.2.Fanout r m c subject found x.1) : y.2.Fanout r m c subject found y.1 := by
  cases hstep with
  | outside hst => exact h.outside hst
  | answered hanswer =>
    cases hanswer with
    | patched hw hj => exact h.patched hlisting hsubject hnodup hw hj
    | failed hgone => exact h.failed hgone

/-- What holds when patches are sent for the workloads that were found holds as long as they are
under way. -/
theorem Listing.fanout_steps (h : s.Listing subject m found) (harmed : s.Armed r m)
    (hsubject : r.subject = .ok subject)
    (hsteps : Relation.ReflTransGen PatchStep
      (PatchProgress.start (found.filterMap (WorkloadPatch.forChange? c m subject.resourceType)), s)
      (progress, t)) :
    t.Fanout r m c subject found progress := by
  have hlisting : ∀ v ∈ found, v.IsWritten ∧
      subject.selects ((v.claim subject.groupKind).target v) = true :=
    fun v hv => ⟨h.written v hv, h.selected v hv⟩
  have hnodup : ((found.filterMap (WorkloadPatch.forChange? c m subject.resourceType)).map
      WorkloadPatch.claim).Nodup := WorkloadPatch.nodup_claims h.distinct
  have hrun : ∀ y, Relation.ReflTransGen PatchStep
      (PatchProgress.start (found.filterMap (WorkloadPatch.forChange? c m subject.resourceType)), s)
      y → y.2.Fanout r m c subject found y.1 := by
    intro y hy
    induction hy with
    | refl => exact h.fanout harmed
    | tail _ hlast ih => exact ih.step hlast hlisting hsubject hnodup
  exact hrun _ hsteps

/-- When an undo is over and nothing failed but for workloads that are gone, no workload carries an
item. -/
theorem Fanout.clear (h : s.Fanout r m .unbind subject found progress)
    (hanswered : ∀ x ∈ progress, ∃ answer, x.2 = some answer)
    (hfailures : ∀ p e, (p, some (Except.error e)) ∈ progress → e.isNotFound = true) :
    s.Clear m := by
  intro k w hw
  refine Bool.eq_false_iff.2 fun hm => ?_
  rcases h.workloads k w hw with hfound | ⟨v, -, -, rfl, -⟩
  · obtain ⟨hmem, hk⟩ := hfound.complete hm
    -- Undoing it changes it, so that it has a patch.
    have hne : Change.unbind.apply m w ≠ w := by
      intro heq
      have hundo := Mutation.isIn_undo m w
      rw [show m.undo w = w from heq, hm] at hundo
      cases hundo
    have hwritten := (h.armed.coherent.entries k w hw).written
    obtain ⟨p, hp⟩ := WorkloadPatch.exists_forChange? subject.resourceType hwritten hne
    have hpatch : p ∈ progress.map Prod.fst :=
      h.patches ▸ List.mem_filterMap.2 ⟨w, hmem, hp⟩
    obtain ⟨⟨p, found?⟩, hx, rfl⟩ := List.mem_map.1 hpatch
    obtain ⟨answer, rfl⟩ := hanswered _ hx
    obtain ⟨e, rfl, he⟩ :=
      hfound.failed p answer hx ((WorkloadPatch.claim_of_forChange? hp).trans hk.symm)
    rw [hfailures p e hx] at he
    cases he
  · -- A workload in its changed form carries nothing.
    have hundo := Mutation.isIn_undo m v
    exact Bool.false_ne_true (hundo.symm.trans hm)

end World

namespace Reconcile

open World

/-- Every patch has its answer when all are answered. -/
theorem exists_answer {patches : List WorkloadPatch} {answers : PatchResults patches} :
    ∀ x ∈ PatchProgress.finish patches answers, ∃ answer, x.2 = some answer := by
  rintro ⟨p, found⟩ hx
  obtain ⟨answer, -, rfl⟩ := List.mem_map.1 (List.of_mem_zip hx).2
  exact ⟨answer, rfl⟩

variable {r : BindingResource} {m : Mutation} {subject : Subject} {found : List Workload} {s : World}
  {ended : World → Prop} {failed : ReconcileError → World → Prop}

/-- Changing the workloads that were found keeps the world guarded, with the finalizer. When they are
undone and nothing failed but for workloads that are gone, no workload carries an item any more. -/
theorem change_safe (c : Change) (k : BindingKind) (h : s.Armed r m)
    (hlisting : s.Listing subject m found) (hsubject : r.subject = .ok subject) :
    Step.Safe (Call.Watched r m) ended
      (fun failures t => t.Armed r m ∧
        (c = .unbind → (∀ e ∈ failures, e.isNotFound = true) → t.Clear m))
      failed (change c k m subject.resourceType found) s := by
  unfold change
  simp only
  split
  · -- Without patches nothing is to be changed.
    rename_i hempty
    refine .pure ⟨h, fun hc _ => ?_⟩
    subst hc
    have hfanout := hlisting.fanout (c := .unbind) h
    rw [List.isEmpty_iff.1 hempty] at hfanout
    exact hfanout.clear (fun x hx => nomatch hx) fun p e hx => nomatch hx
  · refine .bind (.ask (fun t ht => ?_) fun answers t ht => ?_)
    · obtain ⟨progress, hsteps⟩ := ht
      exact (hlisting.fanout_steps h hsubject hsteps).armed
    · have hfanout := hlisting.fanout_steps h hsubject ht
      refine .bind (.note fun u hu => ⟨(hfanout.armed.drifts hu).guarded, ?_⟩)
      refine .pure ⟨hfanout.armed.drifts hu, fun hc hgone => ?_⟩
      subst hc
      refine Clear.drifts hu (hfanout.clear exists_answer fun p e hx => ?_)
      exact hgone _ (mem_patchFailures hx)

end Reconcile

end WorkloadBindings
