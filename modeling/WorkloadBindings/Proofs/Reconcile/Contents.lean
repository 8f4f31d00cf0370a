import WorkloadBindings.Proofs.Binding.Merged
import WorkloadBindings.Proofs.Dialogue
import WorkloadBindings.Proofs.Reconcile.Bound
import WorkloadBindings.Proofs.Workload.Patched

/-!
# What the API stores

`Contents` is the object of a binding and the objects of the workloads, as the API stores them, nulls
and members included that nothing here knows. What a pass writes is stored as it is sent: finalizers and
status by a merge patch of the binding, after which the API gives it a version, and patches of workloads
by carrying their operations out (`Contents.Answers`). A request that fails changes nothing.
`Contents.view` shows the workloads that are read from the objects. When all patches of a change succeed,
the workloads of the subject, and no others, have their changed form there
(`Contents.IsSound.get?_view`).
-/

namespace WorkloadBindings

/-! ## Maps of other values -/

namespace SortedMap

variable {κ β γ : Type} [Ord κ]

/-- The map of what becomes of the values, without those of which nothing does. -/
def filterMap (f : β → Option γ) (m : SortedMap κ β) : SortedMap κ γ where
  entries := m.entries.filterMap fun e => (f e.2).map (e.1, ·)
  sorted := by
    refine List.Pairwise.filterMap _ ?_ m.sorted
    intro a b hab x hx y hy
    obtain ⟨_, _, rfl⟩ := Option.map_eq_some_iff.1 hx
    obtain ⟨_, _, rfl⟩ := Option.map_eq_some_iff.1 hy
    exact hab

variable [DecidableEq κ] [Std.LawfulEqOrd κ]

/-- What is found is what becomes of the value that was there. -/
theorem get?_filterMap_eq_some_iff {f : β → Option γ} {m : SortedMap κ β} {k : κ} {c : γ} :
    (m.filterMap f).get? k = some c ↔ ∃ b, m.get? k = some b ∧ f b = some c := by
  unfold get?
  rw [(m.filterMap f).sorted.get?_eq_some_iff]
  constructor
  · intro hmem
    obtain ⟨⟨k', b⟩, he, hb⟩ := List.mem_filterMap.1 hmem
    obtain ⟨c', hc', heq⟩ := Option.map_eq_some_iff.1 hb
    obtain ⟨rfl, rfl⟩ := Prod.mk.inj heq
    exact ⟨b, m.sorted.get?_eq_some_iff.2 he, hc'⟩
  · rintro ⟨b, hb, hc⟩
    refine List.mem_filterMap.2 ⟨(k, b), m.sorted.get?_eq_some_iff.1 hb, ?_⟩
    rw [hc, Option.map_some]

end SortedMap

/-! ## Contents -/

/-- The object of a binding, by its members, and the objects of the workloads. -/
structure Contents where
  binding : Members
  workloads : SortedMap Claim Json

namespace Contents

/-- The workloads that are read from the objects. -/
def view (s : Contents) : World where
  binding := none
  workloads := s.workloads.filterMap fun raw => (Workload.read raw).toOption

/-- The contents with an object of a workload in its place. -/
def put (s : Contents) (k : Claim) (raw : Json) : Contents :=
  { s with workloads := s.workloads.insert k raw }

/-- The contents after a merge patch of the binding, which may get a version. -/
def merged (s : Contents) (body : Json) (version : Option String) : Contents :=
  let binding := Json.merge (.obj s.binding) body
  { s with
    binding := (version.elim binding fun v => binding.merge (BindingResource.versionBody v)).members }

/-- The answers to the request for the object under a claim. -/
def Gets (s : Contents) (k : Claim) : Except ApiFailure (Option Workload) → Prop
  | .ok (some w) => ∃ raw, s.workloads.get? k = some raw ∧ Workload.read raw = .ok w
  | .ok none => s.workloads.get? k = none
  | .error _ => True

/-- The answers to the request for the workloads of a place that a selector picks, which come in any
order. -/
def Lists (s : Contents) (place : Place) (selector : Selector) :
    Except ApiFailure (List Workload) → Prop
  | .ok found => found.Perm (s.view.picked place selector)
  | .error _ => True

/-- The answers to a merge patch of the binding, and the contents after it. -/
def Writes (s : Contents) (body : Json) : Except ApiFailure Unit → Contents → Prop
  | .ok (), t => ∃ version, t = s.merged body version
  | .error _, t => t = s

/-- The answers to the patch of a workload, and the contents after it. -/
inductive Patches (s : Contents) (p : WorkloadPatch) : Except ApiFailure Unit → Contents → Prop where
  | patched {raw raw' : Json} (hraw : s.workloads.get? p.claim = some raw)
      (hpatch : raw.applyPatch p.patch = some raw') : Patches s p (.ok ()) (s.put p.claim raw')
  | failed (e : ApiFailure) : Patches s p (.error e) s

/-- The contents after some patches were answered, one after the other. -/
inductive PatchesEach : Contents → List (WorkloadPatch × Except ApiFailure Unit) → Contents → Prop where
  | nil (s : Contents) : PatchesEach s [] s
  | cons {s t u : Contents} {p : WorkloadPatch} {answer : Except ApiFailure Unit}
      {rest : List (WorkloadPatch × Except ApiFailure Unit)} (h : s.Patches p answer t)
      (hrest : PatchesEach t rest u) : PatchesEach s ((p, answer) :: rest) u

/-- The answers to a call, and the contents after it. -/
def Answers (s : Contents) : (c : Call) → c.Answer → Contents → Prop
  | .get type ns name, answer, t => s.Gets (type.claim ns name) answer ∧ t = s
  | .list type ns selector, answer, t => s.Lists (type.claim ns "").place selector answer ∧ t = s
  | .patchAll patches, answers, t =>
    ∃ order : List (WorkloadPatch × Except ApiFailure Unit),
      order.Perm (patches.zip answers.val) ∧ s.PatchesEach order t
  | .finalizers _ version finalizers, answer, t =>
    s.Writes (Client.finalizersBody version finalizers) answer t
  | .status _ status, answer, t => s.Writes (Client.statusBody status) answer t
  | .event _, _, t => t = s
  | .note _, _, t => t = s

/-- The contents after some calls got their answers. -/
def Answered : Contents → Dialogue.Said Call.Answer → Contents → Prop
  | s, [], t => t = s
  | s, x :: said, t => ∃ u, s.Answers x.1 x.2 u ∧ u.Answered said t

/-- Every workload that can be read is stored under its own name, and all objects have their names in
order. -/
structure IsSound (s : Contents) : Prop where
  keyed : s.view.IsKeyed
  ordered : ∀ k raw, s.workloads.get? k = some raw → raw.isOrdered = true

variable {s t : Contents}

/-- A workload is seen when it is read from an object. -/
theorem get?_view_iff {k : Claim} {w : Workload} :
    s.view.workloads.get? k = some w ↔
      ∃ raw, s.workloads.get? k = some raw ∧ Workload.read raw = .ok w := by
  have hread : ∀ raw, (Workload.read raw).toOption = some w ↔ Workload.read raw = .ok w := by
    intro raw
    cases Workload.read raw <;> simp [Except.toOption]
  unfold view
  rw [SortedMap.get?_filterMap_eq_some_iff]
  exact exists_congr fun raw => and_congr_right' (hread raw)

/-- What is seen of objects with their names in order is tidy. -/
theorem IsSound.isTidy (h : s.IsSound) : s.view.IsTidy := by
  refine ⟨h.keyed, fun k w hw => ?_⟩
  obtain ⟨raw, hraw, hread⟩ := get?_view_iff.1 hw
  exact Workload.isWritten_of_read (h.ordered k raw hraw) hread

/-- Contents with the same workloads are seen alike. -/
theorem view_eq (h : t.workloads = s.workloads) : t.view = s.view := by
  rw [view, view, h]

/-- Contents with the same workloads are sound together. -/
theorem IsSound.of_workloads (hs : s.IsSound) (h : t.workloads = s.workloads) : t.IsSound := by
  refine ⟨?_, fun k raw hraw => hs.ordered k raw (h ▸ hraw)⟩
  rw [view_eq h]
  exact hs.keyed

/-! ## The object of the binding -/

variable {k : BindingKind} {r : BindingResource}

/-- The binding is read from the object that is stored. -/
def Stores (s : Contents) (k : BindingKind) (r : BindingResource) : Prop :=
  BindingResource.decode k (.obj s.binding) = .ok r

/-- A binding that is read from the object after a merge patch is read again when the object gets a
version. -/
theorem exists_stores_merged {body : Json} {ms : Members}
    (hmerge : Json.merge (.obj s.binding) body = .obj ms)
    (h : BindingResource.decode k (.obj ms) = .ok r) (version : Option String) :
    ∃ r', (s.merged body version).Stores k r' ∧ r'.IsRewriteOf r ∧
      r'.finalizers = r.finalizers ∧ r'.status = r.status := by
  unfold Stores merged
  simp only [hmerge]
  cases version with
  | none => exact ⟨r, h, .refl r, rfl, rfl⟩
  | some version =>
    obtain ⟨ms', hms', hread⟩ := BindingResource.decode_version h version
    simp only [Option.elim_some, hms']
    exact ⟨_, hread, ⟨⟨rfl, rfl, rfl⟩, rfl, rfl⟩, rfl, rfl⟩

/-- The binding has the finalizers that were written. -/
theorem Stores.merged_finalizers (h : s.Stores k r) (expected : Option String)
    (finalizers : List String) (version : Option String) :
    ∃ r', (s.merged (Client.finalizersBody expected finalizers) version).Stores k r' ∧
      r'.IsRewriteOf r ∧ r'.finalizers = finalizers ∧ r'.status = r.status := by
  obtain ⟨ms, hmerge, hread⟩ := BindingResource.decode_finalizers h expected finalizers
  obtain ⟨r', hr', hrewrite, hfinalizers, hstatus⟩ := exists_stores_merged hmerge hread version
  exact ⟨r', hr', hrewrite.trans ⟨⟨rfl, rfl, rfl⟩, rfl, rfl⟩, hfinalizers, hstatus⟩

/-- The binding has the status that was written, unless this leaves out a generation that was there. -/
theorem Stores.merged_status (h : s.Stores k r) {status : BindingStatus}
    (hconditions : status.conditions ≠ []) (hfits : status.Fits)
    (hkeeps : status.observedGeneration = none →
      (r.status.getD {}).observedGeneration = none) (version : Option String) :
    ∃ r', (s.merged (Client.statusBody status) version).Stores k r' ∧ r'.IsRewriteOf r ∧
      r'.finalizers = r.finalizers ∧ r'.status = some status := by
  obtain ⟨ms, hmerge, hread⟩ := BindingResource.decode_status h hconditions hfits hkeeps
  obtain ⟨r', hr', hrewrite, hfinalizers, hstatus⟩ := exists_stores_merged hmerge hread version
  exact ⟨r', hr', hrewrite.trans ⟨⟨rfl, rfl, rfl⟩, rfl, rfl⟩, hfinalizers, hstatus⟩

/-! ## Patches -/

/-- A patch leaves the binding. -/
theorem PatchesEach.binding {order : List (WorkloadPatch × Except ApiFailure Unit)}
    (h : s.PatchesEach order t) : t.binding = s.binding := by
  induction h with
  | nil => rfl
  | cons hpatch _ ih =>
    rw [ih]
    cases hpatch <;> rfl

/-- A patch leaves the objects under other claims. -/
theorem Patches.get?_of_ne {p : WorkloadPatch} {answer : Except ApiFailure Unit}
    (h : s.Patches p answer t) {k : Claim} (hne : k ≠ p.claim) :
    t.workloads.get? k = s.workloads.get? k := by
  cases h with
  | patched hraw hpatch =>
    rw [put, SortedMap.get?_insert, if_neg fun heq => hne (Std.LawfulEqCmp.eq_of_compare heq)]
  | failed e => rfl

/-- An object that no patch is for with success stays as it is. -/
theorem PatchesEach.get?_of_forall {order : List (WorkloadPatch × Except ApiFailure Unit)}
    (h : s.PatchesEach order t) {k : Claim}
    (hnone : ∀ p, (p, Except.ok ()) ∈ order → p.claim ≠ k) :
    t.workloads.get? k = s.workloads.get? k := by
  induction h with
  | nil => rfl
  | cons hpatch _ ih =>
    rw [ih fun p hp => hnone p (List.mem_cons_of_mem _ hp)]
    cases hpatch with
    | patched hraw happly =>
      refine (Patches.patched hraw happly).get?_of_ne fun heq => ?_
      exact hnone _ List.mem_cons_self heq.symm
    | failed e => rfl

/-- A patch can be carried out on the object of its workload. -/
def Carries (s : Contents) (p : WorkloadPatch) : Prop :=
  ∃ raw raw', s.workloads.get? p.claim = some raw ∧ raw.applyPatch p.patch = some raw'

/-- Patches for different workloads can be answered in any way and order in which each of them is refused
or can be carried out on the object as it was before all of them. -/
theorem exists_patchesEach {order : List (WorkloadPatch × Except ApiFailure Unit)}
    (hnodup : (order.map fun x => x.1.claim).Nodup)
    (h : ∀ p, (p, Except.ok ()) ∈ order → s.Carries p) : ∃ t, s.PatchesEach order t := by
  induction order generalizing s with
  | nil => exact ⟨s, .nil s⟩
  | cons x rest ih =>
    obtain ⟨p, answer⟩ := x
    obtain ⟨hfirst, htail⟩ := List.nodup_cons.1 hnodup
    have hanswer : ∃ u, s.Patches p answer u := by
      cases answer with
      | error e => exact ⟨s, .failed e⟩
      | ok _ =>
        obtain ⟨raw, raw', hraw, happly⟩ := h p List.mem_cons_self
        exact ⟨_, .patched hraw happly⟩
    obtain ⟨u, hu⟩ := hanswer
    have hrest : ∀ q, (q, Except.ok ()) ∈ rest → u.Carries q := by
      intro q hq
      obtain ⟨raw, raw', hraw, happly⟩ := h q (List.mem_cons_of_mem _ hq)
      -- The patch before it is for another workload.
      have hne : q.claim ≠ p.claim := fun heq => hfirst (List.mem_map.2 ⟨_, hq, heq⟩)
      exact ⟨raw, raw', (hu.get?_of_ne hne).trans hraw, happly⟩
    obtain ⟨t, ht⟩ := ih htail hrest
    exact ⟨t, .cons hu ht⟩

/-- Among patches for different workloads, one that succeeded was carried out on the object as it was
before all of them. -/
theorem PatchesEach.exists_applyPatch {order : List (WorkloadPatch × Except ApiFailure Unit)}
    (h : s.PatchesEach order t) (hnodup : (order.map fun x => x.1.claim).Nodup) {p : WorkloadPatch}
    (hp : (p, Except.ok ()) ∈ order) :
    ∃ raw raw', s.workloads.get? p.claim = some raw ∧ raw.applyPatch p.patch = some raw' ∧
      t.workloads.get? p.claim = some raw' := by
  induction h with
  | nil => cases hp
  | @cons s t u q answer rest hpatch hrest ih =>
    obtain ⟨hfirst, htail⟩ := List.nodup_cons.1 hnodup
    rcases List.mem_cons.1 hp with heq | hmem
    · obtain ⟨rfl, rfl⟩ := Prod.mk.inj heq
      cases hpatch with
      | @patched raw raw' hraw happly =>
        refine ⟨raw, raw', hraw, happly, ?_⟩
        -- No later patch is for the same workload.
        rw [hrest.get?_of_forall fun q hq heq => hfirst (List.mem_map.2 ⟨_, hq, heq⟩), put,
          SortedMap.get?_insert, Std.compare_self, if_pos rfl]
    · obtain ⟨raw, raw', hraw, happly, hfound⟩ := ih htail hmem
      have hne : p.claim ≠ q.claim := fun heq => hfirst (List.mem_map.2 ⟨_, hmem, heq⟩)
      exact ⟨raw, raw', (hpatch.get?_of_ne hne).symm.trans hraw, happly, hfound⟩

/-- When the patch of a change is carried out on the object that the workload was read from, the
changed workload is read from the result. -/
theorem read_of_forChange? {c : Change} {m : Mutation} {type : ResourceType} {w : Workload}
    {p : WorkloadPatch} {raw raw' : Json} (hraw : raw.isOrdered = true)
    (hread : Workload.read raw = .ok w) (hp : WorkloadPatch.forChange? c m type w = some p)
    (h : raw.applyPatch p.patch = some raw') : Workload.read raw' = .ok (c.apply m w) := by
  rw [WorkloadPatch.eq_of_forChange? hp] at h
  cases c with
  | bind =>
    exact Workload.read_of_applyPatch (f := fun p => m.injectPod (m.undoPod p))
      (fun _ hp => Mutation.isWritten_injectPod m (Mutation.isWritten_undoPod m hp)) hraw hread h
  | unbind =>
    exact Workload.read_of_applyPatch (f := m.undoPod) (fun _ hp => Mutation.isWritten_undoPod m hp)
      hraw hread h

/-- No patch of a change is for a workload that needs none. -/
theorem claim_ne_of_forChange? {c : Change} {m : Mutation} {subject : Subject}
    {found : List Workload} (hfinds : s.view.Finds subject found) {w : Workload} (hw : w ∈ found)
    (hnone : WorkloadPatch.forChange? c m subject.resourceType w = none) {p : WorkloadPatch}
    (hp : p ∈ found.filterMap (WorkloadPatch.forChange? c m subject.resourceType)) :
    p.claim ≠ w.claim subject.groupKind := by
  intro hclaim
  obtain ⟨v, hv, hvp⟩ := List.mem_filterMap.1 hp
  have hsame : v.claim subject.groupKind = w.claim subject.groupKind :=
    (WorkloadPatch.claim_of_forChange? hvp).symm.trans hclaim
  obtain rfl := List.inj_on_of_nodup_map hfinds.distinct hv hw hsame
  cases hnone.symm.trans hvp

/-- Among patches of a change for the workloads that were found, a workload whose patch is not refused
has its changed form after them, in whatever order they were answered. -/
theorem IsSound.get?_of_patched (hs : s.IsSound) {c : Change} {m : Mutation} {subject : Subject}
    {found : List Workload} (hfinds : s.view.Finds subject found)
    {order : List (WorkloadPatch × Except ApiFailure Unit)}
    (hpatches : (order.map Prod.fst).Perm
      (found.filterMap (WorkloadPatch.forChange? c m subject.resourceType)))
    (h : s.PatchesEach order t) {w : Workload} (hw : w ∈ found)
    (hok : ∀ x ∈ order, x.1.claim = w.claim subject.groupKind → x.2 = .ok ()) :
    t.view.workloads.get? (w.claim subject.groupKind) = some (c.apply m w) := by
  have hnodup : (order.map fun x => x.1.claim).Nodup := by
    have hperm := hpatches.map WorkloadPatch.claim
    rw [List.map_map] at hperm
    exact hperm.nodup_iff.2 hfinds.nodup_claims
  have hstored := hfinds.stored w hw
  obtain ⟨raw, hraw, hread⟩ := get?_view_iff.1 hstored
  cases hpatch : WorkloadPatch.forChange? c m subject.resourceType w with
  | some p =>
    have hclaim : p.claim = w.claim subject.groupKind := WorkloadPatch.claim_of_forChange? hpatch
    obtain ⟨⟨q, answer⟩, hq, rfl⟩ :=
      List.mem_map.1 (hpatches.mem_iff.2 (List.mem_filterMap.2 ⟨w, hw, hpatch⟩))
    obtain rfl := hok _ hq hclaim
    obtain ⟨raw', raw'', hraw', happly, hraw''⟩ := h.exists_applyPatch hnodup hq
    rw [hclaim] at hraw' hraw''
    obtain rfl := Option.some.inj (hraw.symm.trans hraw')
    have hchanged := read_of_forChange? (hs.ordered _ raw hraw) hread hpatch happly
    exact get?_view_iff.2 ⟨raw'', hraw'', hchanged⟩
  | none =>
    -- Without a patch the workload has its changed form already, and no other patch is for it.
    have hsame : t.workloads.get? (w.claim subject.groupKind) = some raw := by
      rw [h.get?_of_forall fun p hp => ?_, hraw]
      exact claim_ne_of_forChange? hfinds hw hpatch (hpatches.mem_iff.1 (List.mem_map_of_mem hp))
    have hchanged : c.apply m w = w := by
      by_contra hne
      obtain ⟨p, hsome⟩ := WorkloadPatch.exists_forChange? subject.resourceType
        (hs.isTidy.written _ w hstored) hne
      cases hpatch.symm.trans hsome
    rw [hchanged]
    exact get?_view_iff.2 ⟨raw, hsame, hread⟩

/-- When the patches of a change for the workloads of a subject all succeed, these are changed, and
nothing else is. -/
theorem IsSound.get?_view (hs : s.IsSound) {c : Change} {m : Mutation} {subject : Subject}
    {found : List Workload} (hfinds : s.view.Finds subject found)
    {order : List (WorkloadPatch × Except ApiFailure Unit)}
    (hpatches : (order.map Prod.fst).Perm
      (found.filterMap (WorkloadPatch.forChange? c m subject.resourceType)))
    (hok : ∀ x ∈ order, x.2 = .ok ()) (h : s.PatchesEach order t) (k : Claim) :
    t.view.workloads.get? k = (s.view.workloads.get? k).map fun v =>
      if subject.selects (k.target v) then c.apply m v else v := by
  -- A patch is that of a workload that is stored and selected.
  have hpatched : ∀ p, (p, Except.ok ()) ∈ order → p.claim = k →
      ∃ v, s.view.workloads.get? k = some v ∧ subject.selects (k.target v) = true := by
    rintro p hp rfl
    obtain ⟨v, hv, hvp⟩ := List.mem_filterMap.1 (hpatches.mem_iff.1 (List.mem_map_of_mem hp))
    rw [WorkloadPatch.claim_of_forChange? hvp]
    exact ⟨v, hfinds.stored v hv, hfinds.selected v hv⟩
  have hkept : (∀ p, (p, Except.ok ()) ∈ order → p.claim ≠ k) →
      t.view.workloads.get? k = s.view.workloads.get? k := fun hnone =>
    Option.ext fun w => by rw [get?_view_iff, get?_view_iff, h.get?_of_forall hnone]
  cases hstored : s.view.workloads.get? k with
  | none =>
    rw [hkept fun p hp hk => ?_, hstored, Option.map_none]
    obtain ⟨v, hv, -⟩ := hpatched p hp hk
    cases hstored.symm.trans hv
  | some v =>
    rw [Option.map_some]
    split
    · rename_i hselects
      obtain ⟨hmem, rfl⟩ := hfinds.all k v hstored hselects
      exact hs.get?_of_patched hfinds hpatches h hmem fun x hx _ => hok x hx
    · rename_i hother
      rw [hkept fun p hp hk => ?_, hstored]
      obtain ⟨v', hv', hselects⟩ := hpatched p hp hk
      obtain rfl := Option.some.inj (hstored.symm.trans hv')
      exact hother hselects

/-! ## Workloads that are bound -/

/-- Every workload of the subject has the mutation carried out on it, and one that the subject names is
there. -/
structure IsBound (m : Mutation) (subject : Subject) (t : Contents) : Prop where
  tidy : t.view.IsTidy
  applied : ∀ k w, t.view.workloads.get? k = some w → subject.selects (k.target w) = true →
    Change.bind.apply m w = w
  named : ∀ name, subject.selection = .name name →
    ∃ w, t.view.workloads.get? ⟨subject.place, name⟩ = some w

/-- What is bound is bound when only the binding is written. -/
theorem IsBound.of_workloads {m : Mutation} {subject : Subject} {s t : Contents}
    (hs : s.IsBound m subject) (h : t.workloads = s.workloads) : t.IsBound m subject := by
  have hview := view_eq h
  exact ⟨hview ▸ hs.tidy, hview ▸ hs.applied, hview ▸ hs.named⟩

/-! ## Several calls -/

/-- What is answered later is answered by the contents that were left before. -/
theorem answered_append_iff {said said' : Dialogue.Said Call.Answer} :
    s.Answered (said ++ said') t ↔ ∃ u, s.Answered said u ∧ u.Answered said' t := by
  induction said generalizing s with
  | nil => exact ⟨fun h => ⟨s, rfl, h⟩, fun ⟨u, hu, h⟩ => hu ▸ h⟩
  | cons x said ih =>
    constructor
    · rintro ⟨v, hanswer, hrest⟩
      obtain ⟨u, hu, ht⟩ := ih.1 hrest
      exact ⟨u, ⟨v, hanswer, hu⟩, ht⟩
    · rintro ⟨u, ⟨v, hanswer, hu⟩, ht⟩
      exact ⟨v, hanswer, ih.2 ⟨u, hu, ht⟩⟩

/-- All patches may be refused. -/
theorem patchesEach_refused (s : Contents) (e : ApiFailure) (patches : List WorkloadPatch) :
    s.PatchesEach (patches.zip (patches.map fun _ => .error e)) s := by
  induction patches with
  | nil => exact .nil s
  | cons p rest ih => exact .cons (.failed e) ih

/-- Every call may be refused. -/
theorem exists_answers (s : Contents) (c : Call) : ∃ answer t, s.Answers c answer t := by
  have failure : ApiFailure := .unsendable .invalidTarget
  cases c with
  | get type ns name => exact ⟨.error failure, s, trivial, rfl⟩
  | list type ns selector => exact ⟨.error failure, s, trivial, rfl⟩
  | patchAll patches =>
    exact ⟨⟨patches.map fun _ => .error failure, List.length_map _⟩, s, _, .refl _,
      s.patchesEach_refused failure patches⟩
  | finalizers id version finalizers => exact ⟨.error failure, s, rfl⟩
  | status id status => exact ⟨.error failure, s, rfl⟩
  | event e => exact ⟨(), s, rfl⟩
  | note n => exact ⟨(), s, rfl⟩

/-- A dialogue that is not over can go on to an end. -/
theorem exists_answered {α : Type} (d : Reconcile.Talk α) (s : Contents) :
    ∃ said a t, d.Leaves said (.done a) ∧ s.Answered said t := by
  induction d generalizing s with
  | done a => exact ⟨[], a, s, rfl, rfl⟩
  | ask c next ih =>
    obtain ⟨answer, u, hanswer⟩ := s.exists_answers c
    obtain ⟨said, a, t, hleaves, hanswered⟩ := ih answer u
    exact ⟨⟨c, answer⟩ :: said, a, t, ⟨next, rfl, hleaves⟩, u, hanswer, hanswered⟩

end Contents

end WorkloadBindings
