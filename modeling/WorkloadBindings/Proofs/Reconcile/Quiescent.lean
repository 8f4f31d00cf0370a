import WorkloadBindings.Proofs.Reconcile.Obligation
import WorkloadBindings.Proofs.Reconcile.Ways
import WorkloadBindings.Proofs.Workload.Edit

/-!
# Passes that have nothing more to do

After the pass of a living binding has succeeded and what it wrote is stored, another one writes nothing
more, and after a pass has failed whose status was stored, one that fails in the same way does not write
it again (`Reconcile.quiescent_of_runs`). What carries this is that the status of the binding is read
back as it was computed (`Recording.exists_stores`), that computing it from there again changes nothing
(`computed_of_stored`), and that every workload of the subject has its changed form
(`Contents.IsBound`). After a success nothing is left to do (`Settled`), and however many passes follow,
they write nothing and leave everything (`Settled.of_runsAgain`).
-/

namespace WorkloadBindings

namespace Reconcile

variable {r r' : BindingResource} {id : BindingId} {subject : Subject} {m : Mutation}
  {found : List Workload} {said said' : Transcript} {s t u : Contents} {now later : Timestamp}
  {bound : Except ReconcileError Unit} {k : BindingKind} {resync : Nat}

/-! ## Computed statuses -/

/-- There is a `Ready` condition in a status with an outcome. -/
theorem isSome_ready?_recorded {status : BindingStatus} (h : status.ready?.isSome = true) :
    (recorded status now bound).ready?.isSome = true := by
  cases bound with
  | ok => exact BindingStatus.isSome_find?_setReady ..
  | error e => cases e <;> first | exact h | exact BindingStatus.isSome_find?_setReady ..

/-- An outcome is recorded once. -/
theorem recorded_recorded (status : BindingStatus) :
    recorded (recorded status now bound) later bound = recorded status now bound := by
  cases bound with
  | ok => simp only [recorded, BindingStatus.markTrue, BindingStatus.setReady_setReady]
  | error e =>
    cases e <;> simp only [recorded, BindingStatus.markFalse, BindingStatus.setReady_setReady]

/-- There is a `Ready` condition in a computed status. -/
theorem isSome_ready?_computed : (computed r now bound).ready?.isSome = true := by
  have hprepared := BindingStatus.isSome_ready?_prepare now (r.status.getD {})
  cases bound <;> exact isSome_ready?_recorded hprepared

/-- The generation that the status tells stays when the binding was not carried out. -/
theorem observedGeneration_computed_error (e : ReconcileError) :
    (computed r now (.error e)).observedGeneration = (r.status.getD {}).observedGeneration := by
  cases e <;> exact BindingStatus.observedGeneration_prepare now _

/-- Computing the status of a binding that has it already changes nothing, when the outcome is the same.
-/
theorem computed_of_stored (hstatus : r'.status.getD {} = computed r now bound)
    (hgeneration : r'.metadata.generation = r.metadata.generation) :
    computed r' later bound = computed r now bound := by
  have hready : (r'.status.getD {}).ready?.isSome = true := hstatus ▸ isSome_ready?_computed
  have hprepared : (r'.status.getD {}).prepare later = computed r now bound := by
    rw [BindingStatus.prepare_of_ready later hready, hstatus]
  cases bound with
  | ok =>
    have hrecorded : recorded (computed r now (.ok ())) later (.ok ()) = computed r now (.ok ()) := by
      simp only [computed, recorded, BindingStatus.markTrue, BindingStatus.setReady_setReady]
    simp only [computed] at hprepared hrecorded ⊢
    rw [hprepared, hrecorded, hgeneration]
  | error e =>
    simp only [computed] at hprepared ⊢
    rw [hprepared, recorded_recorded]

/-! ## Stored statuses -/

/-- The status after a pass is the one that was sent, or the one before when none was. -/
def Sets (said : Transcript) (before after : Option BindingStatus) : Prop :=
  (∀ status ∈ said.statuses, after = some status) ∧ (said.statuses = [] → after = before)

/-- A binding on which the finalizer was put has it, and is otherwise as it was. -/
theorem Arming.exists_stores (h : Arming r id s said (.ok ()) t) (hr : s.Stores k r) :
    ∃ r', t.Stores k r' ∧ r'.IsRewriteOf r ∧ id.kind.finalizer ∈ r'.finalizers ∧
      r'.status = r.status := by
  cases h with
  | present hmem => exact ⟨r, hr, .refl r, hmem, rfl⟩
  | put _ version =>
    obtain ⟨r', hr', hrewrite, hfinalizers, hstatus⟩ := hr.merged_finalizers
      r.metadata.resourceVersion (r.finalizers ++ [id.kind.finalizer]) version
    refine ⟨r', hr', hrewrite, ?_, hstatus⟩
    rw [hfinalizers]
    exact List.mem_append_right _ (List.mem_singleton.2 rfl)

/-- Writing a status that is not refused is a success, and the binding has the status then. -/
theorem Recording.exists_stores {status : BindingStatus} {updated : Except ReconcileError Unit}
    (h : Recording id (r.status.getD {}) status s said updated t) (hr : s.Stores k r)
    (hready : status.ready?.isSome = true) (hfits : status.Fits)
    (hkeeps : status.observedGeneration = none → (r.status.getD {}).observedGeneration = none)
    (hstored : ∀ c ∈ said.refused, c.status? = none) :
    updated = .ok () ∧ said.refused = [] ∧ ∃ r', t.Stores k r' ∧ r'.IsRewriteOf r ∧
      r'.finalizers = r.finalizers ∧ r'.status.getD {} = status ∧ Sets said r.status r'.status := by
  have hrefused : ∀ cause, (⟨.status id status, Except.error cause⟩ : (c : Call) × c.Answer) ∉ said := by
    intro cause hmem
    cases hstored _ (Transcript.mem_refused hmem rfl)
  cases h with
  | same heq =>
    exact ⟨rfl, rfl, r, hr, .refl r, rfl, heq, fun _ h => absurd h List.not_mem_nil,
      fun _ => rfl⟩
  | written hne version =>
    obtain ⟨r', hr', hrewrite, hfinalizers, hstatus⟩ := hr.merged_status
      (BindingStatus.conditions_ne_nil hready) hfits hkeeps version
    refine ⟨rfl, rfl, r', hr', hrewrite, hfinalizers, ?_, ?_, nofun⟩
    · rw [hstatus, Option.getD_some]
    · exact List.forall_mem_singleton.2 hstatus
  | gone _ cause => exact absurd List.mem_cons_self (hrefused cause)
  | refused _ cause => exact absurd List.mem_cons_self (hrefused cause)

/-! ## Workloads that are bound -/

/-- When no patch failed, all patches succeeded. -/
theorem forall_ok_of_patchFailures {patches : List WorkloadPatch}
    {results : List (Except ApiFailure Unit)} (h : patchFailures patches results = []) :
    ∀ x ∈ patches.zip results, x.2 = .ok () := by
  rintro ⟨p, answer⟩ hx
  match answer, hx with
  | .ok (), _ => rfl
  | .error e, hx =>
    have hmem : (p, some (Except.error e)) ∈ patches.zip (results.map some) := by
      rw [List.zip_map_right]
      exact List.mem_map_of_mem hx
    have hfailure := mem_patchFailures hmem
    rw [h] at hfailure
    cases hfailure

/-- After a change that did not fail, the workloads of the subject, and no others, are changed. -/
theorem Patching.get?_view {c : Change} (hs : s.IsSound) (hfinds : s.view.Finds subject found)
    (h : Patching c m subject found s said [] t) (k : Claim) :
    t.view.workloads.get? k = (s.view.workloads.get? k).map fun v =>
      if subject.selects (k.target v) then c.apply m v else v := by
  generalize hfailures : [] = failures at h
  cases h with
  | idle hnone =>
    have hnil : (([] : List (WorkloadPatch × Except ApiFailure Unit)).map Prod.fst).Perm
        (found.filterMap (WorkloadPatch.forChange? c m subject.resourceType)) := hnone ▸ .nil
    exact hs.get?_view hfinds hnil (fun _ hx => absurd hx List.not_mem_nil) (.nil s) k
  | @patched patches answers n t hpatches hne h =>
    obtain ⟨order, hperm, heach⟩ := h
    have hnames : (order.map Prod.fst).Perm
        (found.filterMap (WorkloadPatch.forChange? c m subject.resourceType)) := by
      rw [← hpatches, ← List.map_fst_zip (Nat.le_of_eq answers.property.symm)]
      exact hperm.map Prod.fst
    have hok := forall_ok_of_patchFailures hfailures.symm
    exact hs.get?_view hfinds hnames (fun x hx => hok x (hperm.mem_iff.1 hx)) heach k

/-- After a binding was carried out with success, it is bound. -/
theorem Carrying.isBound (hs : s.IsSound) (h : Carrying r id s said (.ok ()) t) :
    ∃ subject m, r.subject = .ok subject ∧ r.mutation = .ok m ∧ t.IsBound m subject := by
  obtain ⟨subject, m, found, said₁, said₂, hsubject, hm, hlocating, hpatching, -⟩ :=
    h.exists_patching
  refine ⟨subject, m, hsubject, hm, ?_⟩
  cases hlocating with
  | found _ _ hfinds hnamed =>
    -- A selected workload has its changed form, and changing that again leaves it.
    have hview := hpatching.get?_view hs (hfinds hs.keyed)
    have hchanged : World.Changed .bind m subject s.view t.view := by
      intro k w hw
      obtain ⟨v, hv, rfl⟩ := Option.map_eq_some_iff.1 ((hview k).symm.trans hw)
      exact ⟨v, hv, rfl⟩
    refine ⟨hs.isTidy.changed hchanged, fun k w hw hselects => ?_, fun name hname => ?_⟩
    · obtain ⟨v, hv, rfl⟩ := hchanged k w hw
      by_cases hselected : subject.selects (k.target v) = true
      · rw [if_pos hselected, Change.apply_apply_of_covers _ _ (.refl m)]
      · rw [if_neg hselected] at hselects
        exact absurd hselects hselected
    · obtain ⟨w, hw⟩ := hnamed name hname
      rw [hview, hw]
      exact ⟨_, rfl⟩

/-- The workloads of a subject that were found where it is bound need no patch. -/
theorem filterMap_forChange?_of_isBound (ht : t.IsBound m subject)
    (hfinds : t.view.Finds subject found) :
    found.filterMap (WorkloadPatch.forChange? .bind m subject.resourceType) = [] := by
  refine List.filterMap_eq_nil_iff.2 fun w hw => ?_
  have hstored := hfinds.stored w hw
  exact WorkloadPatch.forChange?_eq_none (ht.tidy.written _ w hstored)
    (ht.applied _ w hstored (hfinds.selected w hw))

/-- Carrying a binding out that is bound writes nothing, and fails only when the workloads cannot be
read. -/
theorem Carrying.of_isBound (h : Carrying r id t said bound u) (hsubject : r.subject = .ok subject)
    (hm : r.mutation = .ok m) (ht : t.IsBound m subject) :
    said.writes = [] ∧ (bound = .ok () ∨ ∃ cause, bound = .error (.api cause) ∧ said.refused ≠ []) := by
  cases h with
  | malformed hfault => cases hsubject.symm.trans hfault
  | unlocated hsubject' h =>
    obtain rfl := Except.ok.inj (hsubject.symm.trans hsubject')
    refine ⟨h.writes, Or.inr ?_⟩
    cases h with
    | missing _ _ hname hnone =>
      obtain ⟨w, hw⟩ := ht.named _ hname
      obtain ⟨raw, hraw, -⟩ := Contents.get?_view_iff.1 hw
      cases hnone.symm.trans hraw
    | refused hread hanswer =>
      have hmem := Transcript.mem_refused (List.mem_singleton.2 rfl) hanswer
      exact ⟨_, rfl, List.ne_nil_of_mem hmem⟩
  | @located subject' found m' said₁ said₂ failures u hsubject' hm' hfound h =>
    obtain rfl := Except.ok.inj (hsubject.symm.trans hsubject')
    obtain rfl := Except.ok.inj (hm.symm.trans hm')
    have hreads := hfound.writes
    have hidle : found.filterMap (WorkloadPatch.forChange? .bind m subject.resourceType) = [] := by
      cases hfound with
      | found _ _ hfinds _ => exact filterMap_forChange?_of_isBound ht (hfinds ht.tidy.keyed)
    cases h with
    | idle =>
      refine ⟨?_, Or.inl rfl⟩
      rw [List.append_nil]
      exact hreads
    | patched hpatches hne => exact absurd (hpatches.trans hidle) hne

/-- The workloads of a subject can be found where it is bound. -/
theorem locate_comes (ht : t.IsBound m subject) :
    ∃ said found, Step.Comes (locate subject) t said (.ok found) t ∧ t.view.Finds subject found := by
  unfold locate
  split
  · rename_i name hname
    obtain ⟨w, hw⟩ := ht.named name hname
    have hgets : t.Gets ⟨subject.place, name⟩ (.ok (some w)) := Contents.get?_view_iff.1 hw
    exact ⟨_, [w], .bind (.ask ⟨hgets, rfl⟩) (.pure [w] t), ht.tidy.keyed.finds_of_name hname hw⟩
  · rename_i selector hselector
    have hlists : t.Lists subject.place selector (.ok (t.view.picked subject.place selector)) :=
      .refl (t.view.picked subject.place selector)
    exact ⟨_, _, .bind (.ask ⟨hlists, rfl⟩) (.pure _ t),
      ht.tidy.keyed.finds_of_selector hselector (.refl _)⟩

/-- Binding the workloads of a subject can succeed where it is bound. -/
theorem bindSubjects_comes (ht : t.IsBound m subject) (hsubject : r.subject = .ok subject)
    (hm : r.mutation = .ok m) (status : BindingStatus) :
    ∃ said, Step.Comes (bindSubjects r id status now) t said
      (.ok (recorded status now (.ok ()), .ok ())) t := by
  obtain ⟨said, found, hlocate, hfinds⟩ := locate_comes ht
  have hidle := filterMap_forChange?_of_isBound ht hfinds
  have hchange : Step.Comes (change .bind r.kind m subject.resourceType found) t [] (.ok []) t := by
    unfold change
    simp only [hidle]
    exact .pure [] t
  unfold bindSubjects
  rw [hsubject, hm]
  exact ⟨_, .bind (.note _ t) (.bind hlocate.outcome (.bind (.pure m t) (.bind hchange (.pure _ t))))⟩

/-- A pass that ends with success was one at every step. -/
theorem eq_of_ending_eq_ok {updated : Except ReconcileError Unit} {action : Action}
    (h : ending resync bound updated = .ok action) :
    bound = .ok () ∧ updated = .ok () ∧ action = .requeue resync := by
  cases bound with
  | error e => cases h
  | ok =>
    cases updated with
    | error e => cases h
    | ok => exact ⟨rfl, rfl, (Except.ok.inj h).symm⟩

/-- A pass that ends with a failure failed to carry the binding out, or only to write the status. -/
theorem cases_of_ending_eq_error {updated : Except ReconcileError Unit} {e : ReconcileError}
    (h : ending resync bound updated = .error e) :
    bound = .error e ∨ bound = .ok () ∧ updated = .error e := by
  match bound, updated, h with
  | .error e, updated, h => exact Or.inl (congrArg _ (Except.error.inj h))
  | .ok (), .error e, h => exact Or.inr ⟨rfl, congrArg _ (Except.error.inj h)⟩

/-! ## The pass of a living binding and the next one -/

/-- The generation of a computed status fits its place. -/
theorem fits_computed (hr : s.Stores k r) : (computed r now bound).Fits := by
  intro n hn
  cases bound with
  | ok => exact BindingResource.fits_generation hr hn
  | error e => exact BindingResource.fits_status hr n (observedGeneration_computed_error e ▸ hn)

/-- What is stored after the pass of a living binding that had its finalizer: the binding with the
status that was computed. Only requests for workloads were refused, and a success without one. -/
theorem exists_stores_of_armed {said₁ said₂ said₃ : Transcript} {s₁ s₂ : Contents}
    {updated : Except ReconcileError Unit} (hr : s.Stores k r)
    (harmed : Arming r id s said₁ (.ok ()) s₁) (hcarried : Carrying r id s₁ said₂ bound s₂)
    (hrecorded :
      Recording id (r.status.getD {}) (computed r now bound) s₂ said₃ updated t)
    (hgeneration : bound = .ok () → r.metadata.generation.isSome = true)
    (hstored : ∀ c ∈ said₃.refused, c.status? = none) :
    updated = .ok () ∧ said₃.refused = [] ∧ ∃ r', t.Stores k r' ∧ r'.IsRewriteOf r ∧
      id.kind.finalizer ∈ r'.finalizers ∧ r'.status.getD {} = computed r now bound ∧
      Sets (said₁ ++ said₂ ++ said₃) r.status r'.status := by
  -- The status was computed from the binding before its finalizer was put on, which left the status.
  obtain ⟨r₁, hr₁, hrewrite, hfinalizer, hstatus⟩ := harmed.exists_stores hr
  have hr₂ : s₂.Stores k r₁ := by
    unfold Contents.Stores
    rwa [hcarried.binding]
  rw [← hstatus] at hrecorded ⊢
  -- After a success the generation is told; after a failure the one that was told before is kept.
  have hkeeps : (computed r now bound).observedGeneration = none →
      (r₁.status.getD {}).observedGeneration = none := by
    intro hnone
    cases bound with
    | ok =>
      have hnone : r.metadata.generation = none := hnone
      rw [hnone] at hgeneration
      cases hgeneration rfl
    | error e => rwa [observedGeneration_computed_error, ← hstatus] at hnone
  obtain ⟨hupdated, hrefused, r', hr', hrewrite', hfinalizers, hcomputed, hsets⟩ :=
    hrecorded.exists_stores hr₂ isSome_ready?_computed (fits_computed hr) hkeeps hstored
  refine ⟨hupdated, hrefused, r', hr', hrewrite'.trans hrewrite, ?_, hcomputed, ?_⟩
  · rwa [hfinalizers]
  · simpa [Sets, harmed.statuses, hcarried.statuses] using hsets

/-- Nothing is left to do for a living binding: it is bound, it has its finalizer, and its status is the
one that is computed after a success. -/
structure Settled (r : BindingResource) (id : BindingId) (subject : Subject) (m : Mutation)
    (t : Contents) : Prop where
  finalizer : id.kind.finalizer ∈ r.finalizers
  subject_eq : r.subject = .ok subject
  mutation_eq : r.mutation = .ok m
  bound : t.IsBound m subject
  ready : (r.status.getD {}).ready?.isSome = true
  status : ∀ now, r.status.getD {} = computed r now (.ok ())

/-- After the pass of a living binding has succeeded, nothing is left to do for it. -/
theorem BindPass.settled {action : Action} (hs : s.IsSound) (hr : s.Stores k r)
    (h : BindPass r id resync now s said (.ok action) t)
    (hgeneration : r.metadata.generation.isSome = true)
    (hstored : ∀ c ∈ said.refused, c.status? = none) :
    action = .requeue resync ∧
      ∃ r' subject m, t.Stores k r' ∧ r'.IsRewriteOf r ∧ Settled r' id subject m t := by
  generalize hresult : Except.ok action = result at h
  cases h with
  | unarmed => cases hresult
  | @armed said₁ said₂ said₃ bound updated s₁ s₂ t harmed hcarried hrecorded =>
    obtain ⟨rfl, rfl, rfl⟩ := eq_of_ending_eq_ok hresult.symm
    obtain ⟨-, -, r', hr', hrewrite, hfinalizer, hstatus, -⟩ := exists_stores_of_armed hr harmed
      hcarried hrecorded (fun _ => hgeneration) fun c hc => hstored c (by simp [hc])
    obtain ⟨subject, m, hsubject, hm, hbound⟩ :=
      hcarried.isBound (hs.of_workloads harmed.workloads)
    refine ⟨rfl, r', subject, m, hr', hrewrite, hfinalizer, hrewrite.subject.trans hsubject,
      hrewrite.mutation.trans hm, hbound.of_workloads hrecorded.workloads, ?_, fun now' => ?_⟩
    · exact hstatus ▸ isSome_ready?_computed
    · exact hstatus.trans (computed_of_stored hstatus hrewrite.generation).symm

/-- When nothing is left to do, a pass writes nothing, and succeeds unless a request is refused. -/
theorem BindPass.of_settled {result : Except ReconcileError Action}
    (h : BindPass r id resync now t said result u) (ht : Settled r id subject m t) :
    said.writes = [] ∧ (said.refused = [] → result = .ok (.requeue resync)) := by
  cases h with
  | unarmed h =>
    cases h with
    | refused hnot => exact absurd ht.finalizer hnot
  | armed harmed hcarried hrecorded =>
    cases harmed with
    | put hnot => exact absurd ht.finalizer hnot
    | present =>
      obtain ⟨hwrites, hbound⟩ := hcarried.of_isBound ht.subject_eq ht.mutation_eq ht.bound
      rcases hbound with rfl | ⟨cause, rfl, hrefused⟩
      · obtain ⟨rfl, rfl, -⟩ := hrecorded.of_eq (ht.status now)
        refine ⟨?_, fun _ => rfl⟩
        simpa using hwrites
      · -- A status that is prepared stays when the workloads cannot be read.
        have hprepared : r.status.getD {} = computed r now (.error (.api cause)) :=
          (BindingStatus.prepare_of_ready now ht.ready).symm
        obtain ⟨rfl, rfl, -⟩ := hrecorded.of_eq hprepared
        refine ⟨by simpa using hwrites, fun hnone => absurd ?_ hrefused⟩
        simpa using hnone

/-- When nothing is left to do, the pass of a living binding can succeed, and leaves everything. -/
theorem Settled.bind_comes (ht : Settled r id subject m t) (resync : Nat) (now : Timestamp) :
    ∃ said, Step.Comes (bind resync now r id) t said (.ok (.requeue resync)) t := by
  obtain ⟨said, hbind⟩ : ∃ said, Step.Comes (bindSubjects r id ((r.status.getD {}).prepare now) now) t
      said (.ok (recorded ((r.status.getD {}).prepare now) now (.ok ()), .ok ())) t :=
    bindSubjects_comes ht.bound ht.subject_eq ht.mutation_eq _
  have hupdate : Step.Comes (updateStatus r id (r.status.getD {}) (computed r now (.ok ()))) t []
      (.ok ()) t := by
    unfold updateStatus
    rw [if_pos (ht.status now)]
    exact .pure () t
  unfold bind ensureFinalizer
  rw [if_pos (List.contains_iff_mem.2 ht.finalizer)]
  exact ⟨_, .bind (.pure () t) (.bind hbind (.bind hupdate.outcome (.pure _ t)))⟩

/-- What is stored after the pass of a living binding that failed, its status being stored: either only
its finalizer was refused, or it has the status that was computed and only requests for workloads were
refused. -/
theorem BindPass.exists_stores_of_error {e : ReconcileError} (hr : s.Stores k r)
    (h : BindPass r id resync now s said (.error e) t)
    (hstored : ∀ c ∈ said.refused, c.status? = none) :
    ∃ r', t.Stores k r' ∧ r'.IsRewriteOf r ∧ Sets said r.status r'.status ∧
      ((∃ cause, e = .api cause) ∧ (∀ c ∈ said.refused, c.isFinalizers = true) ∨
        r'.status.getD {} = computed r now (.error e) ∧ ∀ c ∈ said.refused, c.isRead = true) := by
  generalize hresult : Except.error e = result at h
  cases h with
  | unarmed h =>
    obtain rfl := Except.error.inj hresult
    obtain ⟨rfl, hcause⟩ := h.eq_api
    refine ⟨r, hr, .refl r, ?_, Or.inl ⟨hcause, h.isFinalizers_of_refused⟩⟩
    rw [Sets, h.statuses]
    exact ⟨fun _ h => absurd h List.not_mem_nil, fun _ => rfl⟩
  | @armed said₁ said₂ said₃ bound updated s₁ s₂ t harmed hcarried hrecorded =>
    have hstored₃ : ∀ c ∈ said₃.refused, c.status? = none := fun c hc => hstored c (by simp [hc])
    rcases cases_of_ending_eq_error hresult.symm with rfl | ⟨rfl, rfl⟩
    · obtain ⟨-, hnone, r', hr', hrewrite, -, hstatus, hsets⟩ :=
        exists_stores_of_armed hr harmed hcarried hrecorded nofun hstored₃
      refine ⟨r', hr', hrewrite, hsets, Or.inr ⟨hstatus, fun c hc => ?_⟩⟩
      rw [Transcript.refused_append, Transcript.refused_append, harmed.refused_eq_nil, hnone,
        List.append_nil, List.nil_append] at hc
      exact hcarried.isRead_of_refused c hc
    · -- The status would have been refused.
      obtain ⟨-, c, hc, hstatus⟩ := hrecorded.eq_api
      exact absurd (hstored₃ c hc) hstatus

/-- A living binding that failed to be bound, its status being stored, does not write its status again
when it fails in the same way, an API failure being that of the same request. -/
theorem BindPass.repeats {e : ReconcileError} (hr : s.Stores k r)
    (h : BindPass r id resync now s said (.error e) t)
    (hstored : ∀ c ∈ said.refused, c.status? = none) :
    ∃ r', t.Stores k r' ∧ r'.IsRewriteOf r ∧ Sets said r.status r'.status ∧
      ∀ resync' later u said' v, BindPass r' id resync' later u said' (.error e) v →
        (∀ cause, e = .api cause → ∃ c ∈ said.refused, c ∈ said'.refused) → said'.statuses = [] := by
  obtain ⟨r', hr', hrewrite, hsets, hcases⟩ := h.exists_stores_of_error hr hstored
  refine ⟨r', hr', hrewrite, hsets, fun resync' later u said' v hagain hsame => ?_⟩
  generalize hresult : Except.error e = result at hagain
  cases hagain with
  | unarmed hagain => exact hagain.statuses
  | @armed said₁ said₂ said₃ bound updated s₁ s₂ t harmed hcarried hrecorded =>
    have hkinds : ∀ c ∈ Transcript.refused (said₁ ++ said₂ ++ said₃),
        c ∈ said₂.refused ∧ c.isRead = true ∨ c.status?.isSome = true := by
      intro c hc
      rw [Transcript.refused_append, Transcript.refused_append, harmed.refused_eq_nil,
        List.nil_append] at hc
      exact (List.mem_append.1 hc).imp (fun h => ⟨h, hcarried.isRead_of_refused c h⟩)
        (hrecorded.isSome_status?_of_refused c)
    rcases hcases with ⟨⟨cause, rfl⟩, hfinalizers⟩ | ⟨hstatus, hreads⟩
    · -- The finalizer is not what was refused this time.
      obtain ⟨c, hc, hc'⟩ := hsame cause rfl
      have hfinalizer := hfinalizers c hc
      rcases hkinds c hc' with ⟨-, hread⟩ | hsome
      · cases hread.symm.trans (Call.isRead_of_isFinalizers hfinalizer)
      · rw [Call.status?_of_isFinalizers hfinalizer] at hsome
        cases hsome
    · rcases cases_of_ending_eq_error hresult.symm with rfl | ⟨rfl, rfl⟩
      · -- The same status is computed again, and it is there.
        have hcomputed : computed r' later (.error e) = computed r now (.error e) :=
          computed_of_stored hstatus hrewrite.generation
        obtain ⟨rfl, -, -⟩ := hrecorded.of_eq (hstatus.trans hcomputed.symm)
        rw [List.append_nil, Transcript.statuses_append, harmed.statuses, hcarried.statuses]
        rfl
      · -- The status is not what was refused before.
        obtain ⟨⟨cause, rfl⟩, -⟩ := hrecorded.eq_api
        obtain ⟨c, hc, hc'⟩ := hsame cause rfl
        obtain ⟨-, -, -, -, -, -, -, -, -, hnone⟩ := hcarried.exists_patching
        rcases hkinds c hc' with ⟨hmem, -⟩ | hsome
        · rw [hnone] at hmem
          cases hmem
        · rw [Call.status?_of_isRead (hreads c hc)] at hsome
          cases hsome

/-- A binding that is being deleted and failed to be undone, its status being stored, does not write its
status again. -/
theorem FinalizePass.repeats {e : ReconcileError} (hr : s.Stores k r)
    (h : FinalizePass r id now s said (.error e) t)
    (hstored : ∀ c ∈ said.refused, c.status? = none) :
    ∃ r', t.Stores k r' ∧ r'.IsRewriteOf r ∧ Sets said r.status r'.status ∧
      ∀ later u said' v, FinalizePass r' id later u said' (.error e) v → said'.statuses = [] := by
  have hready : ((r.status.getD {}).markUnknown BindingStatus.finalizing undoing now).ready?.isSome =
      true := BindingStatus.isSome_find?_setReady ..
  generalize hresult : Except.error e = result at h
  cases h with
  | absent => cases hresult
  | unrecorded h =>
    obtain ⟨-, c, hc, hstatus⟩ := h.eq_api
    exact absurd (hstored c hc) hstatus
  | @recorded said₁ said₂ result s₁ t h hsilent hkept =>
    obtain ⟨-, -, r', hr', hrewrite, -, hstatus, hsets⟩ := h.exists_stores hr hready
      (BindingResource.fits_status hr) (fun hnone => hnone) fun c hc => hstored c (by simp [hc])
    have hrt : t.Stores k r' := by
      unfold Contents.Stores
      rwa [hkept e hresult.symm]
    refine ⟨r', hrt, hrewrite, ?_, fun later u said' v hagain => ?_⟩
    · simpa [Sets, hsilent] using hsets
    -- The same status is computed again, and it is there.
    have hcomputed : r'.status.getD {} =
        (r'.status.getD {}).markUnknown BindingStatus.finalizing undoing later := by
      rw [hstatus]
      simp only [BindingStatus.markUnknown, BindingStatus.setReady_setReady]
    cases hagain with
    | absent => rfl
    | unrecorded h' => cases (h'.of_eq hcomputed).2.1
    | recorded h' hsilent' _ =>
      obtain ⟨rfl, -, -⟩ := h'.of_eq hcomputed
      exact hsilent'

/-! ## Passes -/

/-- The replica that holds the lease makes a pass over a binding: it says something to an API that has
some contents, comes to a result, and leaves other contents. -/
def Runs (resync : Nat) (now : Timestamp) (r : BindingResource) (s : Contents) (said : Transcript)
    (result : Except Abort (Except ReconcileError Action)) (t : Contents) : Prop :=
  (pass true resync now r).Leaves said (.done result) ∧ s.Answered said t

/-- A pass goes in one of its ways. -/
theorem Runs.passing {result : Except ReconcileError Action}
    (h : Runs resync now r s said (.ok result) t) : Passing r resync now s said result t :=
  (pass_gives r resync now s).of_answered h.1 h.2

/-- The controller can go on with a binding that it can resolve. -/
theorem Runs.not_isResolvable {e : Abort} (h : Runs resync now r s said (.error e) t) :
    ¬ r.IsResolvable :=
  (pass_gives r resync now s).of_answered h.1 h.2

/-- When nothing is left to do for a living binding, a pass writes nothing, leaves everything, and
succeeds unless a request is refused. -/
theorem Settled.of_runs {result : Except Abort (Except ReconcileError Action)}
    (ht : Settled r id subject m t) (hid : r.id = .ok id) (hliving : r.isDeleting = false)
    (hruns : Runs resync now r t said result u) :
    said.writes = [] ∧ u = t ∧ (said.refused = [] → result = .ok (.ok (.requeue resync))) := by
  match result, hruns with
  | .error _, hruns => exact absurd ⟨⟨id, hid⟩, m, ht.mutation_eq⟩ hruns.not_isResolvable
  | .ok result, hruns =>
    have hanswered := hruns.2
    cases hruns.passing with
    | deleting _ hdeleting => cases hdeleting.symm.trans hliving
    | living hid' _ hpass hwrites hrefused =>
      obtain rfl := Except.ok.inj (hid.symm.trans hid')
      obtain ⟨hnone, hresult⟩ := hpass.of_settled ht
      simp only [Transcript.writes_append, Transcript.refused_append, hnone, hwrites, hrefused,
        List.append_nil, true_and]
      refine ⟨hanswered.eq_of_writes ?_, fun h => congrArg _ (hresult h)⟩
      rw [Transcript.writes_append, hnone, hwrites, List.append_nil]

/-- The replica that holds the lease makes some passes over a binding, each over what the one before it
left. -/
inductive RunsAgain (resync : Nat) (r : BindingResource) :
    Contents → List Transcript → Contents → Prop where
  | nil (s : Contents) : RunsAgain resync r s [] s
  | cons {now : Timestamp} {s t u : Contents} {said : Transcript} {rest : List Transcript}
      {result : Except Abort (Except ReconcileError Action)} (h : Runs resync now r s said result t)
      (hrest : RunsAgain resync r t rest u) : RunsAgain resync r s (said :: rest) u

/-- When nothing is left to do for a living binding, however many passes write nothing and leave
everything. -/
theorem Settled.of_runsAgain {saids : List Transcript} (ht : Settled r id subject m t)
    (hid : r.id = .ok id) (hliving : r.isDeleting = false) (h : RunsAgain resync r t saids u) :
    (∀ said ∈ saids, said.writes = []) ∧ u = t := by
  induction h with
  | nil => exact ⟨fun _ h => absurd h List.not_mem_nil, rfl⟩
  | cons hruns _ ih =>
    obtain ⟨hwrites, rfl, -⟩ := ht.of_runs hid hliving hruns
    obtain ⟨hrest, hsame⟩ := ih ht
    exact ⟨List.forall_mem_cons.2 ⟨hwrites, hrest⟩, hsame⟩

/-- When nothing is left to do for a living binding, a pass can succeed, and leaves everything. -/
theorem Settled.exists_runs (ht : Settled r id subject m t) (hid : r.id = .ok id)
    (hliving : r.isDeleting = false) (resync : Nat) (now : Timestamp) :
    ∃ said, Runs resync now r t said (.ok (.ok (.requeue resync))) t := by
  obtain ⟨said, hbind⟩ := ht.bind_comes resync now
  have hlead : ∃ said, Step.Comes (lead resync now r) t said (.ok (.requeue resync)) t := by
    have hinner : Step.Comes (if r.isDeleting then finalize now r id else bind resync now r id) t said
        (.ok (.requeue resync)) t := by
      simpa [hliving] using hbind
    unfold lead
    rw [hid]
    exact ⟨_, .bind (.pure id t) (.bind hinner.outcome (.bind (.note _ t) (.pure _ t)))⟩
  obtain ⟨said, hleaves, hanswered⟩ := hlead
  refine ⟨said, ?_, hanswered⟩
  unfold pass
  rwa [if_pos rfl]

/-- After the pass of a living binding with a generation has succeeded, and what it wrote is stored, the
binding that is read back has the same specification and generation, and another pass can succeed in the
same way, writes nothing in any case, and succeeds in the same way unless a request is refused. After a
pass has failed, any status that it wrote being stored, the status that is read back is the one that it
computed, and another pass that fails in the same way writes no status; for a living binding and a
failure of the API, in the same way means that the same request was refused. -/
theorem quiescent_of_runs {result : Except ReconcileError Action} (hs : s.IsSound) (hr : s.Stores k r)
    (hruns : Runs resync now r s said (.ok result) t)
    (hstored : ∀ c ∈ said.refused, c.status? = none) :
    (∀ action, result = .ok action → r.isDeleting = false → r.metadata.generation.isSome = true →
      ∃ r', t.Stores k r' ∧ r'.IsRewriteOf r ∧ ∀ later,
        (∃ said', Runs resync later r' t said' (.ok (.ok action)) t) ∧
        ∀ (said' : Transcript) result' u, Runs resync later r' t said' result' u →
          said'.writes = [] ∧ (said'.refused = [] → result' = .ok (.ok action))) ∧
    ∀ e, result = .error e →
      ∃ r', t.Stores k r' ∧ r'.IsRewriteOf r ∧ Sets said r.status r'.status ∧
        ∀ resync' later u (said' : Transcript) v, Runs resync' later r' u said' (.ok (.error e)) v →
          (r.isDeleting = false → ∀ cause, e = .api cause →
            ∃ c ∈ said.refused, c ∈ said'.refused) →
          said'.statuses = [] := by
  cases hruns.passing with
  | @living id inner remarks result t hid hliving hpass hwrites hrefused =>
    -- What is remarked at the end neither writes nor is refused, so only the inner part counts.
    have hinner : ∀ c ∈ inner.refused, c.status? = none := fun c hc => hstored c (by simp [hc])
    constructor
    · rintro action rfl - hgeneration
      obtain ⟨rfl, r', subject, m, hr', hrewrite, hsettled⟩ :=
        hpass.settled hs hr hgeneration hinner
      have hid' : r'.id = .ok id := hrewrite.id.trans hid
      have hliving' : r'.isDeleting = false := hrewrite.isDeleting.trans hliving
      refine ⟨r', hr', hrewrite, fun later => ⟨hsettled.exists_runs hid' hliving' resync later, ?_⟩⟩
      intro said' result' u hruns'
      obtain ⟨hwrites', -, hresult'⟩ := hsettled.of_runs hid' hliving' hruns'
      exact ⟨hwrites', hresult'⟩
    · rintro e rfl
      obtain ⟨r', hr', hrewrite, hsets, hrepeats⟩ := hpass.repeats hr hinner
      refine ⟨r', hr', hrewrite, ?_, fun resync' later u said' v hagain hsame => ?_⟩
      · simpa [Sets, Transcript.statuses_of_writes hwrites] using hsets
      · cases hagain.passing with
        | deleting _ hdeleting => cases hdeleting.symm.trans (hrewrite.isDeleting.trans hliving)
        | living hid' _ hpass' hwrites' hrefused' =>
          obtain rfl := Except.ok.inj (hid.symm.trans (hrewrite.id.symm.trans hid'))
          have hsame := hsame hliving
          simp only [Transcript.refused_append, hrefused, hrefused', List.append_nil] at hsame
          rw [Transcript.statuses_append, hrepeats _ _ _ _ _ hpass' hsame,
            Transcript.statuses_of_writes hwrites', List.append_nil]
  | @deleting id inner remarks result t hid hdeleting hpass hwrites hrefused =>
    have hinner : ∀ c ∈ inner.refused, c.status? = none := fun c hc => hstored c (by simp [hc])
    refine ⟨fun action _ hliving _ => ?_, ?_⟩
    · cases hliving.symm.trans hdeleting
    · rintro e rfl
      obtain ⟨r', hr', hrewrite, hsets, hrepeats⟩ := hpass.repeats hr hinner
      refine ⟨r', hr', hrewrite, ?_, fun resync' later u said' v hagain _ => ?_⟩
      · simpa [Sets, Transcript.statuses_of_writes hwrites] using hsets
      · cases hagain.passing with
        | living _ hliving => cases hliving.symm.trans (hrewrite.isDeleting.trans hdeleting)
        | deleting hid' _ hpass' hwrites' hrefused' =>
          obtain rfl := Except.ok.inj (hid.symm.trans (hrewrite.id.symm.trans hid'))
          rw [Transcript.statuses_append, hrepeats _ _ _ _ hpass',
            Transcript.statuses_of_writes hwrites', List.append_nil]

/-! ## A shop -/

open Situation (modeBinding modeMutation webWorkload webSubject webClaim webPatch)

/-- A binding with a generation that sets a variable in the containers of a deployment. -/
def shopBinding : BindingResource :=
  { modeBinding with metadata := { modeBinding.metadata with generation := some 1 } }

/-- The identity of the binding. -/
def shopId : BindingId := ⟨.env, "shop", "mode"⟩

/-- The deployment as it is stored, with a number of replicas that no workload has. -/
def webObject (container : Members) : Json :=
  .obj
    [("metadata", .obj [("name", .str "web"), ("namespace", .str "shop")]),
     ("spec", .obj
       [("replicas", .int 2),
        ("template", .obj [("spec", .obj [("containers", .arr [.obj container])])])])]

/-- The deployment before the first pass. -/
def freshObject : Json := webObject [("name", .str "web")]

/-- The deployment with the variable. -/
def boundObject : Json :=
  webObject
    [("env", .arr [.obj [("name", .str "MODE"), ("value", .str "fast")]]), ("name", .str "web")]

/-- The binding and the deployment before the first pass. -/
def storedShop : Contents where
  binding :=
    [("metadata", .obj [("generation", .int 1), ("name", .str "mode"), ("namespace", .str "shop")]),
     ("spec", shopBinding.spec.toJson),
     ("status", .null)]
  workloads := .ofList [(webClaim, freshObject)]

/-- The shop when the binding has its finalizer. -/
def armedShop : Contents :=
  storedShop.merged (Client.finalizersBody none [BindingKind.env.finalizer]) none

/-- The shop when the binding has the status, too, that a pass computes. -/
def shopWith (workloads : SortedMap Claim Json) (bound : Except ReconcileError Unit) : Contents :=
  { armedShop with workloads }.merged (Client.statusBody (computed shopBinding ⟨0, 0⟩ bound)) none

theorem stores_storedShop : storedShop.Stores .env shopBinding := by
  unfold Contents.Stores
  decide +kernel

theorem read_freshObject : Workload.read freshObject = .ok webWorkload := by decide +kernel

theorem isSound_storedShop : storedShop.IsSound := by
  have hentry : ∀ k raw, storedShop.workloads.get? k = some raw →
      k = webClaim ∧ raw = freshObject := by
    intro k raw hraw
    have hmem : (k, raw) ∈ [(webClaim, freshObject)] := Assoc.mem_of_get? hraw
    exact Prod.mk.inj (List.mem_singleton.1 hmem)
  constructor
  · intro k w hw
    obtain ⟨raw, hraw, hread⟩ := Contents.get?_view_iff.1 hw
    obtain ⟨rfl, rfl⟩ := hentry k raw hraw
    obtain rfl := Except.ok.inj (read_freshObject.symm.trans hread)
    rfl
  · intro k raw hraw
    obtain ⟨rfl, rfl⟩ := hentry k raw hraw
    decide

/-- What is said when a binding without a finalizer begins to be carried out. -/
def beginning : Transcript :=
  [⟨.finalizers shopId none [BindingKind.env.finalizer], (Except.ok () : Except ApiFailure Unit)⟩,
   ⟨.note (.tracked shopId webSubject), ()⟩]

/-- The request for the deployment with its answer. -/
def getting (answer : Except ApiFailure (Option Workload)) : Transcript :=
  [⟨.get webSubject.resourceType "shop" "web", answer⟩]

/-- The request to write the status that was computed, with its answer. -/
def sending (now : Timestamp) (bound : Except ReconcileError Unit) : Transcript :=
  [⟨.status shopId (computed shopBinding now bound), (Except.ok () : Except ApiFailure Unit)⟩]

/-- What is said when a pass failed. -/
def failing (e : ReconcileError) : Transcript :=
  [⟨.note (.failed shopId), ()⟩,
   ⟨.event ⟨shopBinding.reference, .warning, Event.internalError, some e.message⟩, ()⟩]

/-- The pass that binds the deployment. -/
theorem runs_bound :
    Runs 0 ⟨0, 0⟩ shopBinding storedShop
      (beginning ++ getting (.ok (some webWorkload)) ++
        [⟨.patchAll [webPatch], (⟨[.ok ()], rfl⟩ : PatchResults [webPatch])⟩,
         ⟨.note (.patched .env .bind 1), ()⟩] ++
        sending ⟨0, 0⟩ (.ok ()) ++ [⟨.note (.succeeded shopId), ()⟩])
      (.ok (.ok (.requeue 0))) (shopWith (armedShop.put webClaim boundObject).workloads (.ok ())) := by
  have hpatch : freshObject.applyPatch webPatch.patch = some boundObject := by decide +kernel
  have hpatched : armedShop.Answers (.patchAll [webPatch]) ⟨[.ok ()], rfl⟩
      (armedShop.put webClaim boundObject) :=
    ⟨[(webPatch, .ok ())], .refl _, .cons (.patched rfl hpatch) (.nil _)⟩
  have hgets : armedShop.Gets webClaim (.ok (some webWorkload)) :=
    ⟨freshObject, rfl, read_freshObject⟩
  constructor
  · exact ⟨_, rfl, _, rfl, _, rfl, _, rfl, _, rfl, _, rfl, _, rfl, rfl⟩
  · exact ⟨armedShop, ⟨none, rfl⟩, _, rfl, _, ⟨hgets, rfl⟩, _, hpatched, _, rfl, _, ⟨none, rfl⟩, _, rfl,
      rfl⟩

/-- The failure of a request. -/
def outage : ApiFailure := .refused { message := "boom", reason := "InternalError", code := 500 }

/-- A pass that puts the finalizer on and cannot read the deployment. -/
theorem runs_unread (now : Timestamp) : ∃ t,
    Runs 0 now shopBinding storedShop
      (beginning ++ getting (.error outage) ++ sending now (.error (.api outage)) ++
        failing (.api outage))
      (.ok (.error (.api outage))) t := by
  refine ⟨armedShop.merged (Client.statusBody (computed shopBinding now (.error (.api outage)))) none,
    ?_, ?_⟩
  · exact ⟨_, rfl, _, rfl, _, rfl, _, rfl, _, rfl, _, rfl, rfl⟩
  · exact ⟨armedShop, ⟨none, rfl⟩, _, rfl, _, ⟨trivial, rfl⟩, _, ⟨none, rfl⟩, _, rfl, _, rfl, rfl⟩

/-- A pass that cannot put the finalizer on. -/
theorem runs_unarmed (now : Timestamp) :
    Runs 0 now shopBinding storedShop
      (⟨.finalizers shopId none [BindingKind.env.finalizer],
        (Except.error outage : Except ApiFailure Unit)⟩ :: failing (.api outage))
      (.ok (.error (.api outage))) storedShop := by
  constructor
  · exact ⟨_, rfl, _, rfl, _, rfl, rfl⟩
  · exact ⟨_, rfl, _, rfl, _, rfl, rfl⟩

/-- After the pass that binds the deployment another one can succeed and none writes anything, and after
one that could not read it none that cannot read it either writes the status again. -/
theorem quiescent_of_runs_shop :
    (∃ (said : Transcript) (t : Contents) (r' : BindingResource),
      Runs 0 ⟨0, 0⟩ shopBinding storedShop said (.ok (.ok (.requeue 0))) t ∧ said.writes.length = 3 ∧
        t.Stores .env r' ∧ ∀ later,
          (∃ said', Runs 0 later r' t said' (.ok (.ok (.requeue 0))) t) ∧
          ∀ (said' : Transcript) result' u, Runs 0 later r' t said' result' u → said'.writes = []) ∧
    ∃ (said : Transcript) (t : Contents) (r' : BindingResource),
      Runs 0 ⟨0, 0⟩ shopBinding storedShop said (.ok (.error (.api outage))) t ∧ said.statuses ≠ [] ∧
        t.Stores .env r' ∧ ∀ later u (said' : Transcript) v,
          Runs 0 later r' u said' (.ok (.error (.api outage))) v →
            .get webSubject.resourceType "shop" "web" ∈ said'.refused → said'.statuses = [] := by
  obtain ⟨t, hunread⟩ := runs_unread ⟨0, 0⟩
  have hbound := quiescent_of_runs isSound_storedShop stores_storedShop runs_bound
    fun _ hc => absurd hc List.not_mem_nil
  have hfailed := quiescent_of_runs isSound_storedShop stores_storedShop hunread
    (List.forall_mem_singleton.2 rfl)
  obtain ⟨r', hr', -, hquiet⟩ := hbound.1 _ rfl rfl rfl
  obtain ⟨r'', hr'', -, -, hrepeats⟩ := hfailed.2 _ rfl
  refine ⟨⟨_, _, r', runs_bound, rfl, hr', fun later => ⟨(hquiet later).1, ?_⟩⟩,
    ⟨_, t, r'', hunread, nofun, hr'', fun later u said' v hruns hread => ?_⟩⟩
  · exact fun said' result' u hruns => ((hquiet later).2 said' result' u hruns).1
  · exact hrepeats 0 later u said' v hruns fun _ _ _ => ⟨_, List.mem_singleton.2 rfl, hread⟩

/-- A pass may fail as the one before did and write a status nevertheless, when another request was
refused: the first could not put the finalizer on, and the second could not read the deployment. -/
theorem not_quiescent_of_other_request :
    ¬ ∀ (k : BindingKind) (r r' : BindingResource) (s t u : Contents) (said said' : Transcript)
      (e : ReconcileError), s.IsSound → s.Stores k r → Runs 0 ⟨0, 0⟩ r s said (.ok (.error e)) t →
        (∀ c ∈ said.refused, c.status? = none) → t.Stores k r' →
          Runs 0 ⟨60, 0⟩ r' t said' (.ok (.error e)) u → said'.statuses = [] := by
  intro hclaim
  obtain ⟨t, hunread⟩ := runs_unread ⟨60, 0⟩
  have hnone := hclaim _ _ _ _ _ _ _ _ _ isSound_storedShop stores_storedShop (runs_unarmed ⟨0, 0⟩)
    (List.forall_mem_singleton.2 rfl) stores_storedShop hunread
  cases hnone

end Reconcile

end WorkloadBindings
