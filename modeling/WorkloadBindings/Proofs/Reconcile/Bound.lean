import WorkloadBindings.Proofs.Reconcile.Fanout

/-!
# What a successful pass leaves

When the pass of a living binding has succeeded, every workload that is still there has the mutation
of the binding carried out on it, if the subject of the binding selects it, and is otherwise as it was
before the pass (`Reconcile.pass_changes`). Nothing is assumed of what the workloads carry, nor of the
binding that is stored: `World.Changing` is what every step of the patches keeps, each workload being
as it was when they were sent until its own patch is answered with success.
-/

namespace WorkloadBindings

namespace World

/-! ## Workloads that stay as they are -/

/-- Every workload is stored under its own name, and is in written form. -/
structure IsTidy (s : World) : Prop where
  keyed : s.IsKeyed
  written : ∀ k w, s.workloads.get? k = some w → w.IsWritten

/-- The workloads of the one world that the other one still has are as they were, and it has no other
ones. -/
def Shrinks (s t : World) : Prop :=
  ∀ k w, t.workloads.get? k = some w → s.workloads.get? k = some w

/-- What a successful change of the workloads of a subject leaves. -/
def Changed (c : Change) (m : Mutation) (subject : Subject) (s t : World) : Prop :=
  ∀ k w, t.workloads.get? k = some w → ∃ v, s.workloads.get? k = some v ∧
    w = if subject.selects (k.target v) then c.apply m v else v

variable {c : Change} {m : Mutation} {subject : Subject} {s t u : World}

theorem Shrinks.refl (s : World) : s.Shrinks s := fun _ _ h => h

theorem Shrinks.of_eq (h : t.workloads = s.workloads) : s.Shrinks t := by
  intro k w hw
  rwa [h] at hw

theorem Shrinks.trans (hst : s.Shrinks t) (htu : t.Shrinks u) : s.Shrinks u :=
  fun k w hw => hst k w (htu k w hw)

/-- Others put no workload into a world and change none. -/
theorem Drifts.shrinks (h : s.Drifts t) : s.Shrinks t := fun _ _ hw => h.get? hw

theorem IsTidy.shrinks (hs : s.IsTidy) (h : s.Shrinks t) : t.IsTidy :=
  ⟨fun k w hw => hs.keyed k w (h k w hw), fun k w hw => hs.written k w (h k w hw)⟩

theorem Changed.of_shrinks (hst : s.Shrinks t) (h : Changed c m subject t u) :
    Changed c m subject s u := by
  intro k w hw
  obtain ⟨v, hv, hchanged⟩ := h k w hw
  exact ⟨v, hst k v hv, hchanged⟩

theorem Changed.shrinks (h : Changed c m subject s t) (htu : t.Shrinks u) :
    Changed c m subject s u :=
  fun k w hw => h k w (htu k w hw)

/-- A change keeps a world tidy. -/
theorem IsTidy.changed (hs : s.IsTidy) (h : Changed c m subject s t) : t.IsTidy := by
  constructor
  · intro k w hw
    obtain ⟨v, hv, rfl⟩ := h k w hw
    split
    · rw [c.claim_apply]
      exact hs.keyed k v hv
    · exact hs.keyed k v hv
  · intro k w hw
    obtain ⟨v, hv, rfl⟩ := h k w hw
    split
    · exact c.isWritten_apply m (hs.written k v hv)
    · exact hs.written k v hv

/-- Writing the binding leaves the workloads. -/
theorem Writes.shrinks {id : BindingId} {f : BindingResource → BindingResource}
    {answer : Except ApiFailure Unit} (h : s.Writes id f answer t) : s.Shrinks t := by
  match answer, h with
  | .ok (), ⟨_, _, _, _, _, ht⟩ =>
    subst ht
    exact .of_eq rfl
  | .error _, ⟨ht, _⟩ =>
    subst ht
    exact .refl t

/-! ## Patches under way -/

variable {found : List Workload} {progress : PatchProgress}

/-- What becomes of a workload while patches are under way: it has its changed form when its patch was
answered with success, and is else as it was. -/
def Follows (c : Change) (m : Mutation) (gk : GroupKind) (found : List Workload)
    (progress : PatchProgress) (k : Claim) (v w : Workload) : Prop :=
  (w = v ∧ ∀ p, (p, some (Except.ok ())) ∈ progress → p.claim ≠ k) ∨
    (w = c.apply m v ∧ v ∈ found ∧ k = v.claim gk ∧
      ∃ p, (p, some (Except.ok ())) ∈ progress ∧ p.claim = k)

/-- What holds while the patches of a change are under way that were sent in a world. -/
structure Changing (c : Change) (m : Mutation) (subject : Subject) (found : List Workload)
    (s : World) (progress : PatchProgress) (t : World) : Prop where
  patches : progress.map Prod.fst =
    found.filterMap (WorkloadPatch.forChange? c m subject.resourceType)
  workloads : ∀ k w, t.workloads.get? k = some w → ∃ v, s.workloads.get? k = some v ∧
    Follows c m subject.groupKind found progress k v w

/-- The patches of a change are for different workloads. -/
theorem Finds.nodup_claims (h : s.Finds subject found) :
    ((found.filterMap (WorkloadPatch.forChange? c m subject.resourceType)).map
      WorkloadPatch.claim).Nodup :=
  WorkloadPatch.nodup_claims h.distinct

/-- A patch that fails leaves its workload as it was. -/
theorem Changing.failed {before after : PatchProgress} {p : WorkloadPatch} {e : ApiFailure}
    (h : Changing c m subject found s (before ++ (p, none) :: after) t) :
    Changing c m subject found s (before ++ (p, some (.error e)) :: after) t := by
  refine ⟨?_, fun k w hw => ?_⟩
  · rw [← h.patches, List.map_append, List.map_append, List.map_cons, List.map_cons]
  · obtain ⟨v, hv, ⟨hsame, hnone⟩ | ⟨hchanged, hmem, hk, q, hq, hclaim⟩⟩ := h.workloads k w hw
    · refine ⟨v, hv, Or.inl ⟨hsame, fun q hq => ?_⟩⟩
      rcases PatchProgress.mem_of_answered hq with ⟨-, herror⟩ | hold
      · cases herror
      · exact hnone q hold
    · exact ⟨v, hv, Or.inr ⟨hchanged, hmem, hk, q, PatchProgress.mem_answered hq, hclaim⟩⟩

/-- A patch that succeeds gives its workload its changed form. -/
theorem Changing.patched {before after : PatchProgress} {p : WorkloadPatch} {w : Workload} {j : Json}
    (hs : s.IsTidy) (hfinds : s.Finds subject found) (hw : t.workloads.get? p.claim = some w)
    (hj : w.toJson.applyPatch p.patch = some j)
    (h : Changing c m subject found s (before ++ (p, none) :: after) t) :
    Changing c m subject found s (before ++ (p, some (.ok ())) :: after)
      (t.put p.claim (.ofJson j)) := by
  have hmem : (p, none) ∈ before ++ (p, none) :: after :=
    List.mem_append_right _ List.mem_cons_self
  have hp : p ∈ found.filterMap (WorkloadPatch.forChange? c m subject.resourceType) :=
    h.patches ▸ List.mem_map_of_mem hmem
  obtain ⟨v, hv, hpatch⟩ := List.mem_filterMap.1 hp
  have hclaim : p.claim = v.claim subject.groupKind := WorkloadPatch.claim_of_forChange? hpatch
  have hstored : s.workloads.get? p.claim = some v := hclaim ▸ hfinds.stored v hv
  -- The workload is as it was: there is no other patch for it that could have changed it.
  obtain rfl : w = v := by
    obtain ⟨v', hv', ⟨hsame, -⟩ | ⟨-, -, -, q, hq, hqclaim⟩⟩ := h.workloads p.claim w hw
    · exact hsame.trans (Option.some.inj (hv'.symm.trans hstored))
    · have hnodup := hfinds.nodup_claims (c := c) (m := m)
      rw [← h.patches, List.map_map] at hnodup
      cases List.inj_on_of_nodup_map hnodup hq hmem hqclaim
  obtain rfl : (c.apply m w).toJson = j := by
    have hwritten := hs.written _ w hstored
    exact Option.some.inj ((WorkloadPatch.applyPatch_of_forChange? hwritten hpatch).symm.trans hj)
  rw [Workload.ofJson_toJson]
  refine ⟨?_, fun k u hu => ?_⟩
  · rw [← h.patches, List.map_append, List.map_append, List.map_cons, List.map_cons]
  rcases get?_put hu with ⟨rfl, rfl⟩ | ⟨hne, hold⟩
  · exact ⟨w, hstored, Or.inr ⟨rfl, hv, hclaim, p, List.mem_append_right _ List.mem_cons_self, rfl⟩⟩
  · obtain ⟨v, hv, ⟨hsame, hnone⟩ | ⟨hchanged, hmem, hk, q, hq, hqclaim⟩⟩ := h.workloads k u hold
    · refine ⟨v, hv, Or.inl ⟨hsame, fun q hq => ?_⟩⟩
      rcases PatchProgress.mem_of_answered hq with ⟨rfl, -⟩ | hold
      · exact hne.symm
      · exact hnone q hold
    · exact ⟨v, hv, Or.inr ⟨hchanged, hmem, hk, q, PatchProgress.mem_answered hq, hqclaim⟩⟩

/-- What holds when patches are sent for the workloads that were found holds as long as they are under
way. -/
theorem Finds.changing_steps (hs : s.IsTidy) (h : s.Finds subject found)
    (hsteps : Relation.ReflTransGen PatchStep
      (PatchProgress.start (found.filterMap (WorkloadPatch.forChange? c m subject.resourceType)), s)
      (progress, t)) :
    Changing c m subject found s progress t := by
  have hrun : ∀ y, Relation.ReflTransGen PatchStep
      (PatchProgress.start (found.filterMap (WorkloadPatch.forChange? c m subject.resourceType)), s)
      y → Changing c m subject found s y.1 y.2 := by
    intro y hy
    induction hy with
    | refl =>
      refine ⟨?_, fun k w hw => ⟨w, hw, Or.inl ⟨rfl, fun p hp => ?_⟩⟩⟩
      · unfold PatchProgress.start
        rw [List.map_map]
        exact List.map_id _
      · obtain ⟨q, -, heq⟩ := List.mem_map.1 hp
        cases heq
    | tail _ hlast ih =>
      cases hlast with
      | outside hst => exact ⟨ih.patches, fun k w hw => ih.workloads k w (hst.get? hw)⟩
      | answered hanswer =>
        cases hanswer with
        | patched hw hj => exact ih.patched hs h hw hj
        | failed hgone => exact ih.failed
  exact hrun _ hsteps

/-- When all patches are answered with success, the workloads of the subject are changed. -/
theorem Changing.changed (hs : s.IsTidy) (hfinds : s.Finds subject found)
    (hanswered : ∀ x ∈ progress, x.2 = some (.ok ()))
    (h : Changing c m subject found s progress t) : Changed c m subject s t := by
  intro k w hw
  obtain ⟨v, hv, hfollows⟩ := h.workloads k w hw
  refine ⟨v, hv, ?_⟩
  split
  · rename_i hselects
    obtain ⟨hmem, hk⟩ := hfinds.all k v hv hselects
    rcases hfollows with ⟨rfl, hnone⟩ | ⟨hchanged, -⟩
    · -- A workload that the change changes has a patch, which was answered with success.
      by_contra hne
      obtain ⟨p, hp⟩ :=
        WorkloadPatch.exists_forChange? subject.resourceType (hs.written k w hv) (Ne.symm hne)
      have hpatch : p ∈ progress.map Prod.fst :=
        h.patches ▸ List.mem_filterMap.2 ⟨w, hmem, hp⟩
      obtain ⟨⟨p, answer⟩, hx, rfl⟩ := List.mem_map.1 hpatch
      obtain rfl := hanswered _ hx
      exact hnone p hx ((WorkloadPatch.claim_of_forChange? hp).trans hk.symm)
    · exact hchanged
  · rename_i hselects
    rcases hfollows with ⟨hsame, -⟩ | ⟨-, hmem, hk, -⟩
    · exact hsame
    · exact absurd (hk ▸ hfinds.selected v hmem) hselects

end World

/-- Nothing is asked of the world while a call waits for its answer. -/
def Call.Unwatched : Call → World → Prop := fun _ _ => True

namespace Reconcile

open World

variable {r : BindingResource} {m : Mutation} {subject : Subject} {id : BindingId}
  {found : List Workload} {s : World}

/-- However a part of a pass goes that begins in a world, a condition holds when it succeeds. -/
abbrev Step.Yields {α : Type} (post : α → World → Prop) (x : Step α) (s : World) : Prop :=
  Step.Safe Call.Unwatched (fun _ => True) post (fun _ _ => True) x s

/-! ## Parts of a pass -/

/-- Looking for the workloads of a subject finds those that it selects. -/
theorem locate_finds (hs : s.IsTidy) (subject : Subject) :
    Step.Yields (fun found t => s.Shrinks t ∧ t.Finds subject found) (locate subject) s := by
  unfold locate
  split
  · rename_i name hname
    refine .bind (.ask (fun _ _ => trivial) fun answer t ht => ?_)
    obtain ⟨t, hdrift, hanswer, rfl⟩ := ht
    have htidy := hs.shrinks hdrift.shrinks
    -- The call is for the claim that the subject names.
    have hgets : t.Gets ⟨subject.place, name⟩ answer := hanswer
    match answer, hgets with
    | .ok (some w), hfound =>
      exact .pure ⟨hdrift.shrinks, htidy.keyed.finds_of_name hname hfound.symm⟩
    | .ok none, _ => exact .throw trivial
    | .error _, _ => exact .throw trivial
  · rename_i selector hselector
    refine .bind (.ask (fun _ _ => trivial) fun answer t ht => ?_)
    obtain ⟨t, hdrift, hanswer, rfl⟩ := ht
    have htidy := hs.shrinks hdrift.shrinks
    have hlists : t.Lists subject.place selector answer := hanswer
    refine .orFail (fun found hok => ?_) fun _ _ => trivial
    subst hok
    exact ⟨hdrift.shrinks, htidy.keyed.finds_of_selector hselector hlists⟩

/-- Changing the workloads that were found changes those of the subject, unless a patch fails. -/
theorem change_changes (c : Change) (k : BindingKind) (m : Mutation) (hs : s.IsTidy)
    (hfinds : s.Finds subject found) :
    Step.Yields (fun failures t => failures = [] → Changed c m subject s t)
      (change c k m subject.resourceType found) s := by
  unfold change
  simp only
  split
  · -- Without patches nothing is to be changed.
    rename_i hempty
    have hstart := hfinds.changing_steps (c := c) (m := m) hs .refl
    rw [List.isEmpty_iff.1 hempty] at hstart
    exact .pure fun _ => hstart.changed hs hfinds fun _ hx => absurd hx List.not_mem_nil
  · refine .bind (.ask (fun _ _ => trivial) fun answers t ht => ?_)
    have hchanging := hfinds.changing_steps hs ht
    refine .bind (.note fun u hu => ⟨trivial, .pure fun hnone => ?_⟩)
    refine (hchanging.changed hs hfinds fun x hx => ?_).shrinks hu.shrinks
    obtain ⟨p, found?⟩ := x
    obtain ⟨answer, rfl⟩ := exists_answer _ hx
    match answer with
    | .ok () => rfl
    | .error e =>
      have hfailure := mem_patchFailures hx
      rw [hnone] at hfailure
      cases hfailure

/-- Putting the finalizer on a binding leaves the workloads. -/
theorem ensureFinalizer_shrinks (r : BindingResource) (id : BindingId) (s : World) :
    Step.Yields (fun _ t => s.Shrinks t) (ensureFinalizer r id) s := by
  unfold ensureFinalizer
  split
  · exact .pure (.refl s)
  · refine .bind (.ask (fun _ _ => trivial) fun answer t ht => ?_)
    obtain ⟨u, hdrift, hwrites⟩ := ht
    exact .orFail (fun _ _ => hdrift.shrinks.trans hwrites.shrinks) fun _ _ => trivial

/-- Writing the status leaves the workloads. -/
theorem updateStatus_shrinks (r : BindingResource) (id : BindingId) (prior status : BindingStatus)
    (s : World) : Step.Yields (fun _ t => s.Shrinks t) (updateStatus r id prior status) s := by
  unfold updateStatus
  split
  · exact .pure (.refl s)
  · refine .bind (.ask (fun _ _ => trivial) fun answer t ht => ?_)
    obtain ⟨u, hdrift, merged, hwrites⟩ := ht
    have hshrinks := hdrift.shrinks.trans hwrites.shrinks
    match answer with
    | .ok () => exact .pure hshrinks
    | .error cause =>
      simp only
      split
      · exact .pure hshrinks
      · exact .bind (.publish fun _ _ => ⟨trivial, .throw trivial⟩)

/-- Binding the workloads of a subject changes them, if it is a success. -/
theorem bindSubjects_changes (hs : s.IsTidy) (hsubject : r.subject = .ok subject)
    (hm : r.mutation = .ok m) (status : BindingStatus) (now : Timestamp) :
    Step.Yields (fun bound t => bound.2 = .ok () → Changed .bind m subject s t)
      (bindSubjects r id status now) s := by
  unfold bindSubjects
  rw [hsubject]
  refine .bind (.note fun t ht => ⟨trivial, ?_⟩)
  have htidy := hs.shrinks ht.shrinks
  refine .bind (.outcome ((locate_finds htidy subject).mono ?_ ?_))
  · intro found u ⟨hshrinks, hfinds⟩
    rw [hm]
    refine .bind (.orAbort (fun _ hok => ?_) fun _ _ => trivial)
    obtain rfl := Except.ok.inj hok
    refine .bind ((change_changes .bind r.kind _ (htidy.shrinks hshrinks) hfinds).mono ?_
      fun _ _ hf => hf)
    intro failures v hv
    cases failures with
    | nil => exact .pure fun _ => (hv rfl).of_shrinks (ht.shrinks.trans hshrinks)
    | cons e rest => exact .pure fun h => nomatch h
  · rintro e u -
    cases e <;> exact .pure fun h => nomatch h

/-! ## Passes -/

/-- When the pass of a living binding succeeds, the workloads of its subject are changed. -/
theorem bind_changes (hs : s.IsTidy) (hsubject : r.subject = .ok subject) (hm : r.mutation = .ok m)
    (resync : Nat) (now : Timestamp) :
    Step.Yields (fun _ t => Changed .bind m subject s t) (bind resync now r id) s := by
  unfold bind
  refine .bind ((ensureFinalizer_shrinks r id s).mono (fun _ t ht => ?_) fun _ _ hf => hf)
  refine .bind ((bindSubjects_changes (hs.shrinks ht) hsubject hm _ now).mono
    (fun bound u hu => ?_) fun _ _ hf => hf)
  refine .bind (.outcome ((updateStatus_shrinks r id _ _ u).mono (fun _ v hv => ?_)
    fun e v _ => ?_))
  · match bound with
    | (_, .ok ()) => exact .pure (((hu rfl).of_shrinks ht).shrinks hv)
    | (_, .error e) => exact .throw trivial
  · match bound with
    | (_, .ok ()) => exact .throw trivial
    | (_, .error e) => exact .throw trivial

/-- When the pass of a living binding by the replica that holds the lease succeeds, every workload
that is still there has the mutation carried out on it if the subject selects it, and is else as it
was. -/
theorem pass_changes (hs : s.IsTidy) (hliving : r.isDeleting = false)
    (hsubject : r.subject = .ok subject) (hm : r.mutation = .ok m) (resync : Nat)
    (now : Timestamp) :
    Safe Call.Unwatched
      (fun result t => ∀ action, result = .ok (.ok action) → Changed .bind m subject s t)
      (pass true resync now r) s := by
  have hlead : Step.Yields (fun _ t => Changed .bind m subject s t) (lead resync now r) s := by
    unfold lead
    refine .bind (.orAbort (fun id _ => ?_) fun _ _ => trivial)
    rw [hliving, if_neg Bool.false_ne_true]
    refine .bind (.outcome ((bind_changes hs hsubject hm resync now).mono (fun action t ht => ?_)
      fun e t _ => ?_))
    · exact .bind (.note fun u hu => ⟨trivial, .pure (ht.shrinks hu.shrinks)⟩)
    · refine .bind (.note fun _ _ => ⟨trivial, ?_⟩)
      exact .bind (.publish fun _ _ => ⟨trivial, .throw trivial⟩)
  unfold pass
  rw [if_pos rfl]
  refine Safe.mono (fun _ _ h => h) (fun result t ht action hok => ?_) hlead
  subst hok
  exact ht

end Reconcile

end WorkloadBindings
