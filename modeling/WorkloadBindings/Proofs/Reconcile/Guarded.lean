import WorkloadBindings.Proofs.Binding.Basic
import WorkloadBindings.Proofs.Reconcile.Safe
import WorkloadBindings.Proofs.Workload.Stored

/-!
# Worlds in which no undo is forgotten

A world is guarded with respect to a binding and its mutation when some workload may carry an item of
the mutation only while the binding is stored with the finalizer of its kind. `World.Guarded` states
it in a form that every step keeps: the binding is still a version of the one it was
(`BindingResource.IsVersionOf`), every workload is stored under its own name, only workloads that the
binding's subject selects carry items of the mutation, and the finalizer is there or no workload
carries any. A guarded world with the finalizer is `World.Armed`: only there patches may be made.
-/

namespace WorkloadBindings

namespace BindingResource

variable {r r' : BindingResource}

/-- What the API keeps of a binding is the binding. -/
theorem eq_of_kept (h : r.kept = some r') : r' = r := by
  unfold kept at h
  split at h
  · cases h
  · exact (Option.some.inj h).symm

/-- A binding with a finalizer is kept. -/
theorem kept_of_mem {finalizer : String} (h : finalizer ∈ r.finalizers) : r.kept = some r := by
  have hne : r.finalizers.isEmpty = false := List.isEmpty_eq_false_iff_exists_mem.2 ⟨_, h⟩
  unfold kept
  rw [hne, Bool.and_false, if_neg Bool.false_ne_true]

end BindingResource

namespace World

/-! ## The workloads of a world -/

section

variable {s t : World} {k k' : Claim} {v w : Workload}

/-- A workload is found under its claim after it was put there, the others as before. -/
theorem get?_put (h : (s.put k w).workloads.get? k' = some v) :
    k' = k ∧ v = w ∨ k' ≠ k ∧ s.workloads.get? k' = some v := by
  unfold put at h
  rw [SortedMap.get?_insert] at h
  split at h
  · rename_i heq
    exact Or.inl ⟨Std.LawfulEqCmp.eq_of_compare heq, (Option.some.inj h).symm⟩
  · rename_i hne
    refine Or.inr ⟨?_, h⟩
    rintro rfl
    exact hne Std.compare_self

/-- Others put no workload into a world and change none. -/
theorem Outside.get? (hst : s.Outside t) (h : t.workloads.get? k = some w) :
    s.workloads.get? k = some w := by
  cases hst with
  | removed k' =>
    unfold remove at h
    rw [SortedMap.get?_erase] at h
    split at h
    · cases h
    · exact h
  | deletion hr time version generation => exact h

/-- What others do not change one by one they do not change. -/
theorem Drifts.preserves {P : World → Prop} (hP : ∀ {s t : World}, s.Outside t → P s → P t)
    (hst : s.Drifts t) (hs : P s) : P t := by
  induction hst with
  | refl => exact hs
  | tail _ hlast ih => exact hP hlast ih

/-- Others put no workload into a world and change none, for however long. -/
theorem Drifts.get? (hst : s.Drifts t) : t.workloads.get? k = some w → s.workloads.get? k = some w := by
  refine hst.preserves (P := fun t => t.workloads.get? k = some w → s.workloads.get? k = some w) ?_ id
  exact fun hlast ih h => ih (hlast.get? h)

end

/-! ## What is kept -/

/-- A workload that may be stored under a claim while a binding is at work: it has the name it is
stored under, and carries an item of the binding's mutation only when the binding's subject selects
it. -/
structure IsEntry (r : BindingResource) (m : Mutation) (k : Claim) (w : Workload) : Prop where
  keyed : k = w.claim k.place.groupKind
  written : w.IsWritten
  selected : m.isIn w = true →
    ∃ subject, r.subject = .ok subject ∧ subject.selects (k.target w) = true

/-- The binding is what it was, but for its metadata and status, and the workloads are as they may be
while it is at work. -/
structure Coherent (r : BindingResource) (m : Mutation) (s : World) : Prop where
  binding : ∀ r', s.binding = some r' → r'.IsVersionOf r
  entries : ∀ k w, s.workloads.get? k = some w → IsEntry r m k w

/-- The binding is stored with the finalizer of its kind. -/
def Held (r : BindingResource) (s : World) : Prop :=
  ∃ r', s.binding = some r' ∧ r.kind.finalizer ∈ r'.finalizers

/-- No workload carries an item of a mutation. -/
def Clear (m : Mutation) (s : World) : Prop :=
  ∀ k w, s.workloads.get? k = some w → m.isIn w = false

/-- The finalizer is there as long as some workload carries an item of the mutation. -/
structure Guarded (r : BindingResource) (m : Mutation) (s : World) : Prop where
  coherent : s.Coherent r m
  held : s.Held r ∨ s.Clear m

/-- Workloads may be given items of the mutation: the finalizer is there. -/
structure Armed (r : BindingResource) (m : Mutation) (s : World) : Prop where
  coherent : s.Coherent r m
  held : s.Held r

variable {r r' : BindingResource} {m : Mutation} {s t : World}

theorem Armed.guarded (h : s.Armed r m) : s.Guarded r m := ⟨h.coherent, Or.inl h.held⟩

theorem Coherent.guarded_of_clear (h : s.Coherent r m) (hclear : s.Clear m) : s.Guarded r m :=
  ⟨h, Or.inr hclear⟩

/-- In a guarded world the finalizer is there when a workload carries an item. -/
theorem Guarded.held_of_isIn (h : s.Guarded r m) {k : Claim} {w : Workload}
    (hw : s.workloads.get? k = some w) (hm : m.isIn w = true) : s.Held r := by
  rcases h.held with hheld | hclear
  · exact hheld
  · have hnot := hclear k w hw
    rw [hm] at hnot
    cases hnot

/-- A world is coherent with respect to a binding when it is so with respect to a version of it. -/
theorem Coherent.of_version (hr : r.IsVersionOf r') (h : s.Coherent r m) : s.Coherent r' m where
  binding r'' hr'' := (h.binding r'' hr'').trans hr
  entries k w hw := by
    obtain ⟨hkeyed, hwritten, hselected⟩ := h.entries k w hw
    exact ⟨hkeyed, hwritten, hr.subject ▸ hselected⟩

/-- The finalizer is that of every version of a binding. -/
theorem Held.of_version (hr : r.IsVersionOf r') (h : s.Held r) : s.Held r' := by
  unfold Held at h ⊢
  rwa [hr.kind] at h

/-- A world is guarded with respect to a binding when it is so with respect to a version of it. -/
theorem Guarded.of_version (hr : r.IsVersionOf r') (h : s.Guarded r m) : s.Guarded r' m :=
  ⟨h.coherent.of_version hr, h.held.imp_left (.of_version hr)⟩

theorem Armed.of_version (hr : r.IsVersionOf r') (h : s.Armed r m) : s.Armed r' m :=
  ⟨h.coherent.of_version hr, h.held.of_version hr⟩

/-! ## What others do -/

/-- A binding is written as another version of it. -/
theorem Coherent.write (h : s.Coherent r m) (hr : r'.IsVersionOf r) : (s.write r').Coherent r m where
  binding r'' hr'' := by
    obtain rfl := BindingResource.eq_of_kept hr''
    exact hr
  entries := h.entries

/-- A binding that is written with the finalizer is there with it. -/
theorem held_write (h : r.kind.finalizer ∈ r'.finalizers) : (s.write r').Held r :=
  ⟨r', BindingResource.kept_of_mem h, h⟩

/-- What others do keeps a world coherent. -/
theorem Coherent.outside (hst : s.Outside t) (h : s.Coherent r m) : t.Coherent r m := by
  have hentries : ∀ k w, t.workloads.get? k = some w → IsEntry r m k w :=
    fun k w hw => h.entries k w (hst.get? hw)
  cases hst with
  | removed k => exact ⟨h.binding, hentries⟩
  | deletion hr time version generation =>
    have hversion := h.binding _ hr
    exact h.write ⟨hversion.spec, hversion.name, hversion.namespace⟩

/-- The deletion of a binding does not take its finalizer off. -/
theorem Held.outside (hst : s.Outside t) (h : s.Held r) : t.Held r := by
  cases hst with
  | removed k => exact h
  | deletion hr time version generation =>
    obtain ⟨r', hr', hmem⟩ := h
    obtain rfl := Option.some.inj (hr.symm.trans hr')
    exact held_write hmem

/-- Others give no workload items of the mutation. -/
theorem Clear.outside (hst : s.Outside t) (h : s.Clear m) : t.Clear m :=
  fun k w hw => h k w (hst.get? hw)

theorem Guarded.outside (hst : s.Outside t) (h : s.Guarded r m) : t.Guarded r m :=
  ⟨h.coherent.outside hst, h.held.imp (.outside hst) (.outside hst)⟩

theorem Armed.outside (hst : s.Outside t) (h : s.Armed r m) : t.Armed r m :=
  ⟨h.coherent.outside hst, h.held.outside hst⟩

theorem Guarded.drifts (hst : s.Drifts t) (h : s.Guarded r m) : t.Guarded r m :=
  hst.preserves .outside h

theorem Armed.drifts (hst : s.Drifts t) (h : s.Armed r m) : t.Armed r m :=
  hst.preserves .outside h

theorem Clear.drifts (hst : s.Drifts t) (h : s.Clear m) : t.Clear m := hst.preserves .outside h

/-- A workload that may be stored between two passes leaves a world guarded. -/
theorem Guarded.put {k : Claim} {w : Workload} (h : s.Guarded r m) (hw : s.MayStore m k w) :
    (s.put k w).Guarded r m := by
  refine ⟨⟨h.coherent.binding, fun k' w' hw' => ?_⟩, h.held.imp_right fun hclear => ?_⟩
  · rcases get?_put hw' with ⟨rfl, rfl⟩ | ⟨-, hold⟩
    · obtain ⟨object, hordered, hdecode⟩ := hw.readable
      refine ⟨hw.keyed, Workload.isWritten_of_decode hordered hdecode, fun hm => ?_⟩
      -- It takes the place of a workload with the same labels, which the subject selects.
      obtain ⟨v, hv, hmv⟩ := hw.carries hm
      obtain ⟨subject, hsubject, hselects⟩ := (h.coherent.entries _ v hv).selected hmv
      refine ⟨subject, hsubject, ?_⟩
      unfold Claim.target at hselects ⊢
      rw [hw.labels v hv]
      exact hselects
    · exact h.coherent.entries k' w' hold
  · -- Where no workload carries an item, neither does one that may be stored.
    intro k' w' hw'
    rcases get?_put hw' with ⟨-, rfl⟩ | ⟨-, hold⟩
    · cases hm : m.isIn w' with
      | false => rfl
      | true =>
        obtain ⟨v, hv, hmv⟩ := hw.carries hm
        rw [hclear k v hv] at hmv
        cases hmv
    · exact hclear k' w' hold

end World

/-- What holds while a call waits for its answer: the world is guarded, and patches are under way
only when the finalizer is there. -/
def Call.Watched (r : BindingResource) (m : Mutation) : Call → World → Prop
  | .patchAll _, s => s.Armed r m
  | _, s => s.Guarded r m

/-- What holds while a call waits holds with respect to every version of the binding. -/
theorem Call.Watched.of_version {r r' : BindingResource} {m : Mutation} {s : World} {c : Call}
    (hr : r.IsVersionOf r') (h : c.Watched r m s) : c.Watched r' m s := by
  cases c with
  | patchAll patches => exact World.Armed.of_version hr h
  | _ => exact World.Guarded.of_version hr h

/-- While a call waits the world is guarded. -/
theorem Call.Watched.guarded {r : BindingResource} {m : Mutation} {s : World} {c : Call}
    (h : c.Watched r m s) : s.Guarded r m := by
  cases c with
  | patchAll patches => exact World.Armed.guarded h
  | _ => exact h

end WorkloadBindings
