import WorkloadBindings.Proofs.Reconcile.Fanout

/-!
# Undo obligations

A binding owes its workloads an undo from the moment on when one of them may carry an item of its
mutation, and it has the finalizer of its kind for as long: every step of a run of passes keeps the
world guarded (`Situation.Guarded.step`), and so it is in every situation that a run reaches
(`Situation.held_of_reachable`). A pass keeps the world guarded because it puts the finalizer on
before it makes a patch and takes it off only when no workload carries an item any more
(`Reconcile.pass_safe`).
-/

namespace WorkloadBindings

namespace World

variable {r : BindingResource} {m : Mutation} {id : BindingId} {answer : Except ApiFailure Unit}
  {s t : World}

/-! ## Writing the binding -/

/-- A binding is written as another version of itself, or not at all. -/
theorem Coherent.writes {f : BindingResource → BindingResource} (h : s.Coherent r m)
    (hf : ∀ r', (f r').IsVersionOf r') (hwrites : s.Writes id f answer t) : t.Coherent r m := by
  match answer, hwrites with
  | .ok (), ⟨r', version, generation, hr', _, ht⟩ =>
    subst ht
    have hversion := (hf r').trans (h.binding r' hr')
    exact h.write ⟨hversion.spec, hversion.name, hversion.namespace⟩
  | .error e, ⟨ht, _⟩ =>
    subst ht
    exact h

/-- The workloads stay when the binding is written. -/
theorem Clear.writes {f : BindingResource → BindingResource} (h : s.Clear m)
    (hwrites : s.Writes id f answer t) : t.Clear m := by
  match answer, hwrites with
  | .ok (), ⟨r', version, generation, _, _, ht⟩ =>
    subst ht
    exact h
  | .error e, ⟨ht, _⟩ =>
    subst ht
    exact h

/-- The finalizer stays when the status is written. -/
theorem Armed.writes_status {merged : BindingStatus} (h : s.Armed r m)
    (hwrites : s.Writes id (·.withStatus merged) answer t) : t.Armed r m := by
  refine ⟨h.coherent.writes (f := (·.withStatus merged)) (fun r' => ⟨rfl, rfl, rfl⟩) hwrites, ?_⟩
  match answer, hwrites with
  | .ok (), ⟨r', version, generation, hr', _, ht⟩ =>
    subst ht
    obtain ⟨r'', hr'', hmem⟩ := h.held
    obtain rfl := Option.some.inj (hr'.symm.trans hr'')
    exact held_write hmem
  | .error e, ⟨ht, _⟩ =>
    subst ht
    exact h.held

/-- The finalizer is there after it was written. -/
theorem Coherent.armed_of_writes {finalizers : List String} (h : s.Coherent r m)
    (hmem : r.kind.finalizer ∈ finalizers)
    (hwrites : s.Writes id (·.withFinalizers finalizers) (.ok ()) t) : t.Armed r m := by
  refine ⟨h.writes (f := (·.withFinalizers finalizers)) (fun r' => ⟨rfl, rfl, rfl⟩) hwrites, ?_⟩
  obtain ⟨r', version, generation, hr', -, rfl⟩ := hwrites
  exact held_write hmem

end World

namespace Reconcile

open World

variable {r : BindingResource} {m : Mutation} {id : BindingId} {subject : Subject} {s : World}
  {ended : World → Prop} {failed : ReconcileError → World → Prop}

/-- Writing the status keeps the world guarded, with the finalizer. -/
theorem updateStatus_safe (h : s.Armed r m) (prior status : BindingStatus) :
    Step.Safe (Call.Watched r m) ended (fun _ t => t.Armed r m) (fun _ t => t.Armed r m)
      (updateStatus r id prior status) s := by
  unfold updateStatus
  split
  · exact .pure h
  · refine .bind (.ask (fun t ht => (Armed.drifts ht h).guarded) fun answer t ht => ?_)
    obtain ⟨s', hdrift, merged, hwrites⟩ := ht
    have harmed := (h.drifts hdrift).writes_status hwrites
    match answer with
    | .ok () => exact .pure harmed
    | .error cause =>
      simp only
      split
      · exact .pure harmed
      · refine .bind (.publish fun u hu => ⟨(harmed.drifts hu).guarded, ?_⟩)
        exact .throw (harmed.drifts hu)

/-! ## Living bindings -/

/-- When the finalizer was put on a binding, or is there, it is there. -/
theorem ensureFinalizer_safe (h : s.Guarded r m) (hr : s.binding = some r) (hid : r.id = .ok id) :
    Step.Safe (Call.Watched r m) ended (fun _ t => t.Armed r m) (fun _ t => t.Guarded r m)
      (ensureFinalizer r id) s := by
  unfold ensureFinalizer
  rw [BindingResource.kind_of_id hid]
  split
  · rename_i hmem
    exact .pure ⟨h.coherent, r, hr, List.contains_iff_mem.1 hmem⟩
  · refine .bind (.ask (fun t ht => Guarded.drifts ht h) fun answer t ht => ?_)
    obtain ⟨s', hdrift, hwrites⟩ := ht
    have hguarded := h.drifts hdrift
    refine .orFail (fun _ hok => ?_) fun e herror => ?_
    · subst hok
      refine hguarded.coherent.armed_of_writes ?_ hwrites
      exact List.mem_append_right _ (List.mem_singleton.2 rfl)
    · subst herror
      obtain ⟨rfl, -⟩ := hwrites
      exact hguarded

/-- Binding the workloads of a binding keeps the world guarded, with the finalizer. -/
theorem bindSubjects_safe (h : s.Armed r m) (hm : r.mutation = .ok m) (status : BindingStatus)
    (now : Timestamp) :
    Step.Safe (Call.Watched r m) ended (fun _ t => t.Armed r m) failed
      (bindSubjects r id status now) s := by
  unfold bindSubjects
  cases hsubject : r.subject with
  | error fault => exact .pure h
  | ok subject =>
    refine .bind (.note fun t ht => ⟨(h.drifts ht).guarded, ?_⟩)
    refine .bind (.outcome ((locate_safe (h.drifts ht) hsubject).mono ?_ ?_))
    · intro found u ⟨harmed, hlisting⟩
      rw [hm]
      refine .bind (.orAbort (fun _ hok => ?_) fun _ herror => nomatch herror)
      obtain rfl := Except.ok.inj hok
      refine .bind ((change_safe .bind r.kind harmed hlisting hsubject).mono ?_ fun _ _ hf => hf)
      rintro failures v ⟨hv, -⟩
      cases failures with
      | nil => exact .pure hv
      | cons e rest => exact .pure hv
    · rintro e u ⟨harmed, -⟩
      cases e <;> exact .pure harmed

/-- The pass of a living binding keeps the world guarded. -/
theorem bind_safe (h : s.Guarded r m) (hr : s.binding = some r) (hid : r.id = .ok id)
    (hm : r.mutation = .ok m) (resync : Nat) (now : Timestamp) :
    Step.Safe (Call.Watched r m) ended (fun _ t => t.Guarded r m) (fun _ t => t.Guarded r m)
      (bind resync now r id) s := by
  unfold bind
  refine .bind ((ensureFinalizer_safe h hr hid).mono (fun _ t ht => ?_) fun _ _ ht => ht)
  refine .bind ((bindSubjects_safe ht hm _ now).mono (fun bound u hu => ?_) fun _ _ hf => hf)
  refine .bind (.outcome ((updateStatus_safe hu _ _).mono (fun _ v hv => ?_) fun e v hv => ?_))
  · match bound with
    | (_, .ok ()) => exact .pure hv.guarded
    | (_, .error e) => exact .throw hv.guarded
  · match bound with
    | (_, .ok ()) => exact .throw hv.guarded
    | (_, .error e) => exact .throw hv.guarded

/-! ## Bindings that are being deleted -/

/-- When a binding is undone on its workloads, none of them carries an item any more. -/
theorem unbindSubjects_safe (h : s.Armed r m) (hm : r.mutation = .ok m)
    (hsubject : r.subject = .ok subject) :
    Step.Safe (Call.Watched r m) ended (fun _ t => t.Armed r m ∧ t.Clear m) (fun _ t => t.Armed r m)
      (unbindSubjects r subject) s := by
  unfold unbindSubjects
  refine .bind (.outcome ((locate_safe h hsubject).mono ?_ ?_))
  · intro found t ⟨harmed, hlisting⟩
    rw [hm]
    refine .bind (.orAbort (fun _ hok => ?_) fun _ herror => nomatch herror)
    obtain rfl := Except.ok.inj hok
    refine .bind ((change_safe .unbind r.kind harmed hlisting hsubject).mono ?_ fun _ _ hf => hf)
    intro failures u ⟨hu, hclear⟩
    split
    · exact .throw hu
    · -- Every failure says that its workload is gone.
      rename_i hnone
      refine .pure ⟨hu, hclear rfl fun e he => ?_⟩
      simpa using List.find?_eq_none.1 hnone e he
  · intro e t ⟨harmed, hclear⟩
    by_cases he : e.isNotFound = true
    · simp only [he, if_true]
      exact .pure ⟨harmed, hclear he⟩
    · simp only [he]
      exact .throw harmed

/-- The pass of a binding that is being deleted keeps the world guarded. -/
theorem finalize_safe (h : s.Guarded r m) (hr : s.binding = some r) (hid : r.id = .ok id)
    (hm : r.mutation = .ok m) (now : Timestamp) :
    Step.Safe (Call.Watched r m) ended (fun _ t => t.Guarded r m) (fun _ t => t.Guarded r m)
      (finalize now r id) s := by
  unfold finalize
  rw [BindingResource.kind_of_id hid]
  split
  · refine .bind (.note fun t ht => ⟨h.drifts ht, ?_⟩)
    exact .pure (h.drifts ht)
  · rename_i hmem
    have harmed : s.Armed r m := by
      refine ⟨h.coherent, r, hr, List.contains_iff_mem.1 ?_⟩
      simpa using hmem
    -- When nothing is left to undo, the finalizer may go.
    have hrelease : ∀ u, u.Armed r m → u.Clear m →
        Step.Safe (Call.Watched r m) ended (fun _ t => t.Guarded r m) (fun _ t => t.Guarded r m)
          (do
            let answer : Except ApiFailure Unit ←
              ask (.finalizers id none (r.finalizers.filter (· != r.kind.finalizer)))
            orFail answer
            note (.untracked id)
            publish r .normal Event.finalizerRemoved ("Removed finalizer " ++ r.kind.finalizer)
            pure Action.awaitChange) u := by
      intro u hu hclear
      refine .bind (.ask (fun v hv => (Armed.drifts hv hu).guarded) fun answer v hv => ?_)
      obtain ⟨u', hdrift, hwrites⟩ := hv
      have hguarded : v.Guarded r m := by
        refine ((hu.drifts hdrift).coherent.writes (fun r' => ?_) hwrites).guarded_of_clear
          ((hclear.drifts hdrift).writes hwrites)
        exact ⟨rfl, rfl, rfl⟩
      refine .bind (.orFail (fun _ _ => ?_) fun _ _ => hguarded)
      refine .bind (.note fun w hw => ⟨hguarded.drifts hw, ?_⟩)
      refine .bind (.publish fun x hx => ⟨(hguarded.drifts hw).drifts hx, ?_⟩)
      exact .pure ((hguarded.drifts hw).drifts hx)
    refine .bind ((updateStatus_safe harmed _ _).mono (fun _ t ht => ?_) fun _ _ ht => ht.guarded)
    cases hsubject : r.subject with
    | ok subject =>
      refine .bind ((unbindSubjects_safe ht hm hsubject).mono ?_ fun _ _ hu => hu.guarded)
      exact fun _ u hu => hrelease u hu.1 hu.2
    | error fault =>
      -- A workload that carries an item is one of the subject's, and there is no subject.
      refine hrelease t ht fun k w hw => Bool.eq_false_iff.2 fun hisIn => ?_
      obtain ⟨subject, hok, -⟩ := (ht.coherent.entries k w hw).selected hisIn
      rw [hsubject] at hok
      cases hok

/-! ## Passes -/

/-- The pass of a binding by the replica that holds the lease keeps the world guarded. -/
theorem lead_safe (h : s.Guarded r m) (hr : s.binding = some r) (hm : r.mutation = .ok m)
    (resync : Nat) (now : Timestamp) :
    Step.Safe (Call.Watched r m) (fun t => t.Guarded r m) (fun _ t => t.Guarded r m)
      (fun _ t => t.Guarded r m) (lead resync now r) s := by
  unfold lead
  refine .bind (.orAbort (fun id hid => ?_) fun _ _ => h)
  -- Whatever comes of the pass, what is noted and published of it leaves the world as it is.
  have hpass : Step.Safe (Call.Watched r m) (fun t => t.Guarded r m) (fun _ t => t.Guarded r m)
      (fun _ t => t.Guarded r m)
      (if r.isDeleting then finalize now r id else bind resync now r id) s := by
    split
    · exact finalize_safe h hr hid hm now
    · exact bind_safe h hr hid hm resync now
  refine .bind (.outcome (hpass.mono (fun action t ht => ?_) fun e t ht => ?_))
  · refine .bind (.note fun u hu => ⟨ht.drifts hu, ?_⟩)
    exact .pure (ht.drifts hu)
  · refine .bind (.note fun u hu => ⟨ht.drifts hu, ?_⟩)
    refine .bind (.publish fun v hv => ⟨(ht.drifts hu).drifts hv, ?_⟩)
    exact .throw ((ht.drifts hu).drifts hv)

/-- A pass keeps the world guarded, whatever answers it gets. -/
theorem pass_safe (h : s.Guarded r m) (hr : s.binding = some r) (hm : r.mutation = .ok m)
    (leads : Bool) (resync : Nat) (now : Timestamp) :
    Safe (Call.Watched r m) (fun _ t => t.Guarded r m) (pass leads resync now r) s := by
  unfold pass
  split
  · refine Safe.mono (fun _ _ ht => ht) (fun result t ht => ?_) (lead_safe h hr hm resync now)
    match result with
    | .error _ => exact ht
    | .ok (.error _) => exact ht
    | .ok (.ok _) => exact ht
  · exact h

end Reconcile

/-! ## Runs -/

/-- No workload carries an item of a mutation, and each is read from some object and stored under its
own name. -/
structure World.IsFresh (m : Mutation) (s : World) : Prop where
  keyed : ∀ k w, s.workloads.get? k = some w → k = w.claim k.place.groupKind
  readable : ∀ k w, s.workloads.get? k = some w →
    ∃ object : Json, object.isOrdered = true ∧ Workload.decode object = .ok w
  clear : s.Clear m

/-- Where no workload carries an item the world is guarded, whatever finalizers the binding has. -/
theorem World.IsFresh.guarded {m : Mutation} {s : World} (h : s.IsFresh m) {r : BindingResource}
    (hr : s.binding = some r) : s.Guarded r m := by
  refine Coherent.guarded_of_clear ⟨fun r' hr' => ?_, fun k w hw => ?_⟩ h.clear
  · obtain rfl := Option.some.inj (hr.symm.trans hr')
    exact .refl r
  · obtain ⟨object, hordered, hdecode⟩ := h.readable k w hw
    refine ⟨h.keyed k w hw, Workload.isWritten_of_decode hordered hdecode, fun hm => ?_⟩
    rw [h.clear k w hw] at hm
    cases hm

namespace Situation

open Reconcile (Safe pass pass_safe)

variable {r : BindingResource} {m : Mutation} {x y : Situation}

/-- Whatever comes of what is going on, the world is guarded. -/
def Guarded (r : BindingResource) (m : Mutation) : Situation → Prop
  | ⟨.idle, s⟩ => s.Guarded r m
  | ⟨.talking rest, s⟩ => Safe (Call.Watched r m) (fun _ t => t.Guarded r m) rest s
  | ⟨.patching patches progress next, s⟩ => ∃ s₀,
    Relation.ReflTransGen PatchStep (PatchProgress.start patches, s₀) (progress, s) ∧
      Safe (Call.Watched r m) (fun _ t => t.Guarded r m) (.ask (.patchAll patches) next) s₀

/-- The world is guarded now. -/
theorem Guarded.world (h : x.Guarded r m) : x.world.Guarded r m := by
  obtain ⟨activity, s⟩ := x
  match activity with
  | .idle => exact h
  | .talking (.done _) => exact h
  | .talking (.ask c _) => exact (h.1 s (.refl c s)).guarded
  | .patching _ _ _ =>
    obtain ⟨s₀, hsteps, hsafe⟩ := h
    exact (hsafe.1 s ⟨_, hsteps⟩).guarded

/-- When patches are made the finalizer is there. -/
theorem Guarded.armed (h : x.Guarded r m) (hx : x.activity.isPatching) : x.world.Armed r m := by
  obtain ⟨activity, s⟩ := x
  cases activity with
  | idle => exact hx.elim
  | talking rest =>
    cases rest with
    | done _ => exact hx.elim
    | ask c next =>
      have hwatched := h.1 s (.refl c s)
      cases c with
      | patchAll patches => exact hwatched
      | _ => exact hx.elim
  | patching patches progress next =>
    obtain ⟨s₀, hsteps, hsafe⟩ := h
    exact hsafe.1 s ⟨_, hsteps⟩

/-- Every step of a run keeps the world guarded. -/
theorem Guarded.step (hm : r.mutation = .ok m) (hstep : Step m x y) (h : x.Guarded r m) :
    y.Guarded r m := by
  cases hstep with
  | stored hw => exact World.Guarded.put h hw
  | began hr leads resync now =>
    -- The pass gets the binding as it is now, another version of the one at the beginning.
    have hversion := h.world.coherent.binding _ hr
    have hsafe := pass_safe (h.world.of_version hversion.symm) hr (hversion.mutation.trans hm) leads
      resync now
    exact hsafe.mono (fun c t ht => ht.of_version hversion) fun _ t ht => ht.of_version hversion
  | @outside activity s t hst =>
    match activity with
    | .idle => exact World.Guarded.outside hst h
    | .talking rest =>
      refine Safe.of_drifts (fun _ _ _ hst h => World.Guarded.drifts hst h) ?_ h
      exact Relation.ReflTransGen.single hst
    | .patching patches progress next =>
      obtain ⟨s₀, hsteps, hsafe⟩ := h
      exact ⟨s₀, hsteps.tail (.outside hst), hsafe⟩
  | answered hanswer => exact h.2 _ _ hanswer.completes
  | sent => exact ⟨_, .refl, h⟩
  | patching hpatch =>
    obtain ⟨s₀, hsteps, hsafe⟩ := h
    exact ⟨s₀, hsteps.tail hpatch, hsafe⟩
  | patched =>
    obtain ⟨s₀, hsteps, hsafe⟩ := h
    exact hsafe.2 _ _ hsteps
  | ended => exact h.world

/-- In every situation that a run of passes over a binding reaches, be it within a pass: as long as
some workload carries an item of the binding's mutation, the binding is stored with the finalizer of
its kind, and it is when patches are made. The run begins in a world in which no workload carries an
item. -/
theorem held_of_reachable (hm : r.mutation = .ok m) {s : World} (hr : s.binding = some r)
    (hs : s.IsFresh m) (hx : Relation.ReflTransGen (Step m) ⟨.idle, s⟩ x) :
    (∀ k w, x.world.workloads.get? k = some w → m.isIn w = true →
      ∃ r', x.world.binding = some r' ∧ r'.IsVersionOf r ∧ r'.kind.finalizer ∈ r'.finalizers) ∧
    (x.activity.isPatching →
      ∃ r', x.world.binding = some r' ∧ r'.IsVersionOf r ∧ r'.kind.finalizer ∈ r'.finalizers) := by
  have hguarded : x.Guarded r m := by
    induction hx with
    | refl => exact hs.guarded hr
    | tail _ hlast ih => exact ih.step hm hlast
  have hstored : x.world.Held r →
      ∃ r', x.world.binding = some r' ∧ r'.IsVersionOf r ∧ r'.kind.finalizer ∈ r'.finalizers := by
    rintro ⟨r', hr', hmem⟩
    have hversion := hguarded.world.coherent.binding r' hr'
    exact ⟨r', hr', hversion, by rwa [hversion.kind]⟩
  constructor
  · exact fun k w hw hisIn => hstored (hguarded.world.held_of_isIn hw hisIn)
  · exact fun hpatching => hstored (hguarded.armed hpatching).held

/-- A binding that sets a variable in the containers of a deployment. -/
def modeBinding : BindingResource where
  metadata := { name := some "mode", «namespace» := some "shop" }
  spec := .env
    { subject :=
        { apiVersion := "apps/v1", kind := "Deployment", «namespace» := none, name := some "web"
          selector := none }
      env := [⟨"MODE", "fast"⟩] }

/-- The mutation of the binding. -/
def modeMutation : Mutation := .env [("MODE", "fast")]

/-- The deployment. -/
def webWorkload : Workload where
  metadata := { name := some "web", «namespace» := some "shop" }
  template := { spec := some { containers := [{ name := "web" }] } }

/-- The subject of the binding, which names the deployment. -/
def webSubject : Subject := ⟨⟨"apps", "Deployment"⟩, "v1", "shop", .name "web"⟩

/-- The claim that names the deployment. -/
def webClaim : Claim := ⟨webSubject.place, "web"⟩

/-- The patch of the binding for the deployment. -/
def webPatch : WorkloadPatch where
  type := webSubject.resourceType
  «namespace» := "shop"
  name := "web"
  patch := Json.diff webWorkload.toJson (modeMutation.apply webWorkload).toJson

/-- The binding and the deployment before the first pass. -/
def freshShop : World where
  binding := some modeBinding
  workloads := .ofList [(webClaim, webWorkload)]

/-- The binding with its finalizer, and the deployment as it was. -/
def heldShop : World where
  binding := some (modeBinding.withFinalizers [BindingKind.env.finalizer])
  workloads := .ofList [(webClaim, webWorkload)]

/-- The binding with its finalizer, and the deployment with the variable. -/
def boundShop : World where
  binding := some (modeBinding.withFinalizers [BindingKind.env.finalizer])
  workloads := .ofList [(webClaim, modeMutation.apply webWorkload)]

/-- The pass of the binding patches the deployment. -/
theorem reaches_boundShop : ∃ next, Relation.ReflTransGen (Step modeMutation) ⟨.idle, freshShop⟩
    ⟨.patching [webPatch] [(webPatch, some (.ok ()))] next, boundShop⟩ := by
  -- The calls of the pass, one after the other.
  obtain ⟨next₁, hcall₁, next₂, hcall₂, next₃, hcall₃, next₄, hcall₄⟩ : ∃ next₁,
      pass true 0 ⟨0, 0⟩ modeBinding =
        .ask (.finalizers ⟨.env, "shop", "mode"⟩ none [BindingKind.env.finalizer]) next₁ ∧ ∃ next₂,
      next₁ (.ok ()) = .ask (.note (.tracked ⟨.env, "shop", "mode"⟩ webSubject)) next₂ ∧ ∃ next₃,
      next₂ () = .ask (.get webSubject.resourceType "shop" "web") next₃ ∧ ∃ next₄,
      next₃ (.ok (some webWorkload)) = .ask (.patchAll [webPatch]) next₄ :=
    ⟨_, rfl, _, rfl, _, rfl, _, rfl⟩
  -- Their answers.
  have hwritten : freshShop.Answers
      (.finalizers ⟨.env, "shop", "mode"⟩ none [BindingKind.env.finalizer]) (.ok ()) heldShop :=
    ⟨modeBinding, none, none, rfl, rfl, rfl⟩
  have hnoted : heldShop.Answers (.note (.tracked ⟨.env, "shop", "mode"⟩ webSubject)) () heldShop :=
    rfl
  have hfound : heldShop.Answers (.get webSubject.resourceType "shop" "web")
      (.ok (some webWorkload)) heldShop := ⟨rfl, rfl⟩
  have hpatched : heldShop.Patches webPatch (.ok ()) boundShop := by
    have hpatch : webWorkload.toJson.applyPatch webPatch.patch =
        some (modeMutation.apply webWorkload).toJson := by decide
    have h : heldShop.Patches webPatch (.ok ()) _ := .patched rfl hpatch
    rwa [Workload.ofJson_toJson] at h
  refine ⟨next₄, .head (.began rfl true 0 ⟨0, 0⟩) ?_⟩
  rw [hcall₁]
  refine .head (.answered hwritten) ?_
  rw [hcall₂]
  refine .head (.answered hnoted) ?_
  rw [hcall₃]
  refine .head (.answered hfound) ?_
  rw [hcall₄]
  have hstep : PatchStep ([] ++ (webPatch, none) :: [], heldShop)
      ([] ++ (webPatch, some (.ok ())) :: [], boundShop) := .answered hpatched
  exact .head .sent (.single (.patching hstep))

/-- The deployment does not have the variable before the first pass. -/
theorem isFresh_freshShop : freshShop.IsFresh modeMutation := by
  have hentry : ∀ k w, freshShop.workloads.get? k = some w → k = webClaim ∧ w = webWorkload := by
    intro k w hw
    have hmem : (k, w) ∈ [(webClaim, webWorkload)] := Assoc.mem_of_get? hw
    exact Prod.mk.inj (List.mem_singleton.1 hmem)
  refine ⟨fun k w hw => ?_, fun k w hw => ?_, fun k w hw => ?_⟩ <;>
    obtain ⟨rfl, rfl⟩ := hentry k w hw
  · rfl
  · exact ⟨.obj
      [("metadata", .obj [("name", .str "web"), ("namespace", .str "shop")]),
       ("spec", .obj [("template", .obj [("spec", .obj
         [("containers", .arr [.obj [("name", .str "web")]])])])])], by decide⟩
  · decide

/-- A run reaches a situation in which the deployment has the variable, and the binding has its
finalizer. -/
theorem held_of_reachable_boundShop : ∃ x : Situation,
    Relation.ReflTransGen (Step modeMutation) ⟨.idle, freshShop⟩ x ∧
      (∃ k w, x.world.workloads.get? k = some w ∧ modeMutation.isIn w = true) ∧
      ∃ r', x.world.binding = some r' ∧ r'.IsVersionOf modeBinding ∧
        r'.kind.finalizer ∈ r'.finalizers := by
  obtain ⟨next, hrun⟩ := reaches_boundShop
  have hbound : boundShop.workloads.get? webClaim = some (modeMutation.apply webWorkload) := rfl
  have hisIn : modeMutation.isIn (modeMutation.apply webWorkload) = true := by decide
  refine ⟨_, hrun, ⟨webClaim, _, hbound, hisIn⟩, ?_⟩
  exact (held_of_reachable rfl rfl isFresh_freshShop hrun).1 webClaim _ hbound hisIn

end Situation

end WorkloadBindings
