import WorkloadBindings.Proofs.Reconcile.Deeds

/-!
# Patches that a pass sends

A pass patches nothing but workloads that it has read, each with the difference that carrying the
mutation of its binding out, or undoing it, makes in that workload (`Sent`). The workloads are read and
patched in two places, in the pass of a living binding and in that of one that is being deleted; the
rules of `Step.Sends` take the rest of a pass apart (`sent_of_leaves`).
-/

namespace WorkloadBindings

namespace Reconcile

variable {α β : Type} {r : BindingResource} {id : BindingId} {base : List Reading}

/-- The patch makes one of the workloads that were read what a change of the binding's mutation makes
of it. -/
def Sent (r : BindingResource) (readings : List Reading) (p : WorkloadPatch) : Prop :=
  ∃ c m subject found w, r.subject = .ok subject ∧ r.mutation = .ok m ∧
    .ok (some found) ∈ readings ∧ w ∈ found ∧
    WorkloadPatch.forChange? c m subject.resourceType w = some p

/-- What was read before is not forgotten. -/
theorem Sent.mono {readings : List Reading} {p : WorkloadPatch} (hsub : base ⊆ readings)
    (h : Sent r base p) : Sent r readings p := by
  obtain ⟨c, m, subject, found, w, hsubject, hm, hfound, hw, hpatch⟩ := h
  exact ⟨c, m, subject, found, w, hsubject, hm, hsub hfound, hw, hpatch⟩

/-! ## Parts of a pass -/

/-- Whatever is said in a part of a pass, the patches in it are those of a change of the binding's
mutation for workloads that were read, in the part or before it. -/
def Step.Sends (r : BindingResource) (base : List Reading) (x : Step α) : Prop :=
  ∀ said ended, Step.Says x said ended →
    ∀ q ∈ said.deeds.patches, Sent r (base ++ said.deeds.readings) q.1

namespace Step.Sends

/-- What is sent in two parts that follow each other was read before, or in one of them. -/
theorem append {said₁ said₂ : Transcript}
    (h₁ : ∀ q ∈ said₁.deeds.patches, Sent r (base ++ said₁.deeds.readings) q.1)
    (h₂ : ∀ q ∈ said₂.deeds.patches, Sent r (base ++ said₂.deeds.readings) q.1) :
    ∀ q ∈ Deeds.patches (Transcript.deeds (said₁ ++ said₂)),
      Sent r (base ++ Deeds.readings (Transcript.deeds (said₁ ++ said₂))) q.1 := by
  intro q hq
  rw [Transcript.deeds_append, Deeds.patches_append] at hq
  rw [Transcript.deeds_append, Deeds.readings_append]
  rcases List.mem_append.1 hq with hq | hq
  · refine (h₁ q hq).mono fun reading hreading => ?_
    rw [← List.append_assoc]
    exact List.mem_append_left _ hreading
  · refine (h₂ q hq).mono ?_
    exact List.append_subset.2 ⟨List.subset_append_left _ _,
      List.Subset.trans (List.subset_append_right _ _) (List.subset_append_right _ _)⟩

/-- A part that sends no patch. -/
theorem of_patches {x : Step α} (h : ∀ said ended, Step.Says x said ended → said.deeds.patches = []) :
    Step.Sends r base x := by
  intro said ended hsaid q hq
  rw [h said ended hsaid] at hq
  cases hq

/-- Nothing is sent in a part that only gives a result. -/
theorem pure (a : α) : Step.Sends r base (Pure.pure a : Step α) :=
  of_patches fun _ _ hsaid => by rw [(Step.says_pure_iff.1 hsaid).1]; rfl

/-- Nothing is sent in a part that fails. -/
theorem throw (e : ReconcileError) : Step.Sends r base (MonadExcept.throw e : Step α) :=
  of_patches fun _ _ hsaid => by rw [(Step.says_throw_iff.1 hsaid).1]; rfl

/-- What is sent in two parts, one after the other. -/
theorem bind {x : Step β} {f : β → Step α} (hx : Step.Sends r base x)
    (hf : ∀ b, Step.Sends r base (f b)) : Step.Sends r base (x >>= f) := by
  intro said ended hsaid
  rcases hsaid.of_bind with ⟨_, hfirst, -⟩ | ⟨_, hfirst, -⟩ | ⟨b, said₁, said₂, hfirst, hrest, rfl⟩
  · exact hx said _ hfirst
  · exact hx said _ hfirst
  · exact append (hx said₁ _ hfirst) (hf b said₂ _ hrest)

/-- What is sent in a part whose failure is no end, and in what follows. -/
theorem outcome {x : Step β} {f : Except ReconcileError β → Step α} (hx : Step.Sends r base x)
    (hf : ∀ result, Step.Sends r base (f result)) :
    Step.Sends r base (Reconcile.outcome x >>= f) := by
  intro said ended hsaid
  rcases hsaid.of_outcome with ⟨_, hfirst, -⟩ | ⟨result, said₁, said₂, hfirst, hrest, rfl⟩
  · exact hx said _ hfirst
  · exact append (hx said₁ _ hfirst) (hf result said₂ _ hrest)

/-- What is sent after a call that is not for patches. -/
theorem ask {c : Call} {f : c.Answer → Step α} (hc : ∀ answer, (c.deeds answer).patches = [])
    (hf : ∀ answer, Step.Sends r base (f answer)) : Step.Sends r base (Reconcile.ask c >>= f) := by
  intro said ended hsaid
  obtain ⟨answer, said₁, rfl, hrest⟩ := Step.says_ask_iff.1 hsaid
  have hcall : ∀ q ∈ Deeds.patches (Transcript.deeds [⟨c, answer⟩]),
      Sent r (base ++ Deeds.readings (Transcript.deeds [⟨c, answer⟩])) q.1 := by
    intro q hq
    rw [Transcript.deeds_cons, Transcript.deeds_nil, Deeds.append_nil, hc answer] at hq
    cases hq
  exact append hcall (hf answer said₁ ended hrest)

/-- What is sent when the controller goes on with what was found, or cannot. -/
theorem orAbort {found : Except Abort β} {f : β → Step α}
    (hf : ∀ b, found = .ok b → Step.Sends r base (f b)) :
    Step.Sends r base (Reconcile.orAbort found >>= f) := by
  intro said ended hsaid
  rcases hsaid.of_orAbort with ⟨_, -, rfl, -⟩ | ⟨b, hfound, hrest⟩
  · exact fun _ hq => nomatch hq
  · exact hf b hfound said ended hrest

/-- What is sent in a part that begins with looking for the workloads of a subject. -/
theorem locate {subject : Subject} {f : Except ReconcileError (List Workload) → Step α}
    (hf : ∀ reading : Reading, Step.Sends r (base ++ [reading]) (f (reading.located subject))) :
    Step.Sends r base (Reconcile.outcome (Reconcile.locate subject) >>= f) := by
  intro said ended hsaid q hq
  obtain ⟨reading, said₁, said₂, -, hread, hrest, rfl⟩ := hsaid.of_locate
  rw [Transcript.deeds_append, hread] at hq ⊢
  have hsent := hf reading said₂ ended hrest q hq
  rwa [List.append_assoc] at hsent

/-- What is sent to change workloads that were read. -/
theorem change {c : Change} {k : BindingKind} {m : Mutation} {subject : Subject} {found : List Workload}
    (hsubject : r.subject = .ok subject) (hm : r.mutation = .ok m)
    (hfound : .ok (some found) ∈ base) :
    Step.Sends r base (Reconcile.change c k m subject.resourceType found) := by
  intro said ended hsaid q hq
  obtain ⟨answered, hdeeds, hpatches, -⟩ := change_deeds hsaid
  rw [hdeeds] at hq ⊢
  have hsent : q.1 ∈ found.filterMap (WorkloadPatch.forChange? c m subject.resourceType) :=
    hpatches ▸ List.mem_map_of_mem hq
  obtain ⟨w, hw, hpatch⟩ := List.mem_filterMap.1 hsent
  exact ⟨c, m, subject, found, w, hsubject, hm, List.mem_append_left _ hfound, hw, hpatch⟩

/-- What is sent to change workloads that were just read, if the binding has a mutation. -/
theorem change_found {c : Change} {k : BindingKind} {subject : Subject} {found : List Workload}
    {f : List ReconcileError → Step α} (hsubject : r.subject = .ok subject)
    (hf : ∀ failures, Step.Sends r (base ++ [.ok (some found)]) (f failures)) :
    Step.Sends r (base ++ [.ok (some found)])
      (Reconcile.orAbort r.mutation >>= fun m =>
        Reconcile.change c k m subject.resourceType found >>= f) :=
  orAbort fun _ hm => bind (change hsubject hm List.mem_concat_self) hf

end Step.Sends

/-! ## The pass -/

open Step (Sends)

/-- Writing the status sends no patch. -/
theorem sends_updateStatus (prior status : BindingStatus) :
    Sends r base (updateStatus r id prior status) :=
  .of_patches fun _ _ hsaid => by
    obtain ⟨statuses, hdeeds, -⟩ := updateStatus_deeds hsaid
    rw [hdeeds]

/-- Putting the finalizer on a binding sends no patch. -/
theorem sends_ensureFinalizer : Sends r base (ensureFinalizer r id) :=
  .of_patches fun _ _ hsaid => by
    obtain ⟨finalizers, hdeeds, -⟩ := ensureFinalizer_deeds hsaid
    rw [hdeeds]

/-- Binding workloads sends patches to those that were read. -/
theorem sends_bindSubjects (status : BindingStatus) (now : Timestamp) :
    Sends r base (bindSubjects r id status now) := by
  unfold bindSubjects
  split
  · exact .pure _
  · rename_i subject hsubject
    refine .ask (fun _ => rfl) fun _ => .locate fun reading => ?_
    match reading with
    | .ok (some found) =>
      refine .change_found hsubject fun failures => ?_
      cases failures <;> exact .pure _
    | .ok none => exact .pure _
    | .error cause => exact .pure _

/-- The pass of a living binding sends patches to workloads that it has read. -/
theorem sends_bind (resync : Nat) (now : Timestamp) : Sends r base (bind resync now r id) := by
  unfold bind
  refine .bind sends_ensureFinalizer fun _ => .bind (sends_bindSubjects _ now) fun ⟨status, bound⟩ => ?_
  refine .outcome (sends_updateStatus _ _) fun updated => ?_
  split
  · exact .throw _
  · exact .throw _
  · exact .pure _

/-- Undoing a binding sends patches to workloads that were read. -/
theorem sends_unbindSubjects {subject : Subject} (hsubject : r.subject = .ok subject) :
    Sends r base (unbindSubjects r subject) := by
  unfold unbindSubjects
  refine .locate fun reading => ?_
  match reading with
  | .ok (some found) =>
    refine .change_found hsubject fun failures => ?_
    split
    · exact .throw _
    · exact .pure _
  | .ok none => exact .pure _
  | .error cause =>
    simp only [Reading.located]
    split
    · exact .pure _
    · exact .throw _

/-- The pass of a binding that is being deleted sends patches to workloads that it has read. -/
theorem sends_finalize (now : Timestamp) : Sends r base (finalize now r id) := by
  have hrelease : Sends r base (do
      let answer : Except ApiFailure Unit ←
        ask (.finalizers id none (r.finalizers.filter (· != id.kind.finalizer)))
      orFail answer
      note (.untracked id)
      publish r .normal Event.finalizerRemoved ("Removed finalizer " ++ id.kind.finalizer)
      pure Action.awaitChange) := by
    refine .ask (fun _ => rfl) fun answer => .bind ?_ fun _ => ?_
    · cases answer
      · exact .throw _
      · exact .pure _
    · exact .ask (fun _ => rfl) fun _ => .ask (fun _ => rfl) fun _ => .pure _
  unfold finalize
  split
  · exact .ask (fun _ => rfl) fun _ => .pure _
  · refine .bind (sends_updateStatus _ _) fun _ => ?_
    cases hsubject : r.subject with
    | ok subject => exact .bind (sends_unbindSubjects hsubject) fun _ => hrelease
    | error fault => exact hrelease

/-- Every patch that a pass sends, whatever it is answered, makes a workload that it has read what a change
of the binding's mutation makes of it. -/
theorem sent_of_leaves {leads : Bool} {resync : Nat} {now : Timestamp} {said : Transcript}
    {ended : Except Abort (Except ReconcileError Action)}
    (h : (pass leads resync now r).Leaves said (.done ended)) :
    ∀ q ∈ said.deeds.patches, Sent r said.deeds.readings q.1 := by
  have hlead : Sends r [] (lead resync now r) := by
    refine .orAbort fun id _ => .outcome ?_ fun result => ?_
    · split
      · exact sends_finalize now
      · exact sends_bind resync now
    · cases result with
      | ok action => exact .ask (fun _ => rfl) fun _ => .pure _
      | error e => exact .ask (fun _ => rfl) fun _ => .ask (fun _ => rfl) fun _ => .throw _
  cases leads with
  | true => exact hlead said ended h
  | false =>
    -- Without the lease nothing is said.
    obtain ⟨rfl, -⟩ := Dialogue.leaves_done_iff.1 h
    exact fun _ hq => nomatch hq

end Reconcile

end WorkloadBindings
