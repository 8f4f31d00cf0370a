import WorkloadBindings.Proofs.Reconcile.Quiescent
import WorkloadBindings.Proofs.Reconcile.Released

/-!
# Bindings that are carried out in part

The workloads of a binding are patched each for itself, and a patch that is refused keeps no other one
from being carried out. What becomes of a workload depends on the answer to its own patch, in whatever
order the answers come (`Spread`), and what is told of the binding on the first failure in the order of
the workloads (`Told`). Both hold of every pass over a living binding whose workloads are located
(`spread_of_runs`).
-/

namespace WorkloadBindings

namespace Reconcile

variable {r : BindingResource} {id : BindingId} {subject : Subject} {m : Mutation}
  {found : List Workload} {now : Timestamp} {resync : Nat} {said : Transcript} {s t : Contents}

/-! ## Workloads that were located -/

/-- Locating the workloads of a subject finds them, and leaves the contents. -/
theorem finds_of_locate (hs : s.IsSound)
    (h : Step.Says (locate subject) said (.ok (.ok found))) (hanswered : s.Answered said t) :
    s.view.Finds subject found ∧ t = s := by
  have hgives : Step.Gives False (fun said found t => Locating subject s said found ∧ t = s)
      (locate subject) s := locate_gives subject s
  obtain ⟨hlocating, hsame⟩ := hgives.of_answered h hanswered
  cases hlocating with
  | found _ _ hfinds _ => exact ⟨hfinds hs.keyed, hsame⟩

/-- Changing the workloads that were found carries their patches out in some order. -/
theorem exists_patchesEach_of_change {c : Change} {k : BindingKind} {failures : List ReconcileError}
    (h : Step.Says (change c k m subject.resourceType found) said (.ok (.ok failures)))
    (hanswered : s.Answered said t) :
    ∃ order, order.Perm said.deeds.patches ∧ s.PatchesEach order t := by
  have hgives : Step.Gives False
      (fun said x t => ∃ failures, x = .ok failures ∧ Patching c m subject found s said failures t)
      (change c k m subject.resourceType found) s := change_gives c k m subject found s
  obtain ⟨_, -, hpatching⟩ := hgives.of_answered h hanswered
  cases hpatching with
  | idle => exact ⟨[], .refl _, .nil s⟩
  | @patched patches answers n u hpatches hne hanswers =>
    obtain ⟨order, hperm, heach⟩ := hanswers
    have hnote : (Call.deeds (.note n) ()).patches = [] := by cases n <;> rfl
    refine ⟨order, ?_, heach⟩
    rw [Transcript.deeds_cons, Transcript.deeds_cons, Transcript.deeds_nil, Deeds.append_nil,
      Deeds.patches_append, hnote, List.append_nil]
    exact hperm

/-- A binding is carried out on the workloads that were located, each for itself. -/
structure Spread (r : BindingResource) (subject : Subject) (m : Mutation) (found : List Workload)
    (answered : List (WorkloadPatch × Except ApiFailure Unit)) (s t : Contents) : Prop where
  resolved : r.subject = .ok subject
  mutated : r.mutation = .ok m
  finds : s.view.Finds subject found
  /-- The patches that are sent are those of the workloads, in their order. -/
  sent : answered.map Prod.fst =
    found.filterMap (WorkloadPatch.forChange? .bind m subject.resourceType)
  /-- A workload that has its changed form is sent no patch. -/
  idle : ∀ w ∈ found, m.apply w = w → ∀ x ∈ answered, x.1.claim ≠ w.claim subject.groupKind
  /-- A workload whose patch is not refused has the changed form of what was read. -/
  changed : ∀ w ∈ found,
    (∀ x ∈ answered, x.1.claim = w.claim subject.groupKind → x.2 = .ok ()) →
      t.view.workloads.get? (w.claim subject.groupKind) = some (m.apply w)
  /-- A workload whose patch is refused is as it was. -/
  refused : ∀ p cause, (p, .error cause) ∈ answered →
    t.workloads.get? p.claim = s.workloads.get? p.claim
  /-- Every other workload is as it was. -/
  kept : ∀ k, (∀ x ∈ answered, x.1.claim ≠ k) → t.workloads.get? k = s.workloads.get? k

/-- What is carried out on workloads does not depend on the binding's object. -/
theorem Spread.of_workloads {answered : List (WorkloadPatch × Except ApiFailure Unit)} {s' t' : Contents}
    (h : Spread r subject m found answered s t)
    (hs : s.workloads = s'.workloads) (ht : t'.workloads = t.workloads) :
    Spread r subject m found answered s' t' where
  resolved := h.resolved
  mutated := h.mutated
  finds := Contents.view_eq hs ▸ h.finds
  sent := h.sent
  idle := h.idle
  changed w hw hok := by
    rw [Contents.view_eq ht]
    exact h.changed w hw hok
  refused p cause hp := by rw [ht, h.refused p cause hp, hs]
  kept k hk := by rw [ht, h.kept k hk, hs]

/-- Patches of workloads that were found do what they should, in whatever order they are answered. -/
theorem Spread.of_patchesEach {answered order : List (WorkloadPatch × Except ApiFailure Unit)}
    (hs : s.IsSound) (hsubject : r.subject = .ok subject) (hm : r.mutation = .ok m)
    (hfinds : s.view.Finds subject found)
    (hsent : answered.map Prod.fst =
      found.filterMap (WorkloadPatch.forChange? .bind m subject.resourceType))
    (hperm : order.Perm answered) (heach : s.PatchesEach order t) :
    Spread r subject m found answered s t where
  resolved := hsubject
  mutated := hm
  finds := hfinds
  sent := hsent
  idle w hw hsame x hx := by
    have hnone : WorkloadPatch.forChange? .bind m subject.resourceType w = none :=
      WorkloadPatch.forChange?_eq_none (hs.isTidy.written _ w (hfinds.stored w hw)) hsame
    exact Contents.claim_ne_of_forChange? hfinds hw hnone (hsent ▸ List.mem_map_of_mem hx)
  changed w hw hok := by
    have hnames : (order.map Prod.fst).Perm
        (found.filterMap (WorkloadPatch.forChange? .bind m subject.resourceType)) :=
      hsent ▸ hperm.map Prod.fst
    exact hs.get?_of_patched hfinds hnames heach hw
      fun x hx hclaim => hok x (hperm.mem_iff.1 hx) hclaim
  refused p cause hp := by
    have hnodup : (answered.map fun x => x.1.claim).Nodup := by
      have hclaims := hfinds.nodup_claims (c := .bind) (m := m)
      rw [← hsent, List.map_map] at hclaims
      exact hclaims
    -- No other patch is for the same workload.
    refine heach.get?_of_forall fun q hq hclaim => ?_
    cases List.inj_on_of_nodup_map hnodup (hperm.mem_iff.1 hq) hp hclaim
  kept k hk := heach.get?_of_forall fun p hp hclaim => hk _ (hperm.mem_iff.1 hp) hclaim

/-- What becomes of a living binding whose workloads are located, unless the controller cannot go on. -/
theorem bindSubjects_spread {status : BindingStatus}
    {ended : Except Abort (Except ReconcileError (BindingStatus × Except ReconcileError Unit))}
    (hs : s.IsSound) (h : Step.Says (bindSubjects r id status now) said ended)
    (hanswered : s.Answered said t) (hlocated : .ok (some found) ∈ said.deeds.readings) :
    (∃ abort, r.mutation = .error abort ∧ ended = .error abort) ∨
    ∃ subject m bound, Spread r subject m found said.deeds.patches s t ∧ said.deeds.statuses = [] ∧
      bound = firstOf (said.deeds.patches.filterMap WorkloadPatch.failure?) ∧
      ended = .ok (.ok (recorded status now bound, bound)) := by
  rcases bindSubjects_deeds h with ⟨e, -, hnone, -⟩ | habort |
    ⟨subject, m, found', answered, said₁, said₂, hsubject, hm, rfl, hlocate, hread, hchange, hpatch,
      hsent, rfl⟩
  · exact absurd hlocated (hnone found)
  · exact Or.inl habort
  · have hdeeds : Transcript.deeds (⟨.note (.tracked id subject), ()⟩ :: (said₁ ++ said₂)) =
        { readings := [.ok (some found')], patches := answered
          tracking := [.tracked id subject] } := by
      rw [Transcript.deeds_cons, Transcript.deeds_append, hread, hpatch]
      rfl
    rw [hdeeds] at hlocated ⊢
    obtain rfl := Option.some.inj (Except.ok.inj (List.mem_singleton.1 hlocated))
    -- The note and the request for the workloads leave the contents.
    obtain ⟨s', hnote, hanswered⟩ := hanswered
    obtain rfl : s' = s := hnote
    obtain ⟨u, hread', hpatched⟩ := Contents.answered_append_iff.1 hanswered
    obtain ⟨hfinds, rfl⟩ := finds_of_locate hs hlocate hread'
    obtain ⟨order, hperm, heach⟩ := exists_patchesEach_of_change hchange hpatched
    rw [hpatch] at hperm
    have hspread : Spread r subject m found answered u t :=
      .of_patchesEach hs hsubject hm hfinds hsent hperm heach
    exact Or.inr ⟨subject, m, _, hspread, rfl, rfl, rfl⟩

/-! ## The pass of a living binding -/

/-- What becomes of a living binding whose workloads are located, and of its status, unless the controller
cannot go on. -/
theorem bind_spread {ended : Except Abort (Except ReconcileError Action)} (hs : s.IsSound)
    (h : Step.Says (bind resync now r id) said ended) (hanswered : s.Answered said t)
    (hlocated : .ok (some found) ∈ said.deeds.readings) :
    (∃ abort, r.mutation = .error abort ∧ ended = .error abort) ∨
    ∃ subject m bound, Spread r subject m found said.deeds.patches s t ∧
      bound = firstOf (said.deeds.patches.filterMap WorkloadPatch.failure?) ∧
      said.deeds.statuses.map Prod.fst =
        (if r.status.getD {} = computed r now bound then [] else [computed r now bound]) ∧
      ended = .ok (ending resync bound (succeedUnless
        ((said.deeds.statuses.findSome? fun x => ApiFailure.unforgiven? x.2).map .api))) := by
  unfold bind at h
  rcases h.of_bind with ⟨abort, harm, -⟩ | ⟨e, harm, -⟩ | ⟨_, said₁, said₂, harm, hrest, rfl⟩
  · obtain ⟨_, -, -, hnone⟩ := ensureFinalizer_deeds harm
    cases hnone
  · -- Nothing is located before the finalizer is there.
    obtain ⟨_, hdeeds, -, -⟩ := ensureFinalizer_deeds harm
    rw [hdeeds] at hlocated
    cases hlocated
  · obtain ⟨finalizers, harmed, -, -⟩ := ensureFinalizer_deeds harm
    obtain ⟨s₁, harming, hcontinued⟩ := Contents.answered_append_iff.1 hanswered
    have hgives : Step.Gives False (Arming r id s) (ensureFinalizer r id) s :=
      ensureFinalizer_gives r id s
    have hsame : s₁.workloads = s.workloads := (hgives.of_answered harm harming).workloads
    rw [Transcript.deeds_append, harmed] at hlocated ⊢
    rcases hrest.of_bind with ⟨abort, hbind, rfl⟩ | ⟨e, hbind, rfl⟩ |
      ⟨⟨status, bound⟩, said₃, said₄, hbind, hrecord, rfl⟩
    · rcases bindSubjects_spread (hs.of_workloads hsame) hbind hcontinued hlocated with
        ⟨abort', hm, heq⟩ | ⟨_, _, _, _, _, _, heq⟩
      · obtain rfl := Except.error.inj heq
        exact Or.inl ⟨abort, hm, rfl⟩
      · cases heq
    · rcases bindSubjects_spread (hs.of_workloads hsame) hbind hcontinued hlocated with
        ⟨_, _, heq⟩ | ⟨_, _, _, _, _, _, heq⟩ <;> cases heq
    · rcases hrecord.of_outcome with ⟨abort, hstatus, -⟩ |
        ⟨updated, said₅, said₆, hstatus, hend, rfl⟩
      · obtain ⟨_, -, -, hnone⟩ := updateStatus_deeds hstatus
        cases hnone
      · obtain ⟨statuses, hdeeds, hstatuses, hupdated⟩ := updateStatus_deeds hstatus
        have hfinal : said₆ = [] ∧ ended = .ok (ending resync bound updated) := by
          match bound, updated, hend with
          | .ok (), .ok (), hend => exact Step.says_pure_iff.1 hend
          | .ok (), .error _, hend => exact Step.says_throw_iff.1 hend
          | .error _, _, hend => exact Step.says_throw_iff.1 hend
        obtain ⟨rfl, rfl⟩ := hfinal
        obtain ⟨s₂, hbinding, hrecording⟩ := Contents.answered_append_iff.1 hcontinued
        rw [List.append_nil] at hrecording hlocated ⊢
        rw [Transcript.deeds_append, hdeeds] at hlocated ⊢
        have hlocated' : .ok (some found) ∈ said₃.deeds.readings := by simpa using hlocated
        rcases bindSubjects_spread (hs.of_workloads hsame) hbind hbinding hlocated' with
          ⟨_, _, heq⟩ | ⟨subject, m, bound', hspread, hsilent, hbound, heq⟩
        · cases heq
        · obtain ⟨rfl, rfl⟩ := Prod.mk.inj (Except.ok.inj (Except.ok.inj heq))
          obtain rfl := Except.ok.inj hupdated
          have hrecords : Step.Gives False (Recording id (r.status.getD {}) (computed r now bound) s₂)
              (updateStatus r id (r.status.getD {}) (computed r now bound)) s₂ :=
            updateStatus_gives r id _ _ s₂
          have hleft : t.workloads = s₂.workloads := (hrecords.of_answered hstatus hrecording).workloads
          have hsent : statuses.map Prod.fst =
              if r.status.getD {} = computed r now bound then [] else [computed r now bound] := hstatuses
          refine Or.inr ⟨subject, m, bound, ?_, ?_, ?_, ?_⟩
          · simpa using hspread.of_workloads hsame hleft
          · simpa using hbound
          · simpa [hsilent] using hsent
          · simp [hsilent]

/-- What a pass tells of a binding that was carried out on the workloads that were located: its result,
and the status that it sends unless the binding has it. -/
structure Told (r : BindingResource) (resync : Nat) (d : Deeds) (result : Except ReconcileError Action) :
    Prop where
  /-- The first failure in the order of the workloads is the result, whatever becomes of the status, which
  tells it and leaves the generation. -/
  failed : ∀ e, d.patches.findSome? WorkloadPatch.failure? = some e → result = .error e ∧
    ∃ status : BindingStatus,
      d.statuses.map Prod.fst = (if r.status.getD {} = status then [] else [status]) ∧
      status.Tells .no (some "BindingFailed") (some e.message) ∧
      status.observedGeneration = (r.status.getD {}).observedGeneration
  /-- Without a failure the status tells that the binding is ready, at its generation. -/
  ready : (∀ x ∈ d.patches, x.2 = .ok ()) → ∃ status : BindingStatus,
    d.statuses.map Prod.fst = (if r.status.getD {} = status then [] else [status]) ∧
    status.Tells .yes none none ∧ status.observedGeneration = r.metadata.generation
  /-- The pass succeeds then unless the status cannot be written for another reason than that the binding
  is gone. -/
  succeeded : (∀ x ∈ d.patches, x.2 = .ok ()) →
    ((∀ x ∈ d.statuses, ApiFailure.unforgiven? x.2 = none) → result = .ok (.requeue resync)) ∧
    ∀ x ∈ d.statuses, ∀ cause, ApiFailure.unforgiven? x.2 = some cause → result = .error (.api cause)

/-- What the pass of a living binding computes when a workload could not be patched. -/
theorem tells_computed_failure (p : WorkloadPatch) (cause : ApiFailure) :
    (computed r now (.error (p.failure cause))).Tells .no (some "BindingFailed")
      (some (p.failure cause).message) :=
  BindingStatus.tells_setReady ..

/-- What the pass of a living binding computes when it was carried out. -/
theorem tells_computed_ok : (computed r now (.ok ())).Tells .yes none none := by
  obtain ⟨c, hc⟩ := BindingStatus.tells_setReady .yes none none now ((r.status.getD {}).prepare now)
  exact ⟨c, hc⟩

/-- The first of some failures, or success. -/
theorem firstOf_filterMap (answered : List (WorkloadPatch × Except ApiFailure Unit)) :
    firstOf (answered.filterMap WorkloadPatch.failure?) =
      succeedUnless (answered.findSome? WorkloadPatch.failure?) := by
  rw [← List.head?_filterMap]
  cases answered.filterMap WorkloadPatch.failure? <;> rfl

/-- No patch fails when all succeed. -/
theorem findSome?_failure?_eq_none {answered : List (WorkloadPatch × Except ApiFailure Unit)}
    (h : ∀ x ∈ answered, x.2 = .ok ()) : answered.findSome? WorkloadPatch.failure? = none := by
  refine List.findSome?_eq_none_iff.2 fun x hx => ?_
  rw [WorkloadPatch.failure?, h x hx]
  rfl

/-- What is told follows from the first failure. -/
theorem told_of_firstOf {d : Deeds} {bound : Except ReconcileError Unit}
    (hbound : bound = firstOf (d.patches.filterMap WorkloadPatch.failure?))
    (hstatuses : d.statuses.map Prod.fst =
      if r.status.getD {} = computed r now bound then [] else [computed r now bound]) :
    Told r resync d (ending resync bound (succeedUnless
      ((d.statuses.findSome? fun x => ApiFailure.unforgiven? x.2).map .api))) := by
  rw [firstOf_filterMap] at hbound
  refine ⟨fun e he => ?_, fun hok => ?_, fun hok => ?_⟩
  · rw [he] at hbound
    subst hbound
    refine ⟨rfl, _, hstatuses, ?_, observedGeneration_computed_error e⟩
    obtain ⟨⟨p, answer⟩, -, hfailure⟩ := List.exists_of_findSome?_eq_some he
    obtain ⟨cause, -, rfl⟩ := Option.map_eq_some_iff.1 hfailure
    exact tells_computed_failure p cause
  · rw [findSome?_failure?_eq_none hok] at hbound
    subst hbound
    exact ⟨_, hstatuses, tells_computed_ok, rfl⟩
  · rw [findSome?_failure?_eq_none hok] at hbound
    subst hbound
    constructor
    · intro hforgiven
      rw [List.findSome?_eq_none_iff.2 hforgiven]
      rfl
    · intro x hx cause hcause
      -- There is one status at most.
      have hone : d.statuses = [x] := by
        split at hstatuses
        · rw [List.map_eq_nil_iff.1 hstatuses] at hx
          cases hx
        · obtain ⟨y, hy, -⟩ := List.map_eq_singleton_iff.1 hstatuses
          rw [hy] at hx ⊢
          rw [List.mem_singleton.1 hx]
      rw [hone, List.findSome?_singleton, hcause]
      rfl

/-- Patches of workloads that were found can be answered in every way and order in which each of them is
refused or can be carried out. -/
theorem exists_patchesEach_of_finds {answered order : List (WorkloadPatch × Except ApiFailure Unit)}
    (hfinds : s.view.Finds subject found)
    (hsent : answered.map Prod.fst =
      found.filterMap (WorkloadPatch.forChange? .bind m subject.resourceType))
    (hcarries : ∀ p, (p, Except.ok ()) ∈ answered → s.Carries p) (hperm : order.Perm answered) :
    ∃ t, s.PatchesEach order t := by
  refine Contents.exists_patchesEach ?_ fun p hp => hcarries p (hperm.mem_iff.1 hp)
  have hclaims := hfinds.nodup_claims (c := .bind) (m := m)
  rw [← hsent, List.map_map] at hclaims
  exact (hperm.map fun x => x.1.claim).nodup_iff.2 hclaims

/-- A pass over a living binding can go on to an end whatever was answered so far, and its patches can be
answered in every way and order. When the workloads are located, the binding is carried out on each
workload for itself, in whatever order, and what is told follows from the first failure in the order of the
workloads. Only a name that is too long for a volume and cannot be cut stops the controller. -/
theorem spread_of_runs (resync : Nat) (now : Timestamp) (hs : s.IsSound) (hid : r.id = .ok id)
    (hliving : r.isDeleting = false) :
    (∀ said rest u, (pass true resync now r).Leaves said rest → s.Answered said u →
      ∃ said' ended t, Runs resync now r s (said ++ said') ended t) ∧
    (∀ subject m found answered order, s.view.Finds subject found →
      answered.map Prod.fst =
        found.filterMap (WorkloadPatch.forChange? .bind m subject.resourceType) →
      (∀ p, (p, Except.ok ()) ∈ answered → s.Carries p) → order.Perm answered →
      ∃ t, s.PatchesEach order t) ∧
    ∀ said ended t found, Runs resync now r s said ended t →
      .ok (some found) ∈ said.deeds.readings →
      (r.mutation = .error .indivisibleName ∧ ended = .error .indivisibleName) ∨
      ∃ subject m result, ended = .ok result ∧ Spread r subject m found said.deeds.patches s t ∧
        Told r resync said.deeds result := by
  refine ⟨fun said rest u hleaves hu => ?_, fun _ _ _ _ _ hfinds hsent hcarries hperm =>
    exists_patchesEach_of_finds hfinds hsent hcarries hperm, fun said ended t found h hlocated => ?_⟩
  · obtain ⟨said', ended, t, hrest, hanswered⟩ := Contents.exists_answered rest u
    exact ⟨said', ended, t, Dialogue.leaves_append_iff.2 ⟨rest, hleaves, hrest⟩,
      Contents.answered_append_iff.2 ⟨u, hu, hanswered⟩⟩
  obtain ⟨inner, remarks, rfl, hremarks, hwrites, hinner⟩ := pass_deeds hid h.1
  obtain ⟨u, hanswered, hremarked⟩ := Contents.answered_append_iff.1 h.2
  obtain rfl : t = u := hremarked.eq_of_writes hwrites
  have hdeeds : (inner ++ remarks).deeds = inner.deeds := by
    rw [Transcript.deeds_append, hremarks, Deeds.append_nil]
  rw [hdeeds] at hlocated ⊢
  rw [hliving] at hinner
  rcases bind_spread hs hinner hanswered hlocated with ⟨abort, hm, rfl⟩ |
    ⟨subject, m, bound, hspread, hbound, hstatuses, rfl⟩
  · obtain rfl := BindingResource.eq_indivisibleName hid hm
    exact Or.inl ⟨hm, rfl⟩
  · exact Or.inr ⟨subject, m, _, rfl, hspread, told_of_firstOf hbound hstatuses⟩

/-! ## A shop that is bound in part -/

/-- The binding of the deployments with a label, when it lives. -/
def livingTier : BindingResource :=
  { closingTier with
    metadata := { closingTier.metadata with deletionTimestamp := none, generation := some 2 } }

/-- The claim that names a deployment. -/
def tierClaim (name : String) : Claim := ⟨⟨⟨"apps", "Deployment"⟩, "shop"⟩, name⟩

/-- The deployments before the pass, of which one has the variable already. -/
def tierEntries : List (Claim × Workload) :=
  [(tierClaim "blog", bareTier "blog"), (tierClaim "docs", bareTier "docs"),
   (tierClaim "web", tierWorkload "web")]

/-- The shop before the pass. -/
def tierShop : Contents where
  binding := []
  workloads := .ofList (tierEntries.map fun e => (e.1, e.2.toJson))

/-- The patch of the binding for a deployment that does not have the variable. -/
def tierBindPatch (name : String) : WorkloadPatch where
  type := tierType
  «namespace» := "shop"
  name := name
  patch := Json.diff (bareTier name).toJson (tierWorkload name).toJson

/-- The failure of a deployment that could not be bound. -/
def unboundFailure : ReconcileError := (tierBindPatch "docs").failure (refusal 500)

theorem isSound_tierShop : tierShop.IsSound := by
  have hread : ∀ e ∈ tierEntries, Workload.read e.2.toJson = .ok e.2 := by decide +kernel
  have hentry : ∀ k raw, tierShop.workloads.get? k = some raw →
      ∃ e ∈ tierEntries, k = e.1 ∧ raw = e.2.toJson := by
    intro k raw hraw
    have hmem : (k, raw) ∈ tierEntries.map fun e => (e.1, e.2.toJson) := Assoc.mem_of_get? hraw
    obtain ⟨e, he, heq⟩ := List.mem_map.1 hmem
    exact ⟨e, he, (congrArg Prod.fst heq).symm, (congrArg Prod.snd heq).symm⟩
  constructor
  · intro k w hw
    obtain ⟨raw, hraw, hw⟩ := Contents.get?_view_iff.1 hw
    obtain ⟨e, he, rfl, rfl⟩ := hentry k raw hraw
    obtain rfl := Except.ok.inj ((hread e he).symm.trans hw)
    have hkeyed : ∀ e ∈ tierEntries, e.1 = e.2.claim e.1.place.groupKind := by decide
    exact hkeyed e he
  · intro k raw hraw
    obtain ⟨e, he, rfl, rfl⟩ := hentry k raw hraw
    have hordered : ∀ e ∈ tierEntries, e.2.toJson.isOrdered = true := by decide
    exact hordered e he

/-- What is said in a pass that cannot bind one deployment, nor write the status. -/
def partialSaid : Transcript :=
  [⟨.note (.tracked tierId tierSubject), ()⟩,
   ⟨.list tierType "shop" tierSelector,
     (Except.ok [bareTier "docs", tierWorkload "web", bareTier "blog"] :
       Except ApiFailure (List Workload))⟩,
   ⟨.patchAll [tierBindPatch "docs", tierBindPatch "blog"], ⟨[.error (refusal 500), .ok ()], rfl⟩⟩,
   ⟨.note (.patched .env .bind 1), ()⟩,
   ⟨.status tierId (computed livingTier ⟨0, 0⟩ (.error unboundFailure)),
     (Except.error (refusal 503) : Except ApiFailure Unit)⟩,
   ⟨.event ⟨livingTier.reference, .warning, Event.updateFailed,
     some ("Failed to update status: " ++ (refusal 503).message)⟩, ()⟩,
   ⟨.note (.failed tierId), ()⟩,
   ⟨.event ⟨livingTier.reference, .warning, Event.internalError, some unboundFailure.message⟩, ()⟩]

theorem runs_tier :
    Runs 0 ⟨0, 0⟩ livingTier tierShop partialSaid (.ok (.error unboundFailure))
      (tierShop.put (tierClaim "blog") (tierWorkload "blog").toJson) := by
  have hlisted : tierShop.Lists ⟨⟨"apps", "Deployment"⟩, "shop"⟩ tierSelector
      (.ok [bareTier "docs", tierWorkload "web", bareTier "blog"]) := by
    have hpicked : tierShop.view.picked ⟨⟨"apps", "Deployment"⟩, "shop"⟩ tierSelector =
        [bareTier "blog"] ++ [bareTier "docs", tierWorkload "web"] := by decide +kernel
    have hperm : ([bareTier "docs", tierWorkload "web"] ++ [bareTier "blog"]).Perm
        (tierShop.view.picked ⟨⟨"apps", "Deployment"⟩, "shop"⟩ tierSelector) :=
      hpicked ▸ List.perm_append_comm
    exact hperm
  have hpatched : tierShop.Answers (.patchAll [tierBindPatch "docs", tierBindPatch "blog"])
      ⟨[.error (refusal 500), .ok ()], rfl⟩
      (tierShop.put (tierClaim "blog") (tierWorkload "blog").toJson) := by
    have hpatch : (bareTier "blog").toJson.applyPatch (tierBindPatch "blog").patch =
      some (tierWorkload "blog").toJson := by decide +kernel
    -- The second patch is carried out first.
    exact ⟨[(tierBindPatch "blog", .ok ()), (tierBindPatch "docs", .error (refusal 500))], .swap _ _ _,
      .cons (.patched rfl hpatch) (.cons (.failed _) (.nil _))⟩
  constructor
  · exact ⟨_, rfl, _, rfl, _, rfl, _, rfl, _, rfl, _, rfl, _, rfl, _, rfl, rfl⟩
  · exact ⟨_, rfl, _, ⟨hlisted, rfl⟩, _, hpatched, _, rfl, _, rfl, _, rfl, _, rfl, _, rfl, rfl⟩

/-- The pass fails for the one deployment that could not be bound, with the other one bound and the third
left alone, and tells so in the status that it tries to write. -/
theorem spread_of_runs_tier : ∃ (said : Transcript) (t : Contents) (subject : Subject) (m : Mutation),
    Runs 0 ⟨0, 0⟩ livingTier tierShop said (.ok (.error unboundFailure)) t ∧
      said.deeds.patches =
        [(tierBindPatch "docs", .error (refusal 500)), (tierBindPatch "blog", .ok ())] ∧
      Spread livingTier subject m [bareTier "docs", tierWorkload "web", bareTier "blog"]
        said.deeds.patches tierShop t ∧
      Told livingTier 0 said.deeds (.error unboundFailure) := by
  have hid : livingTier.id = .ok tierId := rfl
  obtain ⟨-, -, hruns⟩ := spread_of_runs 0 ⟨0, 0⟩ isSound_tierShop hid rfl
  rcases hruns _ _ _ _ runs_tier (List.mem_singleton.2 rfl) with
    ⟨-, hnone⟩ | ⟨subject, m, _, heq, hspread, htold⟩
  · cases hnone
  · obtain rfl := Except.ok.inj heq
    exact ⟨_, _, subject, m, runs_tier, rfl, hspread, htold⟩

end Reconcile

end WorkloadBindings
