import WorkloadBindings.Proofs.Reconcile.Deeds

/-!
# How bindings are let go

The pass of a binding that is being deleted writes its status, undoes the binding on its workloads and
then sends the finalizers without its own. What is not there needs no undoing, be it the subject, a
workload or the binding; every other failure keeps the finalizer. Of several failures the pass returns
the one that `obstacle?` picks: it looks at the answers alone, and not at how far the pass came. What the
parts of the pass do with their answers (`unbindSubjects_deeds`, `release_deeds`) makes up what the pass
does (`finalizing_of_leaves`).
-/

namespace WorkloadBindings

namespace Reconcile

variable {r : BindingResource} {id : BindingId} {subject : Subject} {now : Timestamp}
  {said : Transcript}

/-! ## What stands in the way -/

/-- The failure that keeps a binding from being let go: that of its status, else that of reading its
subject, else the first one among its workloads. -/
def obstacle? (d : Deeds) : Option ReconcileError :=
  ((d.statuses.findSome? fun x => ApiFailure.unforgiven? x.2).map .api).or
    (((d.readings.findSome? ApiFailure.unforgiven?).map .api).or
      (d.patches.findSome? fun x => (ApiFailure.unforgiven? x.2).map x.1.failure))

/-- Nothing stands in the way when every failure is forgiven. -/
theorem obstacle?_eq_none_iff {d : Deeds} : obstacle? d = none ↔
    (∀ x ∈ d.statuses, ApiFailure.unforgiven? x.2 = none) ∧
      (∀ reading ∈ d.readings, ApiFailure.unforgiven? reading = none) ∧
        ∀ x ∈ d.patches, ApiFailure.unforgiven? x.2 = none := by
  simp only [obstacle?, Option.or_eq_none_iff, Option.map_eq_none_iff, List.findSome?_eq_none_iff]

/-- The subject is not there, or none was found. -/
def Reading.isMissing : Reading → Prop
  | .ok none => True
  | .ok (some _) => False
  | .error cause => cause.isNotFound = true

/-- Nothing is left of a binding on its workloads, as far as the answers tell: its reference resolves to
no subject, or there are no workloads, or each of them needed no patch, was patched or is gone. -/
def Undone (r : BindingResource) (d : Deeds) : Prop :=
  (∃ fault, r.subject = .error fault) ∨ (∃ reading ∈ d.readings, Reading.isMissing reading) ∨
    ∃ found, .ok (some found) ∈ d.readings ∧ ∀ x ∈ d.patches, ApiFailure.unforgiven? x.2 = none

/-- No finalizer is touched, and nothing is to be remembered. -/
def Silent (d : Deeds) : Prop := d.finalizers = [] ∧ d.tracking = []

/-- Once the workloads are located, each one that carries something of the binding is sent its patch. -/
def Attempts (r : BindingResource) (d : Deeds) : Prop :=
  ∀ found, .ok (some found) ∈ d.readings → ∃ subject m, r.subject = .ok subject ∧ r.mutation = .ok m ∧
    d.patches.map Prod.fst =
      found.filterMap (WorkloadPatch.forChange? .unbind m subject.resourceType)

/-- What undoing a binding does. -/
structure Undoing (r : BindingResource) (d : Deeds) : Prop where
  attempted : Attempts r d
  /-- The binding is undone when nothing stands in the way. -/
  undone_iff : Undone r d ↔ obstacle? d = none

/-- The first failure of a patch that does not say that the workload is gone. -/
theorem find?_failures (answered : List (WorkloadPatch × Except ApiFailure Unit)) :
    ((answered.filterMap WorkloadPatch.failure?).find? fun e => !e.isNotFound) =
      answered.findSome? fun x => (ApiFailure.unforgiven? x.2).map x.1.failure := by
  induction answered with
  | nil => rfl
  | cons x answered ih =>
    obtain ⟨p, answer⟩ := x
    match answer with
    | .ok () => exact ih
    | .error cause =>
      rw [List.filterMap_cons, List.findSome?_cons]
      by_cases hgone : cause.isNotFound = true
      · rw [ApiFailure.unforgiven?_of_isNotFound hgone]
        refine Eq.trans (List.find?_cons_of_neg ?_) ih
        simp [WorkloadPatch.failure, ReconcileError.isNotFound, hgone]
      · rw [ApiFailure.unforgiven?_of_not hgone]
        refine List.find?_cons_of_pos ?_
        simp [WorkloadPatch.failure, ReconcileError.isNotFound, hgone]

/-- What reading a subject comes to, and the patches that follow, undo a binding. -/
theorem Undoing.of_reading (hsubject : r.subject = .ok subject) {reading : Reading}
    {patches : List (WorkloadPatch × Except ApiFailure Unit)}
    (hlocated : ∀ found, reading = .ok (some found) → ∃ m, r.mutation = .ok m ∧
      patches.map Prod.fst = found.filterMap (WorkloadPatch.forChange? .unbind m subject.resourceType))
    (hidle : (∀ found, reading ≠ .ok (some found)) → patches = []) :
    Undoing r { readings := [reading], patches } where
  attempted found hmem := by
    obtain ⟨m, hm, hpatches⟩ := hlocated found (List.mem_singleton.1 hmem).symm
    exact ⟨subject, m, hsubject, hm, hpatches⟩
  undone_iff := by
    rw [obstacle?_eq_none_iff]
    match reading, hidle with
    | .ok (some found), _ =>
      simp [Undone, hsubject, Reading.isMissing, ApiFailure.unforgiven?]
    | .ok none, hidle =>
      obtain rfl := hidle nofun
      simp [Undone, hsubject, Reading.isMissing, ApiFailure.unforgiven?]
    | .error cause, hidle =>
      obtain rfl := hidle nofun
      simp [Undone, hsubject, Reading.isMissing, ApiFailure.unforgiven?]

/-- A binding whose reference resolves to no subject has nothing to undo. -/
theorem Undoing.of_fault {fault : SubjectFault} (hfault : r.subject = .error fault) :
    Undoing r {} where
  attempted _ h := absurd h List.not_mem_nil
  undone_iff := ⟨fun _ => rfl, fun _ => Or.inl ⟨fault, hfault⟩⟩

/-- Undoing a binding fails for the first obstacle. -/
theorem unbindSubjects_deeds (hsubject : r.subject = .ok subject)
    {ended : Except Abort (Except ReconcileError Unit)}
    (h : Step.Says (unbindSubjects r subject) said ended) :
    (∃ abort, r.mutation = .error abort ∧ ended = .error abort ∧ Silent said.deeds) ∨
    ∃ readings patches, said.deeds = { readings, patches } ∧ Undoing r said.deeds ∧
      ended = .ok (succeedUnless (obstacle? said.deeds)) := by
  unfold unbindSubjects at h
  obtain ⟨reading, said₁, said₂, -, hread, hrest, rfl⟩ := h.of_locate
  match reading, hread, hrest with
  | .ok (some found), hread, hrest =>
    rcases Step.Says.of_orAbort hrest with ⟨abort, hm, rfl, rfl⟩ | ⟨m, hm, hwork⟩
    · rw [List.append_nil, hread]
      exact Or.inl ⟨abort, hm, rfl, rfl, rfl⟩
    · obtain ⟨answered, said₃, said₄, -, hpatch, hsent, hend, rfl⟩ := hwork.of_change
      rw [find?_failures] at hend
      have hundoing : Undoing r { readings := [.ok (some found)], patches := answered } := by
        refine .of_reading hsubject ?_ fun hnone => absurd rfl (hnone found)
        rintro _ heq
        obtain rfl := Option.some.inj (Except.ok.inj heq)
        exact ⟨m, hm, hsent⟩
      have hfinal : said₄ = [] ∧ ended = .ok (succeedUnless (answered.findSome? fun x =>
          (ApiFailure.unforgiven? x.2).map x.1.failure)) := by
        split at hend
        · rename_i e hfirst
          rw [hfirst]
          exact Step.says_throw_iff.1 hend
        · rename_i hfirst
          rw [hfirst]
          exact Step.says_pure_iff.1 hend
      obtain ⟨rfl, rfl⟩ := hfinal
      rw [List.append_nil, Transcript.deeds_append, hread, hpatch]
      exact Or.inr ⟨_, _, rfl, hundoing, rfl⟩
  | .ok none, hread, hrest =>
    obtain ⟨rfl, rfl⟩ := Step.says_pure_iff.1 hrest
    rw [List.append_nil, hread]
    exact Or.inr ⟨_, _, rfl, .of_reading hsubject nofun fun _ => rfl, rfl⟩
  | .error cause, hread, hrest =>
    have hundoing : Undoing r { readings := [.error cause] } :=
      .of_reading hsubject nofun fun _ => rfl
    by_cases hgone : cause.isNotFound = true
    · have hend : Step.Says (pure ()) said₂ ended := by
        simpa [Reading.located, ReconcileError.isNotFound, hgone] using hrest
      obtain ⟨rfl, rfl⟩ := Step.says_pure_iff.1 hend
      rw [List.append_nil, hread]
      refine Or.inr ⟨_, _, rfl, hundoing, ?_⟩
      simp [obstacle?, ApiFailure.unforgiven?_of_isNotFound hgone, succeedUnless]
    · have hend : Step.Says (throw (ReconcileError.api cause)) said₂ ended := by
        simpa [Reading.located, ReconcileError.isNotFound, hgone] using hrest
      obtain ⟨rfl, rfl⟩ := Step.says_throw_iff.1 hend
      rw [List.append_nil, hread]
      refine Or.inr ⟨_, _, rfl, hundoing, ?_⟩
      simp [obstacle?, ApiFailure.unforgiven?_of_not hgone, succeedUnless]

/-! ## Letting a binding go -/

/-- How a pass ends that sent the finalizers without its own. -/
def released : Except ApiFailure Unit → Except ReconcileError Action
  | .ok () => .ok .awaitChange
  | .error cause => .error (.api cause)

/-- Letting a binding go sends the other finalizers, for whatever version, and forgets the binding when
that succeeds. -/
theorem release_deeds {ended : Except Abort (Except ReconcileError Action)}
    (h : Step.Says (do
      let answer : Except ApiFailure Unit ←
        ask (.finalizers id none (r.finalizers.filter (· != id.kind.finalizer)))
      orFail answer
      note (.untracked id)
      publish r .normal Event.finalizerRemoved ("Removed finalizer " ++ id.kind.finalizer)
      pure Action.awaitChange) said ended) :
    ∃ answer : Except ApiFailure Unit, said.deeds =
        { finalizers := [(⟨id, none, r.finalizers.filter (· != id.kind.finalizer)⟩, answer)]
          tracking := if answer.isOk then [.untracked id] else [] } ∧
      ended = .ok (released answer) := by
  obtain ⟨answer, said₁, rfl, hanswered⟩ := Step.says_ask_iff.1 h
  refine ⟨answer, ?_⟩
  match answer, hanswered with
  | .ok (), hanswered =>
    obtain ⟨_, said₂, rfl, hnoted⟩ := Step.says_ask_iff.1 hanswered
    obtain ⟨_, said₃, rfl, hend⟩ := Step.says_ask_iff.1 hnoted
    obtain ⟨rfl, rfl⟩ := Step.says_pure_iff.1 hend
    exact ⟨rfl, rfl⟩
  | .error cause, hend =>
    obtain ⟨rfl, rfl⟩ := Step.says_throw_iff.1 hend
    exact ⟨rfl, rfl⟩

/-- The status of a binding that is being undone. -/
def undoingStatus (r : BindingResource) (now : Timestamp) : BindingStatus :=
  (r.status.getD {}).markUnknown BindingStatus.finalizing undoing now

/-- What the pass of a binding that is being deleted does, and its result. -/
structure Finalizing (r : BindingResource) (id : BindingId) (now : Timestamp) (d : Deeds)
    (result : Except ReconcileError Action) : Prop where
  /-- The status that the binding is being undone is sent unless the binding has it. -/
  statuses : d.statuses.map Prod.fst =
    if r.status.getD {} = undoingStatus r now then [] else [undoingStatus r now]
  attempted : Attempts r d
  /-- Finalizers are sent when no failure of the status stands in the way and the binding is undone. -/
  sent_iff : d.finalizers ≠ [] ↔
    (∀ x ∈ d.statuses, ApiFailure.unforgiven? x.2 = none) ∧ Undone r d
  /-- What is sent are the other finalizers in their order, for whatever version, once; the answer is
  the result. -/
  sent : ∀ x ∈ d.finalizers, d.finalizers = [x] ∧
    x.1 = ⟨id, none, r.finalizers.filter (· != id.kind.finalizer)⟩ ∧ result = released x.2
  /-- When none are sent, the result is the failure that stands in the way. -/
  kept : d.finalizers = [] → ∃ e, obstacle? d = some e ∧ result = .error e
  /-- The binding is forgotten when it was let go, and only then. -/
  tracking : d.tracking = if d.finalizers.any fun x => x.2.isOk then [.untracked id] else []

section Finalizing

variable {statuses : List (BindingStatus × Except ApiFailure Unit)} {readings : List Reading}
  {patches : List (WorkloadPatch × Except ApiFailure Unit)}

/-- The pass ends when the status cannot be written. -/
theorem Finalizing.of_status {cause : ApiFailure}
    (hstatuses : statuses.map Prod.fst =
      if r.status.getD {} = undoingStatus r now then [] else [undoingStatus r now])
    (hrefused : (statuses.findSome? fun x => ApiFailure.unforgiven? x.2) = some cause) :
    Finalizing r id now { statuses } (.error (.api cause)) where
  statuses := hstatuses
  attempted _ h := absurd h List.not_mem_nil
  sent_iff := by
    refine ⟨fun h => absurd rfl h, fun h => ?_⟩
    rw [List.findSome?_eq_none_iff.2 h.1] at hrefused
    cases hrefused
  sent _ h := absurd h List.not_mem_nil
  kept _ := ⟨.api cause, by simp [obstacle?, hrefused], rfl⟩
  tracking := rfl

/-- The pass ends when something of the binding is left. -/
theorem Finalizing.of_obstacle {e : ReconcileError}
    (hstatuses : statuses.map Prod.fst =
      if r.status.getD {} = undoingStatus r now then [] else [undoingStatus r now])
    (hwritten : (statuses.findSome? fun x => ApiFailure.unforgiven? x.2) = none)
    (hundoing : Undoing r { readings, patches })
    (hobstacle : obstacle? { readings, patches } = some e) :
    Finalizing r id now { statuses, readings, patches } (.error e) where
  statuses := hstatuses
  attempted := hundoing.attempted
  sent_iff := by
    refine ⟨fun h => absurd rfl h, fun h => ?_⟩
    rw [hundoing.undone_iff.1 h.2] at hobstacle
    cases hobstacle
  sent _ h := absurd h List.not_mem_nil
  kept _ := by
    refine ⟨e, ?_, rfl⟩
    rw [← hobstacle, obstacle?, hwritten]
    rfl
  tracking := rfl

/-- The binding is let go when nothing of it is left. -/
theorem Finalizing.of_undone
    (hstatuses : statuses.map Prod.fst =
      if r.status.getD {} = undoingStatus r now then [] else [undoingStatus r now])
    (hwritten : (statuses.findSome? fun x => ApiFailure.unforgiven? x.2) = none)
    (hundoing : Undoing r { readings, patches }) (hclear : obstacle? { readings, patches } = none)
    (answer : Except ApiFailure Unit) :
    Finalizing r id now
      { statuses, readings, patches
        finalizers := [(⟨id, none, r.finalizers.filter (· != id.kind.finalizer)⟩, answer)]
        tracking := if answer.isOk then [.untracked id] else [] } (released answer) where
  statuses := hstatuses
  attempted := hundoing.attempted
  sent_iff := ⟨fun _ => ⟨List.findSome?_eq_none_iff.1 hwritten, hundoing.undone_iff.2 hclear⟩, nofun⟩
  sent x h := by
    obtain rfl := List.mem_singleton.1 h
    exact ⟨rfl, rfl, rfl⟩
  kept := nofun
  tracking := by simp

end Finalizing

/-- The pass of a binding that is being deleted and has its finalizer, whatever the API answers. -/
theorem finalize_deeds (hown : id.kind.finalizer ∈ r.finalizers)
    {ended : Except Abort (Except ReconcileError Action)}
    (h : Step.Says (finalize now r id) said ended) :
    (∃ abort, r.mutation = .error abort ∧ ended = .error abort ∧ Silent said.deeds) ∨
    ∃ result, ended = .ok result ∧ Finalizing r id now said.deeds result := by
  unfold finalize at h
  rw [List.contains_iff_mem.2 hown] at h
  rcases Step.Says.of_bind (x := updateStatus r id (r.status.getD {}) (undoingStatus r now)) h with
    ⟨abort, hstatus, -⟩ | ⟨e, hstatus, rfl⟩ | ⟨_, said₁, said₂, hstatus, hrest, rfl⟩
  · obtain ⟨statuses, -, -, hnone⟩ := updateStatus_deeds hstatus
    cases hnone
  · -- The status could not be written.
    obtain ⟨statuses, hdeeds, hstatuses, hended⟩ := updateStatus_deeds hstatus
    have hrefused := succeedUnless_eq_error_iff.1 (Except.ok.inj hended).symm
    obtain ⟨cause, hcause, rfl⟩ := Option.map_eq_some_iff.1 hrefused
    rw [hdeeds]
    exact Or.inr ⟨_, rfl, .of_status hstatuses hcause⟩
  · obtain ⟨statuses, hdeeds, hstatuses, hended⟩ := updateStatus_deeds hstatus
    have hwritten := Option.map_eq_none_iff.1
      (succeedUnless_eq_ok_iff.1 (Except.ok.inj hended).symm)
    rw [Transcript.deeds_append, hdeeds]
    cases hsubject : r.subject with
    | ok subject =>
      rw [hsubject] at hrest
      rcases Step.Says.of_bind hrest with ⟨abort, hunbind, rfl⟩ | ⟨e, hunbind, rfl⟩ |
        ⟨_, said₃, said₄, hunbind, hrelease, rfl⟩
      · rcases unbindSubjects_deeds hsubject hunbind with
          ⟨abort', hm, heq, hsilent⟩ | ⟨_, _, _, _, heq⟩
        · obtain rfl := Except.error.inj heq
          exact Or.inl ⟨abort, hm, rfl, hsilent⟩
        · cases heq
      · -- Something of the binding is left.
        rcases unbindSubjects_deeds hsubject hunbind with
          ⟨_, _, heq, _⟩ | ⟨readings, patches, hundone, hundoing, heq⟩
        · cases heq
        · have hobstacle := succeedUnless_eq_error_iff.1 (Except.ok.inj heq).symm
          rw [hundone] at hundoing hobstacle ⊢
          have hdone : Finalizing r id now { statuses, readings, patches } (.error e) :=
            .of_obstacle hstatuses hwritten hundoing hobstacle
          exact Or.inr ⟨_, rfl, by simpa [Deeds.append_def] using hdone⟩
      · rcases unbindSubjects_deeds hsubject hunbind with
          ⟨_, _, heq, _⟩ | ⟨readings, patches, hundone, hundoing, heq⟩
        · cases heq
        · have hclear := succeedUnless_eq_ok_iff.1 (Except.ok.inj heq).symm
          obtain ⟨answer, hreleased, rfl⟩ := release_deeds hrelease
          rw [Transcript.deeds_append, hreleased]
          rw [hundone] at hundoing hclear ⊢
          have hdone : Finalizing r id now _ (released answer) :=
            .of_undone hstatuses hwritten hundoing hclear answer
          exact Or.inr ⟨_, rfl, by simpa [Deeds.append_def] using hdone⟩
    | error fault =>
      rw [hsubject] at hrest
      obtain ⟨answer, hreleased, rfl⟩ := release_deeds hrest
      rw [hreleased]
      have hdone : Finalizing r id now _ (released answer) :=
        .of_undone hstatuses hwritten (.of_fault hsubject) rfl answer
      exact Or.inr ⟨_, rfl, by simpa [Deeds.append_def] using hdone⟩

/-- The pass of a binding that is being deleted and has its finalizer ends however the API answers, and
does and gives what the answers tell; the binding is remembered unless it was let go. Only a name that is
too long for a volume and cannot be cut stops the controller, and that binding keeps its finalizer. -/
theorem finalizing_of_leaves (resync : Nat) (now : Timestamp) (hid : r.id = .ok id)
    (hdeleting : r.isDeleting = true) (hown : id.kind.finalizer ∈ r.finalizers) :
    (∀ answers : Transcript → (c : Call) → c.Answer, ∃ said ended,
      (pass true resync now r).Leaves said (.done ended) ∧ Dialogue.Follows said answers) ∧
    ∀ (said : Transcript) ended, (pass true resync now r).Leaves said (.done ended) →
      (r.mutation = .error .indivisibleName ∧ ended = .error .indivisibleName ∧
        Silent said.deeds) ∨
      ∃ result, ended = .ok result ∧ Finalizing r id now said.deeds result ∧
        ∀ memory : Memory, (said.remember memory).tracker =
          if said.deeds.finalizers.any fun x => x.2.isOk then memory.tracker.untrack id
          else memory.tracker := by
  refine ⟨(pass true resync now r).exists_leaves_done, fun said ended h => ?_⟩
  obtain ⟨inner, remarks, rfl, hremarks, -, hinner⟩ := pass_deeds hid h
  rw [if_pos hdeleting] at hinner
  have hdeeds : (inner ++ remarks).deeds = inner.deeds := by
    rw [Transcript.deeds_append, hremarks, Deeds.append_nil]
  rw [hdeeds]
  rcases finalize_deeds hown hinner with ⟨abort, hm, rfl, hsilent⟩ | ⟨result, rfl, hfinalizing⟩
  · obtain rfl := BindingResource.eq_indivisibleName hid hm
    exact Or.inl ⟨hm, rfl, hsilent⟩
  · refine Or.inr ⟨result, rfl, hfinalizing, fun memory => ?_⟩
    rw [Transcript.tracker_remember, hdeeds, hfinalizing.tracking]
    split <;> rfl

/-! ## A shop that closes -/

/-- The labels of the deployments. -/
def tierLabels : Labels := .ofList [("tier", "web")]

/-- The selector of the binding. -/
def tierSelector : Selector where
  matchLabels := some tierLabels
  matchExpressions := none

/-- A binding that is being deleted, of the deployments with a label. -/
def closingTier : BindingResource where
  metadata :=
    { name := some "mode", «namespace» := some "shop", deletionTimestamp := some "now"
      finalizers := some ["keep.example", BindingKind.env.finalizer, "last.example"] }
  spec := .env
    { subject :=
        { apiVersion := "apps/v1", kind := "Deployment", «namespace» := none, name := none
          selector := some tierSelector }
      env := [⟨"MODE", "fast"⟩] }

/-- The identity of the binding. -/
def tierId : BindingId := ⟨.env, "shop", "mode"⟩

/-- The subject of the binding. -/
def tierSubject : Subject := ⟨⟨"apps", "Deployment"⟩, "v1", "shop", .selector tierSelector⟩

/-- The deployments' type. -/
def tierType : ResourceType := tierSubject.resourceType

/-- A deployment without the variable of the binding. -/
def bareTier (name : String) : Workload where
  metadata := { name := some name, «namespace» := some "shop", labels := some tierLabels }
  template := { spec := some { containers := [{ name := "web" }] } }

/-- A deployment with the variable of the binding. -/
def tierWorkload (name : String) : Workload := Mutation.apply (.env [("MODE", "fast")]) (bareTier name)

/-- The patch that undoes the binding on a deployment. -/
def tierPatch (name : String) : WorkloadPatch where
  type := tierType
  «namespace» := "shop"
  name := name
  patch := Json.diff (tierWorkload name).toJson (bareTier name).toJson

/-- The refusal of a request. -/
def refusal (code : Nat) : ApiFailure := .refused { message := "refused", reason := "", code := code }

/-- What is said when the patches of the deployments are answered in some way. -/
def tierSaid (blog docs web : Except ApiFailure Unit) : Transcript :=
  [⟨.status tierId (undoingStatus closingTier ⟨0, 0⟩), (Except.ok () : Except ApiFailure Unit)⟩,
   ⟨.list tierType "shop" tierSelector,
     (Except.ok [tierWorkload "blog", tierWorkload "docs", tierWorkload "web"] :
       Except ApiFailure (List Workload))⟩,
   ⟨.patchAll [tierPatch "blog", tierPatch "docs", tierPatch "web"], ⟨[blog, docs, web], rfl⟩⟩]

/-- The failure of the deployment that could not be patched. -/
def docsFailure : ReconcileError := (tierPatch "docs").failure (refusal 500)

/-- The binding is kept while a deployment could not be patched, even after one that is gone, and it is
let go when nothing but what is gone was refused. -/
theorem finalizing_tier :
    (∃ said : Transcript,
      (pass true 0 ⟨0, 0⟩ closingTier).Leaves said (.done (.ok (.error docsFailure))) ∧
      said.deeds.patches.map Prod.snd = [.error (refusal 404), .error (refusal 500), .ok ()] ∧
      Finalizing closingTier tierId ⟨0, 0⟩ said.deeds (.error docsFailure)) ∧
    ∃ said : Transcript,
      (pass true 0 ⟨0, 0⟩ closingTier).Leaves said (.done (.ok (.ok .awaitChange))) ∧
      said.deeds.patches.map Prod.snd = [.error (refusal 404), .ok (), .error (refusal 404)] ∧
      said.deeds.finalizers.map Prod.fst = [⟨tierId, none, ["keep.example", "last.example"]⟩] ∧
      Finalizing closingTier tierId ⟨0, 0⟩ said.deeds (.ok .awaitChange) := by
  have hkept : (pass true 0 ⟨0, 0⟩ closingTier).Leaves
      (tierSaid (.error (refusal 404)) (.error (refusal 500)) (.ok ()) ++
        [⟨.note (.patched .env .unbind 1), ()⟩, ⟨.note (.failed tierId), ()⟩,
         ⟨.event ⟨closingTier.reference, .warning, Event.internalError, some docsFailure.message⟩, ()⟩])
      (.done (.ok (.error docsFailure))) :=
    ⟨_, rfl, _, rfl, _, rfl, _, rfl, _, rfl, _, rfl, rfl⟩
  have hreleased : (pass true 0 ⟨0, 0⟩ closingTier).Leaves
      (tierSaid (.error (refusal 404)) (.ok ()) (.error (refusal 404)) ++
        [⟨.note (.patched .env .unbind 1), ()⟩,
         ⟨.finalizers tierId none ["keep.example", "last.example"],
           (Except.ok () : Except ApiFailure Unit)⟩,
         ⟨.note (.untracked tierId), ()⟩,
         ⟨.event ⟨closingTier.reference, .normal, Event.finalizerRemoved,
           some ("Removed finalizer " ++ BindingKind.env.finalizer)⟩, ()⟩,
         ⟨.note (.succeeded tierId), ()⟩])
      (.done (.ok (.ok .awaitChange))) :=
    ⟨_, rfl, _, rfl, _, rfl, _, rfl, _, rfl, _, rfl, _, rfl, _, rfl, rfl⟩
  have hid : closingTier.id = .ok tierId := rfl
  obtain ⟨-, hends⟩ := finalizing_of_leaves 0 ⟨0, 0⟩ hid rfl (by decide)
  constructor
  · rcases hends _ _ hkept with ⟨-, hnone, -⟩ | ⟨_, heq, hfinalizing, -⟩
    · cases hnone
    · obtain rfl := Except.ok.inj heq
      exact ⟨_, hkept, rfl, hfinalizing⟩
  · rcases hends _ _ hreleased with ⟨-, hnone, -⟩ | ⟨_, heq, hfinalizing, -⟩
    · cases hnone
    · obtain rfl := Except.ok.inj heq
      exact ⟨_, hreleased, rfl, rfl, hfinalizing⟩

end Reconcile

end WorkloadBindings
