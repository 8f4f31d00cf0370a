import WorkloadBindings.Proofs.Reconcile.Transcript

/-!
# The ways a pass can go

For each part of a pass there is a type of the ways it can go, with what is said in each of them, its
result and the contents it leaves: `Arming`, `Locating`, `Patching`, `Carrying` and `Recording`, from
which `BindPass` and `FinalizePass` are made. Whatever the API answers, a pass goes in one of these ways
(`Reconcile.pass_gives`).
-/

namespace WorkloadBindings

namespace Reconcile

variable {r : BindingResource} {id : BindingId} {subject : Subject} {m : Mutation} {c : Change}
  {found : List Workload} {s t : Contents} {aborts : Prop}

/-! ## The ways a part can go -/

/-- The ways putting the finalizer on a binding can go: it is there, it is put on, or the API refuses.
-/
inductive Arming (r : BindingResource) (id : BindingId) (s : Contents) :
    Transcript → Except ReconcileError Unit → Contents → Prop where
  | present (h : id.kind.finalizer ∈ r.finalizers) : Arming r id s [] (.ok ()) s
  | put (h : id.kind.finalizer ∉ r.finalizers) (version : Option String) :
    Arming r id s
      [⟨.finalizers id r.metadata.resourceVersion (r.finalizers ++ [id.kind.finalizer]),
        (Except.ok () : Except ApiFailure Unit)⟩]
      (.ok ())
      (s.merged (Client.finalizersBody r.metadata.resourceVersion
        (r.finalizers ++ [id.kind.finalizer])) version)
  | refused (h : id.kind.finalizer ∉ r.finalizers) (cause : ApiFailure) :
    Arming r id s
      [⟨.finalizers id r.metadata.resourceVersion (r.finalizers ++ [id.kind.finalizer]),
        (Except.error cause : Except ApiFailure Unit)⟩]
      (.error (.api cause)) s

/-- The ways looking for the workloads of a subject can go. -/
inductive Locating (subject : Subject) (s : Contents) :
    Transcript → Except ReconcileError (List Workload) → Prop where
  | found {c : Call} {answer : c.Answer} (hread : c.isRead = true)
      (hanswer : c.refusal? answer = none) {found : List Workload}
      (hfinds : s.view.IsKeyed → s.view.Finds subject found)
      (hnamed : ∀ name, subject.selection = .name name →
        ∃ w, s.view.workloads.get? ⟨subject.place, name⟩ = some w) :
    Locating subject s [⟨c, answer⟩] (.ok found)
  | missing {c : Call} {answer : c.Answer} (hread : c.isRead = true)
      (hanswer : c.refusal? answer = none) {name : String} (hname : subject.selection = .name name)
      (h : s.workloads.get? ⟨subject.place, name⟩ = none) :
    Locating subject s [⟨c, answer⟩] (.error (.subjectMissing subject.render))
  | refused {c : Call} {answer : c.Answer} (hread : c.isRead = true) {cause : ApiFailure}
      (hanswer : c.refusal? answer = some cause) :
    Locating subject s [⟨c, answer⟩] (.error (.api cause))

/-- The ways changing the workloads that were found can go: none needs a patch, or some are patched. -/
inductive Patching (c : Change) (m : Mutation) (subject : Subject) (found : List Workload)
    (s : Contents) : Transcript → List ReconcileError → Contents → Prop where
  | idle (h : found.filterMap (WorkloadPatch.forChange? c m subject.resourceType) = []) :
    Patching c m subject found s [] [] s
  | patched {patches : List WorkloadPatch} {answers : PatchResults patches} {n : Note} {t : Contents}
      (hpatches : patches = found.filterMap (WorkloadPatch.forChange? c m subject.resourceType))
      (hne : patches ≠ []) (h : s.Answers (.patchAll patches) answers t) :
    Patching c m subject found s [⟨.patchAll patches, answers⟩, ⟨.note n, ()⟩]
      (patchFailures patches answers.val) t

/-- The first of some failures, or success. -/
def firstOf : List ReconcileError → Except ReconcileError Unit
  | [] => .ok ()
  | e :: _ => .error e

/-- The ways carrying a binding out on its workloads can go. -/
inductive Carrying (r : BindingResource) (id : BindingId) (s : Contents) :
    Transcript → Except ReconcileError Unit → Contents → Prop where
  | malformed {fault : SubjectFault} (h : r.subject = .error fault) :
    Carrying r id s [] (.error (.malformedSubject fault)) s
  | unlocated {subject : Subject} {said : Transcript} {e : ReconcileError}
      (hsubject : r.subject = .ok subject) (h : Locating subject s said (.error e)) :
    Carrying r id s (⟨.note (.tracked id subject), ()⟩ :: said) (.error e) s
  | located {subject : Subject} {found : List Workload} {m : Mutation} {said said' : Transcript}
      {failures : List ReconcileError} {t : Contents} (hsubject : r.subject = .ok subject)
      (hm : r.mutation = .ok m) (hfound : Locating subject s said (.ok found))
      (h : Patching .bind m subject found s said' failures t) :
    Carrying r id s (⟨.note (.tracked id subject), ()⟩ :: said ++ said') (firstOf failures) t

/-- The ways writing the status of a binding can go: it is as it was, it is written, the binding is
gone, or the API refuses. -/
inductive Recording (id : BindingId) (prior status : BindingStatus) (s : Contents) :
    Transcript → Except ReconcileError Unit → Contents → Prop where
  | same (h : prior = status) : Recording id prior status s [] (.ok ()) s
  | written (h : prior ≠ status) (version : Option String) :
    Recording id prior status s [⟨.status id status, (Except.ok () : Except ApiFailure Unit)⟩]
      (.ok ()) (s.merged (Client.statusBody status) version)
  | gone (h : prior ≠ status) (cause : ApiFailure) :
    Recording id prior status s
      [⟨.status id status, (Except.error cause : Except ApiFailure Unit)⟩] (.ok ()) s
  | refused (h : prior ≠ status) (cause : ApiFailure) (e : Event) :
    Recording id prior status s
      [⟨.status id status, (Except.error cause : Except ApiFailure Unit)⟩, ⟨.event e, ()⟩]
      (.error (.api cause)) s

/-! ## The status of a living binding -/

/-- The status with what carrying the binding out came to. -/
def recorded (status : BindingStatus) (now : Timestamp) : Except ReconcileError Unit → BindingStatus
  | .ok () => status.markTrue now
  | .error (.malformedSubject fault) =>
    status.markFalse BindingStatus.malformedSubject fault.message now
  | .error (.subjectMissing missing) =>
    status.markFalse BindingStatus.subjectMissing (ReconcileError.subjectMissing missing).message now
  | .error (.patch resource ns name cause) =>
    status.markFalse BindingStatus.bindingFailed
      (ReconcileError.patch resource ns name cause).message now
  | .error (.api _) => status

/-- The status that the pass of a living binding computes. -/
def computed (r : BindingResource) (now : Timestamp) (bound : Except ReconcileError Unit) :
    BindingStatus :=
  let status := recorded ((r.status.getD {}).prepare now) now bound
  match bound with
  | .ok () => { status with observedGeneration := r.metadata.generation }
  | .error _ => status

/-- How the pass of a living binding ends after its workloads were bound and its status was updated. -/
def ending (resync : Nat) (bound updated : Except ReconcileError Unit) :
    Except ReconcileError Action :=
  match bound, updated with
  | .error e, _ => .error e
  | .ok (), .error e => .error e
  | .ok (), .ok () => .ok (.requeue resync)

/-! ## The ways a pass can go -/

/-- The ways the pass of a living binding can go. -/
inductive BindPass (r : BindingResource) (id : BindingId) (resync : Nat) (now : Timestamp)
    (s : Contents) : Transcript → Except ReconcileError Action → Contents → Prop where
  | unarmed {said : Transcript} {e : ReconcileError} {t : Contents}
      (h : Arming r id s said (.error e) t) : BindPass r id resync now s said (.error e) t
  | armed {said₁ said₂ said₃ : Transcript} {bound updated : Except ReconcileError Unit}
      {s₁ s₂ t : Contents} (harmed : Arming r id s said₁ (.ok ()) s₁)
      (hcarried : Carrying r id s₁ said₂ bound s₂)
      (hrecorded : Recording id (r.status.getD {}) (computed r now bound) s₂ said₃ updated t) :
    BindPass r id resync now s (said₁ ++ said₂ ++ said₃) (ending resync bound updated) t

/-- The ways the pass of a binding that is being deleted can go. -/
inductive FinalizePass (r : BindingResource) (id : BindingId) (now : Timestamp) (s : Contents) :
    Transcript → Except ReconcileError Action → Contents → Prop where
  | absent : FinalizePass r id now s [⟨.note (.untracked id), ()⟩] (.ok .awaitChange) s
  | unrecorded {said : Transcript} {e : ReconcileError} {t : Contents}
      (h : Recording id (r.status.getD {})
        ((r.status.getD {}).markUnknown BindingStatus.finalizing undoing now) s said (.error e) t) :
    FinalizePass r id now s said (.error e) t
  | recorded {said said' : Transcript} {result : Except ReconcileError Action} {s₁ t : Contents}
      (h : Recording id (r.status.getD {})
        ((r.status.getD {}).markUnknown BindingStatus.finalizing undoing now) s said (.ok ()) s₁)
      (hsilent : said'.statuses = []) (hkept : ∀ e, result = .error e → t.binding = s₁.binding) :
    FinalizePass r id now s (said ++ said') result t

/-- The ways a pass can go: that of a living binding or of one that is being deleted, with remarks at
the end. -/
inductive Passing (r : BindingResource) (resync : Nat) (now : Timestamp) (s : Contents) :
    Transcript → Except ReconcileError Action → Contents → Prop where
  | living {id : BindingId} {said remarks : Transcript} {result : Except ReconcileError Action}
      {t : Contents} (hid : r.id = .ok id) (hliving : r.isDeleting = false)
      (hpass : BindPass r id resync now s said result t) (hwrites : remarks.writes = [])
      (hrefused : remarks.refused = []) : Passing r resync now s (said ++ remarks) result t
  | deleting {id : BindingId} {said remarks : Transcript} {result : Except ReconcileError Action}
      {t : Contents} (hid : r.id = .ok id) (hdeleting : r.isDeleting = true)
      (hpass : FinalizePass r id now s said result t) (hwrites : remarks.writes = [])
      (hrefused : remarks.refused = []) : Passing r resync now s (said ++ remarks) result t

/-! ## What is said and left -/

variable {said : Transcript}

/-- Putting the finalizer on a binding leaves the workloads. -/
theorem Arming.workloads {result : Except ReconcileError Unit}
    (h : Arming r id s said result t) : t.workloads = s.workloads := by
  cases h <;> rfl

/-- Putting the finalizer on a binding writes no status. -/
theorem Arming.statuses {result : Except ReconcileError Unit} (h : Arming r id s said result t) :
    said.statuses = [] := by
  cases h <;> rfl

/-- Putting the finalizer on a binding, only that is refused. -/
theorem Arming.isFinalizers_of_refused {result : Except ReconcileError Unit}
    (h : Arming r id s said result t) : ∀ c ∈ said.refused, c.isFinalizers = true := by
  cases h with
  | present => exact fun _ hc => absurd hc List.not_mem_nil
  | put => exact fun _ hc => absurd hc List.not_mem_nil
  | refused => exact List.forall_mem_singleton.2 rfl

/-- When a binding has its finalizer, nothing was refused. -/
theorem Arming.refused_eq_nil (h : Arming r id s said (.ok ()) t) : said.refused = [] := by
  cases h <;> rfl

/-- Putting the finalizer on a binding fails because that is refused. -/
theorem Arming.eq_api {e : ReconcileError} (h : Arming r id s said (.error e) t) :
    t = s ∧ ∃ cause, e = .api cause := by
  cases h
  exact ⟨rfl, _, rfl⟩

/-- Looking for workloads writes no status. -/
theorem Locating.statuses {result : Except ReconcileError (List Workload)}
    (h : Locating subject s said result) : said.statuses = [] := by
  cases h <;> simp [Transcript.statuses, Call.status?_of_isRead ‹_›]

/-- Looking for workloads writes nothing. -/
theorem Locating.writes {result : Except ReconcileError (List Workload)}
    (h : Locating subject s said result) : said.writes = [] := by
  cases h <;> simp [Transcript.writes, Call.isWrite_of_isRead ‹_›]

/-- Looking for workloads, only a request for workloads is refused. -/
theorem Locating.isRead_of_refused {result : Except ReconcileError (List Workload)}
    (h : Locating subject s said result) : ∀ c ∈ said.refused, c.isRead = true := by
  cases h <;> simp [Transcript.refused, *]

/-- When workloads are found, nothing was refused. -/
theorem Locating.refused_eq_nil (h : Locating subject s said (.ok found)) : said.refused = [] := by
  cases h
  simp [Transcript.refused, *]

/-- Changing workloads writes no status. -/
theorem Patching.statuses {failures : List ReconcileError}
    (h : Patching c m subject found s said failures t) : said.statuses = [] := by
  cases h <;> rfl

/-- Changing workloads, nothing but patches is refused. -/
theorem Patching.refused_eq_nil {failures : List ReconcileError}
    (h : Patching c m subject found s said failures t) : said.refused = [] := by
  cases h <;> rfl

/-- Changing workloads leaves the object of the binding. -/
theorem Patching.binding {failures : List ReconcileError}
    (h : Patching c m subject found s said failures t) : t.binding = s.binding := by
  cases h with
  | idle => rfl
  | patched _ _ h =>
    obtain ⟨order, -, heach⟩ := h
    exact heach.binding

/-- Carrying a binding out writes no status. -/
theorem Carrying.statuses {bound : Except ReconcileError Unit} (h : Carrying r id s said bound t) :
    said.statuses = [] := by
  cases h with
  | malformed => rfl
  | unlocated _ h => exact h.statuses
  | located _ _ hfound h =>
    rw [Transcript.statuses_append, h.statuses, List.append_nil]
    exact hfound.statuses

/-- Carrying a binding out, only a request for workloads is refused, patches apart. -/
theorem Carrying.isRead_of_refused {bound : Except ReconcileError Unit}
    (h : Carrying r id s said bound t) : ∀ c ∈ said.refused, c.isRead = true := by
  cases h with
  | malformed => exact fun _ hc => absurd hc List.not_mem_nil
  | unlocated _ h => exact h.isRead_of_refused
  | located _ _ hfound h =>
    rw [Transcript.refused_append, h.refused_eq_nil, List.append_nil]
    exact hfound.isRead_of_refused

/-- Carrying a binding out leaves its object. -/
theorem Carrying.binding {bound : Except ReconcileError Unit} (h : Carrying r id s said bound t) :
    t.binding = s.binding := by
  cases h with
  | malformed => rfl
  | unlocated => rfl
  | located _ _ _ h => exact h.binding

/-- What was said when a binding was carried out with success: the workloads of its subject were found,
and no patch failed. -/
theorem Carrying.exists_patching (h : Carrying r id s said (.ok ()) t) :
    ∃ subject m found said₁ said₂, r.subject = .ok subject ∧ r.mutation = .ok m ∧
      Locating subject s said₁ (.ok found) ∧ Patching .bind m subject found s said₂ [] t ∧
      said.refused = [] := by
  generalize hbound : Except.ok () = bound at h
  cases h with
  | malformed => cases hbound
  | unlocated => cases hbound
  | @located subject found m said₁ said₂ failures t hsubject hm hfound h =>
    match failures, hbound, h with
    | [], _, h =>
      refine ⟨subject, m, found, said₁, said₂, hsubject, hm, hfound, h, ?_⟩
      rw [Transcript.refused_append, h.refused_eq_nil, List.append_nil]
      exact hfound.refused_eq_nil

/-- A status that is as it was is not written. -/
theorem Recording.of_eq {prior status : BindingStatus} {result : Except ReconcileError Unit}
    (h : Recording id prior status s said result t) (heq : prior = status) :
    said = [] ∧ result = .ok () ∧ t = s := by
  cases h with
  | same => exact ⟨rfl, rfl, rfl⟩
  | written hne => exact absurd heq hne
  | gone hne => exact absurd heq hne
  | refused hne => exact absurd heq hne

/-- Writing a status, only that is refused. -/
theorem Recording.isSome_status?_of_refused {prior status : BindingStatus}
    {result : Except ReconcileError Unit} (h : Recording id prior status s said result t) :
    ∀ c ∈ said.refused, c.status?.isSome = true := by
  cases h with
  | same => exact fun _ hc => absurd hc List.not_mem_nil
  | written => exact fun _ hc => absurd hc List.not_mem_nil
  | gone => exact List.forall_mem_singleton.2 rfl
  | refused => exact List.forall_mem_singleton.2 rfl

/-- Writing a status fails because that is refused. -/
theorem Recording.eq_api {prior status : BindingStatus} {e : ReconcileError}
    (h : Recording id prior status s said (.error e) t) :
    (∃ cause, e = .api cause) ∧ ∃ c ∈ said.refused, c.status? ≠ none := by
  cases h
  exact ⟨⟨_, rfl⟩, _, List.mem_cons_self, nofun⟩

/-- Writing the status of a binding leaves the workloads. -/
theorem Recording.workloads {prior status : BindingStatus} {result : Except ReconcileError Unit}
    (h : Recording id prior status s said result t) : t.workloads = s.workloads := by
  cases h <;> rfl

/-- Only patches are among the failures of patches. -/
theorem eq_patch_of_mem_patchFailures {e : ReconcileError} {patches : List WorkloadPatch}
    {results : List (Except ApiFailure Unit)} (h : e ∈ patchFailures patches results) :
    ∃ resource ns name cause, e = .patch resource ns name cause := by
  fun_induction patchFailures patches results with
  | case1 p patches cause results ih =>
    rcases List.mem_cons.1 h with rfl | htail
    · exact ⟨_, _, _, _, rfl⟩
    · exact ih htail
  | case2 p patches results ih => exact ih h
  | case3 => cases h

/-- Changing workloads fails for patches only. -/
theorem Patching.failures_arePatches {failures : List ReconcileError}
    (h : Patching c m subject found s said failures t) :
    ∀ e ∈ failures, ∃ resource ns name cause, e = .patch resource ns name cause := by
  cases h with
  | idle => exact fun _ he => absurd he List.not_mem_nil
  | patched => exact fun e he => eq_patch_of_mem_patchFailures he

/-! ## Parts of the pass of a living binding -/

/-- Putting the finalizer on a binding goes in one of its ways. -/
theorem ensureFinalizer_gives (r : BindingResource) (id : BindingId) (s : Contents) :
    Step.Gives aborts (Arming r id s) (ensureFinalizer r id) s := by
  unfold ensureFinalizer
  split
  · rename_i h
    exact .pure (.present (List.contains_iff_mem.1 h))
  · rename_i h
    have hnot : id.kind.finalizer ∉ r.finalizers := fun hmem => h (List.contains_iff_mem.2 hmem)
    refine .ask fun answer t ht => ?_
    match answer, ht with
    | .ok (), ⟨version, ht⟩ =>
      obtain rfl := ht
      exact .pure (.put hnot version)
    | .error cause, ht =>
      obtain rfl : t = s := ht
      exact .throw (.refused hnot cause)

/-- Looking for the workloads of a subject goes in one of its ways, and leaves the contents. -/
theorem locate_gives (subject : Subject) (s : Contents) :
    Step.Gives aborts (fun said found t => Locating subject s said found ∧ t = s) (locate subject)
      s := by
  unfold locate
  split
  · rename_i name hname
    refine .ask fun answer t ht => ?_
    obtain ⟨hanswer, rfl⟩ := ht
    -- The call is for the claim that the subject names.
    have hgets : t.Gets ⟨subject.place, name⟩ answer := hanswer
    match answer, hgets with
    | .ok (some w), hstored =>
      have hview := Contents.get?_view_iff.2 hstored
      refine .pure ⟨.found rfl rfl (fun hkeyed => ?_) fun name' hname' => ?_, rfl⟩
      · exact hkeyed.finds_of_name hname hview
      · obtain rfl := Selection.name.inj (hname.symm.trans hname')
        exact ⟨w, hview⟩
    | .ok none, hnone => exact .throw ⟨.missing rfl rfl hname hnone, rfl⟩
    | .error _, _ => exact .throw ⟨.refused rfl rfl, rfl⟩
  · rename_i selector hselector
    refine .ask fun answer t ht => ?_
    obtain ⟨hanswer, rfl⟩ := ht
    have hlists : t.Lists subject.place selector answer := hanswer
    match answer, hlists with
    | .ok found, hperm =>
      refine .pure ⟨.found rfl rfl (fun hkeyed => ?_) fun name hname => ?_, rfl⟩
      · exact hkeyed.finds_of_selector hselector hperm
      · cases hselector.symm.trans hname
    | .error _, _ => exact .throw ⟨.refused rfl rfl, rfl⟩

/-- Changing the workloads that were found goes in one of its ways. -/
theorem change_gives (c : Change) (k : BindingKind) (m : Mutation) (subject : Subject)
    (found : List Workload) (s : Contents) :
    Step.Gives aborts
      (fun said x t => ∃ failures, x = .ok failures ∧ Patching c m subject found s said failures t)
      (change c k m subject.resourceType found) s := by
  unfold change
  simp only
  split
  · rename_i hempty
    exact .pure ⟨[], rfl, .idle (List.isEmpty_iff.1 hempty)⟩
  · rename_i hempty
    refine .ask fun answers t ht => .note (.pure ⟨_, rfl, .patched rfl ?_ ht⟩)
    exact fun hnil => hempty (List.isEmpty_iff.2 hnil)

/-- Binding the workloads of a living binding goes in one of its ways. -/
theorem bindSubjects_gives (r : BindingResource) (id : BindingId)
    (status : BindingStatus) (now : Timestamp) (s : Contents) :
    Step.Gives (¬ r.IsResolvable)
      (fun said x t => ∃ bound, x = .ok (recorded status now bound, bound) ∧
        Carrying r id s said bound t)
      (bindSubjects r id status now) s := by
  unfold bindSubjects
  split
  · rename_i fault hfault
    exact .pure ⟨_, rfl, .malformed hfault⟩
  · rename_i subject hsubject
    refine .note (.bind (.outcome ((locate_gives subject _).mono ?_)))
    rintro said found t ⟨hlocating, rfl⟩
    match found, hlocating with
    | .error (.subjectMissing missing), hmissing =>
      refine .pure ⟨.error (.subjectMissing missing), rfl, ?_⟩
      rw [List.append_nil]
      exact .unlocated hsubject hmissing
    | .error (.api cause), hrefused =>
      refine .pure ⟨.error (.api cause), rfl, ?_⟩
      rw [List.append_nil]
      exact .unlocated hsubject hrefused
    | .ok found, hfound =>
      refine .orAbort (fun m hm => ?_) fun e he => ?_
      · refine .bind ((change_gives .bind r.kind m subject found t).mono ?_)
        rintro said' x u ⟨failures, rfl, hpatching⟩
        have hcarrying : Carrying r id t (⟨.note (.tracked id subject), ()⟩ :: said ++ said')
            (firstOf failures) u := .located hsubject hm hfound hpatching
        match failures, hcarrying, hpatching.failures_arePatches with
        | [], hcarrying, _ =>
          exact .pure ⟨.ok (), rfl, by simpa [firstOf] using hcarrying⟩
        | e :: rest, hcarrying, hpatches =>
          obtain ⟨resource, ns, name, cause, rfl⟩ := hpatches e List.mem_cons_self
          exact .pure
            ⟨.error (.patch resource ns name cause), rfl, by simpa [firstOf] using hcarrying⟩
      · rintro ⟨-, m, hm⟩
        cases he.symm.trans hm

/-- Writing the status of a binding goes in one of its ways. -/
theorem updateStatus_gives (r : BindingResource) (id : BindingId) (prior status : BindingStatus)
    (s : Contents) :
    Step.Gives aborts (Recording id prior status s) (updateStatus r id prior status) s := by
  unfold updateStatus
  split
  · rename_i hsame
    exact .pure (.same hsame)
  · rename_i hne
    refine .ask fun answer t ht => ?_
    match answer, ht with
    | .ok (), ⟨version, ht⟩ =>
      obtain rfl := ht
      exact .pure (.written hne version)
    | .error cause, ht =>
      obtain rfl : t = s := ht
      simp only
      split
      · exact .pure (.gone hne cause)
      · exact .publish (.throw (.refused hne cause _))

/-- The pass of a living binding goes in one of its ways. -/
theorem bind_gives (r : BindingResource) (id : BindingId) (resync : Nat)
    (now : Timestamp) (s : Contents) :
    Step.Gives (¬ r.IsResolvable) (BindPass r id resync now s) (bind resync now r id) s := by
  unfold bind
  refine .bind ((ensureFinalizer_gives r id s).mono fun said₁ x s₁ harmed => ?_)
  match x, harmed with
  | .error e, hrefused => exact .unarmed hrefused
  | .ok (), harmed =>
    refine .bind ((bindSubjects_gives r id _ now s₁).mono ?_)
    rintro said₂ x s₂ ⟨bound, rfl, hcarried⟩
    simp only
    refine .bind (.outcome ((updateStatus_gives r id _ _ s₂).mono fun said₃ updated t hrecorded => ?_))
    have hpass : BindPass r id resync now s (said₁ ++ said₂ ++ said₃) (ending resync bound updated) t :=
      .armed harmed hcarried hrecorded
    match bound, updated with
    | .ok (), .ok () => exact .pure (by simpa [ending] using hpass)
    | .ok (), .error e => exact .throw (by simpa [ending] using hpass)
    | .error e, updated => exact .throw (by simpa [ending] using hpass)

/-! ## Parts of the pass of a binding that is being deleted -/

/-- Undoing a binding writes no status and leaves the object of the binding. -/
theorem unbindSubjects_gives (r : BindingResource) (subject : Subject) (s : Contents) :
    Step.Gives (¬ r.IsResolvable) (fun said _ t => said.statuses = [] ∧ t.binding = s.binding)
      (unbindSubjects r subject) s := by
  unfold unbindSubjects
  refine .bind (.outcome ((locate_gives subject _).mono ?_))
  rintro said found t ⟨hlocating, rfl⟩
  match found, hlocating.statuses with
  | .error e, hsilent =>
    simp only
    split
    · exact .pure ⟨by simpa using hsilent, rfl⟩
    · exact .throw ⟨by simpa using hsilent, rfl⟩
  | .ok found, hsilent =>
    refine .orAbort (fun m hm => ?_) fun e he => ?_
    · refine .bind ((change_gives .unbind r.kind m subject found t).mono ?_)
      rintro said' x u ⟨failures, rfl, hpatching⟩
      have hsilent' := hpatching.statuses
      have hkept := hpatching.binding
      simp only
      split
      · exact .throw ⟨by simp [hsilent, hsilent'], hkept⟩
      · exact .pure ⟨by simp [hsilent, hsilent'], hkept⟩
    · rintro ⟨-, m, hm⟩
      cases he.symm.trans hm

/-- The pass of a binding that is being deleted goes in one of its ways. -/
theorem finalize_gives (r : BindingResource) (id : BindingId) (now : Timestamp) (s : Contents) :
    Step.Gives (¬ r.IsResolvable) (FinalizePass r id now s) (finalize now r id) s := by
  unfold finalize
  split
  · exact .note (.pure .absent)
  · refine .bind ((updateStatus_gives r id _ _ s).mono fun said₁ x s₁ hrecorded => ?_)
    match x, hrecorded with
    | .error e, hrefused => exact .unrecorded hrefused
    | .ok (), hrecorded =>
      -- Whatever was said without writing a status, the finalizer may go then.
      have hrelease : ∀ said₂ u, Transcript.statuses said₂ = [] → u.binding = s₁.binding →
          Step.Gives (¬ r.IsResolvable)
            (fun said' => FinalizePass r id now s (said₁ ++ (said₂ ++ said')))
            (do
              let answer : Except ApiFailure Unit ←
                ask (.finalizers id none (r.finalizers.filter (· != id.kind.finalizer)))
              orFail answer
              note (.untracked id)
              publish r .normal Event.finalizerRemoved ("Removed finalizer " ++ id.kind.finalizer)
              pure Action.awaitChange) u := by
        intro said₂ u hsilent hkept
        refine .ask fun answer v hv => ?_
        match answer, hv with
        | .ok (), _ =>
          refine .note (.publish (.pure (.recorded hrecorded ?_ nofun)))
          rw [Transcript.statuses_append, hsilent]
          rfl
        | .error cause, hv =>
          obtain rfl : v = u := hv
          refine .throw (.recorded hrecorded ?_ fun _ _ => hkept)
          rw [Transcript.statuses_append, hsilent]
          rfl
      cases hsubject : r.subject with
      | ok subject =>
        refine .bind ((unbindSubjects_gives r subject s₁).mono ?_)
        rintro said₂ x u ⟨hsilent, hkept⟩
        match x with
        | .error e => exact .recorded hrecorded hsilent fun _ _ => hkept
        | .ok () => exact hrelease said₂ u hsilent hkept
      | error fault => exact hrelease [] s₁ rfl rfl

/-! ## The pass -/

/-- The pass of a binding by the replica that holds the lease goes in one of its ways, unless the
controller cannot go on. -/
theorem pass_gives (r : BindingResource) (resync : Nat) (now : Timestamp) (s : Contents) :
    Gives (fun said result t =>
      match result with
      | .error _ => ¬ r.IsResolvable
      | .ok result => Passing r resync now s said result t)
      (pass true resync now r) s := by
  have hlead : Step.Gives (¬ r.IsResolvable) (Passing r resync now s) (lead resync now r) s := by
    unfold lead
    refine .orAbort (fun id hid => ?_) fun e he => ?_
    · refine .bind (.outcome ?_)
      split
      · rename_i hdeleting
        refine (finalize_gives r id now s).mono fun said result t hpass => ?_
        match result with
        | .ok action => exact .note (.pure (.deleting hid hdeleting hpass rfl rfl))
        | .error e => exact .note (.publish (.throw (.deleting hid hdeleting hpass rfl rfl)))
      · rename_i hliving
        have hliving := Bool.eq_false_iff.2 hliving
        refine (bind_gives r id resync now s).mono fun said result t hpass => ?_
        match result with
        | .ok action => exact .note (.pure (.living hid hliving hpass rfl rfl))
        | .error e => exact .note (.publish (.throw (.living hid hliving hpass rfl rfl)))
    · rintro ⟨⟨id, hid⟩, -⟩
      cases he.symm.trans hid
  unfold pass
  rw [if_pos rfl]
  refine Gives.mono (fun said result t ht => ?_) hlead
  cases result <;> exact ht

end Reconcile

end WorkloadBindings
