import WorkloadBindings.Proofs.Reconcile.Ways
import WorkloadBindings.Reconcile.Memory

/-!
# What a pass does

`Transcript.deeds` sorts what is said in a pass: the statuses that were sent, what was read of the
subject, the patches, the finalizers that were sent, each with the answer, and what is to be remembered of
the binding. What each part of a pass does is told by one equation on its deeds, with the result that
follows from the answers, whatever they are (`updateStatus_deeds`, `locate_deeds`, `change_deeds`); the
rules for `Step.Says` take a pass apart into such parts.
-/

namespace WorkloadBindings

/-! ## Answers -/

/-- The failure that an answer is, when it does not say that there is no such thing. -/
def ApiFailure.unforgiven? {α : Type} : Except ApiFailure α → Option ApiFailure
  | .ok _ => none
  | .error cause => if cause.isNotFound then none else some cause

/-- A failure that says that there is no such thing is forgiven. -/
theorem ApiFailure.unforgiven?_of_isNotFound {α : Type} {cause : ApiFailure}
    (h : cause.isNotFound = true) : unforgiven? (.error cause : Except ApiFailure α) = none := if_pos h

/-- Every other failure is not forgiven. -/
theorem ApiFailure.unforgiven?_of_not {α : Type} {cause : ApiFailure} (h : ¬ cause.isNotFound = true) :
    unforgiven? (.error cause : Except ApiFailure α) = some cause := if_neg h

/-- The failure of a patch that was answered. -/
def WorkloadPatch.failure (p : WorkloadPatch) (cause : ApiFailure) : ReconcileError :=
  .patch p.type.plural p.namespace p.name cause

/-- The failure of a patch, if that was the answer. -/
def WorkloadPatch.failure? (x : WorkloadPatch × Except ApiFailure Unit) : Option ReconcileError :=
  (ApiFailure.of? x.2).map x.1.failure

/-- A failure of a patch names the workload and the cause. -/
theorem WorkloadPatch.eq_failure_of_mem {answered : List (WorkloadPatch × Except ApiFailure Unit)}
    {e : ReconcileError} (h : e ∈ answered.filterMap failure?) : ∃ p cause, e = failure p cause := by
  obtain ⟨⟨p, answer⟩, -, hfailure⟩ := List.mem_filterMap.1 h
  obtain ⟨cause, -, rfl⟩ := Option.map_eq_some_iff.1 hfailure
  exact ⟨p, cause, rfl⟩

/-- A success, unless there is a failure. -/
def succeedUnless : Option ReconcileError → Except ReconcileError Unit
  | none => .ok ()
  | some e => .error e

/-- There is a success when there is no failure. -/
theorem succeedUnless_eq_ok_iff {o : Option ReconcileError} : succeedUnless o = .ok () ↔ o = none := by
  cases o <;> simp [succeedUnless]

/-- The failure is the one that there is. -/
theorem succeedUnless_eq_error_iff {o : Option ReconcileError} {e : ReconcileError} :
    succeedUnless o = .error e ↔ o = some e := by
  cases o <;> simp [succeedUnless]

/-- What was read of a subject: its workloads, unless it names one that is not there. -/
abbrev Reading : Type := Except ApiFailure (Option (List Workload))

/-- The workloads of a subject, or why they cannot be told. -/
def Reading.located (subject : Subject) : Reading → Except ReconcileError (List Workload)
  | .ok (some found) => .ok found
  | .ok none => .error (.subjectMissing subject.render)
  | .error cause => .error (.api cause)

/-! ## Deeds -/

/-- Finalizers that are sent for a binding, if it still has a version. -/
structure FinalizersPatch where
  id : BindingId
  resourceVersion : Option String
  finalizers : List String
  deriving DecidableEq

/-- What is done in a pass, each kind of thing in its order. -/
structure Deeds where
  statuses : List (BindingStatus × Except ApiFailure Unit) := []
  readings : List Reading := []
  patches : List (WorkloadPatch × Except ApiFailure Unit) := []
  finalizers : List (FinalizersPatch × Except ApiFailure Unit) := []
  /-- What is to be remembered of the subjects of bindings. -/
  tracking : List Note := []

namespace Deeds

/-- What is done before and after. -/
def append (d e : Deeds) : Deeds where
  statuses := d.statuses ++ e.statuses
  readings := d.readings ++ e.readings
  patches := d.patches ++ e.patches
  finalizers := d.finalizers ++ e.finalizers
  tracking := d.tracking ++ e.tracking

instance : Append Deeds := ⟨append⟩

theorem append_def (d e : Deeds) : d ++ e =
    ⟨d.statuses ++ e.statuses, d.readings ++ e.readings, d.patches ++ e.patches,
      d.finalizers ++ e.finalizers, d.tracking ++ e.tracking⟩ := rfl

@[simp] theorem append_nil (d : Deeds) : d ++ ({} : Deeds) = d := by simp [append_def]

@[simp] theorem nil_append (d : Deeds) : ({} : Deeds) ++ d = d := by simp [append_def]

theorem append_assoc (d e f : Deeds) : d ++ e ++ f = d ++ (e ++ f) := by simp [append_def]

@[simp] theorem statuses_append (d e : Deeds) : (d ++ e).statuses = d.statuses ++ e.statuses := rfl

@[simp] theorem readings_append (d e : Deeds) : (d ++ e).readings = d.readings ++ e.readings := rfl

@[simp] theorem patches_append (d e : Deeds) : (d ++ e).patches = d.patches ++ e.patches := rfl

@[simp] theorem finalizers_append (d e : Deeds) :
    (d ++ e).finalizers = d.finalizers ++ e.finalizers := rfl

@[simp] theorem tracking_append (d e : Deeds) : (d ++ e).tracking = d.tracking ++ e.tracking := rfl

end Deeds

/-- What is done with a call that gets an answer. -/
def Call.deeds : (c : Call) → c.Answer → Deeds
  | .get _ _ _, answer => { readings := [Except.map (Option.map ([·])) answer] }
  | .list _ _ _, answer => { readings := [Except.map some answer] }
  | .patchAll patches, answers => { patches := patches.zip answers.val }
  | .finalizers id version names, answer => { finalizers := [(⟨id, version, names⟩, answer)] }
  | .status _ sent, answer => { statuses := [(sent, answer)] }
  | .note (.tracked id subject), _ => { tracking := [.tracked id subject] }
  | .note (.untracked id), _ => { tracking := [.untracked id] }
  | .note _, _ | .event _, _ => {}

/-- The memory after a call. -/
def Memory.afterCall (memory : Memory) : Call → Memory
  | .note n => memory.record n
  | _ => memory

/-- The subjects that are remembered after a note. -/
def Tracker.heed (t : Tracker) : Note → Tracker
  | .tracked id subject => t.track id subject
  | .untracked id => t.untrack id
  | _ => t

/-- A call changes which subjects are remembered only by what is to be remembered of them. -/
theorem Memory.tracker_afterCall (memory : Memory) (c : Call) (answer : c.Answer) :
    (memory.afterCall c).tracker = (c.deeds answer).tracking.foldl Tracker.heed memory.tracker := by
  cases c with
  | note n =>
    cases n with
    | patched k c count => cases c <;> rfl
    | _ => rfl
  | _ => rfl

namespace Transcript

/-- What is done, of all that is said. -/
def deeds : Transcript → Deeds
  | [] => {}
  | x :: said => x.1.deeds x.2 ++ deeds said

/-- The memory after all that is said. -/
def remember (said : Transcript) (memory : Memory) : Memory :=
  said.foldl (fun memory x => memory.afterCall x.1) memory

@[simp] theorem deeds_nil : deeds [] = {} := rfl

@[simp] theorem deeds_cons (x : (c : Call) × c.Answer) (said : Transcript) :
    deeds (x :: said) = x.1.deeds x.2 ++ said.deeds := rfl

@[simp] theorem deeds_append (said said₁ : Transcript) :
    deeds (said ++ said₁) = said.deeds ++ said₁.deeds := by
  induction said with
  | nil => simp
  | cons x said ih => rw [List.cons_append, deeds_cons, deeds_cons, ih, Deeds.append_assoc]

/-- The memory after something more was said. -/
theorem remember_cons (x : (c : Call) × c.Answer) (said : Transcript) (memory : Memory) :
    remember (x :: said) memory = said.remember (memory.afterCall x.1) := rfl

/-- The subjects that are remembered are those that are to be. -/
theorem tracker_remember (said : Transcript) (memory : Memory) :
    (said.remember memory).tracker = said.deeds.tracking.foldl Tracker.heed memory.tracker := by
  induction said generalizing memory with
  | nil => rfl
  | cons x said ih =>
    rw [remember_cons, ih, Memory.tracker_afterCall, deeds_cons, Deeds.tracking_append,
      List.foldl_append]

end Transcript

namespace Reconcile

variable {α β : Type} {said : Transcript} {ended : Except Abort (Except ReconcileError α)}

/-! ## Parts of a pass -/

/-- A part of a pass in which this is said comes to this. -/
def Step.Says (x : Step α) (said : Transcript) (ended : Except Abort (Except ReconcileError α)) : Prop :=
  x.run.run.Leaves said (.done ended)

namespace Step

/-- What only gives a result says nothing. -/
theorem says_pure_iff {a : α} :
    Step.Says (pure a : Step α) said ended ↔ said = [] ∧ ended = .ok (.ok a) := by
  refine Dialogue.leaves_done_iff.trans (and_congr_right' ?_)
  exact ⟨fun h => Dialogue.done.inj h, fun h => congrArg _ h⟩

/-- What fails says nothing. -/
theorem says_throw_iff {e : ReconcileError} :
    Step.Says (throw e : Step α) said ended ↔ said = [] ∧ ended = .ok (.error e) := by
  refine Dialogue.leaves_done_iff.trans (and_congr_right' ?_)
  exact ⟨fun h => Dialogue.done.inj h, fun h => congrArg _ h⟩

/-- After a call is said what follows upon its answer. -/
theorem says_ask_iff {c : Call} {f : c.Answer → Step α} :
    Step.Says (ask c >>= f) said ended ↔
      ∃ answer said₁, said = ⟨c, answer⟩ :: said₁ ∧ Step.Says (f answer) said₁ ended := by
  constructor
  · intro h
    match said, h with
    | ⟨c', answer⟩ :: said, ⟨next, heq, hnext⟩ =>
      obtain ⟨rfl, hcont⟩ := Dialogue.ask.inj heq
      obtain rfl := eq_of_heq hcont
      exact ⟨answer, said, rfl, hnext⟩
  · rintro ⟨answer, said₁, rfl, h⟩
    exact ⟨_, rfl, h⟩

/-- What is said in two parts that follow each other, unless the first one is the end. -/
theorem Says.of_bind {x : Step β} {f : β → Step α} (h : Step.Says (x >>= f) said ended) :
    (∃ abort, Step.Says x said (.error abort) ∧ ended = .error abort) ∨
    (∃ e, Step.Says x said (.ok (.error e)) ∧ ended = .ok (.error e)) ∨
    ∃ b said₁ said₂, Step.Says x said₁ (.ok (.ok b)) ∧ Step.Says (f b) said₂ ended ∧
      said = said₁ ++ said₂ := by
  obtain ⟨result, said₁, said₂, hx, hf, rfl⟩ := Dialogue.leaves_bind_done_iff.1 h
  match result, hx, hf with
  | .error abort, hx, hf =>
    obtain ⟨rfl, heq⟩ := Dialogue.leaves_done_iff.1 hf
    rw [List.append_nil]
    exact Or.inl ⟨abort, hx, Dialogue.done.inj heq⟩
  | .ok (.error e), hx, hf =>
    obtain ⟨rfl, heq⟩ := Dialogue.leaves_done_iff.1 hf
    rw [List.append_nil]
    exact Or.inr (Or.inl ⟨e, hx, Dialogue.done.inj heq⟩)
  | .ok (.ok b), hx, hf => exact Or.inr (Or.inr ⟨b, said₁, said₂, hx, hf, rfl⟩)

/-- What is said in a part whose failure is no end, and in what follows. -/
theorem Says.of_outcome {x : Step β} {f : Except ReconcileError β → Step α}
    (h : Step.Says (outcome x >>= f) said ended) :
    (∃ abort, Step.Says x said (.error abort) ∧ ended = .error abort) ∨
    ∃ result said₁ said₂, Step.Says x said₁ (.ok result) ∧ Step.Says (f result) said₂ ended ∧
      said = said₁ ++ said₂ := by
  -- The outcome of a part says what the part says, and is no failure.
  have hinner : ∀ said ended, Step.Says (outcome x) said ended →
      (∃ abort, Step.Says x said (.error abort) ∧ ended = .error abort) ∨
      ∃ result, Step.Says x said (.ok result) ∧ ended = .ok (.ok result) := by
    intro said ended h
    obtain ⟨result, said₁, said₂, hx, hend, rfl⟩ := Dialogue.leaves_bind_done_iff.1 h
    match result, hx, hend with
    | .error abort, hx, hend =>
      obtain ⟨rfl, heq⟩ := Dialogue.leaves_done_iff.1 hend
      rw [List.append_nil]
      exact Or.inl ⟨abort, hx, Dialogue.done.inj heq⟩
    | .ok result, hx, hend =>
      obtain ⟨rfl, heq⟩ := Dialogue.leaves_done_iff.1 hend
      rw [List.append_nil]
      exact Or.inr ⟨result, hx, Dialogue.done.inj heq⟩
  rcases h.of_bind with ⟨abort, hx, rfl⟩ | ⟨e, hx, -⟩ | ⟨b, said₁, said₂, hx, hf, rfl⟩
  · rcases hinner _ _ hx with ⟨abort', hx', heq⟩ | ⟨result, -, heq⟩
    · obtain rfl := Except.error.inj heq
      exact Or.inl ⟨abort, hx', rfl⟩
    · cases heq
  · rcases hinner _ _ hx with ⟨abort, -, heq⟩ | ⟨result, -, heq⟩ <;> cases heq
  · rcases hinner _ _ hx with ⟨abort, -, heq⟩ | ⟨result, hx', heq⟩
    · cases heq
    · obtain rfl := Except.ok.inj (Except.ok.inj heq)
      exact Or.inr ⟨b, said₁, said₂, hx', hf, rfl⟩

/-- What is said when the controller goes on with what was found, or cannot. -/
theorem Says.of_orAbort {found : Except Abort β} {f : β → Step α}
    (h : Step.Says (orAbort found >>= f) said ended) :
    (∃ abort, found = .error abort ∧ said = [] ∧ ended = .error abort) ∨
    ∃ b, found = .ok b ∧ Step.Says (f b) said ended := by
  cases found with
  | error abort =>
    obtain ⟨rfl, heq⟩ := Dialogue.leaves_done_iff.1 h
    exact Or.inl ⟨abort, rfl, rfl, Dialogue.done.inj heq⟩
  | ok b => exact Or.inr ⟨b, rfl, h⟩

end Step

/-! ## What the parts do -/

variable {r : BindingResource} {id : BindingId}

/-- The finalizer is sent with the others unless it is there, and every failure is one of this part. -/
theorem ensureFinalizer_deeds {ended : Except Abort (Except ReconcileError Unit)}
    (h : Step.Says (ensureFinalizer r id) said ended) :
    ∃ finalizers, said.deeds = { finalizers } ∧
      finalizers.map Prod.fst =
        (if r.finalizers.contains id.kind.finalizer then []
        else [⟨id, r.metadata.resourceVersion, r.finalizers ++ [id.kind.finalizer]⟩]) ∧
      ended = .ok (succeedUnless ((finalizers.findSome? fun x => ApiFailure.of? x.2).map .api)) := by
  unfold ensureFinalizer at h
  split at h
  · rename_i hpresent
    obtain ⟨rfl, rfl⟩ := Step.says_pure_iff.1 h
    exact ⟨[], rfl, (if_pos hpresent).symm, rfl⟩
  · rename_i habsent
    obtain ⟨answer, said₁, rfl, hanswered⟩ := Step.says_ask_iff.1 h
    refine ⟨[(⟨id, r.metadata.resourceVersion, r.finalizers ++ [id.kind.finalizer]⟩, answer)], ?_⟩
    rw [if_neg habsent]
    match answer, hanswered with
    | .ok (), hend =>
      obtain ⟨rfl, rfl⟩ := Step.says_pure_iff.1 hend
      exact ⟨rfl, rfl, rfl⟩
    | .error cause, hend =>
      obtain ⟨rfl, rfl⟩ := Step.says_throw_iff.1 hend
      exact ⟨rfl, rfl, rfl⟩

/-- A status is sent when it differs from the one before, and only a failure that does not say that the
binding is gone is one of this part. -/
theorem updateStatus_deeds {prior status : BindingStatus}
    {ended : Except Abort (Except ReconcileError Unit)}
    (h : Step.Says (updateStatus r id prior status) said ended) :
    ∃ statuses, said.deeds = { statuses } ∧
      statuses.map Prod.fst = (if prior = status then [] else [status]) ∧
      ended = .ok (succeedUnless
        ((statuses.findSome? fun x => ApiFailure.unforgiven? x.2).map .api)) := by
  unfold updateStatus at h
  split at h
  · rename_i hsame
    obtain ⟨rfl, rfl⟩ := Step.says_pure_iff.1 h
    exact ⟨[], rfl, (if_pos hsame).symm, rfl⟩
  · rename_i hne
    obtain ⟨answer, said₁, rfl, hanswered⟩ := Step.says_ask_iff.1 h
    refine ⟨[(status, answer)], ?_⟩
    rw [if_neg hne, List.findSome?_singleton]
    match answer, hanswered with
    | .ok (), hend =>
      obtain ⟨rfl, rfl⟩ := Step.says_pure_iff.1 hend
      exact ⟨rfl, rfl, rfl⟩
    | .error cause, hfailed =>
      simp only at hfailed
      split at hfailed
      · rename_i hgone
        obtain ⟨rfl, rfl⟩ := Step.says_pure_iff.1 hfailed
        exact ⟨rfl, rfl, by rw [ApiFailure.unforgiven?_of_isNotFound hgone]; rfl⟩
      · rename_i hrefused
        obtain ⟨_, said₂, rfl, hend⟩ := Step.says_ask_iff.1 hfailed
        obtain ⟨rfl, rfl⟩ := Step.says_throw_iff.1 hend
        exact ⟨rfl, rfl, by rw [ApiFailure.unforgiven?_of_not hrefused]; rfl⟩

/-- The subject is read once. -/
theorem locate_deeds {subject : Subject} {ended : Except Abort (Except ReconcileError (List Workload))}
    (h : Step.Says (locate subject) said ended) :
    ∃ reading : Reading, said.deeds = { readings := [reading] } ∧
      ended = .ok (reading.located subject) := by
  unfold locate at h
  split at h
  · obtain ⟨answer, said₁, rfl, hanswered⟩ := Step.says_ask_iff.1 h
    refine ⟨Except.map (Option.map ([·])) answer, ?_⟩
    match answer, hanswered with
    | .ok (some w), hend =>
      obtain ⟨rfl, rfl⟩ := Step.says_pure_iff.1 hend
      exact ⟨rfl, rfl⟩
    | .ok none, hend =>
      obtain ⟨rfl, rfl⟩ := Step.says_throw_iff.1 hend
      exact ⟨rfl, rfl⟩
    | .error cause, hend =>
      obtain ⟨rfl, rfl⟩ := Step.says_throw_iff.1 hend
      exact ⟨rfl, rfl⟩
  · obtain ⟨answer, said₁, rfl, hanswered⟩ := Step.says_ask_iff.1 h
    refine ⟨Except.map some answer, ?_⟩
    match answer, hanswered with
    | .ok found, hend =>
      obtain ⟨rfl, rfl⟩ := Step.says_pure_iff.1 hend
      exact ⟨rfl, rfl⟩
    | .error cause, hend =>
      obtain ⟨rfl, rfl⟩ := Step.says_throw_iff.1 hend
      exact ⟨rfl, rfl⟩

/-- What is said in a part that begins with looking for the workloads of a subject. -/
theorem Step.Says.of_locate {subject : Subject} {f : Except ReconcileError (List Workload) → Step α}
    (h : Step.Says (outcome (locate subject) >>= f) said ended) :
    ∃ (reading : Reading) (said₁ said₂ : Transcript),
      Step.Says (locate subject) said₁ (.ok (reading.located subject)) ∧
      said₁.deeds = { readings := [reading] } ∧ Step.Says (f (reading.located subject)) said₂ ended ∧
      said = said₁ ++ said₂ := by
  rcases h.of_outcome with ⟨abort, hlocate, -⟩ | ⟨located, said₁, said₂, hlocate, hrest, rfl⟩
  · obtain ⟨reading, -, hnone⟩ := locate_deeds hlocate
    cases hnone
  · obtain ⟨reading, hdeeds, hlocated⟩ := locate_deeds hlocate
    obtain rfl := Except.ok.inj hlocated
    exact ⟨reading, said₁, said₂, hlocate, hdeeds, hrest, rfl⟩

/-- The failures of patches are those of the answers, in the order of the patches. -/
theorem patchFailures_eq_filterMap (patches : List WorkloadPatch)
    (results : List (Except ApiFailure Unit)) :
    patchFailures patches results = (patches.zip results).filterMap WorkloadPatch.failure? := by
  induction patches generalizing results with
  | nil => rfl
  | cons p patches ih =>
    cases results with
    | nil => rfl
    | cons answer results =>
      rw [List.zip_cons_cons, List.filterMap_cons]
      cases answer with
      | error cause => exact congrArg (p.failure cause :: ·) (ih results)
      | ok _ => exact ih results

/-- Every workload that has not its changed form is sent its patch, and the failures are told in the
order of the workloads. -/
theorem change_deeds {c : Change} {k : BindingKind} {m : Mutation} {type : ResourceType}
    {found : List Workload} {ended : Except Abort (Except ReconcileError (List ReconcileError))}
    (h : Step.Says (change c k m type found) said ended) :
    ∃ answered, said.deeds = { patches := answered } ∧
      answered.map Prod.fst = found.filterMap (WorkloadPatch.forChange? c m type) ∧
      ended = .ok (.ok (answered.filterMap WorkloadPatch.failure?)) := by
  unfold change at h
  simp only at h
  split at h
  · rename_i hempty
    obtain ⟨rfl, rfl⟩ := Step.says_pure_iff.1 h
    exact ⟨[], rfl, (List.isEmpty_iff.1 hempty).symm, rfl⟩
  · obtain ⟨answers, said₁, rfl, hanswered⟩ := Step.says_ask_iff.1 h
    obtain ⟨_, said₂, rfl, hend⟩ := Step.says_ask_iff.1 hanswered
    obtain ⟨rfl, rfl⟩ := Step.says_pure_iff.1 hend
    refine ⟨_, Deeds.append_nil _, List.map_fst_zip (Nat.le_of_eq answers.property.symm), ?_⟩
    rw [patchFailures_eq_filterMap]

/-- What is said in a part that begins with changing workloads. -/
theorem Step.Says.of_change {c : Change} {k : BindingKind} {m : Mutation} {type : ResourceType}
    {found : List Workload} {f : List ReconcileError → Step α}
    (h : Step.Says (change c k m type found >>= f) said ended) :
    ∃ answered said₁ said₂,
      Step.Says (change c k m type found) said₁
        (.ok (.ok (answered.filterMap WorkloadPatch.failure?))) ∧
      Transcript.deeds said₁ = { patches := answered } ∧
      answered.map Prod.fst = found.filterMap (WorkloadPatch.forChange? c m type) ∧
      Step.Says (f (answered.filterMap WorkloadPatch.failure?)) said₂ ended ∧
      said = said₁ ++ said₂ := by
  rcases h.of_bind with ⟨abort, hchange, -⟩ | ⟨e, hchange, -⟩ |
    ⟨failures, said₁, said₂, hchange, hrest, rfl⟩
  · obtain ⟨answered, -, -, hnone⟩ := change_deeds hchange
    cases hnone
  · obtain ⟨answered, -, -, hnone⟩ := change_deeds hchange
    cases hnone
  · obtain ⟨answered, hdeeds, hsent, hfailures⟩ := change_deeds hchange
    obtain rfl := Except.ok.inj (Except.ok.inj hfailures)
    exact ⟨answered, said₁, said₂, hchange, hdeeds, hsent, hrest, rfl⟩

/-- A pass does what its part for the binding does, and ends like it: what is remarked at the end does
nothing more. -/
theorem pass_deeds {resync : Nat} {now : Timestamp} {ended : Except Abort (Except ReconcileError Action)}
    (hid : r.id = .ok id) (h : (pass true resync now r).Leaves said (.done ended)) :
    ∃ inner remarks : Transcript, said = inner ++ remarks ∧ remarks.deeds = {} ∧ remarks.writes = [] ∧
      Step.Says (if r.isDeleting then finalize now r id else bind resync now r id) inner ended := by
  have hlead : Step.Says (lead resync now r) said ended := h
  unfold lead at hlead
  rw [hid] at hlead
  rcases Step.Says.of_outcome hlead with ⟨abort, hinner, rfl⟩ |
    ⟨result, inner, remarks, hinner, hrest, rfl⟩
  · exact ⟨said, [], (List.append_nil said).symm, rfl, rfl, hinner⟩
  · match result, hinner, hrest with
    | .ok action, hinner, hrest =>
      obtain ⟨_, remarks, rfl, hend⟩ := Step.says_ask_iff.1 hrest
      obtain ⟨rfl, rfl⟩ := Step.says_pure_iff.1 hend
      exact ⟨inner, _, rfl, rfl, rfl, hinner⟩
    | .error e, hinner, hrest =>
      obtain ⟨_, remarks, rfl, hpublished⟩ := Step.says_ask_iff.1 hrest
      obtain ⟨_, remarks, rfl, hend⟩ := Step.says_ask_iff.1 hpublished
      obtain ⟨rfl, rfl⟩ := Step.says_throw_iff.1 hend
      exact ⟨inner, _, rfl, rfl, rfl, hinner⟩

/-- Carrying a binding out ends in one of three ways: for a reason that its workloads were not located, as
the controller cannot go on, or with the first failure of their patches, if there is one. -/
theorem bindSubjects_deeds {status : BindingStatus} {now : Timestamp}
    {ended : Except Abort (Except ReconcileError (BindingStatus × Except ReconcileError Unit))}
    (h : Step.Says (bindSubjects r id status now) said ended) :
    (∃ e, (∀ fault, e = .malformedSubject fault → r.subject = .error fault) ∧
      (∀ found, .ok (some found) ∉ said.deeds.readings) ∧
      ended = .ok (.ok (recorded status now (.error e), .error e))) ∨
    (∃ abort, r.mutation = .error abort ∧ ended = .error abort) ∨
    ∃ subject m found answered said₁ said₂, r.subject = .ok subject ∧ r.mutation = .ok m ∧
      said = ⟨.note (.tracked id subject), ()⟩ :: (said₁ ++ said₂) ∧
      Step.Says (locate subject) said₁ (.ok (.ok found)) ∧
      Transcript.deeds said₁ = { readings := [.ok (some found)] } ∧
      Step.Says (change .bind r.kind m subject.resourceType found) said₂
        (.ok (.ok (answered.filterMap WorkloadPatch.failure?))) ∧
      Transcript.deeds said₂ = { patches := answered } ∧
      answered.map Prod.fst = found.filterMap (WorkloadPatch.forChange? .bind m subject.resourceType) ∧
      ended = .ok (.ok (recorded status now (firstOf (answered.filterMap WorkloadPatch.failure?)),
        firstOf (answered.filterMap WorkloadPatch.failure?))) := by
  unfold bindSubjects at h
  split at h
  · rename_i fault hfault
    obtain ⟨rfl, rfl⟩ := Step.says_pure_iff.1 h
    refine Or.inl ⟨.malformedSubject fault, fun fault' heq => ?_, fun _ hmem => ?_, rfl⟩
    · cases heq
      exact hfault
    · cases hmem
  · rename_i subject hsubject
    obtain ⟨⟨⟩, said', rfl, hnoted⟩ := Step.says_ask_iff.1 h
    obtain ⟨reading, said₁, said₂, hlocate, hread, hrest, rfl⟩ := hnoted.of_locate
    match reading, hread, hlocate, hrest with
    | .ok (some found), hread, hlocate, hrest =>
      rcases Step.Says.of_orAbort hrest with ⟨abort, hm, -, rfl⟩ | ⟨m, hm, hwork⟩
      · exact Or.inr (Or.inl ⟨abort, hm, rfl⟩)
      · obtain ⟨answered, said₃, said₄, hchange, hpatch, hsent, hend, rfl⟩ := hwork.of_change
        have hfinal : said₄ = [] ∧ ended = .ok (.ok
            (recorded status now (firstOf (answered.filterMap WorkloadPatch.failure?)),
              firstOf (answered.filterMap WorkloadPatch.failure?))) := by
          have hfailures := fun e (he : e ∈ answered.filterMap WorkloadPatch.failure?) =>
            WorkloadPatch.eq_failure_of_mem he
          match answered.filterMap WorkloadPatch.failure?, hend, hfailures with
          | [], hend, _ => exact Step.says_pure_iff.1 hend
          | e :: rest, hend, hfailures =>
            obtain ⟨p, cause, rfl⟩ := hfailures e List.mem_cons_self
            exact Step.says_pure_iff.1 hend
        obtain ⟨rfl, rfl⟩ := hfinal
        rw [List.append_nil]
        exact Or.inr (Or.inr ⟨subject, m, found, answered, said₁, said₃, hsubject, hm, rfl, hlocate,
          hread, hchange, hpatch, hsent, rfl⟩)
    | .ok none, hread, _, hrest =>
      obtain ⟨rfl, rfl⟩ := Step.says_pure_iff.1 hrest
      exact Or.inl ⟨.subjectMissing subject.render, nofun, by simp [hread, Call.deeds], rfl⟩
    | .error cause, hread, _, hrest =>
      obtain ⟨rfl, rfl⟩ := Step.says_pure_iff.1 hrest
      exact Or.inl ⟨.api cause, nofun, by simp [hread, Call.deeds], rfl⟩

/-! ## References that resolve to no subject -/

/-- The first of some failures is one of them. -/
theorem mem_of_firstOf {failures : List ReconcileError} {e : ReconcileError}
    (h : firstOf failures = .error e) : e ∈ failures := by
  cases failures with
  | nil => cases h
  | cons e' rest =>
    obtain rfl := Except.error.inj h
    exact List.mem_cons_self

/-- Carrying a binding out comes to a status and an outcome, which is that the reference is malformed only
when it resolves to no subject. -/
theorem bindSubjects_outcome {status : BindingStatus} {now : Timestamp}
    {result : Except ReconcileError (BindingStatus × Except ReconcileError Unit)}
    (h : Step.Says (bindSubjects r id status now) said (.ok result)) :
    ∃ status' bound, result = .ok (status', bound) ∧
      ∀ fault, bound = .error (.malformedSubject fault) → r.subject = .error fault := by
  rcases bindSubjects_deeds h with ⟨e, hfault, -, heq⟩ | ⟨abort, -, heq⟩ |
    ⟨_, _, _, answered, _, _, -, -, -, -, -, -, -, -, heq⟩
  · refine ⟨_, _, Except.ok.inj heq, fun fault hmalformed => ?_⟩
    exact hfault fault (Except.error.inj hmalformed)
  · cases heq
  · refine ⟨_, _, Except.ok.inj heq, fun fault hmalformed => ?_⟩
    -- A failure of a patch says nothing of the reference.
    obtain ⟨p, cause, hpatch⟩ := WorkloadPatch.eq_failure_of_mem (mem_of_firstOf hmalformed)
    cases hpatch

/-- The pass of a living binding fails for its reference only when that resolves to no subject. -/
theorem subject_of_malformedSubject {resync : Nat} {now : Timestamp} {fault : SubjectFault}
    (hid : r.id = .ok id) (hliving : r.isDeleting = false)
    (h : (pass true resync now r).Leaves said (.done (.ok (.error (.malformedSubject fault))))) :
    r.subject = .error fault := by
  obtain ⟨inner, remarks, -, -, -, hinner⟩ := pass_deeds hid h
  rw [hliving] at hinner
  have hbind : Step.Says (bind resync now r id) inner (.ok (.error (.malformedSubject fault))) := hinner
  unfold bind at hbind
  -- A failure of the finalizer or of the status is one of the API.
  have hapi : ∀ {o : Option ApiFailure},
      succeedUnless (o.map .api) ≠ .error (.malformedSubject fault) := by
    intro o heq
    obtain ⟨cause, -, hcause⟩ := Option.map_eq_some_iff.1 (succeedUnless_eq_error_iff.1 heq)
    cases hcause
  rcases hbind.of_bind with ⟨_, -, heq⟩ | ⟨e, harm, heq⟩ | ⟨_, said₁, said₂, -, hrest, -⟩
  · cases heq
  · obtain rfl := Except.error.inj (Except.ok.inj heq)
    obtain ⟨_, -, -, hended⟩ := ensureFinalizer_deeds harm
    exact absurd (Except.ok.inj hended).symm hapi
  · rcases hrest.of_bind with ⟨_, -, heq⟩ | ⟨e, hwork, heq⟩ |
      ⟨⟨status, bound⟩, said₃, said₄, hwork, hrecord, -⟩
    · cases heq
    · obtain ⟨_, _, hnone, -⟩ := bindSubjects_outcome hwork
      cases hnone
    · rcases hrecord.of_outcome with ⟨_, -, heq⟩ | ⟨updated, said₅, said₆, hstatus, hend, -⟩
      · cases heq
      · match bound, updated, hwork, hstatus, hend with
        | .error e, _, hwork, _, hend =>
          obtain ⟨-, heq⟩ := Step.says_throw_iff.1 hend
          obtain rfl := Except.error.inj (Except.ok.inj heq)
          obtain ⟨_, _, hbound, hfault⟩ := bindSubjects_outcome hwork
          cases hbound
          exact hfault fault rfl
        | .ok (), .error e, _, hstatus, hend =>
          obtain ⟨-, heq⟩ := Step.says_throw_iff.1 hend
          obtain rfl := Except.error.inj (Except.ok.inj heq)
          obtain ⟨_, -, -, hended⟩ := updateStatus_deeds hstatus
          exact absurd (Except.ok.inj hended).symm hapi
        | .ok (), .ok (), _, _, hend =>
          obtain ⟨-, heq⟩ := Step.says_pure_iff.1 hend
          cases heq

end Reconcile

end WorkloadBindings
