import WorkloadBindings.Proofs.Reconcile.Deeds

/-!
# What a pass lets be remembered

Of all that is said in a pass only some calls bear on what is remembered of its binding: those that
send finalizers, that note the subject or that the binding is gone, and that note a success. What was
said of these (`Transcript.pivots`) tells what may be said next and how the pass may end, at every
moment of it and whatever it was answered: the subject is noted once the finalizer is on the binding,
that the binding is gone once it is off, and a success last of all (`minds_lead`). The other calls of
a pass are idle, and so are the parts of the pass that make no others.
-/

namespace WorkloadBindings

/-- The call does not bear on what is remembered of a binding. -/
def Call.isIdle : Call → Bool
  | .finalizers _ _ _ | .note (.tracked _ _) | .note (.untracked _) | .note (.succeeded _) => false
  | _ => true

/-- An idle call sends no finalizers and lets no subject be remembered. -/
theorem Call.deeds_of_isIdle {c : Call} (h : c.isIdle = true) (answer : c.Answer) :
    (c.deeds answer).finalizers = [] ∧ (c.deeds answer).tracking = [] := by
  cases c with
  | note n => cases n <;> first | exact ⟨rfl, rfl⟩ | cases h
  | finalizers => cases h
  | _ => exact ⟨rfl, rfl⟩

/-- The binding whose pass is noted to have succeeded. -/
def Call.success? : Call → Option BindingId
  | .note (.succeeded id) => some id
  | _ => none

/-- An idle call notes no success. -/
theorem Call.success?_of_isIdle {c : Call} (h : c.isIdle = true) : c.success? = none := by
  cases c with
  | note n => cases n <;> first | rfl | cases h
  | _ => rfl

namespace Transcript

/-- What was said that bears on what is remembered of a binding. -/
def pivots (said : Transcript) : Transcript := said.filter fun x => !x.1.isIdle

/-- Finalizers were sent and taken. -/
def secured (said : Transcript) : Bool := said.deeds.finalizers.any fun x => x.2.isOk

/-- The bindings whose passes are noted to have succeeded. -/
def successes (said : Transcript) : List BindingId := said.filterMap fun x => x.1.success?

/-- An idle call adds nothing to what bears on what is remembered. -/
theorem pivots_append_of_isIdle (said : Transcript) {c : Call} (h : c.isIdle = true)
    (answer : c.Answer) : pivots (said ++ [⟨c, answer⟩]) = said.pivots := by
  rw [pivots, List.filter_append, List.filter_singleton, h]
  exact List.append_nil _

/-- Every other call is added to it. -/
theorem pivots_append_of_not (said : Transcript) {c : Call} (h : c.isIdle = false)
    (answer : c.Answer) : pivots (said ++ [⟨c, answer⟩]) = said.pivots ++ [⟨c, answer⟩] := by
  rw [pivots, List.filter_append, List.filter_singleton, h]
  rfl

/-- The successes that are noted with a call and after it. -/
theorem successes_cons (x : (c : Call) × c.Answer) (said : Transcript) :
    successes (x :: said) = x.1.success?.toList ++ said.successes := by
  unfold successes
  rw [List.filterMap_cons]
  cases x.1.success? <;> rfl

@[simp] theorem successes_append (said said' : Transcript) :
    successes (said ++ said') = said.successes ++ said'.successes := List.filterMap_append

@[simp] theorem secured_append (said said' : Transcript) :
    secured (said ++ said') = (said.secured || said'.secured) := by
  rw [secured, deeds_append, Deeds.finalizers_append, List.any_append]
  rfl

/-- A note sends no finalizers. -/
@[simp] theorem secured_append_note (said : Transcript) (n : Note) (answer : (Call.note n).Answer) :
    secured (said ++ [⟨.note n, answer⟩]) = said.secured := by
  rw [secured_append]
  cases n <;> exact Bool.or_false _

/-- Idle calls send no finalizers, let no subject be remembered, and note no success. -/
theorem of_pivots (said : Transcript) : said.pivots.deeds.tracking = said.deeds.tracking ∧
    said.pivots.secured = said.secured ∧ said.pivots.successes = said.successes := by
  suffices h : said.pivots.deeds.tracking = said.deeds.tracking ∧
      said.pivots.deeds.finalizers = said.deeds.finalizers ∧
      said.pivots.successes = said.successes from
    ⟨h.1, by rw [secured, secured, h.2.1], h.2.2⟩
  induction said with
  | nil => exact ⟨rfl, rfl, rfl⟩
  | cons x said ih =>
    obtain ⟨c, answer⟩ := x
    obtain ⟨htracking, hfinalizers, hsuccesses⟩ := ih
    cases hidle : c.isIdle with
    | true =>
      obtain ⟨hnone, hnothing⟩ := Call.deeds_of_isIdle hidle answer
      have hpivots : pivots (⟨c, answer⟩ :: said) = pivots said :=
        List.filter_cons_of_neg (by rw [hidle]; decide)
      rw [hpivots, successes_cons, Call.success?_of_isIdle hidle, deeds_cons, Deeds.tracking_append,
        Deeds.finalizers_append, hnothing, hnone]
      exact ⟨htracking, hfinalizers, hsuccesses⟩
    | false =>
      have hpivots : pivots (⟨c, answer⟩ :: said) = ⟨c, answer⟩ :: pivots said :=
        List.filter_cons_of_pos (by rw [hidle]; decide)
      rw [hpivots, deeds_cons, deeds_cons, Deeds.tracking_append, Deeds.tracking_append,
        Deeds.finalizers_append, Deeds.finalizers_append, htracking, hfinalizers]
      rw [successes_cons, successes_cons, hsuccesses]
      exact ⟨rfl, rfl, rfl⟩

end Transcript

namespace Reconcile

variable {α β : Type}

/-! ## Idle parts -/

/-- Whatever it is answered, a part of a pass makes idle calls only. -/
def Step.IsIdle (x : Step α) : Prop :=
  ∀ said, x.run.run.Obeys (fun _ c => c.isIdle = true) (fun _ _ => True) said

namespace Step.IsIdle

theorem pure (a : α) : Step.IsIdle (Pure.pure a : Step α) := fun _ => trivial

theorem throw (e : ReconcileError) : Step.IsIdle (MonadExcept.throw e : Step α) := fun _ => trivial

/-- After an idle call follows an idle part. -/
theorem ask {c : Call} {f : c.Answer → Step α} (hc : c.isIdle = true)
    (hf : ∀ answer, Step.IsIdle (f answer)) : Step.IsIdle (Reconcile.ask c >>= f) :=
  fun _ => ⟨hc, fun answer => hf answer _⟩

/-- After an idle part follows an idle part. -/
theorem bind {x : Step β} {f : β → Step α} (hx : Step.IsIdle x) (hf : ∀ b, Step.IsIdle (f b)) :
    Step.IsIdle (x >>= f) := by
  intro said
  refine Dialogue.Obeys.bind ((hx said).mono (fun _ _ h => h) fun said' ended _ => ?_)
  match ended with
  | .error _ => exact trivial
  | .ok (.error _) => exact trivial
  | .ok (.ok b) => exact hf b said'

/-- The outcome of an idle part is idle. -/
theorem outcome {x : Step β} (hx : Step.IsIdle x) : Step.IsIdle (Reconcile.outcome x) := by
  intro said
  refine Dialogue.Obeys.bind ((hx said).mono (fun _ _ h => h) fun said' ended _ => ?_)
  match ended with
  | .error _ => exact trivial
  | .ok _ => exact trivial

/-- Going on with what was found is idle. -/
theorem orAbort (found : Except Abort β) : Step.IsIdle (Reconcile.orAbort found) := by
  cases found <;> exact fun _ => trivial

end Step.IsIdle

/-- Reading the workloads of a subject is idle. -/
theorem isIdle_locate (subject : Subject) : Step.IsIdle (locate subject) := by
  unfold locate
  split
  · refine .ask rfl fun answer => ?_
    match answer with
    | .ok (some w) => exact .pure _
    | .ok none => exact .throw _
    | .error cause => exact .throw _
  · refine .ask rfl fun answer => ?_
    match answer with
    | .ok found => exact .pure _
    | .error cause => exact .throw _

/-- Changing workloads is idle. -/
theorem isIdle_change (c : Change) (k : BindingKind) (m : Mutation) (type : ResourceType)
    (workloads : List Workload) : Step.IsIdle (change c k m type workloads) := by
  unfold change
  simp only
  split
  · exact .pure _
  · exact .ask rfl fun _ => .ask rfl fun _ => .pure _

/-- Writing the status is idle. -/
theorem isIdle_updateStatus (r : BindingResource) (id : BindingId) (prior status : BindingStatus) :
    Step.IsIdle (updateStatus r id prior status) := by
  unfold updateStatus
  split
  · exact .pure _
  · refine .ask rfl fun answer => ?_
    match answer with
    | .ok () => exact .pure _
    | .error cause =>
      simp only
      split
      · exact .pure _
      · exact .ask rfl fun _ => .throw _

/-- Undoing a binding is idle. -/
theorem isIdle_unbindSubjects (r : BindingResource) (subject : Subject) :
    Step.IsIdle (unbindSubjects r subject) := by
  unfold unbindSubjects
  refine .bind (isIdle_locate subject).outcome fun located => ?_
  match located with
  | .error e =>
    simp only
    split
    · exact .pure _
    · exact .throw _
  | .ok workloads =>
    refine .bind (.orAbort _) fun m => .bind (isIdle_change _ _ _ _ _) fun failures => ?_
    split
    · exact .throw _
    · exact .pure _

/-! ## What a part minds -/

/-- Whatever it is answered, a part of a pass makes only calls and ends only in ways that are allowed
after what was said that bears on what is remembered. -/
def Step.Minds (calls : Transcript → Call → Prop)
    (ends : Transcript → Except Abort (Except ReconcileError α) → Prop) (m : Transcript)
    (x : Step α) : Prop :=
  ∀ said : Transcript, said.pivots = m → x.run.run.Obeys
    (fun (said : Transcript) c => calls said.pivots c)
    (fun (said : Transcript) ended => ends said.pivots ended) said

namespace Step.Minds

variable {calls : Transcript → Call → Prop}
  {ends : Transcript → Except Abort (Except ReconcileError α) → Prop} {m : Transcript}

theorem pure {a : α} (h : ends m (.ok (.ok a))) :
    Step.Minds calls ends m (Pure.pure a : Step α) := by
  rintro said rfl
  exact h

theorem throw {e : ReconcileError} (h : ends m (.ok (.error e))) :
    Step.Minds calls ends m (MonadExcept.throw e : Step α) := by
  rintro said rfl
  exact h

/-- A part minds when it does after an idle call. -/
theorem ask_idle {c : Call} {f : c.Answer → Step α} (hidle : c.isIdle = true) (hc : calls m c)
    (hf : ∀ answer, Step.Minds calls ends m (f answer)) :
    Step.Minds calls ends m (Reconcile.ask c >>= f) := by
  rintro said rfl
  exact ⟨hc, fun answer => hf answer _ (Transcript.pivots_append_of_isIdle said hidle answer)⟩

/-- A part minds when it does after a call that bears on what is remembered. -/
theorem ask {c : Call} {f : c.Answer → Step α} (hidle : c.isIdle = false) (hc : calls m c)
    (hf : ∀ answer, Step.Minds calls ends (m ++ [⟨c, answer⟩]) (f answer)) :
    Step.Minds calls ends m (Reconcile.ask c >>= f) := by
  rintro said rfl
  exact ⟨hc, fun answer => hf answer _ (Transcript.pivots_append_of_not said hidle answer)⟩

/-- An idle part minds where idle calls are allowed and it may end in any way. -/
theorem idle {x : Step α} (hx : Step.IsIdle x) (hidle : ∀ c : Call, c.isIdle = true → calls m c)
    (hends : ∀ ended, ends m ended) : Step.Minds calls ends m x := by
  intro said hsaid
  have hobeys := hx said
  generalize x.run.run = d at hobeys ⊢
  induction d generalizing said with
  | done ended =>
    subst hsaid
    exact hends ended
  | ask c next ih =>
    obtain ⟨hc, hnext⟩ := hobeys
    have hmore := fun answer => Transcript.pivots_append_of_isIdle said hc answer
    rw [hsaid] at hmore
    subst hsaid
    exact ⟨hidle c hc, fun answer => ih answer _ (hmore answer) (hnext answer)⟩

/-- Two parts mind when the second one does wherever the first one ends. -/
theorem bind {x : Step β} {f : β → Step α}
    (h : Step.Minds calls (fun m ended =>
      match ended with
      | .error abort => ends m (.error abort)
      | .ok (.error e) => ends m (.ok (.error e))
      | .ok (.ok b) => Step.Minds calls ends m (f b)) m x) :
    Step.Minds calls ends m (x >>= f) := by
  refine fun said hsaid => Dialogue.Obeys.bind ((h said hsaid).mono (fun _ _ h => h) ?_)
  intro said' ended hended
  match ended, hended with
  | .error _, hended => exact hended
  | .ok (.error _), hended => exact hended
  | .ok (.ok b), hended => exact hended said' rfl

/-- Two parts mind when the second one does for every outcome of the first one. -/
theorem outcome {x : Step β} {f : Except ReconcileError β → Step α}
    (h : Step.Minds calls (fun m ended =>
      match ended with
      | .error abort => ends m (.error abort)
      | .ok result => Step.Minds calls ends m (f result)) m x) :
    Step.Minds calls ends m (Reconcile.outcome x >>= f) := by
  refine bind fun said hsaid => Dialogue.Obeys.bind ((h said hsaid).mono (fun _ _ h => h) ?_)
  intro said' ended hended
  match ended, hended with
  | .error _, hended => exact hended
  | .ok _, hended => exact hended

/-- A part minds behind an idle one, however that ends. -/
theorem bind_idle {x : Step β} {f : β → Step α} (hx : Step.IsIdle x)
    (hidle : ∀ c : Call, c.isIdle = true → calls m c) (habort : ∀ abort, ends m (.error abort))
    (hthrow : ∀ e, ends m (.ok (.error e))) (hf : ∀ b, Step.Minds calls ends m (f b)) :
    Step.Minds calls ends m (x >>= f) := by
  refine bind (idle hx hidle fun ended => ?_)
  match ended with
  | .error abort => exact habort abort
  | .ok (.error e) => exact hthrow e
  | .ok (.ok b) => exact hf b

end Step.Minds

end Reconcile

/-! ## The pass -/

/-- What the pass of a binding lets be remembered of its subject. While the binding lives, that is the
subject, if there is one, once the finalizer is on the binding; and when it is being deleted, that it is
gone, once the finalizer is off. The finalizer was there before or not, or finalizers were sent and
taken. -/
def BindingResource.tracking (r : BindingResource) (id : BindingId) (secured : Bool) : List Note :=
  if r.isDeleting then
    if secured || !r.finalizers.contains id.kind.finalizer then [.untracked id] else []
  else
    match r.subject with
    | .ok subject =>
      if secured || r.finalizers.contains id.kind.finalizer then [.tracked id subject] else []
    | .error _ => []

/-- The finalizers that the pass of a binding sends: the others, without its own when it is being
deleted, and with it while it lives. -/
def BindingResource.sentFinalizers (r : BindingResource) (id : BindingId) : List String :=
  if r.isDeleting then r.finalizers.filter (· != id.kind.finalizer)
  else r.finalizers ++ [id.kind.finalizer]

namespace Reconcile

/-- What may be said in the pass of a binding: finalizers are sent before anything else, the subject is
noted when it is due, a success is noted for this binding, and after that nothing is said. -/
def MaySay (r : BindingResource) (id : BindingId) (m : Transcript) (c : Call) : Prop :=
  m.successes = [] ∧
    match c with
    | .finalizers id' _ names => m = [] ∧ id' = id ∧ names = r.sentFinalizers id
    | .note (.tracked id' subject) =>
      m.deeds.tracking = [] ∧ r.tracking id m.secured = [.tracked id' subject]
    | .note (.untracked id') => m.deeds.tracking = [] ∧ r.tracking id m.secured = [.untracked id']
    | .note (.succeeded id') => id' = id
    | _ => True

/-- All that was due was noted, and no success yet. -/
def Noted (r : BindingResource) (id : BindingId) (m : Transcript) : Prop :=
  m.successes = [] ∧ m.deeds.tracking = r.tracking id m.secured

/-- How the pass of a binding may end: all that was due was noted, and a success when it was one. -/
def MayEnd (r : BindingResource) (id : BindingId) (m : Transcript)
    (ended : Except Abort (Except ReconcileError Action)) : Prop :=
  m.deeds.tracking = r.tracking id m.secured ∧
    m.successes = match ended with
      | .ok (.ok _) => [id]
      | _ => []

variable {α β : Type} {r : BindingResource} {id : BindingId} {m : Transcript}

/-- Idle calls may be made until a success is noted. -/
theorem MaySay.of_isIdle (hm : m.successes = []) {c : Call} (hidle : c.isIdle = true) :
    MaySay r id m c := by
  refine ⟨hm, ?_⟩
  cases c with
  | note n => cases n <;> first | exact trivial | cases hidle
  | finalizers => cases hidle
  | _ => exact trivial

/-- An idle part minds when all that was due was noted. -/
theorem Noted.idle (h : Noted r id m) {x : Step α} (hx : Step.IsIdle x) :
    Step.Minds (MaySay r id) (fun m _ => Noted r id m) m x :=
  .idle hx (fun _ hc => .of_isIdle h.1 hc) fun _ => h

/-- All that was due was noted when the note is made that was due. -/
theorem Noted.of_noted {n : Note} (answer : (Call.note n).Answer) (hm : m.successes = [])
    (hnone : m.deeds.tracking = []) (hdue : r.tracking id m.secured = [n])
    (hdeeds : (Call.note n).deeds answer = { tracking := [n] })
    (hquiet : (Call.note n).success? = none) : Noted r id (m ++ [⟨.note n, answer⟩]) := by
  constructor
  · rw [Transcript.successes_append, hm, Transcript.successes_cons, hquiet]
    rfl
  · rw [Transcript.secured_append_note, hdue, Transcript.deeds_append, Deeds.tracking_append, hnone,
      Transcript.deeds_cons, hdeeds]
    rfl

/-- Carrying a living binding out notes the subject first, once the finalizer is on the binding. -/
theorem minds_bindSubjects (hliving : r.isDeleting = false) (hm : m.successes = [])
    (hnone : m.deeds.tracking = [])
    (hsecured : (m.secured || r.finalizers.contains id.kind.finalizer) = true)
    (status : BindingStatus) (now : Timestamp) :
    Step.Minds (MaySay r id) (fun m _ => Noted r id m) m (bindSubjects r id status now) := by
  unfold bindSubjects
  split
  · rename_i fault hfault
    refine .pure ⟨hm, ?_⟩
    rw [hnone, BindingResource.tracking, hliving, hfault]
    rfl
  · rename_i subject hsubject
    have hdue : r.tracking id m.secured = [.tracked id subject] := by
      rw [BindingResource.tracking, hliving, hsubject]
      exact if_pos hsecured
    refine .ask rfl ⟨hm, hnone, hdue⟩ fun answer =>
      (Noted.of_noted answer hm hnone hdue rfl rfl).idle ?_
    refine .bind (isIdle_locate subject).outcome fun located => ?_
    match located with
    | .ok workloads =>
      refine .bind (.orAbort _) fun mutation => .bind (isIdle_change _ _ _ _ _) fun failures => ?_
      cases failures <;> exact .pure _
    | .error (.subjectMissing _) => exact .pure _
    | .error (.malformedSubject _) => exact .pure _
    | .error (.patch _ _ _ _) => exact .pure _
    | .error (.api _) => exact .pure _

/-- What is left to do for a living binding, once the finalizer is on it. -/
theorem minds_bindSubjects_bind (hliving : r.isDeleting = false) (hm : m.successes = [])
    (hnone : m.deeds.tracking = [])
    (hsecured : (m.secured || r.finalizers.contains id.kind.finalizer) = true)
    {status : BindingStatus} {now : Timestamp}
    {f : BindingStatus × Except ReconcileError Unit → Step α} (hf : ∀ x, Step.IsIdle (f x)) :
    Step.Minds (MaySay r id) (fun m _ => Noted r id m) m (bindSubjects r id status now >>= f) := by
  refine .bind fun said hsaid => Dialogue.Obeys.mono (fun _ _ h => h) (fun said' ended h => ?_)
    (minds_bindSubjects hliving hm hnone hsecured status now said hsaid)
  match ended with
  | .error _ => exact h
  | .ok (.error _) => exact h
  | .ok (.ok x) => exact Noted.idle h (hf x)

/-- What is left to do for a living binding begins with nothing noted and the finalizer on the binding; if
that cannot be put on it, nothing is due. -/
theorem minds_ensureFinalizer_bind (hliving : r.isDeleting = false) {f : Unit → Step α}
    (hf : ∀ m : Transcript, m.successes = [] → m.deeds.tracking = [] →
      (m.secured || r.finalizers.contains id.kind.finalizer) = true →
      Step.Minds (MaySay r id) (fun m _ => Noted r id m) m (f ())) :
    Step.Minds (MaySay r id) (fun m _ => Noted r id m) [] (ensureFinalizer r id >>= f) := by
  unfold ensureFinalizer
  refine .bind ?_
  split
  · rename_i hpresent
    exact .pure (hf [] rfl rfl hpresent)
  · rename_i habsent
    have hsent : r.finalizers ++ [id.kind.finalizer] = r.sentFinalizers id := by
      rw [BindingResource.sentFinalizers, hliving]
      rfl
    refine .ask rfl ⟨rfl, rfl, rfl, hsent⟩ fun answer => ?_
    match answer with
    | .ok () => exact .pure (hf _ rfl rfl rfl)
    | .error cause =>
      refine .throw ⟨rfl, Eq.symm ?_⟩
      rw [BindingResource.tracking, hliving, Bool.eq_false_iff.2 habsent]
      cases r.subject <;> rfl

/-- The pass of a living binding. -/
theorem minds_bind (hliving : r.isDeleting = false) (resync : Nat) (now : Timestamp) :
    Step.Minds (MaySay r id) (fun m _ => Noted r id m) [] (bind resync now r id) := by
  unfold bind
  refine minds_ensureFinalizer_bind hliving fun m hm hnone hsecured =>
    minds_bindSubjects_bind hliving hm hnone hsecured fun x => ?_
  -- Once the subject was noted, the pass goes on in idle calls.
  refine .bind (isIdle_updateStatus _ _ _ _).outcome fun updated => ?_
  obtain ⟨status, bound⟩ := x
  cases bound with
  | error e => exact .throw _
  | ok _ =>
    cases updated with
    | error e => exact .throw _
    | ok _ => exact .pure _

/-- Once the finalizer is off a binding that is being deleted, it is due that the binding is gone. -/
theorem tracking_of_released (hdeleting : r.isDeleting = true) {secured : Bool}
    (h : (secured || !r.finalizers.contains id.kind.finalizer) = true) :
    r.tracking id secured = [.untracked id] := by
  rw [BindingResource.tracking, if_pos hdeleting]
  exact if_pos h

/-- As long as the finalizer is on it nothing is due. -/
theorem tracking_of_kept (hdeleting : r.isDeleting = true)
    (hpresent : r.finalizers.contains id.kind.finalizer = true) : r.tracking id false = [] := by
  rw [BindingResource.tracking, if_pos hdeleting, hpresent]
  rfl

/-- Letting a binding go takes the finalizer off and then notes that the binding is gone. -/
theorem minds_release (hdeleting : r.isDeleting = true)
    (hpresent : r.finalizers.contains id.kind.finalizer = true) :
    Step.Minds (MaySay r id) (fun m _ => Noted r id m) [] (do
      let answer : Except ApiFailure Unit ←
        ask (.finalizers id none (r.finalizers.filter (· != id.kind.finalizer)))
      orFail answer
      note (.untracked id)
      publish r .normal Event.finalizerRemoved ("Removed finalizer " ++ id.kind.finalizer)
      pure Action.awaitChange) := by
  have hsent : r.finalizers.filter (· != id.kind.finalizer) = r.sentFinalizers id :=
    (if_pos hdeleting).symm
  refine .ask rfl ⟨rfl, rfl, rfl, hsent⟩ fun answer => ?_
  match answer with
  | .ok () =>
    have hdue : r.tracking id true = [.untracked id] := tracking_of_released hdeleting rfl
    refine .ask rfl ⟨rfl, rfl, hdue⟩ fun answer => Noted.idle ?_ ?_
    · exact Noted.of_noted answer rfl rfl hdue rfl rfl
    · exact .ask rfl fun _ => .pure _
  | .error cause => exact .throw ⟨rfl, (tracking_of_kept hdeleting hpresent).symm⟩

/-- The pass of a binding that is being deleted. -/
theorem minds_finalize (hdeleting : r.isDeleting = true) (now : Timestamp) :
    Step.Minds (MaySay r id) (fun m _ => Noted r id m) [] (finalize now r id) := by
  unfold finalize
  split
  · rename_i habsent
    have hdue : r.tracking id false = [.untracked id] := tracking_of_released hdeleting habsent
    refine .ask rfl ⟨rfl, rfl, hdue⟩ fun answer => .pure ?_
    exact Noted.of_noted (m := []) answer rfl rfl hdue rfl rfl
  · rename_i hthere
    have hpresent : r.finalizers.contains id.kind.finalizer = true := by simpa using hthere
    -- Whatever comes before the finalizer is sent may end the pass, with nothing due.
    have hnoted : Noted r id [] := ⟨rfl, (tracking_of_kept hdeleting hpresent).symm⟩
    have hidle : ∀ c : Call, c.isIdle = true → MaySay r id [] c := fun _ hc => .of_isIdle rfl hc
    refine .bind_idle (isIdle_updateStatus _ _ _ _) hidle (fun _ => hnoted) (fun _ => hnoted)
      fun _ => ?_
    split
    · exact .bind_idle (isIdle_unbindSubjects _ _) hidle (fun _ => hnoted) (fun _ => hnoted)
        fun _ => minds_release hdeleting hpresent
    · exact minds_release hdeleting hpresent

/-- After its success is noted, the pass may end with it. -/
theorem Noted.succeeded (h : Noted r id m) (answer : (Call.note (.succeeded id)).Answer)
    (action : Action) : MayEnd r id (m ++ [⟨.note (.succeeded id), answer⟩]) (.ok (.ok action)) := by
  constructor
  · rw [Transcript.deeds_append, Deeds.tracking_append, Transcript.secured_append_note]
    exact (List.append_nil _).trans h.2
  · rw [Transcript.successes_append, h.1]
    rfl

/-- The pass of a binding by the replica that holds the lease: a success is noted last of all. -/
theorem minds_lead (hid : r.id = .ok id) (resync : Nat) (now : Timestamp) :
    Step.Minds (MaySay r id) (MayEnd r id) [] (lead resync now r) := by
  have hinner : Step.Minds (MaySay r id) (fun m _ => Noted r id m) []
      (if r.isDeleting then finalize now r id else bind resync now r id) := by
    split
    · rename_i hdeleting
      exact minds_finalize hdeleting now
    · rename_i hliving
      exact minds_bind (Bool.eq_false_iff.2 hliving) resync now
  unfold lead
  rw [hid]
  refine Step.Minds.outcome fun said hsaid => (hinner said hsaid).mono (fun _ _ h => h) ?_
  intro said' ended hnoted
  match ended with
  | .error abort => exact ⟨hnoted.2, hnoted.1⟩
  | .ok (.ok action) =>
    exact .ask rfl ⟨hnoted.1, rfl⟩ fun answer => .pure (hnoted.succeeded answer action)
  | .ok (.error e) =>
    exact .ask_idle rfl (.of_isIdle hnoted.1 rfl) fun _ =>
      .ask_idle rfl (.of_isIdle hnoted.1 rfl) fun _ => .throw ⟨hnoted.2, hnoted.1⟩

/-- Whatever it is answered, the pass of a binding says only what it may, and ends as it may. -/
theorem pass_obeys (hid : r.id = .ok id) (resync : Nat) (now : Timestamp) :
    (pass true resync now r).Obeys (fun (said : Transcript) c => MaySay r id said.pivots c)
      (fun (said : Transcript) ended => MayEnd r id said.pivots ended) [] :=
  minds_lead hid resync now [] rfl

end Reconcile

end WorkloadBindings
