import WorkloadBindings.Proofs.Reconcile.Contents

/-!
# What is said in a pass

`Reconcile.Gives` says what holds of everything that is said in a conversation that begins with some
contents, of its result, and of the contents it leaves. It is shown part by part along the pass, from
the rules of `Step.Gives`, and then holds of every way the conversation went (`Gives.of_answered`).
`Step.Comes` says that a part may go in one way. Of what was said, `Transcript.refused`,
`Transcript.statuses` and `Transcript.writes` tell which requests were refused and what was sent to be
written.
-/

namespace WorkloadBindings

/-- Calls with their answers, as they were made in a pass. -/
abbrev Transcript : Type := Dialogue.Said Call.Answer

namespace Reconcile

variable {α β : Type}

/-! ## Conversations -/

/-- However a conversation goes that begins with some contents, `post` holds of what is said, of its
result and of the contents after it. -/
def Gives (post : Transcript → α → Contents → Prop) : Talk α → Contents → Prop
  | .done a, s => post [] a s
  | .ask c next, s =>
    ∀ answer t, s.Answers c answer t → Gives (fun said => post (⟨c, answer⟩ :: said)) (next answer) t

/-- What a conversation gives holds of every way it went. -/
theorem Gives.of_answered {post : Transcript → α → Contents → Prop} {d : Talk α} {s t : Contents}
    {said : Transcript} {a : α} (h : Gives post d s) (hleaves : d.Leaves said (.done a))
    (hanswered : s.Answered said t) : post said a t := by
  induction said generalizing d s post with
  | nil =>
    obtain rfl : d = .done a := hleaves
    obtain rfl : t = s := hanswered
    exact h
  | cons x said ih =>
    obtain ⟨next, rfl, hnext⟩ := hleaves
    obtain ⟨u, hanswer, hrest⟩ := hanswered
    exact ih (h x.2 u hanswer) hnext hrest

/-- What a conversation gives implies what it gives less. -/
theorem Gives.mono {post post' : Transcript → α → Contents → Prop}
    (himp : ∀ said a t, post said a t → post' said a t) {d : Talk α} {s : Contents}
    (h : Gives post d s) : Gives post' d s := by
  induction d generalizing s post post' with
  | done a => exact himp [] a s h
  | ask c next ih =>
    exact fun answer t ht => ih answer (fun said a u hu => himp (⟨c, answer⟩ :: said) a u hu)
      (h answer t ht)

/-- What two conversations give, one after the other. -/
theorem Gives.bind {post : Transcript → β → Contents → Prop} {d : Talk α} {f : α → Talk β}
    {s : Contents}
    (h : Gives (fun said a t => Gives (fun said' => post (said ++ said')) (f a) t) d s) :
    Gives post (d >>= f) s := by
  change Gives post (d.andThen f) s
  -- Along the first conversation `post` takes in what was said so far.
  induction d generalizing s post with
  | done a => exact h
  | ask c next ih => exact fun answer t ht => ih answer (h answer t ht)

/-! ## Parts of a pass -/

/-- However a part of a pass goes that begins with some contents, `post` holds of what is said, of its
success or failure and of the contents after it, unless the controller cannot go on, which may be only
if `aborts`. -/
def Step.Gives (aborts : Prop) (post : Transcript → Except ReconcileError α → Contents → Prop)
    (x : Step α) (s : Contents) : Prop :=
  Reconcile.Gives (fun said result t =>
    match result with
    | .error _ => aborts
    | .ok r => post said r t) x.run.run s

namespace Step.Gives

variable {aborts : Prop} {post : Transcript → Except ReconcileError α → Contents → Prop}
  {s : Contents}

/-- What a part gives implies what it gives less. -/
theorem mono {post' : Transcript → Except ReconcileError α → Contents → Prop}
    (himp : ∀ said r t, post said r t → post' said r t) {x : Step α}
    (h : Step.Gives aborts post x s) : Step.Gives aborts post' x s := by
  refine Reconcile.Gives.mono (fun said result t ht => ?_) h
  match result with
  | .error _ => exact ht
  | .ok r => exact himp said r t ht

/-- What a part gives that only gives a result. -/
theorem pure {a : α} (h : post [] (.ok a) s) : Step.Gives aborts post (Pure.pure a : Step α) s := h

/-- What a part gives that fails at once. -/
theorem throw {e : ReconcileError} (h : post [] (.error e) s) :
    Step.Gives aborts post (MonadExcept.throw e : Step α) s := h

/-- What two parts give, one after the other. -/
theorem bind {post : Transcript → Except ReconcileError β → Contents → Prop} {x : Step α}
    {f : α → Step β}
    (h : Step.Gives aborts (fun said r t =>
      match r with
      | .error e => post said (.error e) t
      | .ok a => Step.Gives aborts (fun said' => post (said ++ said')) (f a) t) x s) :
    Step.Gives aborts post (x >>= f) s := by
  refine Reconcile.Gives.bind (Reconcile.Gives.mono (fun said result t ht => ?_) h)
  -- After a failure nothing more is said.
  match result with
  | .error _ => exact ht
  | .ok (.error e) =>
    change post (said ++ []) (.error e) t
    rwa [List.append_nil]
  | .ok (.ok a) => exact ht

/-- What the outcome of a part gives, its failure being a result. -/
theorem outcome {post : Transcript → Except ReconcileError (Except ReconcileError α) → Contents → Prop}
    {x : Step α} (h : Step.Gives aborts (fun said r t => post said (.ok r) t) x s) :
    Step.Gives aborts post (Reconcile.outcome x) s := by
  refine Reconcile.Gives.bind (Reconcile.Gives.mono (fun said result t ht => ?_) h)
  match result with
  | .error _ => exact ht
  | .ok r =>
    change post (said ++ []) (.ok r) t
    rwa [List.append_nil]

/-- What going on with what was found gives, if that was found. -/
theorem orAbort {β : Type} {found : Except Abort β} {f : β → Step α}
    (hok : ∀ b, found = .ok b → Step.Gives aborts post (f b) s)
    (herror : ∀ e, found = .error e → aborts) :
    Step.Gives aborts post (Reconcile.orAbort found >>= f) s := by
  cases found with
  | ok b => exact hok b rfl
  | error e => exact herror e rfl

/-- What a call and what follows upon its answer give. -/
theorem ask {c : Call} {f : c.Answer → Step α}
    (h : ∀ answer t, s.Answers c answer t →
      Step.Gives aborts (fun said => post (⟨c, answer⟩ :: said)) (f answer) t) :
    Step.Gives aborts post (Reconcile.ask c >>= f) s := h

/-- What a note and what follows upon it give. -/
theorem note {n : Note} {f : Unit → Step α}
    (h : Step.Gives aborts (fun said => post (⟨.note n, ()⟩ :: said)) (f ()) s) :
    Step.Gives aborts post (Reconcile.note n >>= f) s := by
  refine ask fun _ t ht => ?_
  obtain rfl : t = s := ht
  exact h

/-- What an event and what follows upon it give. -/
theorem publish {r : BindingResource} {type : EventType} {reason text : String} {f : Unit → Step α}
    (h : Step.Gives aborts
      (fun said => post (⟨.event ⟨r.reference, type, reason, some text⟩, ()⟩ :: said)) (f ()) s) :
    Step.Gives aborts post (Reconcile.publish r type reason text >>= f) s := by
  refine ask fun _ t ht => ?_
  obtain rfl : t = s := ht
  exact h

end Step.Gives

/-- A part of a pass that begins with some contents may go in one way: this is said, it comes to this
result, and these are the contents after it. -/
def Step.Comes (x : Step α) (s : Contents) (said : Transcript) (result : Except ReconcileError α)
    (t : Contents) : Prop :=
  x.run.run.Leaves said (.done (.ok result)) ∧ s.Answered said t

namespace Step.Comes

variable {s t u : Contents} {said said' : Transcript}

/-- A part that only gives a result comes to it. -/
theorem pure (a : α) (s : Contents) : Step.Comes (Pure.pure a : Step α) s [] (.ok a) s := ⟨rfl, rfl⟩

/-- A call comes to its answer. -/
theorem ask {c : Call} {answer : c.Answer} (h : s.Answers c answer t) :
    Step.Comes (Reconcile.ask c) s [⟨c, answer⟩] (.ok answer) t := ⟨⟨_, rfl, rfl⟩, _, h, rfl⟩

/-- A note is made. -/
theorem note (n : Note) (s : Contents) :
    Step.Comes (Reconcile.note n) s [⟨.note n, ()⟩] (.ok ()) s := ask rfl

/-- A part comes to its result after the part before it. -/
theorem bind {x : Step α} {f : α → Step β} {a : α} {result : Except ReconcileError β}
    (h : Step.Comes x s said (.ok a) t) (h' : Step.Comes (f a) t said' result u) :
    Step.Comes (x >>= f) s (said ++ said') result u :=
  ⟨h.1.bind h'.1, Contents.answered_append_iff.2 ⟨_, h.2, h'.2⟩⟩

/-- The outcome of a part is its result. -/
theorem outcome {x : Step α} {result : Except ReconcileError α} (h : Step.Comes x s said result t) :
    Step.Comes (Reconcile.outcome x) s said (.ok result) t := by
  refine ⟨?_, h.2⟩
  rw [← List.append_nil said]
  exact Dialogue.Leaves.bind h.1 rfl

end Step.Comes

end Reconcile

/-! ## Calls and answers -/

/-- The failure that an answer is. -/
def ApiFailure.of? {α : Type} : Except ApiFailure α → Option ApiFailure
  | .error e => some e
  | .ok _ => none

namespace Call

/-- The refusal of a request that is not for patches. -/
def refusal? : (c : Call) → c.Answer → Option ApiFailure
  | .get _ _ _, answer => ApiFailure.of? answer
  | .list _ _ _, answer => ApiFailure.of? answer
  | .finalizers _ _ _, answer => ApiFailure.of? answer
  | .status _ _, answer => ApiFailure.of? answer
  | .patchAll _, _ | .event _, _ | .note _, _ => none

/-- The status that a call writes. -/
def status? : Call → Option BindingStatus
  | .status _ s => some s
  | _ => none

/-- The call is for the workloads of a subject. -/
def isRead : Call → Bool
  | .get _ _ _ | .list _ _ _ => true
  | _ => false

/-- The call writes the finalizers of a binding. -/
def isFinalizers : Call → Bool
  | .finalizers _ _ _ => true
  | _ => false

/-- The call writes a binding or workloads. -/
def isWrite : Call → Bool
  | .finalizers _ _ _ | .status _ _ | .patchAll _ => true
  | _ => false

/-- A call for workloads writes no status. -/
theorem status?_of_isRead {c : Call} (h : c.isRead = true) : c.status? = none := by
  cases c <;> first | rfl | cases h

/-- A call that writes finalizers is not for workloads. -/
theorem isRead_of_isFinalizers {c : Call} (h : c.isFinalizers = true) : c.isRead = false := by
  cases c <;> first | rfl | cases h

/-- A call that writes finalizers writes no status. -/
theorem status?_of_isFinalizers {c : Call} (h : c.isFinalizers = true) : c.status? = none := by
  cases c <;> first | rfl | cases h

/-- A call for workloads writes nothing. -/
theorem isWrite_of_isRead {c : Call} (h : c.isRead = true) : c.isWrite = false := by
  cases c <;> first | rfl | cases h

end Call

namespace Transcript

/-- The requests that were refused, those for patches apart. -/
def refused (said : Transcript) : List Call :=
  said.filterMap fun x => if (x.1.refusal? x.2).isSome then some x.1 else none

/-- The statuses that were sent. -/
def statuses (said : Transcript) : List BindingStatus := said.filterMap fun x => x.1.status?

/-- What was sent to be written. -/
def writes (said : Transcript) : List Call := (said.map Sigma.fst).filter Call.isWrite

/-- A request that got a refusal was refused. -/
theorem mem_refused {said : Transcript} {c : Call} {answer : c.Answer} {cause : ApiFailure}
    (h : ⟨c, answer⟩ ∈ said) (hcause : c.refusal? answer = some cause) : c ∈ said.refused := by
  refine List.mem_filterMap.2 ⟨⟨c, answer⟩, h, ?_⟩
  rw [hcause]
  rfl

@[simp] theorem refused_append (said said' : Transcript) :
    refused (said ++ said') = said.refused ++ said'.refused := List.filterMap_append

@[simp] theorem statuses_append (said said' : Transcript) :
    statuses (said ++ said') = said.statuses ++ said'.statuses := List.filterMap_append

@[simp] theorem writes_append (said said' : Transcript) :
    writes (said ++ said') = said.writes ++ said'.writes := by
  rw [writes, List.map_append, List.filter_append]
  rfl

/-- Who sends nothing to be written sends no status. -/
theorem statuses_of_writes {said : Transcript} (h : said.writes = []) : said.statuses = [] := by
  refine List.filterMap_eq_nil_iff.2 fun x hx => ?_
  have hwrite := List.filter_eq_nil_iff.1 h x.1 (List.mem_map_of_mem hx)
  generalize x.1 = c at hwrite
  cases c <;> first | rfl | exact absurd rfl hwrite

end Transcript

/-- A call that writes nothing leaves the contents. -/
theorem Contents.Answers.eq_of_isWrite {s t : Contents} {c : Call} {answer : c.Answer}
    (h : s.Answers c answer t) (hwrite : c.isWrite = false) : t = s := by
  cases c with
  | get => exact h.2
  | list => exact h.2
  | patchAll => cases hwrite
  | finalizers => cases hwrite
  | status => cases hwrite
  | event => exact h
  | note => exact h

/-- Who sends nothing to be written leaves the contents. -/
theorem Contents.Answered.eq_of_writes {s t : Contents} {said : Transcript} (h : s.Answered said t)
    (hwrites : said.writes = []) : t = s := by
  induction said generalizing s with
  | nil => exact h
  | cons x said ih =>
    obtain ⟨u, hanswer, hrest⟩ := h
    have hnone := List.filter_eq_nil_iff.1 hwrites
    have hu : u = s := hanswer.eq_of_isWrite (Bool.eq_false_iff.2 (hnone x.1 List.mem_cons_self))
    obtain rfl := hu
    exact ih hrest (List.filter_eq_nil_iff.2 fun c hc => hnone c (List.mem_cons_of_mem _ hc))

end WorkloadBindings
