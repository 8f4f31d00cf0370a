import WorkloadBindings.Proofs.Reconcile.World

/-!
# What holds throughout a pass

`Reconcile.Safe` says of a conversation, whatever answers it gets and whatever others do meanwhile,
that a condition on the call and the world holds as long as a call waits for its answer, and another
one on the result and the world at the end. It follows the conversation call by call; `Safe.bind`
follows its parts one after the other. `Step.Safe` is the same of a part that may fail or find that
the controller cannot go on, with a condition for each of these ends and a rule for each way in which
parts are put together.
-/

namespace WorkloadBindings

namespace World

/-- What drifts while patches are on their way is a run of steps of the patches. -/
theorem Drifts.patchSteps {s t : World} (h : s.Drifts t) (progress : PatchProgress) :
    Relation.ReflTransGen PatchStep (progress, s) (progress, t) :=
  h.lift (fun s => (progress, s)) fun _ _ h => PatchStep.outside h

/-- A call may wait for its answer in the world in which it is made. -/
theorem During.refl (c : Call) (s : World) : During c s s := by
  cases c with
  | patchAll patches => exact ⟨_, Relation.ReflTransGen.refl⟩
  | _ => exact Relation.ReflTransGen.refl

/-- Worlds that may be there while a call waits may be there when it is made earlier. -/
theorem During.of_drifts {c : Call} {s s' t : World} (hs : s.Drifts s') (h : During c s' t) :
    During c s t := by
  cases c with
  | patchAll patches =>
    obtain ⟨progress, hsteps⟩ := h
    exact ⟨progress, (hs.patchSteps _).trans hsteps⟩
  | _ => exact hs.trans h

/-- Answers that a call may get it may get when it is made earlier. -/
theorem Completes.of_drifts {c : Call} {s s' t : World} (hs : s.Drifts s') {answer : c.Answer}
    (h : Completes c s' answer t) : Completes c s answer t := by
  cases c with
  | patchAll patches => exact (hs.patchSteps _).trans h
  | _ =>
    obtain ⟨s'', hs'', hanswer⟩ := h
    exact ⟨s'', hs.trans hs'', hanswer⟩

/-- An answer ends the wait for it. -/
theorem Answers.completes {c : Call} {s t : World} {answer : c.Answer}
    (h : s.Answers c answer t) : Completes c s answer t := by
  cases c with
  | patchAll patches => exact h.elim
  | _ => exact ⟨s, Relation.ReflTransGen.refl, h⟩

end World

namespace Reconcile

variable {α β : Type} {waiting : Call → World → Prop}

/-! ## Conversations -/

/-- However a conversation goes that begins in a world, `waiting` holds while a call waits for its
answer, and `post` at the end. -/
def Safe (waiting : Call → World → Prop) (post : α → World → Prop) : Talk α → World → Prop
  | .done a, s => post a s
  | .ask c next, s =>
    (∀ t, World.During c s t → waiting c t) ∧
      ∀ answer t, World.Completes c s answer t → Safe waiting post (next answer) t

/-- A conversation that is safe is safe for less. -/
theorem Safe.mono {waiting' : Call → World → Prop} {post post' : α → World → Prop}
    (hwaiting : ∀ c t, waiting c t → waiting' c t) (hpost : ∀ a t, post a t → post' a t)
    {d : Talk α} {s : World} (h : Safe waiting post d s) : Safe waiting' post' d s := by
  induction d generalizing s with
  | done a => exact hpost a s h
  | ask c next ih =>
    unfold Safe at h ⊢
    exact ⟨fun t ht => hwaiting c t (h.1 t ht), fun answer t ht => ih answer (h.2 answer t ht)⟩

/-- A conversation is safe when its second part is safe wherever its first part ends. -/
theorem Safe.bind {post : β → World → Prop} {d : Talk α} {f : α → Talk β} {s : World}
    (h : Safe waiting (fun a t => Safe waiting post (f a) t) d s) :
    Safe waiting post (d >>= f) s := by
  change Safe waiting post (d.andThen f) s
  induction d generalizing s with
  | done a => exact h
  | ask c next ih =>
    unfold Safe at h
    unfold Dialogue.andThen Safe
    exact ⟨h.1, fun answer t ht => ih answer (h.2 answer t ht)⟩

/-- A conversation that is safe now is safe after others changed the world, if its end is. -/
theorem Safe.of_drifts {post : α → World → Prop}
    (hpost : ∀ a {s t : World}, s.Drifts t → post a s → post a t) {d : Talk α} {s t : World}
    (hst : s.Drifts t) (h : Safe waiting post d s) : Safe waiting post d t := by
  cases d with
  | done a => exact hpost a hst h
  | ask c next =>
    unfold Safe at h ⊢
    refine ⟨fun u hu => h.1 u (.of_drifts hst hu), fun answer u hu => ?_⟩
    exact h.2 answer u (.of_drifts hst hu)

/-! ## Parts of a pass -/

/-- The condition for each of the ends of a part of a pass. -/
def ends (ended : World → Prop) (post : α → World → Prop) (failed : ReconcileError → World → Prop) :
    Except Abort (Except ReconcileError α) → World → Prop
  | .error _, t => ended t
  | .ok (.error e), t => failed e t
  | .ok (.ok a), t => post a t

/-- However a part of a pass goes that begins in a world, `waiting` holds while a call waits for its
answer, and at the end `post` when it succeeds, `failed` when it fails and `ended` when the
controller cannot go on. -/
def Step.Safe (waiting : Call → World → Prop) (ended : World → Prop) (post : α → World → Prop)
    (failed : ReconcileError → World → Prop) (x : Step α) (s : World) : Prop :=
  Reconcile.Safe waiting (ends ended post failed) x.run.run s

namespace Step.Safe

variable {ended : World → Prop} {post : α → World → Prop} {failed : ReconcileError → World → Prop}
  {s : World}

/-- A part that is safe is safe for less. -/
theorem mono {post' : α → World → Prop} {failed' : ReconcileError → World → Prop}
    (hpost : ∀ a t, post a t → post' a t) (hfailed : ∀ e t, failed e t → failed' e t) {x : Step α}
    (h : Step.Safe waiting ended post failed x s) : Step.Safe waiting ended post' failed' x s := by
  refine Reconcile.Safe.mono (fun _ _ ht => ht) (fun r t hr => ?_) h
  match r with
  | .error _ => exact hr
  | .ok (.error e) => exact hfailed e t hr
  | .ok (.ok a) => exact hpost a t hr

/-- A part that only gives a result is safe when the condition for success holds. -/
theorem pure {a : α} (h : post a s) :
    Step.Safe waiting ended post failed (Pure.pure a : Step α) s := h

/-- A part that fails at once is safe when the condition for failure holds. -/
theorem throw {e : ReconcileError} (h : failed e s) :
    Step.Safe waiting ended post failed (MonadExcept.throw e : Step α) s := h

/-- Two parts are safe when the second one is safe wherever the first one succeeds. -/
theorem bind {post : β → World → Prop} {x : Step α} {f : α → Step β}
    (h : Step.Safe waiting ended (fun a t => Step.Safe waiting ended post failed (f a) t) failed x s) :
    Step.Safe waiting ended post failed (x >>= f) s := by
  refine Reconcile.Safe.bind (Reconcile.Safe.mono (fun _ _ ht => ht) (fun r t hr => ?_) h)
  match r with
  | .error _ => exact hr
  | .ok (.error e) => exact hr
  | .ok (.ok a) => exact hr

/-- The outcome of a part is safe when the part is, its failure being a result. -/
theorem outcome {post : Except ReconcileError α → World → Prop} {x : Step α}
    (h : Step.Safe waiting ended (fun a t => post (.ok a) t) (fun e t => post (.error e) t) x s) :
    Step.Safe waiting ended post failed (Reconcile.outcome x) s := by
  refine Reconcile.Safe.bind (Reconcile.Safe.mono (fun _ _ ht => ht) (fun r t hr => ?_) h)
  match r with
  | .error _ => exact hr
  | .ok (.error e) => exact hr
  | .ok (.ok a) => exact hr

/-- Going on with what was found is safe when the conditions for going on and for the end hold. -/
theorem orAbort {found : Except Abort α} (hok : ∀ a, found = .ok a → post a s)
    (herror : ∀ e, found = .error e → ended s) :
    Step.Safe waiting ended post failed (Reconcile.orAbort found) s := by
  cases found with
  | ok a => exact hok a rfl
  | error e => exact herror e rfl

/-- Going on with an answer, or failing with it, is safe when both conditions hold. -/
theorem orFail {answer : Except ApiFailure α} (hok : ∀ a, answer = .ok a → post a s)
    (herror : ∀ e, answer = .error e → failed (.api e) s) :
    Step.Safe waiting ended post failed (Reconcile.orFail answer) s := by
  cases answer with
  | ok a => exact hok a rfl
  | error e => exact herror e rfl

/-- A call is safe when the condition holds while it waits and the next one upon every answer. -/
theorem ask {c : Call} {post : c.Answer → World → Prop}
    (hwaiting : ∀ t, World.During c s t → waiting c t)
    (hanswer : ∀ answer t, World.Completes c s answer t → post answer t) :
    Step.Safe waiting ended post failed (Reconcile.ask c) s :=
  ⟨hwaiting, hanswer⟩

/-- A note is safe when the conditions hold whatever others do meanwhile. -/
theorem note {n : Note} {post : Unit → World → Prop}
    (h : ∀ t, s.Drifts t → waiting (.note n) t ∧ post () t) :
    Step.Safe waiting ended post failed (Reconcile.note n) s := by
  refine ask (fun t ht => (h t ht).1) fun _ t ht => ?_
  obtain ⟨s', hs', rfl⟩ := ht
  exact (h t hs').2

/-- An event is safe when the conditions hold whatever others do meanwhile. -/
theorem publish {r : BindingResource} {type : EventType} {reason text : String}
    {post : Unit → World → Prop}
    (h : ∀ t, s.Drifts t → waiting (.event ⟨r.reference, type, reason, some text⟩) t ∧ post () t) :
    Step.Safe waiting ended post failed (Reconcile.publish r type reason text) s := by
  refine ask (fun t ht => (h t ht).1) fun _ t ht => ?_
  obtain ⟨s', hs', rfl⟩ := ht
  exact (h t hs').2

end Step.Safe

end Reconcile

end WorkloadBindings
