import WorkloadBindings.Proofs.Reconcile.Safe

/-!
# How conversations end

`Reconcile.Ends` says that a conversation that begins in one world may end in another, with a result:
each of its calls got one of the answers that it may get. What is safe throughout a conversation holds
of every end (`Reconcile.Safe.of_ends`). There is always such an end, for instance the one that a
server brings about which does what it is asked for, and at once (`World.serve`).
-/

namespace WorkloadBindings

namespace Reconcile

variable {α : Type} {s t : World}

/-- A conversation that begins in one world ends with a result in another one. -/
def Ends : Talk α → World → α → World → Prop
  | .done a, s, result, t => result = a ∧ t = s
  | .ask c next, s, result, t => ∃ answer u, World.Completes c s answer u ∧
      Ends (next answer) u result t

/-- What holds at the end of a conversation, however it goes, holds where it ends. -/
theorem Safe.of_ends {waiting : Call → World → Prop} {post : α → World → Prop} {d : Talk α}
    {result : α} (h : Safe waiting post d s) (hends : Ends d s result t) : post result t := by
  induction d generalizing s with
  | done a =>
    obtain ⟨rfl, rfl⟩ := hends
    exact h
  | ask c next ih =>
    obtain ⟨answer, u, hanswer, hends⟩ := hends
    exact ih answer (h.2 answer u hanswer) hends

end Reconcile

namespace World

/-! ## A server -/

/-- The answer to a request to change the binding, and the world after it, when the binding is changed
if it is the one. -/
def serveWrite (s : World) (id : BindingId) (f : BindingResource → BindingResource) :
    Except ApiFailure Unit × World :=
  match s.binding with
  | none => (.error (.refused (.notFound "binding")), s)
  | some r =>
    if r.id = .ok id then
      (.ok (), s.write ((f r).stamped r.metadata.resourceVersion r.metadata.generation))
    else (.error (.refused (.notFound "binding")), s)

/-- The answer to a patch, and the world after it, when the patch is carried out if it can be. -/
def servePatch (s : World) (p : WorkloadPatch) : Except ApiFailure Unit × World :=
  match s.workloads.get? p.claim with
  | none => (.error (.refused (.notFound "workload")), s)
  | some w =>
    match w.toJson.applyPatch p.patch with
    | some j => (.ok (), s.put p.claim (.ofJson j))
    | none => (.error (.refused { message := "patch", reason := "Invalid", code := 422 }), s)

/-- The answers to some patches, and the world after them, when one after the other is carried out.
-/
def servePatches (s : World) : (patches : List WorkloadPatch) → PatchResults patches × World
  | [] => (⟨[], rfl⟩, s)
  | p :: rest =>
    let (answer, t) := s.servePatch p
    let (answers, u) := t.servePatches rest
    (⟨answer :: answers.val, congrArg (· + 1) answers.property⟩, u)

/-- The answer to a call, and the world after it, when the API does what it is asked for. -/
def serve : (c : Call) → World → c.Answer × World
  | .get type ns name, s => (.ok (s.workloads.get? (type.claim ns name)), s)
  | .list type ns selector, s => (.ok (s.picked (type.claim ns "").place selector), s)
  | .patchAll patches, s => s.servePatches patches
  | .finalizers id _ finalizers, s => s.serveWrite id (·.withFinalizers finalizers)
  | .status id status, s => s.serveWrite id (·.withStatus status)
  | .event _, s => ((), s)
  | .note _, s => ((), s)

/-- A binding may be written as the server writes it. -/
theorem writes_serveWrite (s : World) (id : BindingId) (f : BindingResource → BindingResource) :
    s.Writes id f (s.serveWrite id f).1 (s.serveWrite id f).2 := by
  unfold serveWrite
  cases hbinding : s.binding with
  | none => exact ⟨rfl, fun _ r hr => nomatch hbinding.symm.trans hr⟩
  | some r =>
    by_cases hid : r.id = .ok id
    · simp only [if_pos hid]
      exact ⟨r, _, _, hbinding, hid, rfl⟩
    · simp only [if_neg hid]
      refine ⟨rfl, fun _ r' hr' => ?_⟩
      obtain rfl := Option.some.inj (hbinding.symm.trans hr')
      exact hid

/-- A patch may be answered as the server answers it. -/
theorem patches_servePatch (s : World) (p : WorkloadPatch) :
    s.Patches p (s.servePatch p).1 (s.servePatch p).2 := by
  unfold servePatch
  cases hw : s.workloads.get? p.claim with
  | none => exact .failed fun _ => hw
  | some w =>
    cases hj : w.toJson.applyPatch p.patch with
    | none =>
      simp only [hj]
      exact .failed fun h => absurd h (by decide)
    | some j =>
      simp only [hj]
      exact .patched hw hj

/-- Patches may be answered as the server answers them. -/
theorem patchSteps_servePatches (patches : List WorkloadPatch) (before : PatchProgress) (s : World) :
    Relation.ReflTransGen PatchStep (before ++ PatchProgress.start patches, s)
      (before ++ PatchProgress.finish patches (s.servePatches patches).1,
        (s.servePatches patches).2) := by
  induction patches generalizing before s with
  | nil => exact .refl
  | cons p rest ih =>
    have hfirst : PatchStep (before ++ (p, none) :: PatchProgress.start rest, s)
        (before ++ (p, some (s.servePatch p).1) :: PatchProgress.start rest, (s.servePatch p).2) :=
      .answered (s.patches_servePatch p)
    have hrest := ih (before ++ [(p, some (s.servePatch p).1)]) (s.servePatch p).2
    rw [List.append_assoc, List.append_assoc] at hrest
    exact hrest.head hfirst

/-- A call may be answered as the server answers it. -/
theorem completes_serve (c : Call) (s : World) : Completes c s (serve c s).1 (serve c s).2 := by
  cases c with
  | get type ns name => exact Answers.completes (c := .get type ns name) ⟨rfl, rfl⟩
  | list type ns selector => exact Answers.completes (c := .list type ns selector) ⟨.refl _, rfl⟩
  | patchAll patches => exact patchSteps_servePatches patches [] s
  | finalizers id version finalizers =>
    exact Answers.completes (c := .finalizers id version finalizers) (s.writes_serveWrite id _)
  | status id status =>
    exact Answers.completes (c := .status id status) ⟨status, s.writes_serveWrite id _⟩
  | event e => exact Answers.completes (c := .event e) rfl
  | note n => exact Answers.completes (c := .note n) rfl

end World

namespace Reconcile

/-- A conversation may end as it does with the server. -/
theorem ends_run {α : Type} (d : Talk α) (s : World) :
    Ends d s (d.run World.serve s).1 (d.run World.serve s).2 := by
  induction d generalizing s with
  | done a => exact ⟨rfl, rfl⟩
  | ask c next ih => exact ⟨_, _, World.completes_serve c s, ih _ _⟩

end Reconcile

end WorkloadBindings
