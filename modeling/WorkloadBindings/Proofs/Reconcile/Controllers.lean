import Mathlib.Logic.Relation
import WorkloadBindings.Proofs.Reconcile.Remembered

/-!
# Runs of the controllers

A `ControllerRun` is what the controllers of both kinds do over time with the memory that they share:
passes of any bindings begin, by this replica as the leader or not, and are answered call by call in
any way, all of them side by side, and failures ask for delays. Every pass that began is followed as
far as it was answered (`ControllerTurn.IsFrom`), which each step of a run keeps
(`ControllerRun.IsSound.step`). What happened is kept, the last thing first, so that what the memory
holds can be told from it.
-/

namespace WorkloadBindings

open Reconcile

/-- The end of a pass. -/
abbrev PassEnd : Type := Except Abort (Except ReconcileError Action)

/-! ## Turns -/

/-- A pass that began: who led then, the binding, what was said in it, and what is left. -/
structure ControllerTurn where
  leads : Bool
  binding : BindingResource
  said : Transcript
  rest : Talk PassEnd

namespace ControllerTurn

/-- A pass that begins. -/
def begun (p : ReconcileParams) (leads : Bool) (now : Timestamp) (r : BindingResource) :
    ControllerTurn :=
  ⟨leads, r, [], pass leads p.resync now r⟩

/-- The turn with an answer to the call that it waits for. -/
def answered (turn : ControllerTurn) (c : Call) (next : c.Answer → Talk PassEnd)
    (answer : c.Answer) : ControllerTurn :=
  { turn with said := turn.said ++ [⟨c, answer⟩], rest := next answer }

/-- The turn is of the binding with an identity. -/
def isOf (turn : ControllerTurn) (id : BindingId) : Bool :=
  match turn.binding.id with
  | .ok id' => id' == id
  | .error _ => false

/-- The pass is over, and succeeded as that of the leader. -/
def hasSucceeded (turn : ControllerTurn) : Bool :=
  turn.leads &&
    match turn.rest with
    | .done (.ok (.ok _)) => true
    | _ => false

/-- The turn is a pass of its binding, followed as far as it was answered. -/
def IsFrom (p : ReconcileParams) (turn : ControllerTurn) : Prop :=
  ∃ now, (pass turn.leads p.resync now turn.binding).Leaves turn.said turn.rest

variable {p : ReconcileParams} {turn : ControllerTurn} {id : BindingId}

/-- The turn is of the binding that its resource identifies. -/
theorem isOf_iff : turn.isOf id = true ↔ turn.binding.id = .ok id := by
  unfold isOf
  cases turn.binding.id <;> simp

/-- A pass succeeded when it led and came to an action. -/
theorem hasSucceeded_iff : turn.hasSucceeded = true ↔
    turn.leads = true ∧ ∃ action, turn.rest = .done (.ok (.ok action)) := by
  unfold hasSucceeded
  rw [Bool.and_eq_true, and_congr_right_iff]
  intro _
  split
  · rename_i action hrest
    exact iff_of_true rfl ⟨action, hrest⟩
  · rename_i hnone
    exact iff_of_false Bool.false_ne_true fun ⟨action, hrest⟩ => hnone action hrest

/-- A pass that begins is from the beginning. -/
theorem isFrom_begun (p : ReconcileParams) (leads : Bool) (now : Timestamp) (r : BindingResource) :
    (begun p leads now r).IsFrom p := ⟨now, rfl⟩

/-- A turn that is answered is still a pass of its binding. -/
theorem IsFrom.answered (h : turn.IsFrom p) {c : Call} {next : c.Answer → Talk PassEnd}
    (hrest : turn.rest = .ask c next) (answer : c.Answer) :
    (turn.answered c next answer).IsFrom p := by
  obtain ⟨now, hleaves⟩ := h
  rw [hrest] at hleaves
  exact ⟨now, hleaves.answered answer⟩

/-- Without the lease a pass says nothing, and is over. -/
theorem IsFrom.of_follower (h : turn.IsFrom p) (hleads : turn.leads = false) :
    turn.said = [] ∧ turn.rest = .done (.ok (.ok (.requeue p.resync))) := by
  obtain ⟨now, hleaves⟩ := h
  rw [hleads] at hleaves
  exact Dialogue.leaves_done_iff.1 hleaves

/-- A binding without a name stops the controller at once. -/
theorem IsFrom.of_unnamed (h : turn.IsFrom p) (hleads : turn.leads = true) {abort : Abort}
    (hid : turn.binding.id = .error abort) : turn.said = [] ∧ turn.rest = .done (.error abort) := by
  obtain ⟨now, hleaves⟩ := h
  rw [hleads] at hleaves
  have hlead : (lead p.resync now turn.binding).run.run.Leaves turn.said turn.rest := hleaves
  unfold lead at hlead
  rw [hid] at hlead
  exact Dialogue.leaves_done_iff.1 hlead

section

variable (h : turn.IsFrom p) (hleads : turn.leads = true) (hid : turn.binding.id = .ok id)

include h hleads hid

/-- What was said in a pass of the leader could be said then. -/
theorem IsFrom.maySay {before after : Transcript} {c : Call} {answer : c.Answer}
    (hsaid : turn.said = before ++ ⟨c, answer⟩ :: after) : MaySay turn.binding id before.pivots c := by
  obtain ⟨now, hleaves⟩ := h
  rw [hleads, hsaid] at hleaves
  exact (pass_obeys hid p.resync now).call_of_leaves hleaves

/-- What a pass of the leader asks for may be said. -/
theorem IsFrom.maySay_next {c : Call} {next : c.Answer → Talk PassEnd}
    (hrest : turn.rest = .ask c next) : MaySay turn.binding id turn.said.pivots c := by
  obtain ⟨now, hleaves⟩ := h
  rw [hleads, hrest] at hleaves
  exact ((pass_obeys hid p.resync now).of_leaves hleaves).1

/-- A pass of the leader ends as it may. -/
theorem IsFrom.mayEnd {ended : PassEnd} (hrest : turn.rest = .done ended) :
    MayEnd turn.binding id turn.said.pivots ended := by
  obtain ⟨now, hleaves⟩ := h
  rw [hleads, hrest] at hleaves
  exact (pass_obeys hid p.resync now).of_leaves hleaves

end

/-- A call is made only in a pass of the leader for a binding with a name. -/
theorem IsFrom.exists_id (h : turn.IsFrom p) {c : Call} {next : c.Answer → Talk PassEnd}
    (hrest : turn.rest = .ask c next) : turn.leads = true ∧ ∃ id, turn.binding.id = .ok id := by
  cases hleads : turn.leads with
  | false =>
    have hend := (h.of_follower hleads).2
    rw [hrest] at hend
    cases hend
  | true =>
    refine ⟨rfl, ?_⟩
    cases hid : turn.binding.id with
    | error abort =>
      have hend := (h.of_unnamed hleads hid).2
      rw [hrest] at hend
      cases hend
    | ok id => exact ⟨id, rfl⟩

end ControllerTurn

/-! ## Runs -/

/-- Something that happened: a pass began or got an answer, and went on as this turn, or a failure of a
binding asked for a delay and got one. -/
inductive Occurrence where
  | went (turn : ControllerTurn)
  | delayed (id : BindingId) (delay : Nat)

/-- The memory of the controllers, the passes that began, and what happened, the last thing first. -/
structure ControllerRun where
  memory : Memory := {}
  turns : List ControllerTurn := []
  past : List Occurrence := []

namespace ControllerRun

/-- The run with a pass that begins. -/
def begun (c : ControllerRun) (turn : ControllerTurn) : ControllerRun :=
  { c with turns := c.turns ++ [turn], past := .went turn :: c.past }

/-- The run with a turn, among others, that got an answer to a call. -/
def answered (c : ControllerRun) (call : Call) (before : List ControllerTurn) (turn : ControllerTurn)
    (after : List ControllerTurn) : ControllerRun where
  memory := c.memory.afterCall call
  turns := before ++ turn :: after
  past := .went turn :: c.past

/-- The run with a delay for a failure of a binding. -/
def delayed (p : ReconcileParams) (c : ControllerRun) (id : BindingId) : ControllerRun :=
  { c with
    memory := (c.memory.backoff p id).2
    past := .delayed id (c.memory.backoff p id).1 :: c.past }

/-- A step of a run. -/
inductive Step (p : ReconcileParams) : ControllerRun → ControllerRun → Prop where
  /-- A pass begins. -/
  | began {c : ControllerRun} (leads : Bool) (now : Timestamp) (r : BindingResource) :
      Step p c (c.begun (.begun p leads now r))
  /-- A pass gets an answer to the call that it waits for, and a note is taken. -/
  | answered {c : ControllerRun} {before after : List ControllerTurn} {turn : ControllerTurn}
      {call : Call} {next : call.Answer → Talk PassEnd} (hturns : c.turns = before ++ turn :: after)
      (hrest : turn.rest = .ask call next) (answer : call.Answer) :
      Step p c (c.answered call before (turn.answered call next answer) after)
  /-- A failure of a binding asks for a delay. -/
  | delayed {c : ControllerRun} (id : BindingId) : Step p c (c.delayed p id)

/-- Every turn is a pass of its binding, as it is now and as it was. -/
structure IsSound (p : ReconcileParams) (c : ControllerRun) : Prop where
  turns : ∀ turn ∈ c.turns, turn.IsFrom p
  past : ∀ turn, .went turn ∈ c.past → turn.IsFrom p

variable {p : ReconcileParams} {c c' : ControllerRun}

/-- A step of a run keeps it sound. -/
theorem IsSound.step (h : c.IsSound p) (hstep : Step p c c') : c'.IsSound p := by
  cases hstep with
  | began leads now r =>
    have hturn := ControllerTurn.isFrom_begun p leads now r
    refine ⟨List.forall_mem_append.2 ⟨h.turns, by simpa using hturn⟩, fun turn hmem => ?_⟩
    rcases List.mem_cons.1 hmem with heq | hmem
    · exact Occurrence.went.inj heq ▸ hturn
    · exact h.past turn hmem
  | answered hturns hrest answer =>
    obtain ⟨hbefore, hafter⟩ := List.forall_mem_append.1 (hturns ▸ h.turns)
    obtain ⟨hturn, hafter⟩ := List.forall_mem_cons.1 hafter
    have hanswered := hturn.answered hrest answer
    refine ⟨List.forall_mem_append.2 ⟨hbefore, List.forall_mem_cons.2 ⟨hanswered, hafter⟩⟩,
      fun turn hmem => ?_⟩
    rcases List.mem_cons.1 hmem with heq | hmem
    · exact Occurrence.went.inj heq ▸ hanswered
    · exact h.past turn hmem
  | delayed id =>
    refine ⟨h.turns, fun turn hmem => ?_⟩
    rcases List.mem_cons.1 hmem with heq | hmem
    · cases heq
    · exact h.past turn hmem

/-- A run from the beginning is sound. -/
theorem isSound_of_reachable (h : Relation.ReflTransGen (Step p) {} c) : c.IsSound p := by
  induction h with
  | refl => exact ⟨List.forall_mem_nil _, fun _ hmem => nomatch hmem⟩
  | tail _ hstep ih => exact ih.step hstep

/-- What holds at the beginning, and is kept by every step of a sound run, holds of every run. -/
theorem of_reachable {P : ControllerRun → Prop} (hinit : P {})
    (hstep : ∀ c c', c.IsSound p → P c → Step p c c' → P c')
    (h : Relation.ReflTransGen (Step p) {} c) : P c := by
  induction h with
  | refl => exact hinit
  | tail hreach hlast ih => exact hstep _ _ (isSound_of_reachable hreach) ih hlast

/-! ## Passes that are carried out -/

end ControllerRun

/-- The delays of the controllers when no others are given. -/
def usualDelays : ReconcileParams where
  resync := ofMillis 300000
  backoffMin := ofMillis 500
  backoffMax := ofMillis 300000

/-- One and the same answer to every request; nothing is there. -/
def Call.uniform (answer : Except ApiFailure Unit) : (c : Call) → c.Answer
  | .get _ _ _ => (answer.map fun _ => none : Except ApiFailure (Option Workload))
  | .list _ _ _ => (answer.map fun _ => [] : Except ApiFailure (List Workload))
  | .patchAll patches => ⟨patches.map fun _ => answer, List.length_map _⟩
  | .finalizers _ _ _ | .status _ _ => answer
  | .event _ | .note _ => ()

namespace ControllerRun

variable {p : ReconcileParams}

/-- The run in which the pass that began last gets the answer to its call, if it waits for one. -/
def answeredLast (answers : (call : Call) → call.Answer) (c : ControllerRun) : ControllerRun :=
  match c.turns.getLast? with
  | none => c
  | some turn =>
    match turn.rest with
    | .ask call next => c.answered call c.turns.dropLast (turn.answered call next (answers call)) []
    | .done _ => c

/-- The run in which a pass begins and gets the answers to some of its calls. -/
def carried (p : ReconcileParams) (leads : Bool) (r : BindingResource)
    (answers : (call : Call) → call.Answer) : Nat → ControllerRun → ControllerRun
  | 0, c => c.begun (.begun p leads ⟨0, 0⟩ r)
  | n + 1, c => (c.carried p leads r answers n).answeredLast answers

/-- A run may go on with the answer to the call of the pass that began last. -/
theorem reaches_answeredLast (answers : (call : Call) → call.Answer) (c : ControllerRun) :
    Relation.ReflTransGen (Step p) c (c.answeredLast answers) := by
  unfold answeredLast
  split
  · exact .refl
  · rename_i turn hturn
    split
    · rename_i call next hrest
      have hturns : c.turns = c.turns.dropLast ++ [turn] :=
        (List.dropLast_append_getLast? turn hturn).symm
      exact .single (.answered hturns hrest (answers call))
    · exact .refl

/-- A run may go on with a pass that begins and gets some answers. -/
theorem reaches_carried (leads : Bool) (r : BindingResource) (answers : (call : Call) → call.Answer)
    (n : Nat) (c : ControllerRun) :
    Relation.ReflTransGen (Step p) c (c.carried p leads r answers n) := by
  induction n with
  | zero => exact .single (.began leads ⟨0, 0⟩ r)
  | succ n ih => exact ih.trans (reaches_answeredLast answers _)

end ControllerRun

end WorkloadBindings
