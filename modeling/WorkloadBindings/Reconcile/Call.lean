import WorkloadBindings.Api.Failure
import WorkloadBindings.Binding.Basic
import WorkloadBindings.Dialogue
import WorkloadBindings.Json.Patch

/-!
# What a reconcile pass asks of its surroundings

A pass reads and patches workloads, writes the finalizers and the status of its binding, publishes
events, and notes what the controller has to remember. Everything it does is such a `Call`; each
kind of call has its own answers.
-/

namespace WorkloadBindings

/-! ## Events -/

/-- Whether an event is good news. -/
inductive EventType where
  | normal
  | warning
  deriving DecidableEq, Repr

/-- The word for a type of event. -/
def EventType.name : EventType → String
  | normal => "Normal"
  | warning => "Warning"

/-- An event about a binding. -/
structure Event where
  reference : ObjectReference
  type : EventType
  reason : String
  note : Option String
  deriving DecidableEq

namespace Event

/-- The reason of the event that a pass failed. -/
def internalError : String := "InternalError"

/-- The reason of the event that a status could not be written. -/
def updateFailed : String := "UpdateFailed"

/-- The reason of the event that a binding was undone and let go. -/
def finalizerRemoved : String := "FinalizerRemoved"

end Event

/-! ## Patches of workloads -/

/-- What a pass does to the workloads of its binding. -/
inductive Change where
  /-- Carries the binding's mutation out. -/
  | bind
  /-- Undoes it. -/
  | unbind
  deriving DecidableEq, Repr

namespace Change

/-- The word for a change. -/
def name : Change → String
  | bind => "do"
  | unbind => "undo"

/-- The workload after the change. -/
def apply (c : Change) (m : Mutation) (w : Workload) : Workload :=
  match c with
  | bind => m.apply w
  | unbind => m.undo w

end Change

/-- A patch for the workload of a type, a namespace and a name. -/
structure WorkloadPatch where
  type : ResourceType
  «namespace» : String
  name : String
  patch : Patch
  deriving DecidableEq

/-- The patch that brings a workload to its changed form, unless it has that form already. It goes
to the namespace and name that the workload itself carries. -/
def WorkloadPatch.forChange? (c : Change) (m : Mutation) (type : ResourceType) (w : Workload) :
    Option WorkloadPatch :=
  let patch := Json.diff w.toJson (c.apply m w).toJson
  if patch.isEmpty then none
  else some ⟨type, w.metadata.namespaceOrEmpty, w.metadata.name.getD "", patch⟩

/-! ## Calls -/

/-- What a pass tells the controller to remember. -/
inductive Note where
  /-- The binding's subject, as it resolved. -/
  | tracked (id : BindingId) (subject : Subject)
  /-- The binding is gone. -/
  | untracked (id : BindingId)
  /-- So many workloads were patched. -/
  | patched (kind : BindingKind) (change : Change) (count : Nat)
  /-- The pass succeeded. -/
  | succeeded (id : BindingId)
  /-- The pass failed. -/
  | failed (id : BindingId)
  deriving DecidableEq

/-- Something that a pass asks of its surroundings. -/
inductive Call where
  /-- Read the workload with a name. -/
  | get (type : ResourceType) («namespace» name : String)
  /-- Read the workloads that a selector picks. -/
  | list (type : ResourceType) («namespace» : String) (selector : Selector)
  /-- Patch some workloads, all of them whatever becomes of the others, in any order. -/
  | patchAll (patches : List WorkloadPatch)
  /-- Replace the finalizers of a binding, if it still has the resource version that is given. -/
  | finalizers (id : BindingId) (resourceVersion : Option String) (finalizers : List String)
  /-- Write the status of a binding. -/
  | status (id : BindingId) (status : BindingStatus)
  /-- Publish an event; whether that works is of no account. -/
  | event (e : Event)
  /-- Remember something. -/
  | note (n : Note)

/-- What became of some patches, one after the other. -/
abbrev PatchResults (patches : List WorkloadPatch) : Type :=
  { results : List (Except ApiFailure Unit) // results.length = patches.length }

/-- The answers to a call. -/
def Call.Answer : Call → Type
  | .get _ _ _ => Except ApiFailure (Option Workload)
  | .list _ _ _ => Except ApiFailure (List Workload)
  | .patchAll patches => PatchResults patches
  | .finalizers _ _ _ => Except ApiFailure Unit
  | .status _ _ => Except ApiFailure Unit
  | .event _ => Unit
  | .note _ => Unit

end WorkloadBindings
