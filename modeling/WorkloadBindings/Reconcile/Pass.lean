import WorkloadBindings.Reconcile.Call

/-!
# Reconcile passes

A pass brings the world in line with one binding. While the binding lives, its finalizer is put on
it first, then its mutation is carried out on every workload of its subject, and its status tells
the outcome. When it is being deleted, the mutation is undone on every workload that is still there,
and only then the finalizer is taken off. The failure of one workload does not keep the others from
being patched. A replica that does not hold the lease does nothing.

A pass fails because the binding's reference makes no sense, because the workload it names is not
there, because a workload could not be patched, or because some other request failed.
-/

namespace WorkloadBindings

/-! ## Failures -/

/-- Why a pass failed. -/
inductive ReconcileError where
  /-- The reference resolves to no subject. -/
  | malformedSubject (fault : SubjectFault)
  /-- The workload that the subject names is not there. -/
  | subjectMissing (subject : String)
  /-- A workload was not patched. -/
  | patch (resource «namespace» name : String) (cause : ApiFailure)
  /-- Another request failed. -/
  | api (cause : ApiFailure)
  deriving DecidableEq

namespace ReconcileError

/-- The words for a failure. -/
def message : ReconcileError → String
  | malformedSubject fault => fault.message
  | subjectMissing subject => "subject " ++ subject ++ " not found"
  | patch resource ns name cause =>
    "failed to patch " ++ resource ++ " " ++ ns ++ "/" ++ name ++ ": " ++ cause.message
  | api cause => cause.message

/-- Something that the pass was about is not there. -/
def isNotFound : ReconcileError → Bool
  | malformedSubject _ => false
  | subjectMissing _ => true
  | patch _ _ _ cause => cause.isNotFound
  | api cause => cause.isNotFound

end ReconcileError

/-! ## Passes -/

/-- When to look at a binding again. -/
inductive Action where
  /-- After some nanoseconds. -/
  | requeue (delay : Nat)
  /-- When it changes. -/
  | awaitChange
  deriving DecidableEq, Repr

namespace Reconcile

/-- A conversation of a pass with its surroundings. -/
abbrev Talk : Type → Type := Dialogue Call Call.Answer

/-- A part of a pass that may fail, or find that the controller cannot go on. -/
abbrev Step : Type → Type := ExceptT ReconcileError (ExceptT Abort Talk)

/-! ## Steps -/

/-- Makes a call. -/
def ask (c : Call) : Step c.Answer := (Dialogue.call c : Talk c.Answer)

/-- Remembers something. -/
def note (n : Note) : Step Unit := ask (.note n)

/-- Publishes an event about a binding. -/
def publish (r : BindingResource) (type : EventType) (reason text : String) : Step Unit :=
  ask (.event ⟨r.reference, type, reason, some text⟩)

/-- Goes on with what was found, or cannot. -/
def orAbort {α : Type} (found : Except Abort α) : Step α :=
  (ExceptT.mk (pure found) : ExceptT Abort Talk α)

/-- The answer to a request, or its failure. -/
def orFail {α : Type} (answer : Except ApiFailure α) : Step α :=
  match answer with
  | .ok a => pure a
  | .error cause => throw (.api cause)

/-- Carries a part out and goes on with its outcome, be it a failure. -/
def outcome {α : Type} (s : Step α) : Step (Except ReconcileError α) :=
  ExceptT.mk ((fun result => .ok result) <$> s.run)

/-! ## Workloads -/

/-- The workloads of a subject. One that the subject names must be there. -/
def locate (s : Subject) : Step (List Workload) :=
  match s.selection with
  | .name name => do
    match ← ask (.get s.resourceType s.namespace name) with
    | .ok (some w) => pure [w]
    | .ok none => throw (.subjectMissing s.render)
    | .error cause => throw (.api cause)
  | .selector selector => do
    let found : Except ApiFailure (List Workload) ←
      ask (.list s.resourceType s.namespace selector)
    orFail found

/-- The failures of patches, in their order. -/
def patchFailures : List WorkloadPatch → List (Except ApiFailure Unit) → List ReconcileError
  | p :: patches, .error cause :: results =>
    .patch p.type.plural p.namespace p.name cause :: patchFailures patches results
  | _ :: patches, .ok () :: results => patchFailures patches results
  | _, _ => []

/-- Changes every workload that does not have its changed form yet, and tells what failed. -/
def change (c : Change) (k : BindingKind) (m : Mutation) (type : ResourceType)
    (workloads : List Workload) : Step (List ReconcileError) := do
  let patches := workloads.filterMap (WorkloadPatch.forChange? c m type)
  if patches.isEmpty then pure []
  else
    let results : PatchResults patches ← ask (.patchAll patches)
    let failures := patchFailures patches results.val
    note (.patched k c (patches.length - failures.length))
    pure failures

/-! ## Status -/

/-- Writes the status of a binding if it differs from the one before. That the binding is gone is no
failure. -/
def updateStatus (r : BindingResource) (id : BindingId) (prior status : BindingStatus) :
    Step Unit := do
  if prior = status then pure ()
  else
    let answer : Except ApiFailure Unit ← ask (.status id status)
    match answer with
    | .ok () => pure ()
    | .error cause =>
      if cause.isNotFound then pure ()
      else
        publish r .warning Event.updateFailed ("Failed to update status: " ++ cause.message)
        throw (.api cause)

/-! ## Living bindings -/

/-- Binds the workloads of a living binding, and tells what its status becomes and whether that is a
success. -/
def bindSubjects (r : BindingResource) (id : BindingId) (status : BindingStatus)
    (now : Timestamp) : Step (BindingStatus × Except ReconcileError Unit) := do
  match r.subject with
  | .error fault =>
    pure
      (status.markFalse BindingStatus.malformedSubject fault.message now,
        .error (.malformedSubject fault))
  | .ok subject =>
    note (.tracked id subject)
    match ← outcome (locate subject) with
    | .error (.subjectMissing s) =>
      let e := ReconcileError.subjectMissing s
      pure (status.markFalse BindingStatus.subjectMissing e.message now, .error e)
    | .error e => pure (status, .error e)
    | .ok workloads =>
      let m ← orAbort r.mutation
      match ← change .bind r.kind m subject.resourceType workloads with
      | [] => pure (status.markTrue now, .ok ())
      | e :: _ => pure (status.markFalse BindingStatus.bindingFailed e.message now, .error e)

/-- Puts the finalizer on a binding unless it is there. -/
def ensureFinalizer (r : BindingResource) (id : BindingId) : Step Unit := do
  if r.finalizers.contains id.kind.finalizer then pure ()
  else
    let answer : Except ApiFailure Unit ←
      ask (.finalizers id r.metadata.resourceVersion (r.finalizers ++ [id.kind.finalizer]))
    orFail answer

/-- The pass of a living binding. A generation counts as observed only when every workload is
bound. -/
def bind (resync : Nat) (now : Timestamp) (r : BindingResource) (id : BindingId) :
    Step Action := do
  ensureFinalizer r id
  let prior := r.status.getD {}
  let (status, bound) ← bindSubjects r id (prior.prepare now) now
  let status :=
    match bound with
    | .ok () => { status with observedGeneration := r.metadata.generation }
    | .error _ => status
  let updated ← outcome (updateStatus r id prior status)
  match bound, updated with
  | .error e, _ => throw e
  | .ok (), .error e => throw e
  | .ok (), .ok () => pure (.requeue resync)

/-! ## Bindings that are being deleted -/

/-- Undoes a binding on the workloads of its subject; what is not there needs no undoing. -/
def unbindSubjects (r : BindingResource) (subject : Subject) : Step Unit := do
  match ← outcome (locate subject) with
  | .error e => if e.isNotFound then pure () else throw e
  | .ok workloads =>
    let m ← orAbort r.mutation
    let failures ← change .unbind r.kind m subject.resourceType workloads
    match failures.find? fun e => !e.isNotFound with
    | some e => throw e
    | none => pure ()

/-- The message of a binding that is being undone. -/
def undoing : String := "Undoing the binding on its subjects"

/-- The pass of a binding that is being deleted. One whose reference resolves to no subject has
nothing to undo. -/
def finalize (now : Timestamp) (r : BindingResource) (id : BindingId) : Step Action := do
  if !r.finalizers.contains id.kind.finalizer then
    note (.untracked id)
    pure .awaitChange
  else
    let prior := r.status.getD {}
    updateStatus r id prior (prior.markUnknown BindingStatus.finalizing undoing now)
    match r.subject with
    | .ok subject => unbindSubjects r subject
    | .error _ => pure ()
    let answer : Except ApiFailure Unit ←
      ask (.finalizers id none (r.finalizers.filter (· != id.kind.finalizer)))
    orFail answer
    note (.untracked id)
    publish r .normal Event.finalizerRemoved ("Removed finalizer " ++ id.kind.finalizer)
    pure .awaitChange

/-! ## The pass -/

/-- The pass of a binding by the replica that holds the lease. -/
def lead (resync : Nat) (now : Timestamp) (r : BindingResource) : Step Action := do
  let id ← orAbort r.id
  match ← outcome (if r.isDeleting then finalize now r id else bind resync now r id) with
  | .ok action =>
    note (.succeeded id)
    pure action
  | .error e =>
    note (.failed id)
    publish r .warning Event.internalError e.message
    throw e

/-- The pass of a binding: what to do next, or why it failed, unless the controller cannot go on.
Without the lease the binding is left to the replica that holds it. -/
def pass (leads : Bool) (resync : Nat) (now : Timestamp) (r : BindingResource) :
    Talk (Except Abort (Except ReconcileError Action)) :=
  if leads then (lead resync now r).run.run else pure (.ok (.ok (.requeue resync)))

end Reconcile

end WorkloadBindings
