import WorkloadBindings.Admission.Validation

/-!
# Deciding about requests for admission

One webhook changes workloads as they are written: the bindings that apply to a workload are carried
out on it, and the differences become the patch of the answer. Only a workload that cannot be read
is denied. The other webhook validates bindings as they are written.
-/

namespace WorkloadBindings

/-- The workload with the mutations of some bindings: undone while it is being deleted, and else
carried out. -/
def Binding.carryOut (bindings : List Binding) (w : Workload) : Workload :=
  bindings.foldl
    (fun desired b => if w.isDeleting then b.mutation.undo desired else b.mutation.apply desired) w

namespace AdmissionRequest

/-! ## Workloads -/

/-- The workload that is asked about. -/
def workload (r : AdmissionRequest) : Except Denial Workload :=
  match r.object with
  | none => .error .missingObject
  | some object =>
    match Workload.decode object with
    | .error cause => .error (.undecodable cause)
    | .ok w => .ok w

/-- What the selection of the workload depends on. What the request says about the namespace counts
before what the workload says, and with the name it is the other way round. -/
def target (r : AdmissionRequest) (w : Workload) : Target where
  groupKind := ⟨r.type.group, r.type.kind⟩
  «namespace» := (r.namespace.or w.metadata.namespace).getD ""
  name := w.metadata.name.getD r.name
  labels := w.metadata.labelSet

/-- The workload as the bindings of a snapshot want it. -/
def desired (s : Snapshot) (r : AdmissionRequest) (w : Workload) : Workload :=
  Binding.carryOut (s.lookup (r.target w)) w

/-- The patch that turns a workload into what the bindings of a snapshot want. -/
def patchFor (s : Snapshot) (r : AdmissionRequest) (w : Workload) : Patch :=
  Json.diff w.toJson (r.desired s w).toJson

/-- The verdict on a workload as it is written. -/
def mutate (s : Snapshot) (r : AdmissionRequest) : Verdict :=
  if r.operation.isWrite then
    match r.workload with
    | .error reason => .denied reason
    | .ok w =>
      let patch := r.patchFor s w
      if patch.isEmpty then .allowed else .patched patch
  else .allowed

/-! ## Bindings -/

/-- Two words are the same but for the case of ASCII letters. -/
def sameWord (a b : String) : Bool := a.toList.map Char.toLower == b.toList.map Char.toLower

/-- The kind of binding that is asked about. -/
def bindingKind? (r : AdmissionRequest) : Option BindingKind :=
  BindingKind.all.find? fun k =>
    sameWord r.type.group BindingKind.group && sameWord r.type.kind k.name

/-- The identity of the binding that an object is, and its specification. -/
def binding (k : BindingKind) (r : AdmissionRequest) : Except Denial (BindingId × BindingSpec) :=
  match r.object with
  | none => .error .missingObject
  | some object =>
    match object.get? "spec" with
    | none => .error .missingSpec
    | some spec =>
      match BindingSpec.decode k spec with
      | .error cause => .error (.undecodable cause)
      | .ok spec =>
        let metadata := Metadata.ofJson ((object.get? "metadata").getD (.obj []))
        .ok (⟨k, metadata.namespaceOrEmpty, metadata.nameAny⟩, spec)

/-- The verdict on a binding of a kind as it is written. -/
def validate (s : Snapshot) (k : BindingKind) (r : AdmissionRequest) : Verdict :=
  if r.operation.isWrite then
    match r.binding k with
    | .error reason => .denied reason
    | .ok (id, spec) =>
      match s.validate id spec with
      | .error reason => .denied reason
      | .ok _ => .allowed
  else .allowed

end AdmissionRequest

/-- A webhook of the controller. -/
inductive AdmissionWebhook where
  /-- Changes workloads. -/
  | mutate
  /-- Validates bindings. -/
  | validate
  deriving DecidableEq, Repr

namespace AdmissionWebhook

/-- The word for a webhook. -/
def name : AdmissionWebhook → String
  | mutate => "mutate"
  | validate => "validate"

/-- The answer of a webhook to a request. -/
def respond (s : Snapshot) (hook : AdmissionWebhook) (r : AdmissionRequest) : AdmissionResponse :=
  match hook with
  | mutate => .decided r.review r.uid (r.mutate s)
  | validate =>
    match r.bindingKind? with
    | some k => .decided r.review r.uid (r.validate s k)
    | none => .invalid (.unsupported r.type)

end AdmissionWebhook

end WorkloadBindings
