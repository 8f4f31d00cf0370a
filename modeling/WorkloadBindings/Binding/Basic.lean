import WorkloadBindings.Binding.Spec
import WorkloadBindings.Binding.Status
import WorkloadBindings.Mutation
import WorkloadBindings.Subject.Basic

/-!
# Bindings

`BindingResource` is a binding as the API holds it, `Binding` what the controller acts on: the
identity, the subject that its reference resolves to, and the mutation it asks for.
`Binding.ofResource` leads from one to the other. A resource without a name has no identity, and one
whose name cannot be shortened to that of a volume has no mutation; with either the controller
cannot go on at all.
-/

namespace WorkloadBindings

/-- Why the controller cannot go on with a resource. -/
inductive Abort where
  /-- The resource has no name. -/
  | unnamed
  /-- The name is too long for a volume, and the cut falls inside a character. -/
  | indivisibleName
  deriving DecidableEq, Repr

/-- A reference to an object of the API, as events carry it. -/
structure ObjectReference where
  apiVersion : Option String := none
  fieldPath : Option String := none
  kind : Option String := none
  name : Option String := none
  «namespace» : Option String := none
  resourceVersion : Option String := none
  uid : Option String := none
  deriving DecidableEq

namespace ObjectReference

/-- The wire shape of a reference. -/
def shape : Shape :=
  .api "ObjectReference"
    [("apiVersion", .nullable, .text),
     ("fieldPath", .nullable, .text),
     ("kind", .nullable, .text),
     ("name", .nullable, .text),
     ("namespace", .nullable, .text),
     ("resourceVersion", .nullable, .text),
     ("uid", .nullable, .text)]

/-- The reference that a value of its shape writes. -/
def ofJson (j : Json) : ObjectReference where
  apiVersion := (j.get? "apiVersion").bind Json.str?
  fieldPath := (j.get? "fieldPath").bind Json.str?
  kind := (j.get? "kind").bind Json.str?
  name := (j.get? "name").bind Json.str?
  «namespace» := (j.get? "namespace").bind Json.str?
  resourceVersion := (j.get? "resourceVersion").bind Json.str?
  uid := (j.get? "uid").bind Json.str?

/-- The reference as an object. -/
def toJson (r : ObjectReference) : Json :=
  .record
    [("apiVersion", r.apiVersion.map .str),
     ("fieldPath", r.fieldPath.map .str),
     ("kind", r.kind.map .str),
     ("name", r.name.map .str),
     ("namespace", r.namespace.map .str),
     ("resourceVersion", r.resourceVersion.map .str),
     ("uid", r.uid.map .str)]

/-- Reads a reference. -/
def decode (j : Json) : Except DecodeError ObjectReference := (shape.conform j).map ofJson

end ObjectReference

/-- A binding as the API holds it. -/
structure BindingResource where
  metadata : Metadata
  spec : BindingSpec
  status : Option BindingStatus := none
  deriving DecidableEq

namespace BindingResource

/-- The wire shape of a binding of a kind. -/
def shape (k : BindingKind) : Shape :=
  .declared k.name ["metadata", "spec", "status"]
    [("metadata", .required, Metadata.shape),
     ("spec", .required, BindingSpec.shape k),
     ("status", .nullable, BindingStatus.shape)]

/-- The binding of a kind that a value of the kind's shape writes. -/
def ofJson (k : BindingKind) (j : Json) : BindingResource where
  metadata := Metadata.ofJson ((j.get? "metadata").getD (.obj []))
  spec := BindingSpec.ofJson k ((j.get? "spec").getD (.obj []))
  status := (j.get? "status").map BindingStatus.ofJson

/-- Reads a binding of a kind. -/
def decode (k : BindingKind) (j : Json) : Except DecodeError BindingResource :=
  ((shape k).conform j).map (ofJson k)

/-- The kind of the binding. -/
def kind (r : BindingResource) : BindingKind := r.spec.kind

/-- The binding as an object. -/
def toJson (r : BindingResource) : Json :=
  .record
    [("apiVersion", some (.str BindingKind.apiVersion)),
     ("kind", some (.str r.kind.name)),
     ("metadata", some r.metadata.toJson),
     ("spec", some r.spec.toJson),
     ("status", r.status.map BindingStatus.toJson)]

/-- The namespace, empty when there is none. -/
def namespaceOrEmpty (r : BindingResource) : String := r.metadata.namespaceOrEmpty

/-- The binding is being deleted. -/
def isDeleting (r : BindingResource) : Bool := r.metadata.isDeleting

/-- The finalizers on the binding. -/
def finalizers (r : BindingResource) : List String := r.metadata.finalizers.getD []

/-- The identity of the binding. -/
def id (r : BindingResource) : Except Abort BindingId :=
  match r.metadata.name with
  | some name => .ok ⟨r.kind, r.namespaceOrEmpty, name⟩
  | none => .error .unnamed

/-- The subject that the binding's reference resolves to. -/
def subject (r : BindingResource) : Except SubjectFault Subject :=
  Subject.ofRef r.spec.subject r.namespaceOrEmpty

/-- The mutation that the binding asks for. -/
def mutation (r : BindingResource) : Except Abort Mutation :=
  match r.spec with
  | .secret spec =>
    match r.metadata.name with
    | none => .error .unnamed
    | some name =>
      match Mutation.ofSecret? name spec.secret spec.mountPath with
      | some m => .ok m
      | none => .error .indivisibleName
  | .env spec => .ok (.env (spec.env.map fun e => (e.name, e.value)))

/-- A reference to the binding. -/
def reference (r : BindingResource) : ObjectReference where
  apiVersion := some BindingKind.apiVersion
  kind := some r.kind.name
  name := r.metadata.name
  «namespace» := r.metadata.namespace
  uid := r.metadata.uid

end BindingResource

/-- A binding resolved into the parts that the controller acts on. -/
structure Binding where
  id : BindingId
  subject : Subject
  mutation : Mutation
  deriving DecidableEq

/-- The parts of a binding; what is wrong with its reference counts before its mutation. -/
def Binding.ofResource (r : BindingResource) : Except Abort (Except SubjectFault Binding) := do
  let id ← r.id
  match r.subject with
  | .error fault => .ok (.error fault)
  | .ok subject =>
    let mutation ← r.mutation
    .ok (.ok ⟨id, subject, mutation⟩)

end WorkloadBindings
