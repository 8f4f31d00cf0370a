import WorkloadBindings.Label.Selector

/-!
# References to workloads

A binding declares its workloads by a reference: the kind, and either a name or a label selector, in
a namespace of its own or in that of the binding. A reference is kept as it was written; which ones
make sense is decided in `WorkloadBindings.Subject.Basic`.
-/

namespace WorkloadBindings

/-- The reference to workloads that a binding declares. -/
structure SubjectRef where
  apiVersion : String
  kind : String
  «namespace» : Option String
  name : Option String
  selector : Option Selector
  deriving DecidableEq

namespace SubjectRef

/-- The wire shape of a reference. -/
def shape : Shape :=
  .declared "SubjectRef" ["apiVersion", "kind", "namespace", "name", "selector"]
    [("apiVersion", .required, .text),
     ("kind", .required, .text),
     ("name", .elective, .text),
     ("namespace", .elective, .text),
     ("selector", .elective, Selector.shape)]

/-- The reference that a value of its shape writes. -/
def ofJson (j : Json) : SubjectRef where
  apiVersion := ((j.get? "apiVersion").bind Json.str?).getD ""
  kind := ((j.get? "kind").bind Json.str?).getD ""
  «namespace» := (j.get? "namespace").bind Json.str?
  name := (j.get? "name").bind Json.str?
  selector := (j.get? "selector").map Selector.ofJson

/-- The reference as an object. -/
def toJson (r : SubjectRef) : Json :=
  .record
    [("apiVersion", some (.str r.apiVersion)),
     ("kind", some (.str r.kind)),
     ("name", r.name.map .str),
     ("namespace", r.namespace.map .str),
     ("selector", r.selector.map Selector.toJson)]

/-- Reads a reference. -/
def decode (j : Json) : Except DecodeError SubjectRef := (shape.conform j).map ofJson

end SubjectRef

end WorkloadBindings
