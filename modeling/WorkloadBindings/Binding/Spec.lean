import WorkloadBindings.Binding.Kind
import WorkloadBindings.Subject.Reference

/-!
# Specifications of bindings

What a binding asks for: a reference to workloads, and either a secret with a path to mount it at or
a list of environment variables.
-/

namespace WorkloadBindings

/-- Mounts a secret into workloads. -/
structure SecretBindingSpec where
  subject : SubjectRef
  secret : String
  mountPath : Option String
  deriving DecidableEq

namespace SecretBindingSpec

/-- The wire shape of the specification. -/
def shape : Shape :=
  .declared "SecretBindingSpec" ["subject", "secret", "mountPath"]
    [("mountPath", .elective, .text),
     ("secret", .required, .declared "SecretRef" ["name"] [("name", .required, .text)]),
     ("subject", .required, SubjectRef.shape)]

/-- The specification that a value of its shape writes. -/
def ofJson (j : Json) : SecretBindingSpec where
  subject := SubjectRef.ofJson ((j.get? "subject").getD (.obj []))
  secret := (((j.get? "secret").bind (·.get? "name")).bind Json.str?).getD ""
  mountPath := (j.get? "mountPath").bind Json.str?

/-- The specification as an object. -/
def toJson (s : SecretBindingSpec) : Json :=
  .record
    [("mountPath", s.mountPath.map .str),
     ("secret", some (.obj [("name", .str s.secret)])),
     ("subject", some s.subject.toJson)]

/-- Reads a specification. -/
def decode (j : Json) : Except DecodeError SecretBindingSpec := (shape.conform j).map ofJson

end SecretBindingSpec

/-- A variable that a binding sets. -/
structure EnvEntry where
  name : String
  value : String
  deriving DecidableEq

namespace EnvEntry

/-- The wire shape of a variable. -/
def shape : Shape :=
  .declared "EnvVar" ["name", "value"]
    [("name", .required, .text), ("value", .lenient (.str ""), .text)]

/-- The variable that a value of its shape writes. -/
def ofJson (j : Json) : EnvEntry where
  name := ((j.get? "name").bind Json.str?).getD ""
  value := ((j.get? "value").bind Json.str?).getD ""

/-- The variable as an object. -/
def toJson (e : EnvEntry) : Json := .obj [("name", .str e.name), ("value", .str e.value)]

end EnvEntry

/-- Sets environment variables in workloads. -/
structure EnvBindingSpec where
  subject : SubjectRef
  env : List EnvEntry
  deriving DecidableEq

namespace EnvBindingSpec

/-- The wire shape of the specification. -/
def shape : Shape :=
  .declared "EnvBindingSpec" ["subject", "env"]
    [("env", .required, .list EnvEntry.shape), ("subject", .required, SubjectRef.shape)]

/-- The specification that a value of its shape writes. -/
def ofJson (j : Json) : EnvBindingSpec where
  subject := SubjectRef.ofJson ((j.get? "subject").getD (.obj []))
  env := ((j.get? "env").map fun xs => xs.items.map EnvEntry.ofJson).getD []

/-- The specification as an object. -/
def toJson (s : EnvBindingSpec) : Json :=
  .obj [("env", .arr (s.env.map EnvEntry.toJson)), ("subject", s.subject.toJson)]

/-- Reads a specification. -/
def decode (j : Json) : Except DecodeError EnvBindingSpec := (shape.conform j).map ofJson

end EnvBindingSpec

/-- The specification of a binding of either kind. -/
inductive BindingSpec where
  | secret (spec : SecretBindingSpec)
  | env (spec : EnvBindingSpec)
  deriving DecidableEq

namespace BindingSpec

/-- The kind of the binding. -/
def kind : BindingSpec → BindingKind
  | secret _ => .secret
  | env _ => .env

/-- The reference to the binding's workloads. -/
def subject : BindingSpec → SubjectRef
  | secret spec => spec.subject
  | env spec => spec.subject

/-- The wire shape of the specification of a kind. -/
def shape : BindingKind → Shape
  | .secret => SecretBindingSpec.shape
  | .env => EnvBindingSpec.shape

/-- The specification that a value of the kind's shape writes. -/
def ofJson (k : BindingKind) (j : Json) : BindingSpec :=
  match k with
  | .secret => .secret (SecretBindingSpec.ofJson j)
  | .env => .env (EnvBindingSpec.ofJson j)

/-- The specification as an object. -/
def toJson : BindingSpec → Json
  | secret spec => spec.toJson
  | env spec => spec.toJson

/-- Reads the specification of a kind. -/
def decode (k : BindingKind) (j : Json) : Except DecodeError BindingSpec :=
  ((shape k).conform j).map (ofJson k)

end BindingSpec

end WorkloadBindings
