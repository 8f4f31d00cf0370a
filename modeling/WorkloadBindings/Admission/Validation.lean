import WorkloadBindings.Admission.Response
import WorkloadBindings.Index.Dispatch

/-!
# Validating bindings

A binding is only let in when the controller will be able to act on it: its reference resolves to a
subject, what it asks for can be carried out, and no other binding of its kind names the same
workload.
-/

namespace WorkloadBindings

/-- The text is a list of parts between slashes. -/
def pathSegments (path : String) : List (List Char) :=
  path.toList.foldr
    (fun c segments =>
      match c, segments with
      | '/', segments => [] :: segments
      | c, segment :: rest => (c :: segment) :: rest
      | c, [] => [[c]])
    [[]]

namespace SecretBindingSpec

/-- The path, if given, starts at the root and leads nowhere upwards. -/
def validateMountPath (path : String) : Except Denial Unit :=
  if path.toList.head? ≠ some '/' then .error (.relativeMountPath path)
  else if (pathSegments path).contains ['.', '.'] then .error (.escapingMountPath path)
  else .ok ()

/-- What the binding asks for can be carried out: the secret has a name, and the path, if given, is
one to mount at. -/
def validate (s : SecretBindingSpec) : Except Denial Unit :=
  if s.secret = "" then .error .emptySecretName
  else
    match s.mountPath with
    | none => .ok ()
    | some path => validateMountPath path

end SecretBindingSpec

namespace EnvBindingSpec

/-- The variables have names, none of them twice and none among those `seen` before. -/
def validateNames (seen : List String) : List EnvEntry → Except Denial Unit
  | [] => .ok ()
  | v :: rest =>
    if v.name = "" then .error .unnamedVariable
    else if seen.contains v.name then .error (.duplicateVariable v.name)
    else validateNames (v.name :: seen) rest

/-- What the binding asks for can be carried out: there are variables, and their names are distinct
and not empty. -/
def validate (s : EnvBindingSpec) : Except Denial Unit :=
  if s.env.isEmpty then .error .noVariables else validateNames [] s.env

end EnvBindingSpec

/-- What a binding asks for can be carried out. -/
def BindingSpec.validate : BindingSpec → Except Denial Unit
  | secret spec => spec.validate
  | env spec => spec.validate

namespace Snapshot

/-- No binding of its kind other than a binding itself names the subject. -/
def checkClaim (s : Snapshot) (id : BindingId) (subject : Subject) : Except Denial Unit :=
  match subject.name? with
  | none => .ok ()
  | some name =>
    match s.exactClaim id.kind ⟨subject.place, name⟩ with
    | none => .ok ()
    | some holder => if holder = id then .ok () else .error (.alreadyBound subject holder)

/-- A binding is let in beside those of the snapshot; the subject it resolves to. -/
def validate (s : Snapshot) (id : BindingId) (spec : BindingSpec) : Except Denial Subject :=
  match Subject.ofRef spec.subject id.namespace with
  | .error fault => .error (.subject fault)
  | .ok subject => do
    spec.validate
    s.checkClaim id subject
    .ok subject

end Snapshot

end WorkloadBindings
