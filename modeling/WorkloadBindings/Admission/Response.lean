import WorkloadBindings.Admission.Request
import WorkloadBindings.Binding.Basic
import WorkloadBindings.Json.Patch

/-!
# Answers to requests for admission

An answer allows what was asked for, allows it with a patch of the object, or denies it for a
reason. A review that cannot be answered is told so.
-/

namespace WorkloadBindings

/-- Why something is denied. -/
inductive Denial where
  /-- There is no object to look at. -/
  | missingObject
  /-- The object has no specification. -/
  | missingSpec
  /-- The object is not what its type says. -/
  | undecodable (cause : DecodeError)
  /-- The reference to the workloads resolves to no subject. -/
  | subject (fault : SubjectFault)
  /-- The secret has an empty name. -/
  | emptySecretName
  /-- The path to mount a secret at does not start at the root. -/
  | relativeMountPath (path : String)
  /-- The path to mount a secret at leads upwards. -/
  | escapingMountPath (path : String)
  /-- There are no variables to set. -/
  | noVariables
  /-- A variable has an empty name. -/
  | unnamedVariable
  /-- A variable is set twice. -/
  | duplicateVariable (name : String)
  /-- Another binding of the same kind names the workload already. -/
  | alreadyBound (subject : Subject) (holder : BindingId)
  deriving DecidableEq

/-- The words for a denial. -/
def Denial.message : Denial → String
  | missingObject => "admission request missing 'object'"
  | missingSpec => "admission request missing 'spec'"
  | undecodable cause => cause.message
  | subject fault => fault.message
  | emptySecretName => "secret name must not be empty"
  | relativeMountPath path => "mountPath must be absolute: " ++ path
  | escapingMountPath path => "mountPath must not contain '..': " ++ path
  | noVariables => "env must not be empty"
  | unnamedVariable => "env var name must not be empty"
  | duplicateVariable name => "duplicate env var: " ++ name
  | alreadyBound s holder =>
    "subject " ++ s.render ++ " is already bound by " ++ holder.render

/-- What is decided about a request. -/
inductive Verdict where
  | allowed
  /-- Allowed, with a patch of the object that is not empty. -/
  | patched (patch : Patch)
  | denied (reason : Denial)
  deriving DecidableEq

namespace Verdict

/-- The verdict allows what was asked for. -/
def isAllowed : Verdict → Bool
  | denied _ => false
  | _ => true

/-- The patch of the object. -/
def patch? : Verdict → Option Patch
  | patched p => some p
  | _ => none

/-- The status of an answer with the verdict. -/
def status : Verdict → Json
  | denied reason => .obj [("message", .str reason.message)]
  | _ => .obj []

end Verdict

/-- An answer to a review. -/
inductive AdmissionResponse where
  /-- The request was decided. -/
  | decided (review : ReviewType) (uid : String) (verdict : Verdict)
  /-- The review cannot be answered. -/
  | invalid (fault : ReviewFault)
  deriving DecidableEq

namespace AdmissionResponse

/-- The type of a review that cannot be answered. -/
def invalidType : ReviewType := ⟨"admission.k8s.io/v1beta1", "AdmissionReview"⟩

/-- The type of the answer's review. -/
def type : AdmissionResponse → ReviewType
  | decided review _ _ => review
  | invalid _ => invalidType

/-- The answer allows what was asked for. -/
def isAllowed : AdmissionResponse → Bool
  | decided _ _ verdict => verdict.isAllowed
  | invalid _ => false

/-- The patch of the object. -/
def patch? : AdmissionResponse → Option Patch
  | decided _ _ verdict => verdict.patch?
  | invalid _ => none

/-- The answer itself, as an object; the patch stands in it as its list of operations. -/
def content (r : AdmissionResponse) : Json :=
  .record
    [("allowed", some (.bool r.isAllowed)),
     ("patch", r.patch?.map Patch.toJson),
     ("patchType", r.patch?.map fun _ => .str "JSONPatch"),
     ("status",
       match r with
       | decided _ _ verdict => some verdict.status
       | invalid fault =>
         some (.obj
           [("message", .str fault.message), ("reason", .str "InvalidRequest"),
            ("status", .str "Failure")])),
     ("uid",
       match r with
       | decided _ uid _ => some (.str uid)
       | invalid _ => some (.str ""))]

/-- The review with the answer, as an object. -/
def toJson (r : AdmissionResponse) : Json :=
  .obj
    [("apiVersion", .str r.type.apiVersion), ("kind", .str r.type.kind),
     ("response", r.content)]

end AdmissionResponse

end WorkloadBindings
