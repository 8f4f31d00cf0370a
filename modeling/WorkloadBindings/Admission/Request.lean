import WorkloadBindings.Json.ShapeReader
import WorkloadBindings.Resource.Kind
import WorkloadBindings.Resource.Metadata

/-!
# Requests for admission

Before the API stores an object it asks the webhooks of the controller about it. Such a review has
a type of its own, which the answer repeats, and a request that says what is to be done with which
object. `AdmissionRequest.read` reads the request out of the text of a review.
-/

namespace WorkloadBindings

/-- What is to be done with an object. -/
inductive Operation where
  | create
  | update
  | delete
  | connect
  deriving DecidableEq, Repr

namespace Operation

/-- The operations, in the order in which messages list them. -/
def all : List Operation := [create, update, delete, connect]

/-- The word for an operation. -/
def name : Operation → String
  | create => "CREATE"
  | update => "UPDATE"
  | delete => "DELETE"
  | connect => "CONNECT"

/-- The operation that a word names. -/
def ofName? (word : String) : Option Operation := all.find? fun o => o.name == word

/-- The operation stores an object. -/
def isWrite : Operation → Bool
  | create | update => true
  | delete | connect => false

end Operation

/-- The type of a review. -/
structure ReviewType where
  apiVersion : String
  kind : String
  deriving DecidableEq, Repr

/-- A question whether something may be done with an object. -/
structure AdmissionRequest where
  review : ReviewType
  /-- What the answer refers to. -/
  uid : String
  /-- The type of the object. -/
  type : ResourceType
  /-- The name of the object, empty when it is still to be generated. -/
  name : String
  «namespace» : Option String
  operation : Operation
  /-- The object, with its metadata in written form. -/
  object : Option Json
  deriving DecidableEq

/-- Why a review cannot be answered. -/
inductive ReviewFault where
  /-- The text is no review. -/
  | undecodable (cause : DecodeError)
  /-- The review has no request. -/
  | noRequest
  /-- The request is about a type of object that nobody here knows. -/
  | unsupported (type : ResourceType)
  deriving DecidableEq

/-- The words for what is wrong with a review. -/
def ReviewFault.message : ReviewFault → String
  | undecodable cause => cause.message
  | noRequest => "failed to convert AdmissionReview into AdmissionRequest"
  | unsupported type =>
    "unsupported resource type: " ++ type.group ++ "." ++ type.version ++ "." ++ type.kind

namespace AdmissionRequest

/-! ## Wire shapes -/

/-- The wire shape of a kind in a version. -/
def kindShape : Shape :=
  .declared "GroupVersionKind" ["group", "version", "kind"]
    [("group", .required, .text), ("kind", .required, .text), ("version", .required, .text)]

/-- The wire shape of a plural in a version. -/
def resourceShape : Shape :=
  .declared "GroupVersionResource" ["group", "version", "resource"]
    [("group", .required, .text), ("resource", .required, .text), ("version", .required, .text)]

/-- The wire shape of a user. -/
def userShape : Shape :=
  .api "UserInfo"
    [("extra", .nullable, .map (.list .text)),
     ("groups", .nullable, .list .text),
     ("uid", .nullable, .text),
     ("username", .nullable, .text)]

/-- The wire shape of a request. -/
def shape : Shape :=
  .declared "AdmissionRequest"
    ["uid", "kind", "resource", "subResource", "requestKind", "requestResource",
     "requestSubResource", "name", "namespace", "operation", "userInfo", "object", "oldObject",
     "dryRun", "options"]
    [("dryRun", .lenient (.bool false), .flag),
     ("kind", .required, kindShape),
     ("name", .lenient (.str ""), .text),
     ("namespace", .elective, .text),
     ("object", .nullable, Dynamic.shape),
     ("oldObject", .nullable, Dynamic.shape),
     ("operation", .required, .choice (Operation.all.map Operation.name)),
     ("options", .nullable, .any),
     ("requestKind", .elective, kindShape),
     ("requestResource", .elective, resourceShape),
     ("requestSubResource", .elective, .text),
     ("resource", .required, resourceShape),
     ("subResource", .elective, .text),
     ("uid", .required, .text),
     ("userInfo", .required, userShape)]

/-- The wire shape of one of the causes of a status. -/
def causeShape : Shape :=
  .declared "StatusCause" ["reason", "message", "field"]
    [("field", .lenient (.str ""), .text),
     ("message", .lenient (.str ""), .text),
     ("reason", .lenient (.str ""), .text)]

/-- The wire shape of what a status is about. -/
def detailsShape : Shape :=
  .declared "StatusDetails" ["name", "group", "kind", "uid", "causes", "retryAfterSeconds"]
    [("causes", .lenient (.arr []), .list causeShape),
     ("group", .lenient (.str ""), .text),
     ("kind", .lenient (.str ""), .text),
     ("name", .lenient (.str ""), .text),
     ("retryAfterSeconds", .lenient (.int 0), Shape.nat32),
     ("uid", .lenient (.str ""), .text)]

/-- The wire shape of the status in an answer. -/
def statusShape : Shape :=
  .declared "Status" ["status", "code", "message", "reason", "details"]
    [("code", .lenient (.int 0), Shape.nat16),
     ("details", .elective, detailsShape),
     ("message", .lenient (.str ""), .text),
     ("reason", .lenient (.str ""), .text),
     ("status", .elective, .choice ["Success", "Failure"])]

/-- The wire shape of an answer, which a review with a request should not have yet. -/
def answerShape : Shape :=
  .declared "AdmissionResponse"
    ["uid", "allowed", "status", "patch", "patchType", "auditAnnotations", "warnings"]
    [("allowed", .required, .flag),
     ("auditAnnotations", .lenient (.obj []), .map .text),
     ("patch", .nullable, .list (.integer "u8" 0 255)),
     ("patchType", .nullable, .choice ["JSONPatch"]),
     ("status", .required, statusShape),
     ("uid", .required, .text),
     ("warnings", .nullable, .list .text)]

/-- The wire shape of a review. Its type is looked at after the rest. -/
def reviewShape : Shape :=
  .extensible "struct AdmissionReview"
    [("request", .nullable, shape), ("response", .nullable, answerShape)]
    [("apiVersion", .required, .text), ("kind", .required, .text)]

/-! ## Reading -/

/-- The text that a member of an object is. -/
def textAt (j : Json) (name : String) : String := ((j.get? name).bind Json.str?).getD ""

/-- The kind that a value of its shape writes. -/
def kindOfJson (j : Json) : ResourceType := ⟨textAt j "group", textAt j "version", textAt j "kind"⟩

/-- The request that a value of its shape writes, in a review of a type. -/
def ofJson (review : ReviewType) (j : Json) : AdmissionRequest where
  review
  uid := textAt j "uid"
  type := kindOfJson ((j.get? "kind").getD (.obj []))
  name := textAt j "name"
  «namespace» := (j.get? "namespace").bind Json.str?
  operation := (Operation.ofName? (textAt j "operation")).getD .connect
  object := j.get? "object"

/-- The request of a review that has its shape, if there is one. -/
def ofReview? (j : Json) : Option AdmissionRequest :=
  (j.get? "request").map (ofJson ⟨textAt j "apiVersion", textAt j "kind"⟩)

/-- The request in the text of a review. -/
def read (text : String) : Except ReviewFault AdmissionRequest :=
  match reviewShape.parse text with
  | .error cause => .error (.undecodable cause)
  | .ok j =>
    match ofReview? j with
    | none => .error .noRequest
    | some r => .ok r

end AdmissionRequest

end WorkloadBindings
