import WorkloadBindings.Api.Request
import WorkloadBindings.Json.ShapeReader

/-!
# Replies of the API

A reply with a status from 400 on is a refusal. Its body should say why; when it cannot be read, the
refusal quotes it. The body of any other reply must be a JSON value of the shape that was asked for.
-/

namespace WorkloadBindings

namespace Reply

/-- The phrase for a status code. -/
def phrases : List (Nat × String) :=
  [(400, "Bad Request"), (401, "Unauthorized"), (402, "Payment Required"), (403, "Forbidden"),
   (404, "Not Found"), (405, "Method Not Allowed"), (406, "Not Acceptable"),
   (407, "Proxy Authentication Required"), (408, "Request Timeout"), (409, "Conflict"),
   (410, "Gone"), (411, "Length Required"), (412, "Precondition Failed"),
   (413, "Payload Too Large"), (414, "URI Too Long"), (415, "Unsupported Media Type"),
   (416, "Range Not Satisfiable"), (417, "Expectation Failed"), (418, "I'm a teapot"),
   (421, "Misdirected Request"), (422, "Unprocessable Entity"), (423, "Locked"),
   (424, "Failed Dependency"), (425, "Too Early"), (426, "Upgrade Required"),
   (428, "Precondition Required"), (429, "Too Many Requests"),
   (431, "Request Header Fields Too Large"), (451, "Unavailable For Legal Reasons"),
   (500, "Internal Server Error"), (501, "Not Implemented"), (502, "Bad Gateway"),
   (503, "Service Unavailable"), (504, "Gateway Timeout"), (505, "HTTP Version Not Supported"),
   (506, "Variant Also Negotiates"), (507, "Insufficient Storage"), (508, "Loop Detected"),
   (510, "Not Extended"), (511, "Network Authentication Required")]

/-- A status code with its phrase. -/
def statusLine (code : Nat) : String :=
  toString code ++ " " ++ ((phrases.lookup code).getD "<unknown status code>")

/-- The wire shape of a refusal. -/
def errorShape : Shape :=
  .declared "ErrorResponse" ["status", "message", "reason", "code"]
    [("code", .required, Shape.nat16),
     ("message", .lenient (.str ""), .text),
     ("reason", .lenient (.str ""), .text),
     ("status", .required, .text)]

/-- The refusal that a value of its shape writes. -/
def errorOfJson (j : Json) : ApiError where
  status := ((j.get? "status").bind Json.str?).getD ""
  message := ((j.get? "message").bind Json.str?).getD ""
  reason := ((j.get? "reason").bind Json.str?).getD ""
  code := (((j.get? "code").bind Json.int?).getD 0).toNat

/-- The refusal that a body says, if it can be read. -/
def error? (body : String) : Option ApiError :=
  match errorShape.parse body with
  | .error _ => none
  | .ok j => some (errorOfJson j)

/-- The refusal by a status code and a body that cannot be read. -/
def opaqueError (r : Reply) : ApiError where
  status := statusLine r.status
  message := Text.quoted r.body
  reason := "Failed to parse error data"
  code := r.status

/-- The reply is a refusal. -/
def isRefusal (r : Reply) : Bool := decide (400 ≤ r.status ∧ r.status < 600)

/-- A value decoded. -/
def decoded {α : Type} (result : Except DecodeError α) : Except ApiFailure α :=
  match result with
  | .ok a => .ok a
  | .error cause => .error (.undecodable cause.message)

/-- What the reply brings: a value of a shape, in its written form. -/
def read (shape : Shape) (r : Reply) : Except ApiFailure Json :=
  if r.isRefusal then .error (.refused ((error? r.body).getD r.opaqueError))
  else decoded (shape.parse r.body)

end Reply

/-- Sends a request and takes what the reply brings, a value of a shape. -/
def Request.send {α : Type} (request : Except ApiFailure Request) (shape : Shape)
    (ofJson : Json → α) : Exchange (Except ApiFailure α) :=
  match request with
  | .error cause => pure (.error cause)
  | .ok r => do
    let reply ← Dialogue.call r
    pure ((reply.read shape).map ofJson)

/-- What was found; a refusal because there is no such thing means nothing was. -/
def foundOrNone {α : Type} (result : Except ApiFailure α) : Except ApiFailure (Option α) :=
  match result with
  | .ok a => .ok (some a)
  | .error (.refused e) =>
    if e.reason = ApiError.notFoundReason then .ok none else .error (.refused e)
  | .error cause => .error cause

end WorkloadBindings
