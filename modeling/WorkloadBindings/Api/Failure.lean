import WorkloadBindings.Text.Quoted

/-!
# Failures of API requests

A request fails because the API refuses it, because its reply cannot be read, or because it cannot
even be sent. The words for a failure end up in events and conditions.
-/

namespace WorkloadBindings

/-- A refusal, as the API words it. -/
structure ApiError where
  status : String := "Failure"
  message : String
  reason : String
  code : Nat
  deriving DecidableEq, Repr

namespace ApiError

/-- The words for a refusal: its message and reason, and all its parts in braces. -/
def render (e : ApiError) : String :=
  "ApiError: " ++ e.message ++ ": " ++ e.reason ++ " (ErrorResponse \x7b status: " ++
    Text.quoted e.status ++ ", message: " ++ Text.quoted e.message ++ ", reason: " ++
    Text.quoted e.reason ++ ", code: " ++ toString e.code ++ " \x7d)"

/-- The reason of a refusal that there is no such thing. -/
def notFoundReason : String := "NotFound"

/-- The refusal of a request for something that does not exist. -/
def notFound (message : String) : ApiError :=
  { message := message, reason := notFoundReason, code := 404 }

end ApiError

/-- Why no request can be made of something. -/
inductive Unsendable where
  /-- The object has an empty name. -/
  | emptyName
  /-- The path or query holds a character that none may hold. -/
  | invalidTarget
  deriving DecidableEq, Repr

/-- The words for what cannot be sent. -/
def Unsendable.message : Unsendable → String
  | emptyName => "failed to validate request: A non-empty name is required"
  | invalidTarget => "failed to build request: invalid uri character"

/-- Why a request failed. -/
inductive ApiFailure where
  /-- The API refused it. -/
  | refused (e : ApiError)
  /-- The reply is not what it should be. -/
  | undecodable (cause : String)
  /-- No request can be made of it. -/
  | unsendable (cause : Unsendable)
  deriving DecidableEq, Repr

namespace ApiFailure

/-- The words for a failure. -/
def message : ApiFailure → String
  | refused e => e.render
  | undecodable cause => "Error deserializing response: " ++ cause
  | unsendable cause => "Failed to build request: " ++ cause.message

/-- The API answered that there is no such thing. -/
def isNotFound : ApiFailure → Bool
  | refused e => e.code == 404
  | _ => false

end ApiFailure

end WorkloadBindings
