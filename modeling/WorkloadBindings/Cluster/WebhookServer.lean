import WorkloadBindings.Json.Printer
import WorkloadBindings.Webhook.Loop

/-!
# An API that holds a webhook configuration

Answers the requests of the webhook loop out of a configuration and a secret in memory. A written
configuration is kept, what is absent is not found, and each sort of request can be made to fail.
-/

namespace WorkloadBindings

/-- The body of a refusal. -/
def ApiError.toJson (e : ApiError) : Json :=
  .obj
    [("apiVersion", .str "v1"), ("code", .int e.code), ("kind", .str "Status"),
     ("message", .str e.message), ("metadata", .obj []), ("reason", .str e.reason),
     ("status", .str e.status)]

/-- The reply that refuses a request. -/
def Reply.refusal (e : ApiError) : Reply := ⟨e.code, e.toJson.compact⟩

/-- The reply that brings a value. -/
def Reply.bringing (j : Json) : Reply := ⟨200, j.compact⟩

/-- A configuration and a secret, the rules by which requests fail, and the requests so far. -/
structure WebhookServer where
  configuration : Option Json
  secret : Option Json
  configurationFault : Option ApiError := none
  secretFault : Option ApiError := none
  writeFault : Option ApiError := none
  requests : List Request := []
  deriving DecidableEq

namespace WebhookServer

/-- The reply to a request that reads something. -/
def read (fault : Option ApiError) (value : Option Json) : Reply :=
  match fault, value with
  | some e, _ => .refusal e
  | none, none => .refusal (.notFound "not found")
  | none, some j => .bringing j

/-- The reply to a request, and the server after it. -/
def answer (r : Request) (s : WebhookServer) : Reply × WebhookServer :=
  let s := { s with requests := s.requests ++ [r] }
  match r.method with
  | .put =>
    match s.writeFault, r.body with
    | some e, _ => (.refusal e, s)
    | none, some j => (.bringing j, { s with configuration := some j })
    | none, none => (.bringing .null, s)
  | _ =>
    if Webhook.configurationsPath.toList.isPrefixOf r.path.toList then
      (read s.configurationFault s.configuration, s)
    else (read s.secretFault s.secret, s)

end WebhookServer

end WorkloadBindings
