import WorkloadBindings.Admission.Decision
import WorkloadBindings.Metrics

/-!
# The admission service

Each webhook has a path. A review is posted to one of them, and the answer is posted back; whatever
else is asked for is not there. Answers to requests are counted by webhook and result.
-/

namespace WorkloadBindings

/-- The counts of a webhook. -/
structure VerdictCounts where
  allowed : Nat := 0
  denied : Nat := 0
  patched : Nat := 0
  deriving DecidableEq, Repr

namespace VerdictCounts

/-- The counts with one more answer. -/
def count (c : VerdictCounts) (r : AdmissionResponse) : VerdictCounts :=
  if !r.isAllowed then { c with denied := c.denied + 1 }
  else if r.patch?.isSome then { c with patched := c.patched + 1 }
  else { c with allowed := c.allowed + 1 }

/-- The samples of a webhook. -/
def samples (hook : AdmissionWebhook) (c : VerdictCounts) : List String :=
  [("allowed", c.allowed), ("denied", c.denied), ("patched", c.patched)].flatMap fun entry =>
    Metrics.counted "requests_total" [("webhook", hook.name), ("result", entry.1)] entry.2

end VerdictCounts

/-- The counts of both webhooks. -/
structure AdmissionMetrics where
  mutate : VerdictCounts := {}
  validate : VerdictCounts := {}
  deriving DecidableEq, Repr

namespace AdmissionMetrics

/-- The counts with one more answer of a webhook. -/
def count (m : AdmissionMetrics) (hook : AdmissionWebhook) (r : AdmissionResponse) :
    AdmissionMetrics :=
  match hook with
  | .mutate => { m with mutate := m.mutate.count r }
  | .validate => { m with validate := m.validate.count r }

/-- The samples of both webhooks. -/
def samples (m : AdmissionMetrics) : List String :=
  Metrics.sorted (m.mutate.samples .mutate ++ m.validate.samples .validate)

end AdmissionMetrics

/-- What is asked of the service. -/
structure AdmissionCall where
  method : String
  /-- The path, perhaps with a host before it and a query behind it. -/
  target : String
  body : String
  deriving DecidableEq, Repr

namespace AdmissionCall

/-- What stands behind the mark between a scheme and a host, if there is one. -/
def behindScheme? : List Char → Option (List Char)
  | ':' :: '/' :: '/' :: rest => some rest
  | _ :: rest => behindScheme? rest
  | [] => none

/-- The characters up to a query or a fragment. -/
def pathPart (cs : List Char) : List Char := cs.takeWhile fun c => c != '?' && c != '#'

/-- The path of what is asked for. Behind a host it may be left out, and is then the root; a target
that is nothing but a host has none. -/
def path (c : AdmissionCall) : String :=
  let cs := c.target.toList
  if cs.head? = some '/' ∨ cs = ['*'] then String.ofList (pathPart cs)
  else
    match behindScheme? cs with
    | none => ""
    | some rest =>
      match pathPart (rest.dropWhile fun c => c != '/' && c != '?' && c != '#') with
      | [] => "/"
      | path => String.ofList path

end AdmissionCall

/-- The paths of the webhooks. -/
structure AdmissionPaths where
  mutate : String
  validate : String
  deriving DecidableEq, Repr

/-- The webhook that a call is for; of two with one path the one that changes workloads. -/
def AdmissionPaths.webhook? (p : AdmissionPaths) (c : AdmissionCall) : Option AdmissionWebhook :=
  if c.method ≠ "POST" then none
  else if c.path = p.mutate then some .mutate
  else if c.path = p.validate then some .validate
  else none

/-- What a call is answered with. -/
inductive AdmissionReply where
  /-- There is nothing at the path. -/
  | notFound
  /-- The review with its answer. -/
  | answered (response : AdmissionResponse)
  deriving DecidableEq

namespace AdmissionReply

/-- The status code. -/
def status : AdmissionReply → Nat
  | notFound => 404
  | answered _ => 200

/-- The kind of content, if there is any. -/
def contentType? : AdmissionReply → Option String
  | notFound => none
  | answered _ => some "application/json"

/-- The content, if there is any. -/
def body? : AdmissionReply → Option Json
  | notFound => none
  | answered response => some response.toJson

end AdmissionReply

/-- The admission service: the bindings of the moment, the paths, and what was counted. -/
structure AdmissionService where
  snapshot : Snapshot
  paths : AdmissionPaths
  metrics : AdmissionMetrics := {}
  deriving DecidableEq

/-- Answers a call. Only a review that has a request counts. -/
def AdmissionService.answer (s : AdmissionService) (c : AdmissionCall) :
    AdmissionReply × AdmissionService :=
  match s.paths.webhook? c with
  | none => (.notFound, s)
  | some hook =>
    match AdmissionRequest.read c.body with
    | .error fault => (.answered (.invalid fault), s)
    | .ok r =>
      let response := hook.respond s.snapshot r
      (.answered response, { s with metrics := s.metrics.count hook response })

end WorkloadBindings
