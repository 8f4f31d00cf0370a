import WorkloadBindings.Api.Failure
import WorkloadBindings.Dialogue
import WorkloadBindings.Json.Basic
import WorkloadBindings.Resource.Kind
import WorkloadBindings.Text.Basic

/-!
# Requests to the API

A request has a method, a path, a query and perhaps a body. Its target is written as one text in
which names stand unescaped; `Target.parse?` splits it into path and query, and refuses it when it
holds a character that has no place in either.
-/

namespace WorkloadBindings

/-- What a request wants done. -/
inductive Method where
  | get
  | post
  | put
  | patch
  deriving DecidableEq, Repr

/-- The word for a method. -/
def Method.name : Method → String
  | get => "GET"
  | post => "POST"
  | put => "PUT"
  | patch => "PATCH"

/-- A request to the API. -/
structure Request where
  method : Method
  path : String
  query : String
  contentType : Option String
  body : Option Json
  deriving DecidableEq

/-- The reply to a request: its status code and its body. -/
structure Reply where
  status : Nat
  body : String
  deriving DecidableEq, Repr

/-- A conversation with the API. -/
abbrev Exchange : Type → Type := Dialogue Request fun _ => Reply

/-! ## Targets -/

namespace Target

/-- The characters that have no place in a path. -/
def notInPath : List Char := ['#', '<', '>', '?', '\x60']

/-- The characters that have no place in a query. -/
def notInQuery : List Char := ['"', '#', '<', '>']

/-- The character may stand in a path. -/
def inPath (c : Char) : Bool :=
  let n := c.toNat
  decide (0x21 ≤ n ∧ n ≤ 0x7e) && !notInPath.contains c

/-- The character may stand in a query. -/
def inQuery (c : Char) : Bool :=
  let n := c.toNat
  decide (0x21 ≤ n ∧ n ≤ 0x7e) && !notInQuery.contains c

/-- The path and the query of a target, without a fragment at the end; nothing when a character has
no place in them. -/
def parse? (target : String) : Option (String × String) :=
  let cs := target.toList
  let path := cs.takeWhile fun c => c != '?' && c != '#'
  let rest := cs.dropWhile fun c => c != '?' && c != '#'
  let query := if rest.head? = some '?' then rest.tail.takeWhile (· != '#') else []
  if path.all inPath && query.all inQuery then
    some (String.ofList path, String.ofList query)
  else none

end Target

/-- The path under which the resources of a plural are found. -/
def groupPath (group version : String) : String :=
  if group = "" then "/api/" ++ version else "/apis/" ++ group ++ "/" ++ version

/-- The path of the resources of a plural in a namespace. -/
def namespacedPath (group version ns plural : String) : String :=
  groupPath group version ++ "/namespaces/" ++ ns ++ "/" ++ plural

/-- The path of the resources of a type in a namespace. -/
def ResourceType.namespacedPath (t : ResourceType) (ns : String) : String :=
  WorkloadBindings.namespacedPath t.group t.version ns t.plural

namespace Request

/-- A parameter of a query. -/
def parameter (p : String × String) : String :=
  "&" ++ Text.formEncode p.1 ++ "=" ++ Text.formEncode p.2

/-- The request with a target, the parameters of its query, if it has one, and some content. -/
def make (method : Method) (path : String) (parameters : Option (List (String × String)))
    (content : Option (String × Json)) : Except ApiFailure Request :=
  let query :=
    match parameters with
    | some parameters => "?" ++ String.join (parameters.map parameter)
    | none => ""
  match Target.parse? (path ++ query) with
  | some (path, query) =>
    .ok ⟨method, path, query, content.map Prod.fst, content.map Prod.snd⟩
  | none => .error (.unsendable .invalidTarget)

/-- The path of the resource with a name, which must not be empty. -/
def named (collection name : String) : Except ApiFailure String :=
  if name = "" then .error (.unsendable .emptyName) else .ok (collection ++ "/" ++ name)

/-- The kind of content that is JSON. -/
def json : String := "application/json"

/-- The kind of content that is a JSON patch. -/
def jsonPatch : String := "application/json-patch+json"

/-- The kind of content whose members replace those of the object. -/
def mergePatch : String := "application/merge-patch+json"

/-- The kind of content that is merged as the API's own types say. -/
def strategicPatch : String := "application/strategic-merge-patch+json"

/-- The kind of content that the sender owns. -/
def applyPatch : String := "application/apply-patch+yaml"

/-- Reads a resource. -/
def get (collection name : String) : Except ApiFailure Request := do
  make .get (← named collection name) none none

/-- Reads the resources that a label query picks. -/
def list (collection query : String) : Except ApiFailure Request :=
  make .get collection (some [("labelSelector", query)]) none

/-- Creates a resource. -/
def create (collection : String) (body : Json) : Except ApiFailure Request :=
  make .post collection (some []) (some (json, body))

/-- Replaces a resource. -/
def replace (collection name : String) (body : Json) : Except ApiFailure Request := do
  make .put (← named collection name) (some []) (some (json, body))

/-- Patches a resource, with the parameters of the query. -/
def patch (collection name : String) (parameters : List (String × String))
    (contentType : String) (body : Json) : Except ApiFailure Request := do
  make .patch (← named collection name) (some parameters) (some (contentType, body))

end Request

end WorkloadBindings
