import WorkloadBindings.Binding.Kind
import WorkloadBindings.Index.Rule
import WorkloadBindings.Resource.Metadata

/-!
# Configuration of the mutating webhook

The API holds a configuration that says which requests are shown to the admission webhook. The
controller keeps it in step with the bindings: `WebhookConfiguration.hold` is the configuration that
the API should hold in place of a given one, and `WebhookConfiguration.desired` is nothing when it
holds that one already. Only the entries with the webhook's own name are managed, and in them only
where the webhook is reached and which requests it is shown.
-/

namespace WorkloadBindings

/-- Why the configuration cannot be kept in step. -/
inductive WebhookFault where
  /-- A managed entry is not served by a service. -/
  | missingService (webhook : String)
  /-- The secret of the webhook holds no certificate authority. -/
  | missingCa (secret : String)
  deriving DecidableEq

/-- The words for a fault. -/
def WebhookFault.message : WebhookFault → String
  | missingService webhook => "webhook " ++ webhook ++ " has no service reference"
  | missingCa secret => "secret " ++ secret ++ " has no ca-cert.pem entry"

/-! ## Types -/

/-- The service that answers for a webhook. -/
structure ServiceReference where
  name : String
  «namespace» : String
  path : Option String := none
  port : Option Int := none
  deriving DecidableEq

namespace ServiceReference

/-- The wire shape of a reference to a service. -/
def shape : Shape :=
  .api "ServiceReference"
    [("name", .filled (.str ""), .text),
     ("namespace", .filled (.str ""), .text),
     ("path", .nullable, .text),
     ("port", .nullable, Shape.int32)]

/-- The reference that a value of its shape writes. -/
def ofJson (j : Json) : ServiceReference where
  name := ((j.get? "name").bind Json.str?).getD ""
  «namespace» := ((j.get? "namespace").bind Json.str?).getD ""
  path := (j.get? "path").bind Json.str?
  port := (j.get? "port").bind Json.int?

/-- The reference as an object. -/
def toJson (s : ServiceReference) : Json :=
  .record
    [("name", some (.str s.name)), ("namespace", some (.str s.namespace)),
     ("path", s.path.map .str), ("port", s.port.map .int)]

end ServiceReference

/-- How a webhook is reached. -/
structure WebhookClient where
  /-- The certificate authority to trust, in base64. -/
  caBundle : Option String := none
  service : Option ServiceReference := none
  url : Option String := none
  deriving DecidableEq

namespace WebhookClient

/-- The wire shape of the way to a webhook. -/
def shape : Shape :=
  .api "WebhookClientConfig"
    [("caBundle", .nullable, .bytes false),
     ("service", .nullable, ServiceReference.shape),
     ("url", .nullable, .text)]

/-- The way that a value of its shape writes. -/
def ofJson (j : Json) : WebhookClient where
  caBundle := (j.get? "caBundle").bind Json.str?
  service := (j.get? "service").map ServiceReference.ofJson
  url := (j.get? "url").bind Json.str?

/-- The way as an object. -/
def toJson (c : WebhookClient) : Json :=
  .record
    [("caBundle", c.caBundle.map .str), ("service", c.service.map ServiceReference.toJson),
     ("url", c.url.map .str)]

end WebhookClient

/-- One webhook of a configuration; selectors and rules are kept in their written form. -/
structure WebhookEntry where
  admissionReviewVersions : List String
  client : WebhookClient
  failurePolicy : Option String := none
  matchConditions : Option Json := none
  matchPolicy : Option String := none
  name : String
  namespaceSelector : Option Json := none
  objectSelector : Option Json := none
  reinvocationPolicy : Option String := none
  rules : Option Json := none
  sideEffects : String
  timeoutSeconds : Option Int := none
  deriving DecidableEq

namespace WebhookEntry

/-- The wire shape of a rule. -/
def ruleShape : Shape :=
  .api "RuleWithOperations"
    [("apiGroups", .nullable, .list .text),
     ("apiVersions", .nullable, .list .text),
     ("operations", .nullable, .list .text),
     ("resources", .nullable, .list .text),
     ("scope", .nullable, .text)]

/-- The wire shape of a condition on requests. -/
def conditionShape : Shape :=
  .api "MatchCondition"
    [("expression", .filled (.str ""), .text), ("name", .filled (.str ""), .text)]

/-- The wire shape of an entry. -/
def shape : Shape :=
  .api "MutatingWebhook"
    [("admissionReviewVersions", .filled (.arr []), .list .text),
     ("clientConfig", .filled (.obj []), WebhookClient.shape),
     ("failurePolicy", .nullable, .text),
     ("matchConditions", .nullable, .list conditionShape),
     ("matchPolicy", .nullable, .text),
     ("name", .filled (.str ""), .text),
     ("namespaceSelector", .nullable, Labels.selectorShape),
     ("objectSelector", .nullable, Labels.selectorShape),
     ("reinvocationPolicy", .nullable, .text),
     ("rules", .nullable, .list ruleShape),
     ("sideEffects", .filled (.str ""), .text),
     ("timeoutSeconds", .nullable, Shape.int32)]

/-- The entry that a value of its shape writes. -/
def ofJson (j : Json) : WebhookEntry where
  admissionReviewVersions :=
    ((j.get? "admissionReviewVersions").map fun xs => xs.items.filterMap Json.str?).getD []
  client := WebhookClient.ofJson ((j.get? "clientConfig").getD (.obj []))
  failurePolicy := (j.get? "failurePolicy").bind Json.str?
  matchConditions := j.get? "matchConditions"
  matchPolicy := (j.get? "matchPolicy").bind Json.str?
  name := ((j.get? "name").bind Json.str?).getD ""
  namespaceSelector := j.get? "namespaceSelector"
  objectSelector := j.get? "objectSelector"
  reinvocationPolicy := (j.get? "reinvocationPolicy").bind Json.str?
  rules := j.get? "rules"
  sideEffects := ((j.get? "sideEffects").bind Json.str?).getD ""
  timeoutSeconds := (j.get? "timeoutSeconds").bind Json.int?

/-- The entry as an object. -/
def toJson (w : WebhookEntry) : Json :=
  .record
    [("admissionReviewVersions", some (.strings w.admissionReviewVersions)),
     ("clientConfig", some w.client.toJson),
     ("failurePolicy", w.failurePolicy.map .str),
     ("matchConditions", w.matchConditions),
     ("matchPolicy", w.matchPolicy.map .str),
     ("name", some (.str w.name)),
     ("namespaceSelector", w.namespaceSelector),
     ("objectSelector", w.objectSelector),
     ("reinvocationPolicy", w.reinvocationPolicy.map .str),
     ("rules", w.rules),
     ("sideEffects", some (.str w.sideEffects)),
     ("timeoutSeconds", w.timeoutSeconds.map .int)]

end WebhookEntry

/-- A configuration of webhooks. -/
structure WebhookConfiguration where
  metadata : Metadata := {}
  webhooks : Option (List WebhookEntry) := none
  deriving DecidableEq

namespace WebhookConfiguration

/-- The `apiVersion` of configurations. -/
def apiVersion : String := "admissionregistration.k8s.io/v1"

/-- The kind of configurations. -/
def kind : String := "MutatingWebhookConfiguration"

/-- The wire shape of a configuration. -/
def shape : Shape :=
  .api kind
    [("apiVersion", .lenient (.str apiVersion), .literal apiVersion),
     ("kind", .lenient (.str kind), .literal kind),
     ("metadata", .filled (.obj []), Metadata.shape),
     ("webhooks", .nullable, .list WebhookEntry.shape)]

/-- The configuration that a value of its shape writes. -/
def ofJson (j : Json) : WebhookConfiguration where
  metadata := Metadata.ofJson ((j.get? "metadata").getD (.obj []))
  webhooks := (j.get? "webhooks").map fun xs => xs.items.map WebhookEntry.ofJson

/-- The configuration as an object. -/
def toJson (c : WebhookConfiguration) : Json :=
  .record
    [("apiVersion", some (.str apiVersion)),
     ("kind", some (.str kind)),
     ("metadata", some c.metadata.toJson),
     ("webhooks", c.webhooks.map fun ws => .arr (ws.map WebhookEntry.toJson))]

/-- Reads a configuration. -/
def decode (j : Json) : Except DecodeError WebhookConfiguration := (shape.conform j).map ofJson

end WebhookConfiguration

/-! ## Keeping a configuration in step -/

/-- What the managed entries of a configuration are set to. -/
structure WebhookTarget where
  /-- The name of the managed entries. -/
  name : String
  /-- The path at which the service answers. -/
  path : String
  /-- The certificate authority, in base64. -/
  ca : String
  rules : List Rule
  deriving DecidableEq

/-- The selector of what does not carry the label that excludes it from bindings. -/
def notExcluded : Json :=
  .obj
    [("matchExpressions",
       .arr
         [.obj
           [("key", .str BindingKind.excludeLabel), ("operator", .str "NotIn"),
            ("values", .strings ["true"])]])]

namespace WebhookEntry

/-- The entry as it should be; entries of another name are left alone. -/
def hold (t : WebhookTarget) (w : WebhookEntry) : Except WebhookFault WebhookEntry :=
  if w.name = t.name then
    match w.client.service with
    | none => .error (.missingService w.name)
    | some service =>
      .ok
        { w with
          client :=
            { w.client with caBundle := some t.ca, service := some { service with path := t.path } }
          matchPolicy := some "Equivalent"
          rules := some (.arr (t.rules.map Rule.toJson))
          namespaceSelector := some notExcluded
          objectSelector := some notExcluded }
  else .ok w

end WebhookEntry

namespace WebhookConfiguration

/-- The entries as they should be, up to the first one that cannot. -/
def holdAll (t : WebhookTarget) : List WebhookEntry → Except WebhookFault (List WebhookEntry)
  | [] => .ok []
  | w :: rest => do
    let held ← w.hold t
    let others ← holdAll t rest
    .ok (held :: others)

/-- The configuration that the API should hold instead: its managed entries as they should be, and
no owner that would take it along when it is deleted. -/
def hold (t : WebhookTarget) (c : WebhookConfiguration) :
    Except WebhookFault WebhookConfiguration := do
  let webhooks ←
    match c.webhooks with
    | none => Except.ok none
    | some ws => (holdAll t ws).map some
  .ok { metadata := { c.metadata with ownerReferences := none }, webhooks := webhooks }

/-- The configuration to write, if the API does not hold it already. -/
def desired (t : WebhookTarget) (c : WebhookConfiguration) :
    Except WebhookFault (Option WebhookConfiguration) :=
  (c.hold t).map fun held => if held = c then none else some held

end WebhookConfiguration

end WorkloadBindings
