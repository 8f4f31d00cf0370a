import WorkloadBindings.Api.Reply
import WorkloadBindings.Index.Store
import WorkloadBindings.Webhook.Configuration

/-!
# Passes of the webhook loop

A pass reads the webhook configuration and the secret with the certificate authority, and writes the
configuration back if it is not what it should be for the bindings of the moment. A configuration
that is not there is left to whoever creates it. A step of the loop makes a pass only when this
replica holds the lease and the bindings of both kinds have been listed; a pass that fails is
counted and forgotten.
-/

namespace WorkloadBindings

/-- What the webhook loop is about. -/
structure WebhookSettings where
  /-- The name of the configuration and of the entries that are managed in it. -/
  name : String
  /-- The path at which the service answers. -/
  path : String
  secretNamespace : String
  secretName : String
  deriving DecidableEq, Repr

/-- Why a pass failed. -/
inductive WebhookError where
  /-- A request failed. -/
  | api (cause : ApiFailure)
  /-- The configuration or the secret is not as it should be. -/
  | fault (fault : WebhookFault)
  deriving DecidableEq

/-- How a pass ended. -/
inductive WebhookOutcome where
  /-- There is no configuration. -/
  | missing
  /-- The configuration was right already. -/
  | current
  /-- The configuration was written. -/
  | updated
  deriving DecidableEq, Repr

/-- The data of a secret, in base64 by key. -/
structure Secret where
  data : Option (SortedMap String String)
  deriving DecidableEq

namespace Secret

/-- The wire shape of a secret. -/
def shape : Shape :=
  .api "Secret"
    [("apiVersion", .lenient (.str "v1"), .literal "v1"),
     ("data", .nullable, .map (.bytes true)),
     ("immutable", .nullable, .flag),
     ("kind", .lenient (.str "Secret"), .literal "Secret"),
     ("metadata", .filled (.obj []), Metadata.shape),
     ("stringData", .nullable, .map .text),
     ("type", .nullable, .text)]

/-- The secret that a value of its shape writes. -/
def ofJson (j : Json) : Secret where
  data :=
    (j.get? "data").map fun data =>
      SortedMap.ofList (data.members.filterMap fun m => m.2.str?.map (m.1, ·))

/-- The key of the certificate authority in the secret of the webhook. -/
def caKey : String := "ca-cert.pem"

/-- The certificate authority in the secret, in base64. -/
def ca? (s : Secret) : Option String := s.data.bind (·.get? caKey)

end Secret

namespace Webhook

/-- The path of the webhook configurations. -/
def configurationsPath : String :=
  groupPath "admissionregistration.k8s.io" "v1" ++ "/mutatingwebhookconfigurations"

/-- Reads the configuration, if there is one. -/
def readConfiguration (s : WebhookSettings) :
    Exchange (Except ApiFailure (Option WebhookConfiguration)) :=
  foundOrNone <$>
    Request.send (Request.get configurationsPath s.name) WebhookConfiguration.shape
      WebhookConfiguration.ofJson

/-- Reads the secret with the certificate authority. -/
def readSecret (s : WebhookSettings) : Exchange (Except ApiFailure Secret) :=
  Request.send (Request.get (namespacedPath "" "v1" s.secretNamespace "secrets") s.secretName)
    Secret.shape Secret.ofJson

/-- Writes the configuration. -/
def writeConfiguration (s : WebhookSettings) (c : WebhookConfiguration) :
    Exchange (Except ApiFailure WebhookConfiguration) :=
  Request.send (Request.replace configurationsPath s.name c.toJson) WebhookConfiguration.shape
    WebhookConfiguration.ofJson

/-- The configuration to write in place of the present one, if any. -/
def desired? (s : WebhookSettings) (rules : List Rule) (current : WebhookConfiguration)
    (secret : Secret) : Except WebhookFault (Option WebhookConfiguration) :=
  match secret.ca? with
  | none => .error (.missingCa s.secretName)
  | some ca => current.desired ⟨s.name, s.path, ca, rules⟩

/-- One pass for some rules. -/
def pass (s : WebhookSettings) (rules : List Rule) :
    Exchange (Except WebhookError WebhookOutcome) := do
  match ← readConfiguration s with
  | .error cause => pure (.error (.api cause))
  | .ok none => pure (.ok .missing)
  | .ok (some current) =>
    match ← readSecret s with
    | .error cause => pure (.error (.api cause))
    | .ok secret =>
      match desired? s rules current secret with
      | .error fault => pure (.error (.fault fault))
      | .ok none => pure (.ok .current)
      | .ok (some desired) =>
        match ← writeConfiguration s desired with
        | .error cause => pure (.error (.api cause))
        | .ok _ => pure (.ok .updated)

end Webhook

/-- The counts of the webhook loop. -/
structure WebhookMetrics where
  updates : Nat := 0
  errors : Nat := 0
  deriving DecidableEq, Repr

namespace WebhookMetrics

/-- The counts after a pass. -/
def count (m : WebhookMetrics) : Except WebhookError WebhookOutcome → WebhookMetrics
  | .ok .updated => { m with updates := m.updates + 1 }
  | .ok _ => m
  | .error _ => { m with errors := m.errors + 1 }

/-- The samples of the webhook loop. -/
def samples (m : WebhookMetrics) : List String :=
  Metrics.sorted
    [Metrics.sample "errors_total" [] m.errors, Metrics.sample "updates_total" [] m.updates]

end WebhookMetrics

/-- One step of the loop: a pass for the bindings of the store, if it is this replica's turn and the
store is complete. -/
def Webhook.step (s : WebhookSettings) (leads : Bool) (store : Store) (m : WebhookMetrics) :
    Exchange WebhookMetrics :=
  if leads && store.isSynced then m.count <$> Webhook.pass s store.rules else pure m

end WorkloadBindings
