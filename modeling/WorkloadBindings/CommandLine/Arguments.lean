import WorkloadBindings.CommandLine.LogFilter
import WorkloadBindings.CommandLine.SocketAddress
import WorkloadBindings.Json.Basic

/-!
# Command line arguments

The controller is told what to do by options. Each has a name behind two dashes and takes a value,
either behind an equals sign or as the next argument, and may be given once; one is a flag and takes
none. `Arguments.parse` reads a list of arguments and says what is wrong with it.

The value in a separate argument is looked at when the next option or the end of the list is
reached, so that an argument that is no option counts before it.
-/

namespace WorkloadBindings

/-- Why a list of arguments is refused. -/
inductive ArgumentError where
  /-- An option lacks its value. -/
  | missingValue
  /-- The value of an option is not one that it takes. -/
  | invalidValue
  /-- An argument is no option. -/
  | unknown
  /-- The flag has a value. -/
  | unexpectedValue
  /-- An option is given twice. -/
  | repeated
  /-- A value cannot be taken apart, because a cut falls inside a character. -/
  | splitCharacter
  deriving DecidableEq, Repr

/-- The words for what is wrong with a list of arguments. -/
def ArgumentError.message : ArgumentError → String
  | missingValue => "error: one of the values isn't valid for an argument"
  | invalidValue => "error: invalid value for one of the arguments"
  | unknown => "error: unexpected argument found"
  | unexpectedValue => "error: unexpected value for an argument found"
  | repeated =>
    "error: an argument cannot be used with one or more of the other specified arguments"
  | splitCharacter => "error: a value is cut inside a character"

/-- An option that takes a value. -/
inductive Parameter where
  | logLevel
  | logFormat
  | cluster
  | context
  | user
  | kubeconfig
  | impersonatedUser
  | impersonatedGroup
  | serverAddress
  | serverTlsKey
  | serverTlsCerts
  | adminAddress
  | webhookName
  | webhookPath
  | validatingPath
  | webhookSecret
  | controllerNamespace
  | controllerDeploymentName
  | leaseName
  | resyncPeriodSecs
  | backoffMinMs
  | backoffMaxSecs
  deriving DecidableEq, Repr

namespace Parameter

/-- The options that take a value. -/
def all : List Parameter :=
  [logLevel, logFormat, cluster, context, user, kubeconfig, impersonatedUser, impersonatedGroup,
   serverAddress, serverTlsKey, serverTlsCerts, adminAddress, webhookName, webhookPath,
   validatingPath, webhookSecret, controllerNamespace, controllerDeploymentName, leaseName,
   resyncPeriodSecs, backoffMinMs, backoffMaxSecs]

/-- The name of an option. -/
def name : Parameter → String
  | logLevel => "log-level"
  | logFormat => "log-format"
  | cluster => "cluster"
  | context => "context"
  | user => "user"
  | kubeconfig => "kubeconfig"
  | impersonatedUser => "as"
  | impersonatedGroup => "as-group"
  | serverAddress => "server-addr"
  | serverTlsKey => "server-tls-key"
  | serverTlsCerts => "server-tls-certs"
  | adminAddress => "admin-addr"
  | webhookName => "webhook-name"
  | webhookPath => "webhook-path"
  | validatingPath => "validating-path"
  | webhookSecret => "webhook-secret"
  | controllerNamespace => "controller-namespace"
  | controllerDeploymentName => "controller-deployment-name"
  | leaseName => "lease-name"
  | resyncPeriodSecs => "resync-period-secs"
  | backoffMinMs => "backoff-min-ms"
  | backoffMaxSecs => "backoff-max-secs"

/-- The option with a name. -/
def ofName? (name : String) : Option Parameter := all.find? fun p => p.name == name

end Parameter

/-- Where logs, the API and the servers of the controller are found. -/
structure Connections where
  logLevel : String := "bindings=info,warn"
  logFormat : String := "plain"
  cluster : Option String := none
  context : Option String := none
  user : Option String := none
  kubeconfig : Option String := none
  impersonatedUser : Option String := none
  impersonatedGroup : Option String := none
  serverAddress : Option String := none
  serverTlsKey : Option String := none
  serverTlsCerts : Option String := none
  adminAddress : Option String := none
  deriving DecidableEq, Repr

/-- What the arguments say. -/
structure Arguments where
  connections : Connections := {}
  admissionControllerDisabled : Bool := false
  webhookName : String := "bindings.podspec.dev"
  webhookPath : String := "/mutate"
  validatingPath : String := "/validate"
  webhookSecret : String := "bindings-controller-webhook-certs"
  controllerNamespace : String := "bindings-system"
  controllerDeploymentName : String := "bindings-controller"
  leaseName : String := "bindings-controller-write"
  resyncPeriodSecs : Nat := 300
  backoffMinMs : Nat := 500
  backoffMaxSecs : Nat := 300
  deriving DecidableEq, Repr

namespace Arguments

/-! ## Values -/

/-- A natural number of at most 64 bits in decimal digits, perhaps behind a plus sign. -/
def natural? (text : String) : Option Nat :=
  let cs := text.toList
  let digits := if cs.head? = some '+' then cs.tail else cs
  let n := SocketAddress.decimal digits
  if digits.isEmpty || !digits.all Char.isDigit || decide (18446744073709551616 ≤ n) then none
  else some n

/-- A value that passes a test. -/
def tested (isValid : String → Bool) (value : String) : Except ArgumentError String :=
  if isValid value then .ok value else .error .invalidValue

/-- A value that is a log filter. -/
def logFilter (value : String) : Except ArgumentError String :=
  match LogFilter.check value with
  | .ok () => .ok value
  | .error .malformed => .error .invalidValue
  | .error .splitCharacter => .error .splitCharacter

/-- A value that is a natural number. -/
def natural (value : String) : Except ArgumentError Nat :=
  match natural? value with
  | some n => .ok n
  | none => .error .invalidValue

/-- A value that is a path of files, which an empty text is not. -/
def filePath (value : String) : Except ArgumentError String :=
  if value = "" then .error .missingValue else .ok value

/-- The connections with the value of an option, if it is one of theirs. -/
def connect (c : Connections) (value : String) : Parameter → Except ArgumentError Connections
  | .logLevel => (logFilter value).map fun v => { c with logLevel := v }
  | .logFormat =>
    (tested (fun v => v == "plain" || v == "json") value).map fun v => { c with logFormat := v }
  | .cluster => .ok { c with cluster := some value }
  | .context => .ok { c with context := some value }
  | .user => .ok { c with user := some value }
  | .kubeconfig => (filePath value).map fun v => { c with kubeconfig := some v }
  | .impersonatedUser => .ok { c with impersonatedUser := some value }
  | .impersonatedGroup => .ok { c with impersonatedGroup := some value }
  | .serverAddress =>
    (tested SocketAddress.isValid value).map fun v => { c with serverAddress := some v }
  | .serverTlsKey => .ok { c with serverTlsKey := some value }
  | .serverTlsCerts => .ok { c with serverTlsCerts := some value }
  | .adminAddress =>
    (tested SocketAddress.isValid value).map fun v => { c with adminAddress := some v }
  | _ => .ok c

/-- The arguments with the value of an option. -/
def set (a : Arguments) (value : String) : Parameter → Except ArgumentError Arguments
  | .webhookName => .ok { a with webhookName := value }
  | .webhookPath => .ok { a with webhookPath := value }
  | .validatingPath => .ok { a with validatingPath := value }
  | .webhookSecret => .ok { a with webhookSecret := value }
  | .controllerNamespace => .ok { a with controllerNamespace := value }
  | .controllerDeploymentName => .ok { a with controllerDeploymentName := value }
  | .leaseName => .ok { a with leaseName := value }
  | .resyncPeriodSecs => (natural value).map fun n => { a with resyncPeriodSecs := n }
  | .backoffMinMs => (natural value).map fun n => { a with backoffMinMs := n }
  | .backoffMaxSecs => (natural value).map fun n => { a with backoffMaxSecs := n }
  | p => (connect a.connections value p).map fun c => { a with connections := c }

/-! ## Lists of arguments -/

/-- The name of the flag. -/
def flagName : String := "admission-controller-disabled"

/-- What has been read of a list of arguments. -/
structure Progress where
  arguments : Arguments := {}
  /-- The options given so far. -/
  given : List Parameter := []
  /-- The option that was read last, when its value is still to be looked at, with the value if it
  has been read. -/
  pending : Option (Parameter × Option String) := none

namespace Progress

/-- The value of an option is put in. -/
def put (s : Progress) (p : Parameter) (value : String) : Except ArgumentError Progress :=
  if s.given.contains p then .error .repeated
  else (s.arguments.set value p).map fun a => { s with arguments := a, given := p :: s.given }

/-- The value of the option that was read last is put in. -/
def settle (s : Progress) : Except ArgumentError Progress :=
  match s.pending with
  | none => .ok s
  | some (_, none) => .error .missingValue
  | some (p, some value) => { s with pending := none }.put p value

/-- The flag is put in. -/
def putFlag (s : Progress) : Except ArgumentError Progress := do
  let s ← s.settle
  if s.arguments.admissionControllerDisabled then .error .repeated
  else .ok { s with arguments := { s.arguments with admissionControllerDisabled := true } }

/-- An argument behind two dashes: a name, and a value when there is an equals sign. -/
def long (s : Progress) (name : String) (value : Option String) : Except ArgumentError Progress :=
  if name = flagName then
    match value with
    | none => s.putFlag
    | some _ => .error .unexpectedValue
  else
    match Parameter.ofName? name, value with
    | none, _ => .error .unknown
    | some p, some value => do (← s.settle).put p value
    | some p, none => do .ok { (← s.settle) with pending := some (p, none) }

/-- An argument that is no option and may be the value of one. -/
def plain (s : Progress) (text : String) : Except ArgumentError Progress :=
  match s.pending with
  | some (p, none) => .ok { s with pending := some (p, some text) }
  | _ => .error .unknown

/-- The name and the value of an option, at the first equals sign. -/
def nameAndValue (cs : List Char) : String × Option String :=
  let name := String.ofList (cs.takeWhile (· != '='))
  match cs.dropWhile (· != '=') with
  | [] => (name, none)
  | _ :: value => (name, some (String.ofList value))

/-- Reads one argument. -/
def read (s : Progress) (argument : String) : Except ArgumentError Progress :=
  match argument.toList with
  | '-' :: '-' :: rest =>
    let (name, value) := nameAndValue rest
    s.long name value
  | '-' :: _ :: _ => .error .unknown
  | _ => s.plain argument

/-- Reads a list of arguments. Two dashes alone end the options, and nothing may follow them. -/
def readAll (s : Progress) : List String → Except ArgumentError Progress
  | [] => s.settle
  | "--" :: rest => if rest.isEmpty then s.settle else .error .unknown
  | argument :: rest => do (← s.read argument).readAll rest

end Progress

/-- What a list of arguments says. -/
def parse (arguments : List String) : Except ArgumentError Arguments :=
  (Progress.readAll {} arguments).map Progress.arguments

/-- The controller's own settings as an object. -/
def toJson (a : Arguments) : Json :=
  .obj
    [("admission_controller_disabled", .bool a.admissionControllerDisabled),
     ("backoff_max_secs", .int a.backoffMaxSecs),
     ("backoff_min_ms", .int a.backoffMinMs),
     ("controller_deployment_name", .str a.controllerDeploymentName),
     ("controller_namespace", .str a.controllerNamespace),
     ("lease_name", .str a.leaseName),
     ("resync_period_secs", .int a.resyncPeriodSecs),
     ("validating_path", .str a.validatingPath),
     ("webhook_name", .str a.webhookName),
     ("webhook_path", .str a.webhookPath),
     ("webhook_secret", .str a.webhookSecret)]

end Arguments

end WorkloadBindings
