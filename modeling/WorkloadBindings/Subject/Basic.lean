import WorkloadBindings.Resource.Kind
import WorkloadBindings.Subject.Reference

/-!
# Subjects

The subject of a binding is its reference resolved: a kind in a version, a namespace, and a name or
a valid selector. `Subject.ofRef` resolves a reference or says what is wrong with it, and
`Subject.selects` decides whether a workload is one of the subject's.
-/

namespace WorkloadBindings

/-- How a subject picks its workloads. -/
inductive Selection where
  /-- The one workload with a name. -/
  | name (name : String)
  /-- All workloads whose labels match. -/
  | selector (selector : Selector)
  deriving DecidableEq

/-- The workloads a binding applies to. -/
structure Subject where
  groupKind : GroupKind
  version : String
  «namespace» : String
  selection : Selection
  deriving DecidableEq

/-- Why a reference resolves to no subject. -/
inductive SubjectFault where
  | apiVersion (text : String)
  | missingKind
  | missingNamespace
  | selection
  | selector (fault : SelectorFault)
  deriving DecidableEq

/-- The words for a reference that resolves to no subject. -/
def SubjectFault.message : SubjectFault → String
  | apiVersion text => "invalid apiVersion: " ++ Text.quoted text
  | missingKind => "subject kind must be set"
  | missingNamespace => "subject namespace must be set"
  | selection => "subject must set exactly one of 'name' or 'selector'"
  | selector fault => fault.message

namespace Subject

/-- The namespace that a reference means: its own, or else that of the binding. -/
def resolveNamespace (own : Option String) (binding : String) : Except SubjectFault String :=
  if own.getD "" ≠ "" then .ok (own.getD "")
  else if binding ≠ "" then .ok binding
  else .error .missingNamespace

/-- The selection that a reference means: a name that is not empty or a valid selector, and not
both. -/
def resolveSelection (r : SubjectRef) : Except SubjectFault Selection :=
  match r.name, r.selector with
  | some name, none => if name = "" then .error .selection else .ok (.name name)
  | none, some s =>
    match s.validate with
    | .ok () => .ok (.selector s)
    | .error fault => .error (.selector fault)
  | _, _ => .error .selection

/-- The subject that a binding in a namespace means by a reference. -/
def ofRef (r : SubjectRef) (bindingNamespace : String) : Except SubjectFault Subject := do
  let gv ←
    match GroupVersion.parse? r.apiVersion with
    | some gv => Except.ok gv
    | none => Except.error (SubjectFault.apiVersion r.apiVersion)
  if r.kind = "" then .error .missingKind
  else
    let ns ← resolveNamespace r.namespace bindingNamespace
    let selection ← resolveSelection r
    .ok ⟨⟨gv.group, r.kind⟩, gv.version, ns, selection⟩

/-- The type of the subject's workloads, as requests address it. -/
def resourceType (s : Subject) : ResourceType := ⟨s.groupKind.group, s.version, s.groupKind.kind⟩

/-- The name of the one workload, unless the subject selects by labels. -/
def name? (s : Subject) : Option String :=
  match s.selection with
  | .name name => some name
  | .selector _ => none

/-- The subject in messages: kind, namespace, and a name or a query in brackets. -/
def render (s : Subject) : String :=
  match s.selection with
  | .name name => s.groupKind.render ++ "/" ++ s.namespace ++ "." ++ name
  | .selector selector => s.groupKind.render ++ "/" ++ s.namespace ++ "[" ++ selector.query ++ "]"

end Subject

/-- What the selection of a workload depends on. -/
structure Target where
  groupKind : GroupKind
  «namespace» : String
  name : String
  labels : Labels
  deriving DecidableEq

/-- The workload is one of the subject's: of its kind, in its namespace, and with its name or with
labels that match. -/
def Subject.selects (s : Subject) (t : Target) : Bool :=
  s.groupKind == t.groupKind && s.namespace == t.namespace &&
    match s.selection with
    | .name name => name == t.name
    | .selector selector => selector.accepts t.labels

end WorkloadBindings
