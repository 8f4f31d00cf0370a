import WorkloadBindings.Json.Shape

/-!
# Status of bindings

What was observed about a binding: the generation that was last carried out, and conditions. The
one condition of interest is `Ready`, which holds when every workload of the binding is bound.
`markTrue`, `markFalse` and `markUnknown` record it with the time at which its value last changed;
whatever other conditions there are stay as they are.
-/

namespace WorkloadBindings

/-- The value of a condition. -/
inductive ConditionStatus where
  | yes
  | no
  | unknown
  deriving DecidableEq, Repr

namespace ConditionStatus

/-- The word for a value. -/
def name : ConditionStatus → String
  | yes => "True"
  | no => "False"
  | unknown => "Unknown"

/-- The values. -/
def all : List ConditionStatus := [yes, no, unknown]

/-- The value that a word stands for. -/
def ofName? (s : String) : Option ConditionStatus := all.find? fun c => c.name == s

end ConditionStatus

/-- An observation about a binding. -/
structure Condition where
  type : String
  status : ConditionStatus
  reason : Option String
  message : Option String
  lastTransitionTime : Option String
  deriving DecidableEq

namespace Condition

/-- The wire shape of a condition. -/
def shape : Shape :=
  .declared "Condition" ["type", "status", "reason", "message", "lastTransitionTime"]
    [("lastTransitionTime", .elective, .text),
     ("message", .elective, .text),
     ("reason", .elective, .text),
     ("status", .required, .choice (ConditionStatus.all.map ConditionStatus.name)),
     ("type", .required, .text)]

/-- The condition that a value of its shape writes. -/
def ofJson (j : Json) : Condition where
  type := ((j.get? "type").bind Json.str?).getD ""
  status := (((j.get? "status").bind Json.str?).bind ConditionStatus.ofName?).getD .unknown
  reason := (j.get? "reason").bind Json.str?
  message := (j.get? "message").bind Json.str?
  lastTransitionTime := (j.get? "lastTransitionTime").bind Json.str?

/-- The condition as an object. -/
def toJson (c : Condition) : Json :=
  .record
    [("lastTransitionTime", c.lastTransitionTime.map .str),
     ("message", c.message.map .str),
     ("reason", c.reason.map .str),
     ("status", some (.str c.status.name)),
     ("type", some (.str c.type))]

end Condition

/-- The status of a binding. -/
structure BindingStatus where
  observedGeneration : Option Int := none
  conditions : List Condition := []
  deriving DecidableEq

namespace BindingStatus

/-- The wire shape of a status. -/
def shape : Shape :=
  .declared "BindingStatus" ["observedGeneration", "conditions"]
    [("conditions", .omittable, .list Condition.shape),
     ("observedGeneration", .elective, Shape.int64)]

/-- The status that a value of its shape writes. -/
def ofJson (j : Json) : BindingStatus where
  observedGeneration := (j.get? "observedGeneration").bind Json.int?
  conditions := ((j.get? "conditions").map fun xs => xs.items.map Condition.ofJson).getD []

/-- The status as an object; conditions are left out when there are none. -/
def toJson (s : BindingStatus) : Json :=
  .record
    [("conditions",
       if s.conditions.isEmpty then none else some (.arr (s.conditions.map Condition.toJson))),
     ("observedGeneration", s.observedGeneration.map .int)]

/-- Reads a status. -/
def decode (j : Json) : Except DecodeError BindingStatus := (shape.conform j).map ofJson

/-! ## Conditions -/

/-- The type of the condition that every workload of the binding is bound. -/
def readyType : String := "Ready"

/-- The first `Ready` condition. -/
def ready? (s : BindingStatus) : Option Condition :=
  s.conditions.find? fun c => c.type == readyType

/-- The binding is ready. -/
def isReady (s : BindingStatus) : Bool := (s.ready?.map fun c => c.status == .yes).getD false

/-- The condition with a new value, reason and message; the time of its last change is that of the
present change only if the value differs. -/
def Condition.update (c : Condition) (status : ConditionStatus) (reason message : Option String)
    (now : Timestamp) : Condition :=
  { c with
    status := status
    reason := reason
    message := message
    lastTransitionTime := if c.status = status then c.lastTransitionTime else some now.render }

/-- The conditions with the first `Ready` one updated, or with a new one at the end. -/
def setReady (status : ConditionStatus) (reason message : Option String) (now : Timestamp) :
    List Condition → List Condition
  | [] => [⟨readyType, status, reason, message, some now.render⟩]
  | c :: rest =>
    if c.type = readyType then Condition.update c status reason message now :: rest
    else c :: setReady status reason message now rest

/-- Adds the `Ready` condition, not yet known, unless there is one. -/
def prepare (s : BindingStatus) (now : Timestamp) : BindingStatus :=
  match s.ready? with
  | some _ => s
  | none =>
    { s with
      conditions := s.conditions ++ [⟨readyType, .unknown, none, none, some now.render⟩] }

/-- Records that the binding is ready. -/
def markTrue (s : BindingStatus) (now : Timestamp) : BindingStatus :=
  { s with conditions := setReady .yes none none now s.conditions }

/-- Records that the binding is not ready, and why. -/
def markFalse (s : BindingStatus) (reason message : String) (now : Timestamp) : BindingStatus :=
  { s with conditions := setReady .no (some reason) (some message) now s.conditions }

/-- Records that it is not known whether the binding is ready, and why. -/
def markUnknown (s : BindingStatus) (reason message : String) (now : Timestamp) : BindingStatus :=
  { s with conditions := setReady .unknown (some reason) (some message) now s.conditions }

/-- The reason of a binding whose workload, or every workload its selector could match, is gone. -/
def subjectMissing : String := "SubjectMissing"

/-- The reason of a binding of which a workload could not be changed. -/
def bindingFailed : String := "BindingFailed"

/-- The reason of a binding whose reference resolves to no subject. -/
def malformedSubject : String := "MalformedSubject"

/-- The reason of a binding that is being deleted and undone. -/
def finalizing : String := "Finalizing"

end BindingStatus

end WorkloadBindings
