import WorkloadBindings.Json.Shape

/-!
# Label selectors

A selector picks objects by their labels: every pair of `matchLabels` must be among them, and every
requirement of `matchExpressions` must hold. `Selector.accepts` decides it on a set of labels,
`Selector.query` writes the same selection in the query language of list requests, and
`Selector.validate` tells the selectors that say something from those that are malformed.
-/

namespace WorkloadBindings

/-- The labels of an object: names with values. -/
abbrev Labels : Type := SortedMap String String

namespace Labels

/-- Labels are an object of texts. -/
def shape : Shape := .map .text

/-- The labels that an object of texts writes. -/
def ofJson (j : Json) : Labels :=
  SortedMap.ofList (j.members.filterMap fun m => m.2.str?.map (m.1, ·))

/-- The object of texts that writes the labels. -/
def toJson (labels : Labels) : Json := Json.texts labels.entries

/-- The wire shape of the selectors of the API itself, which are only passed on. -/
def selectorShape : Shape :=
  .api "LabelSelector"
    [("matchExpressions", .nullable,
       .list (.api "LabelSelectorRequirement"
         [("key", .filled (.str ""), .text),
          ("operator", .filled (.str ""), .text),
          ("values", .nullable, .list .text)])),
     ("matchLabels", .nullable, shape)]

end Labels

/-- How a requirement looks at the value of its label. -/
inductive Operator where
  /-- `In`: the label is there, with one of the values. -/
  | oneOf
  /-- `NotIn`: the label is not there with one of the values. -/
  | noneOf
  /-- `Exists`: the label is there. -/
  | present
  /-- `DoesNotExist`: the label is not there. -/
  | absent
  deriving DecidableEq, Repr

namespace Operator

/-- The name of an operator in a selector. -/
def name : Operator → String
  | oneOf => "In"
  | noneOf => "NotIn"
  | present => "Exists"
  | absent => "DoesNotExist"

/-- The operators. -/
def all : List Operator := [oneOf, noneOf, present, absent]

/-- The operator with a name. -/
def ofName? (s : String) : Option Operator := all.find? fun o => o.name == s

/-- The operator compares the label's value with the values of the requirement. -/
def takesValues : Operator → Bool
  | oneOf | noneOf => true
  | present | absent => false

end Operator

/-- A condition on one label. -/
structure Requirement where
  key : String
  operator : Operator
  values : SortedSet String
  deriving DecidableEq

/-- Why a selector is malformed. -/
inductive SelectorFault where
  | emptyKey
  | emptyLabelKey
  | valuesMissing (operator : Operator) (key : String)
  | valuesGiven (operator : Operator) (key : String)
  deriving DecidableEq

/-- The words for a malformed selector. -/
def SelectorFault.message (fault : SelectorFault) : String :=
  "invalid label selector: " ++
    match fault with
    | .emptyKey => "expression key must not be empty"
    | .emptyLabelKey => "matchLabels key must not be empty"
    | .valuesMissing o key => o.name ++ " requirement on " ++ key ++ " must have values"
    | .valuesGiven o key => o.name ++ " requirement on " ++ key ++ " must not have values"

namespace Requirement

/-- The labels satisfy the requirement. -/
def holds (r : Requirement) (labels : Labels) : Bool :=
  match r.operator, labels.get? r.key with
  | .oneOf, some v => r.values.contains v
  | .oneOf, none => false
  | .noneOf, some v => !r.values.contains v
  | .noneOf, none => true
  | .present, v => v.isSome
  | .absent, v => v.isNone

/-- The requirement has a key, and values exactly when its operator compares with them. -/
def validate (r : Requirement) : Except SelectorFault Unit :=
  if r.key = "" then .error .emptyKey
  else if r.operator.takesValues && r.values.size == 0 then
    .error (.valuesMissing r.operator r.key)
  else if !r.operator.takesValues && r.values.size != 0 then
    .error (.valuesGiven r.operator r.key)
  else .ok ()

/-- The requirement in the query language. -/
def query (r : Requirement) : String :=
  let values := ",".intercalate r.values.toList
  match r.operator with
  | .oneOf => r.key ++ " in (" ++ values ++ ")"
  | .noneOf => r.key ++ " notin (" ++ values ++ ")"
  | .present => r.key
  | .absent => "!" ++ r.key

/-- The wire shape of a requirement. -/
def shape : Shape :=
  .declared "Expression" ["key", "operator", "values"]
    [("key", .required, .text),
     ("operator", .required, .choice (Operator.all.map Operator.name)),
     ("values", .omittable, .textSet)]

/-- The requirement that a value of its shape writes. -/
def ofJson (j : Json) : Requirement where
  key := ((j.get? "key").bind Json.str?).getD ""
  operator := (((j.get? "operator").bind Json.str?).bind Operator.ofName?).getD .oneOf
  values := SortedSet.ofList (((j.get? "values").map Json.items).getD [] |>.filterMap Json.str?)

/-- The requirement as an object; values are left out when there are none. -/
def toJson (r : Requirement) : Json :=
  .record
    [("key", some (.str r.key)),
     ("operator", some (.str r.operator.name)),
     ("values", if r.values.size = 0 then none else some (.strings r.values.toList))]

end Requirement

/-- A selection of objects by their labels. -/
structure Selector where
  matchLabels : Option Labels
  matchExpressions : Option (List Requirement)
  deriving DecidableEq

namespace Selector

/-- The selector of certain pairs, a later pair of a name in place of an earlier one. -/
def ofPairs (pairs : List (String × String)) : Selector := ⟨some (SortedMap.ofList pairs), none⟩

/-- The selector of certain requirements. -/
def ofRequirements (requirements : List Requirement) : Selector := ⟨none, some requirements⟩

/-- The pairs that must be among the labels, in the order of their names. -/
def pairs (s : Selector) : List (String × String) := (s.matchLabels.map (·.entries)).getD []

/-- The requirements, in order. -/
def requirements (s : Selector) : List Requirement := s.matchExpressions.getD []

/-- The labels satisfy every requirement and hold every pair. -/
def accepts (s : Selector) (labels : Labels) : Bool :=
  s.requirements.all (·.holds labels) && s.pairs.all fun p => labels.get? p.1 == some p.2

/-- Every requirement is well-formed and no pair has an empty name; the first fault counts. -/
def validate (s : Selector) : Except SelectorFault Unit := do
  s.requirements.forM Requirement.validate
  if s.pairs.any fun p => p.1 == "" then .error .emptyLabelKey else .ok ()

/-- The selection in the query language: the pairs, then the requirements. -/
def query (s : Selector) : String :=
  ",".intercalate ((s.pairs.map fun p => p.1 ++ "=" ++ p.2) ++ s.requirements.map Requirement.query)

/-- The wire shape of a selector. -/
def shape : Shape :=
  .declared "Selector" ["matchLabels", "matchExpressions"]
    [("matchExpressions", .elective, .list Requirement.shape),
     ("matchLabels", .elective, Labels.shape)]

/-- The selector that a value of its shape writes. -/
def ofJson (j : Json) : Selector where
  matchLabels := (j.get? "matchLabels").map Labels.ofJson
  matchExpressions := (j.get? "matchExpressions").map fun xs => xs.items.map Requirement.ofJson

/-- The selector as an object; what was not given is left out, what was given empty is kept. -/
def toJson (s : Selector) : Json :=
  .record
    [("matchExpressions", s.matchExpressions.map fun rs => .arr (rs.map Requirement.toJson)),
     ("matchLabels", s.matchLabels.map Labels.toJson)]

/-- Reads a selector. -/
def decode (j : Json) : Except DecodeError Selector := (shape.conform j).map ofJson

end Selector

end WorkloadBindings
