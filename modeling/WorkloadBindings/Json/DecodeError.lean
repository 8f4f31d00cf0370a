import WorkloadBindings.Json.Pointer
import WorkloadBindings.Json.Reader
import WorkloadBindings.Text.Base64
import WorkloadBindings.Text.Quoted
import WorkloadBindings.Timestamp.Reader

/-!
# Why a value does not fit

`DecodeError` lists the causes for which a JSON value, or the text of one, is refused where a value
of a certain shape is expected, and `DecodeError.message` words them.
-/

namespace WorkloadBindings

/-- A cause for which a JSON value does not have an expected shape. -/
inductive DecodeError where
  /-- An object lacks a member it must have. -/
  | missingField (name : String)
  /-- An object has a member twice. -/
  | duplicateField (name : String)
  /-- A value of another kind stands here. -/
  | invalidType (found : Json) (expected : String)
  /-- A value of the right kind stands here, but not one that is allowed. -/
  | invalidValue (found : Json) (expected : String)
  /-- A text that is none of the listed ones. -/
  | unknownVariant (found : String) (known : List String)
  /-- A value that is no text stands where one of some texts must. -/
  | notChoice (found : Json)
  /-- An object with no or several members stands where one of some texts must. -/
  | notSingle (members : Members) (known : List String)
  /-- A list that stands for an object has too few items. -/
  | invalidLength (length : Nat) (expected : String)
  /-- A list that stands for an object has too many items. -/
  | tooLong (length : Nat)
  /-- The text is no value. -/
  | malformed (fault : SyntaxError)
  /-- A text that is no point in time. -/
  | timestamp (fault : Timestamp.Fault)
  /-- A text that is no base64. -/
  | base64 (fault : Base64.Fault)
  /-- A text that names no place inside a value. -/
  | pointer (fault : Pointer.Fault)
  deriving DecidableEq

namespace DecodeError

/-- The words for the kind and, where it is short, the content of a value. -/
def describe : Json → String
  | .null => "null"
  | .bool true => "boolean `true`"
  | .bool false => "boolean `false`"
  | .int n => "integer `" ++ toString n ++ "`"
  | .real text => "floating point `" ++ text ++ "`"
  | .str s => "string " ++ Text.quoted s
  | .arr _ => "sequence"
  | .obj _ => "map"

/-- The words for the texts that would have been allowed. -/
def oneOf : List String → String
  | [] => "there are no variants"
  | [a] => "expected `" ++ a ++ "`"
  | [a, b] => "expected `" ++ a ++ "` or `" ++ b ++ "`"
  | known => "expected one of " ++ ", ".intercalate (known.map fun a => "`" ++ a ++ "`")

/-- The words for a cause. -/
def message : DecodeError → String
  | missingField name => "missing field `" ++ name ++ "`"
  | duplicateField name => "duplicate field `" ++ name ++ "`"
  | invalidType found expected => "invalid type: " ++ describe found ++ ", expected " ++ expected
  | invalidValue found expected => "invalid value: " ++ describe found ++ ", expected " ++ expected
  | unknownVariant found known => "unknown variant `" ++ found ++ "`, " ++ oneOf known
  | notChoice found => "invalid type: " ++ describe found ++ ", expected string or map"
  | notSingle _ _ => "invalid value: map, expected map with a single key"
  | invalidLength length expected =>
    "invalid length " ++ toString length ++ ", expected " ++ expected
  | tooLong length =>
    "invalid length " ++ toString length ++ ", expected fewer elements in array"
  | malformed fault => fault.message
  | timestamp fault => fault.message
  | base64 fault => fault.message
  | pointer fault => fault.message

end DecodeError

end WorkloadBindings
