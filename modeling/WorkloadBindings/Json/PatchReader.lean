import WorkloadBindings.Json.Patch
import WorkloadBindings.Json.Shape

/-!
# Reading JSON patches

`Patch.decode` reads the operations of a patch. An operation is an object, or a list that names the
operation first and then gives its members in order. The name is looked at before all else.
-/

namespace WorkloadBindings

namespace PatchOp

/-- The names of the operations. -/
def names : List String := ["add", "remove", "replace", "move", "copy", "test"]

/-- The type of an operation, and its members in order. -/
def record : String → String × List String
  | "add" => ("AddOperation", ["path", "value"])
  | "remove" => ("RemoveOperation", ["path"])
  | "replace" => ("ReplaceOperation", ["path", "value"])
  | "move" => ("MoveOperation", ["from", "path"])
  | "copy" => ("CopyOperation", ["from", "path"])
  | _ => ("TestOperation", ["path", "value"])

/-- The wire shape of an operation without its name. -/
def shape (name : String) : Shape :=
  let (type, order) := record name
  .declared type order
    (order.map fun member => (member, .required, if member = "value" then .any else .pointer))

/-- The place that a member names. -/
def pointerAt (j : Json) (name : String) : Pointer :=
  (((j.get? name).bind Json.str?).bind Pointer.parse?).getD []

/-- The operation that a value of its shape writes. -/
def ofJson (name : String) (j : Json) : PatchOp :=
  let path := pointerAt j "path"
  let value := (j.get? "value").getD .null
  match name with
  | "add" => .add path value
  | "remove" => .remove path
  | "replace" => .replace path value
  | "move" => .move (pointerAt j "from") path
  | "copy" => .copy (pointerAt j "from") path
  | _ => .test path value

/-- The name of an operation. -/
def decodeName : Json → Except DecodeError String
  | .str s => if names.contains s then .ok s else .error (.unknownVariant s names)
  | other => .error (.invalidType other "variant identifier")

/-- A list of more items than the operation has members. -/
def surplus (given count : Nat) : DecodeError :=
  .invalidLength given
    (toString count ++ (if count = 1 then " element" else " elements") ++ " in sequence")

/-- Reads an operation. -/
def decode : Json → Except DecodeError PatchOp
  | .obj ms =>
    match Assoc.get? "op" ms with
    | none => .error (.missingField "op")
    | some name => do
      let name ← decodeName name
      (((shape name).conform (.obj (Assoc.erase "op" ms))).map (ofJson name))
  | .arr [] => .error (.missingField "op")
  | .arr (name :: items) => do
    let name ← decodeName name
    let count := (record name).2.length
    let j ← (shape name).conform (.arr (items.take count))
    if count < items.length then .error (surplus items.length count) else .ok (ofJson name j)
  | other => .error (.invalidType other "internally tagged enum PatchOperation")

end PatchOp

/-- Reads a patch. -/
def Patch.decode : Json → Except DecodeError Patch
  | .arr items => items.mapM PatchOp.decode
  | other => .error (.invalidType other "a sequence")

end WorkloadBindings
