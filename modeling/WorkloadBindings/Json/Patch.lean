import WorkloadBindings.Json.Pointer

/-!
# JSON patches

A patch is a list of operations on places inside a value, carried out in order. `Json.diff old new`
is the patch that turns one value into another: objects are compared member by member, the members
of the new object first and then those that are gone; lists are compared index by index, with the
surplus of either side added or removed at the end; any other difference replaces the value.
`Json.applyPatch` carries a patch out, and is undefined when an operation names no place or a test
fails.

A merge patch is a value like the one it changes: an object changes the members it names, null
takes a member away, and any other value takes the place of what was there (`Json.merge`).
-/

namespace WorkloadBindings

/-- One operation of a JSON patch. -/
inductive PatchOp where
  /-- Put a value at a place: a new or replaced member, or an item inserted before an index. -/
  | add (path : Pointer) (value : Json)
  /-- Take away what is at a place. -/
  | remove (path : Pointer)
  /-- Put a value in place of the one at a place. -/
  | replace (path : Pointer) (value : Json)
  /-- Take the value away from a place and put it at another one. -/
  | move (source path : Pointer)
  /-- Put the value at a place at another one, too. -/
  | copy (source path : Pointer)
  /-- Go on only if this value is at a place. -/
  | test (path : Pointer) (value : Json)
  deriving DecidableEq

/-- A JSON patch. -/
abbrev Patch : Type := List PatchOp

namespace PatchOp

/-- The place an operation acts on. -/
def path : PatchOp → Pointer
  | .add p _ => p
  | .remove p => p
  | .replace p _ => p
  | .move _ p => p
  | .copy _ p => p
  | .test p _ => p

/-- The operation as a JSON object. -/
def toJson : PatchOp → Json
  | .add p v => .obj [("op", .str "add"), ("path", .str p.render), ("value", v)]
  | .remove p => .obj [("op", .str "remove"), ("path", .str p.render)]
  | .replace p v => .obj [("op", .str "replace"), ("path", .str p.render), ("value", v)]
  | .move s p => .obj [("from", .str s.render), ("op", .str "move"), ("path", .str p.render)]
  | .copy s p => .obj [("from", .str s.render), ("op", .str "copy"), ("path", .str p.render)]
  | .test p v => .obj [("op", .str "test"), ("path", .str p.render), ("value", v)]

end PatchOp

/-- The patch as a JSON list. -/
def Patch.toJson (p : Patch) : Json := .arr (p.map PatchOp.toJson)

namespace Json

/-! ## Differences -/

mutual

/-- The operations that turn `old` into `new`, both of them at the place `path`. -/
def diffAt (path : Pointer) (old : Json) : Json → Patch
  | .obj news =>
    match old with
    | .obj olds =>
      diffMembers path olds news ++
        (olds.filter fun m => (Assoc.get? m.1 news).isNone).map fun m => .remove (path ++ [m.1])
    | _ => [.replace path (.obj news)]
  | .arr news =>
    match old with
    | .arr olds => diffItems path 0 olds news
    | _ => [.replace path (.arr news)]
  | new => if old = new then [] else [.replace path new]

/-- The operations that bring the members `olds` to the values that `news` lists. -/
def diffMembers (path : Pointer) (olds : Members) : List (String × Json) → Patch
  | [] => []
  | (name, new) :: rest =>
    (match Assoc.get? name olds with
      | some old => diffAt (path ++ [name]) old new
      | none => [.add (path ++ [name]) new]) ++ diffMembers path olds rest

/-- The operations that turn the items `olds` into `news`, both of them from index `i` on. -/
def diffItems (path : Pointer) (i : Nat) (olds : List Json) : List Json → Patch
  | [] => olds.map fun _ => .remove (path ++ [Pointer.ofIndex i])
  | new :: news =>
    match olds with
    | [] => .add (path ++ [Pointer.ofIndex i]) new :: diffItems path (i + 1) [] news
    | old :: olds =>
      diffAt (path ++ [Pointer.ofIndex i]) old new ++ diffItems path (i + 1) olds news

end

/-- The patch that turns `old` into `new`. -/
def diff (old new : Json) : Patch := diffAt [] old new

/-! ## Carrying a patch out -/

/-- The value with `f` carried out at a place that exists. -/
def modifyAt (f : Json → Option Json) : Pointer → Json → Option Json
  | [], j => f j
  | token :: rest, .obj ms => do
    let old ← Assoc.get? token ms
    let new ← modifyAt f rest old
    some (.obj (Assoc.insert token new ms))
  | token :: rest, .arr xs => do
    let i ← Pointer.index? token
    let old ← xs[i]?
    let new ← modifyAt f rest old
    some (.arr (xs.set i new))
  | _ :: _, _ => none

/-- The container with a value put at a token: a member, an item before an index, or, at `-`, an
item after the last. -/
def addChild (token : String) (value : Json) : Json → Option Json
  | .obj ms => some (.obj (Assoc.insert token value ms))
  | .arr xs =>
    if token = "-" then some (.arr (xs ++ [value]))
    else do
      let i ← Pointer.index? token
      if i ≤ xs.length then some (.arr (xs.insertIdx i value)) else none
  | _ => none

/-- The container without what it holds at a token. -/
def removeChild (token : String) : Json → Option Json
  | .obj ms =>
    match Assoc.get? token ms with
    | some _ => some (.obj (Assoc.erase token ms))
    | none => none
  | .arr xs => do
    let i ← Pointer.index? token
    if i < xs.length then some (.arr (xs.eraseIdx i)) else none
  | _ => none

/-- The value with another one put at a place inside it. -/
def addAt (path : Pointer) (value : Json) (j : Json) : Option Json :=
  match path.getLast? with
  | none => some value
  | some token => modifyAt (addChild token value) path.dropLast j

/-- The value without the one at a place inside it. -/
def removeAt (path : Pointer) (j : Json) : Option Json :=
  match path.getLast? with
  | none => none
  | some token => modifyAt (removeChild token) path.dropLast j

/-- The value after one operation; nothing when the operation names no place, or a test fails. -/
def applyOp (j : Json) : PatchOp → Option Json
  | .replace path value => modifyAt (fun _ => some value) path j
  | .add path value => addAt path value j
  | .remove path => removeAt path j
  | .move source path => do addAt path (← j.at? source) (← removeAt source j)
  | .copy source path => do addAt path (← j.at? source) j
  | .test path value => if j.at? path = some value then some j else none

/-- The value after the operations of a patch, one after the other. -/
def applyPatch (j : Json) (patch : Patch) : Option Json := patch.foldlM applyOp j

/-! ## Merge patches -/

mutual

/-- The value after a merge patch. -/
def merge (target : Json) : Json → Json
  | .obj changes => .obj (mergeMembers target.members changes)
  | change => change

/-- The members after the changes that a merge patch names, one after the other. -/
def mergeMembers (ms : Members) : List (String × Json) → Members
  | [] => ms
  | (name, .null) :: rest => mergeMembers (Assoc.erase name ms) rest
  | (name, change) :: rest =>
    mergeMembers (Assoc.insert name (merge ((Assoc.get? name ms).getD .null) change) ms) rest

end

end Json

end WorkloadBindings
