import WorkloadBindings.Json.DecodeError

/-!
# Shapes of JSON values

A `Shape` says which JSON values stand for the values of some type of the API, and
`Shape.conform` brings a value into the one form in which such a value is written: members that the
shape does not know are dropped, members that may be absent are left out when they are null, those
that are always written get their default, points in time are written in UTC, and sets are sorted. A
value that does not fit is refused with the first cause: members are visited in ascending order of
their names, and what is missing is noticed after all of them, in the order in which the type
declares its members. `Json.ShapeReader` reads a text by a shape.

The types of this library are read off a value in that form and are written back into it.
-/

namespace WorkloadBindings

/-- How a member may be absent. -/
inductive Presence where
  /-- It must be given, and a null is refused as a value of its shape. -/
  | required
  /-- It may be absent or null, and is then left out; but a list that stands for the object must
  reach its place. -/
  | nullable
  /-- It may be absent or null, and is then left out. -/
  | elective
  /-- It may be absent, and is then written with a fallback. -/
  | lenient (fallback : Json)
  /-- It may be absent, and is left out when it is an empty list. -/
  | omittable
  /-- It may be absent or null, and is then written with a fallback. -/
  | filled (fallback : Json)
  /-- It must be given, and a null is written as a fallback. -/
  | stated (fallback : Json)
  deriving DecidableEq

namespace Presence

/-- What a null in place of the member stands for: nothing, or a value; no answer when a null is a
value of the member's shape, or none at all. -/
def ofNull : Presence → Option (Option Json)
  | required | lenient _ | omittable => none
  | nullable | elective | filled _ => some none
  | stated fallback => some (some fallback)

/-- The member must be given. -/
def isDemanded : Presence → Bool
  | required | stated _ => true
  | _ => false

/-- A list that stands for the object must reach the member's place. -/
def isDemandedInList : Presence → Bool
  | required | stated _ | nullable => true
  | _ => false

end Presence

/-- What a JSON value must be made of. -/
inductive Shape where
  /-- Any value. -/
  | any
  /-- Any text. -/
  | text
  /-- A truth value. -/
  | flag
  /-- An integer between two bounds, with the name of its range. -/
  | integer (name : String) (low high : Int)
  /-- A 32-bit integer or a text. -/
  | integerOrText
  /-- A point in time; `precise` ones keep the fraction of the second. -/
  | instant (precise : Bool)
  /-- The text of a pointer into a value. -/
  | pointer
  /-- Bytes in base64; with `orNull` a null stands for no bytes. -/
  | bytes (orNull : Bool)
  /-- A list of values of one shape. -/
  | list (item : Shape)
  /-- A set of texts. -/
  | textSet
  /-- An object with any names and values of one shape. -/
  | map (value : Shape)
  /-- One of some texts. -/
  | choice (names : List String)
  /-- Exactly one text. -/
  | literal (value : String)
  /-- An object with known members, in ascending order of their names. A record also has an `order`,
  the names as its type declares them: a list of the members' values may stand for it, and none of
  them may be given twice. -/
  | object (expected : String) (fields : List (String × Presence × Shape))
      (order : Option (List String))
  /-- An object with known members, none of which may be given twice, and any others, which stay as
  they are. Of those the `late` ones are known too, and are looked at after all others. All are in
  ascending order of their names. -/
  | extensible (expected : String) (fields late : List (String × Presence × Shape))

namespace Shape

/-- What was found at the place of a member. -/
inductive Visit where
  /-- Nothing, or a null that counts as nothing. -/
  | absent
  /-- A value that does not fit. -/
  | refused (cause : DecodeError)
  /-- A value, in its written form. -/
  | given (value : Json)

/-- The 64-bit integers. -/
def int64 : Shape := .integer "i64" (-9223372036854775808) 9223372036854775807

/-- The 32-bit integers. -/
def int32 : Shape := .integer "i32" (-2147483648) 2147483647

/-- The 32-bit natural numbers. -/
def nat32 : Shape := .integer "u32" 0 4294967295

/-- The 16-bit natural numbers. -/
def nat16 : Shape := .integer "u16" 0 65535

/-- An object of the Kubernetes API, whose members a list never stands for. -/
def api (name : String) (fields : List (String × Presence × Shape)) : Shape :=
  .object name fields none

/-- A record with its members in the order of declaration; its shape lists them by name. -/
def declared (name : String) (order : List String) (fields : List (String × Presence × Shape)) :
    Shape :=
  .object ("struct " ++ name) fields (some order)

/-- The values that some visits found, or the cause of the first one that refused. -/
def firstRefusal : List (String × Presence × Visit) → Option DecodeError
  | [] => none
  | (_, _, .refused cause) :: _ => some cause
  | _ :: rest => firstRefusal rest

/-- The written members after the visits; absent ones get their fallback or are left out. -/
def written : List (String × Presence × Visit) → Members
  | [] => []
  | (name, presence, visit) :: rest =>
    match visit, presence with
    | .given (.arr []), .omittable => written rest
    | .given value, _ => (name, value) :: written rest
    | _, .lenient fallback => (name, fallback) :: written rest
    | _, .filled fallback => (name, fallback) :: written rest
    | _, _ => written rest

/-- The visit of the member with a name. -/
def visitOf (name : String) : List (String × Presence × Visit) → Option (Presence × Visit)
  | [] => none
  | (n, presence, visit) :: rest => if n = name then some (presence, visit) else visitOf name rest

/-- The member must be given and is not. -/
def isMissing (visits : List (String × Presence × Visit)) (name : String) : Bool :=
  match visitOf name visits with
  | some (presence, .absent) => presence.isDemanded
  | _ => false

/-- The names of the members, in the order in which missing ones are noticed. -/
def noticed (visits : List (String × Presence × Visit)) (order : Option (List String)) :
    List String :=
  order.getD (visits.map fun v => v.1)

/-- The members of an object after its visits. -/
def ofObject (visits : List (String × Presence × Visit)) (order : Option (List String)) :
    Except DecodeError Json :=
  match firstRefusal visits with
  | some cause => .error cause
  | none =>
    match (noticed visits order).find? (isMissing visits) with
    | some name => .error (.missingField name)
    | none => .ok (.obj (written visits))

/-- The members of an object, with those of another object in place of the ones with their names. -/
def overlay (ms : Members) (known : Json) : Json :=
  .obj (known.members.foldl (fun ms m => Assoc.insert m.1 m.2 ms) ms)

/-- A list that stands for an object has too few items. -/
def shortList (expected : String) (count given : Nat) : DecodeError :=
  .invalidLength given
    (expected ++ " with " ++ toString count ++ (if count = 1 then " element" else " elements"))

/-- The first cause to refuse a list that stands for an object: its items are visited in the order
of declaration, and one that must be given may lack. A place before the end of the list is not
empty, even if its value counts as nothing. -/
def listRefusal (expected : String) (count given : Nat)
    (visits : List (String × Presence × Visit)) : Nat → List String → Option DecodeError
  | _, [] => none
  | i, name :: rest =>
    match visitOf name visits with
    | some (_, .refused cause) => some cause
    | some (presence, _) =>
      if given ≤ i && presence.isDemandedInList then some (shortList expected count i)
      else listRefusal expected count given visits (i + 1) rest
    | none => listRefusal expected count given visits (i + 1) rest

/-- The members of an object for which a list of `given` items stands. -/
def ofList (expected : String) (order : List String) (given : Nat)
    (visits : List (String × Presence × Visit)) : Except DecodeError Json :=
  match listRefusal expected order.length given visits 0 order with
  | some cause => .error cause
  | none =>
    if order.length < given then .error (.tooLong given)
    else .ok (.obj (written visits))

/-- The texts of a list in which every item is a text. -/
def textItems : List Json → Except DecodeError (List String)
  | [] => .ok []
  | .str s :: rest => (textItems rest).map (s :: ·)
  | other :: _ => .error (.invalidType other "a string")

/-- Carries `f` out on every item of a list, up to the first that is refused. -/
def eachItem (f : Json → Except DecodeError Json) : List Json → Except DecodeError (List Json)
  | [] => .ok []
  | x :: rest => do
    let y ← f x
    let ys ← eachItem f rest
    .ok (y :: ys)

/-- Carries `f` out on every member of an object, up to the first that is refused. -/
def eachMember (f : Json → Except DecodeError Json) : Members → Except DecodeError Members
  | [] => .ok []
  | (name, x) :: rest => do
    let y ← f x
    let ys ← eachMember f rest
    .ok ((name, y) :: ys)

/-- One of some texts; an object whose only member has that name and is null stands for it too. -/
def chosen (names : List String) (j : Json) : Except DecodeError Json :=
  let pick (s : String) : Except DecodeError Json :=
    if names.contains s then .ok (.str s) else .error (.unknownVariant s names)
  match j with
  | .str s => pick s
  | .obj [(s, .null)] => pick s
  | .obj [(s, other)] => do
    let _ ← pick s
    .error (.invalidType other "unit")
  | .obj ms => .error (.notSingle ms names)
  | other => .error (.notChoice other)

mutual

/-- The written form of a value of the shape. -/
def conform : Shape → Json → Except DecodeError Json
  | .any, j => .ok j
  | .text, .str s => .ok (.str s)
  | .text, j => .error (.invalidType j "a string")
  | .flag, .bool b => .ok (.bool b)
  | .flag, j => .error (.invalidType j "a boolean")
  | .integer name low high, .int n =>
    if low ≤ n ∧ n ≤ high then .ok (.int n) else .error (.invalidValue (.int n) name)
  | .integer name _ _, j => .error (.invalidType j name)
  | .integerOrText, .str s => .ok (.str s)
  | .integerOrText, .int n =>
    if -2147483648 ≤ n ∧ n ≤ 2147483647 then .ok (.int n)
    else .error (.invalidValue (.int n) "a 32-bit integer")
  | .integerOrText, j => .error (.invalidType j "IntOrString")
  | .instant precise, .str s =>
    match Timestamp.parse s with
    | .ok t => .ok (.str (if precise then t.renderNanos else t.render))
    | .error fault => .error (.timestamp fault)
  | .instant _, j => .error (.invalidType j "an RFC 3339 formatted date and time string")
  | .pointer, .str s =>
    match Pointer.parse s with
    | .ok p => .ok (.str p.render)
    | .error fault => .error (.pointer fault)
  | .pointer, j => .error (.invalidType j "a string")
  | .bytes _, .str s =>
    match Base64.decode s with
    | .ok decoded => .ok (.str (Base64.encode decoded))
    | .error fault => .error (.base64 fault)
  | .bytes true, .null => .ok (.str "")
  | .bytes _, j => .error (.invalidType j "a base64-encoded string")
  | .list item, .arr xs => (eachItem (conform item) xs).map .arr
  | .list _, j => .error (.invalidType j "a sequence")
  | .textSet, .arr xs =>
    (textItems xs).map fun ss => Json.strings (SortedSet.ofList ss).toList
  | .textSet, j => .error (.invalidType j "a sequence")
  | .map value, .obj ms => (eachMember (conform value) ms).map .obj
  | .map _, j => .error (.invalidType j "a map")
  | .choice names, j => chosen names j
  | .literal value, .str s =>
    if s = value then .ok (.str s) else .error (.invalidValue (.str s) value)
  | .literal _, j => .error (.invalidType j "a string")
  | .object expected fields order, j =>
    match j, order with
    | .obj ms, _ => ofObject (visitMembers fields ms) order
    | .arr xs, some names => ofList expected names xs.length (visitMembers fields (names.zip xs))
    | j, _ => .error (.invalidType j expected)
  | .extensible expected fields late, j =>
    match j with
    | .obj ms => do
      let known ← ofObject (visitMembers fields ms) none
      let _ ← ofObject (visitMembers late ms) none
      .ok (overlay (ms.filter fun m => (fields.lookup m.1).isNone) known)
    | j => .error (.invalidType j expected)

/-- What stands at the places of the known members. -/
def visitMembers : List (String × Presence × Shape) → Members →
    List (String × Presence × Visit)
  | [], _ => []
  | (name, presence, shape) :: rest, ms =>
    let visit : Visit :=
      match Assoc.get? name ms with
      | none => .absent
      | some value =>
        match value, presence.ofNull with
        | .null, some none => .absent
        | .null, some (some fallback) => .given fallback
        | value, _ =>
          match conform shape value with
          | .ok value => .given value
          | .error cause => .refused cause
    (name, presence, visit) :: visitMembers rest ms

end

end Shape

end WorkloadBindings
