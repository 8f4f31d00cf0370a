import WorkloadBindings.Json.Shape
import WorkloadBindings.Json.Skip

/-!
# Reading text by a shape

`Shape.parse` reads a text in which a value of some shape is written, and brings the value into its
written form as `Shape.conform` does. The text is refused at the first place that does not fit,
whether it is no JSON there or no value of the shape, and nothing behind that place is looked at:
members are visited in the order of the text, and every occurrence of a member that is given twice
has to fit. Members that the shape does not know are passed over.
-/

namespace WorkloadBindings

namespace Shape

open Json.Reader

/-- What is wrong with the text as such. -/
def lexical {α : Type} (r : Except SyntaxError α) : Except DecodeError α :=
  match r with
  | .ok a => .ok a
  | .error fault => .error (.malformed fault)

/-- What was found at the places of members, the last one first. -/
abbrev Found : Type := List (String × Visit)

/-- What was found last at the place of a member. -/
def Found.get (found : Found) (name : String) : Visit := (found.lookup name).getD .absent

/-- The visits of all known members. -/
def visitsOf (fields : List (String × Presence × Shape)) (found : Found) :
    List (String × Presence × Visit) :=
  fields.map fun f => (f.1, f.2.1, found.get f.1)

/-- Visits members in their order; one that is given twice is refused. -/
def visitInOrder (fields : List (String × Presence × Shape)) :
    Found → Members → Except DecodeError Found
  | found, [] => .ok found
  | found, (name, value) :: rest =>
    match fields.lookup name with
    | none => visitInOrder fields found rest
    | some (_, shape) =>
      if (found.lookup name).isSome then .error (.duplicateField name)
      else
        match conform shape value with
        | .error cause => .error cause
        | .ok value => visitInOrder fields ((name, .given value) :: found) rest

/-- A value of a shape that is neither a list nor an object, with nothing in front of it. A bracket
is refused before anything behind it is looked at. -/
def readScalar (shape : Shape) (cs : List Char) : Except DecodeError (Json × List Char) :=
  match cs with
  | '[' :: _ => (conform shape (.arr [])).map (·, cs)
  | '\x7b' :: _ => (conform shape (.obj [])).map (·, cs)
  | _ => do
    let (j, rest) ← lexical (scalar cs)
    let written ← conform shape j
    .ok (written, rest)

/-- The name of a choice, in quotes. -/
def readName (names : List String) (cs : List Char) : Except DecodeError (String × List Char) :=
  match skipBlanks cs with
  | [] => .error (.malformed .endInValue)
  | '"' :: rest => do
    let (s, rest) ← lexical (quoted (rest.length + 1) [] rest)
    if names.contains s then .ok (s, rest) else .error (.unknownVariant s names)
  | '\x7d' :: _ => .error (.malformed .expectedValue)
  | _ => .error (.malformed .keyNotString)

/-- The text behind the colon that follows a name. -/
def afterColon (cs : List Char) : Except DecodeError (List Char) :=
  match skipBlanks cs with
  | [] => .error (.malformed .endInObject)
  | ':' :: rest => .ok rest
  | _ => .error (.malformed .expectedColon)

/-- One of some texts; an object whose only member has that name and is null stands for it too. -/
def readChoice (depth : Nat) (names : List String) (cs : List Char) :
    Except DecodeError (Json × List Char) :=
  match cs with
  | '"' :: _ => (readName names cs).map fun r => (.str r.1, r.2)
  | '\x7b' :: rest => do
    let _ ← lexical (inside depth)
    let (s, rest) ← readName names rest
    let rest ← afterColon rest
    match skipBlanks rest with
    | [] => .error (.malformed .endInValue)
    | '[' :: _ => .error (.invalidType (.arr []) "unit")
    | '\x7b' :: _ => .error (.invalidType (.obj []) "unit")
    | cs => do
      let (j, rest) ← lexical (scalar cs)
      if !j.isNull then .error (.invalidType j "unit")
      else
        match skipBlanks rest with
        | [] => .error (.malformed .endInObject)
        | '\x7d' :: rest => .ok (.str s, rest)
        | _ => .error (.malformed .expectedValue)
  | _ => .error (.malformed .expectedValue)

/-- The place of the next item of a list, if there is one. -/
def nextItem (isFirst : Bool) (cs : List Char) : Except DecodeError (Option (List Char)) :=
  match skipBlanks cs with
  | [] => .error (.malformed .endInList)
  | ']' :: _ => .ok none
  | c :: rest =>
    if isFirst then .ok (some (c :: rest))
    else if c = ',' then
      match skipBlanks rest with
      | [] => .error (.malformed .endInValue)
      | ']' :: _ => .error (.malformed .trailingComma)
      | rest => .ok (some rest)
    else .error (.malformed .expectedListEnd)

/-- The text behind the end of a list, after which nothing of it may be left. -/
def endOfItems (cs : List Char) : Except DecodeError (List Char) :=
  match skipBlanks cs with
  | [] => .error (.malformed .endInList)
  | ']' :: rest => .ok rest
  | ',' :: rest =>
    .error (.malformed
      (if (skipBlanks rest).head? = some ']' then .trailingComma else .trailingCharacters))
  | _ => .error (.malformed .trailingCharacters)

/-- The name of the next member of an object, if there is one, and the text behind it. -/
def nextMember (isFirst : Bool) (cs : List Char) :
    Except DecodeError (Option String × List Char) :=
  let name (rest : List Char) : Except DecodeError (Option String × List Char) :=
    (lexical (quoted (rest.length + 1) [] rest)).map fun r => (some r.1, r.2)
  match skipBlanks cs with
  | [] => .error (.malformed .endInObject)
  | '\x7d' :: rest => .ok (none, rest)
  | c :: rest =>
    if isFirst then
      if c = '"' then name rest else .error (.malformed .keyNotString)
    else if c = ',' then
      match skipBlanks rest with
      | [] => .error (.malformed .endInValue)
      | '"' :: rest => name rest
      | '\x7d' :: _ => .error (.malformed .trailingComma)
      | _ => .error (.malformed .keyNotString)
    else .error (.malformed .expectedObjectEnd)

/-- How the members of an object are read. -/
structure MemberRule where
  fields : List (String × Presence × Shape)
  /-- A known member must not be given twice; otherwise the last one counts. -/
  once : Bool
  /-- Members that are not known are read and kept; otherwise they are passed over. -/
  keepsOthers : Bool

mutual

/-- A value of a shape, in its written form; `depth` more containers may be opened, less one. -/
def read : Nat → Nat → Shape → List Char → Except DecodeError (Json × List Char)
  | 0, _, _, _ => .error (.malformed .endInValue)
  | fuel + 1, depth, shape, cs =>
    match shape, skipBlanks cs with
    | _, [] => .error (.malformed .endInValue)
    | .any, cs => lexical (value fuel depth cs)
    | .choice names, cs => readChoice depth names cs
    | .list item, '[' :: rest => do
      let depth ← lexical (inside depth)
      let (xs, rest) ← readItems fuel depth item true [] rest
      .ok (.arr xs, rest)
    | .textSet, '[' :: rest => do
      let depth ← lexical (inside depth)
      let (xs, rest) ← readItems fuel depth .text true [] rest
      let written ← conform .textSet (.arr xs)
      .ok (written, rest)
    | .map value, '\x7b' :: rest => do
      let depth ← lexical (inside depth)
      let (ms, rest) ← readEntries fuel depth value true [] rest
      .ok (.obj ms, rest)
    | .object _ fields order, '\x7b' :: rest => do
      let depth ← lexical (inside depth)
      let ((found, _), rest) ←
        readMembers fuel depth ⟨fields, order.isSome, false⟩ true ([], []) rest
      let written ← ofObject (visitsOf fields found) order
      .ok (written, rest)
    | .object expected fields (some order), '[' :: rest => do
      let depth ← lexical (inside depth)
      let (found, rest) ← readPlaces fuel depth expected order.length fields 0 [] order rest
      let rest ← endOfItems rest
      .ok (.obj (Shape.written (visitsOf fields found)), rest)
    | .extensible _ fields late, '\x7b' :: rest => do
      let depth ← lexical (inside depth)
      let ((found, others), rest) ←
        readMembers fuel depth ⟨fields, true, true⟩ true ([], []) rest
      let known ← ofObject (visitsOf fields found) none
      let found ← visitInOrder late [] others.reverse
      let _ ← ofObject (visitsOf late found) none
      .ok (overlay (Assoc.ofList others.reverse) known, rest)
    | shape, cs => readScalar shape cs

/-- The value of a member; a null may stand for nothing or for another value. -/
def readVisit : Nat → Nat → Presence → Shape → List Char →
    Except DecodeError (Visit × List Char)
  | 0, _, _, _, _ => .error (.malformed .endInValue)
  | fuel + 1, depth, presence, shape, cs =>
    match presence.ofNull, skipBlanks cs with
    | some ofNull, 'n' :: rest => do
      let (_, rest) ← lexical (word .null ['u', 'l', 'l'] rest)
      .ok ((ofNull.map Visit.given).getD .absent, rest)
    | _, cs => do
      let (j, rest) ← read fuel depth shape cs
      .ok (.given j, rest)

/-- The rest of a list of values of one shape; `seen` holds them so far, the last one first. -/
def readItems : Nat → Nat → Shape → Bool → List Json → List Char →
    Except DecodeError (List Json × List Char)
  | 0, _, _, _, _, _ => .error (.malformed .endInList)
  | fuel + 1, depth, item, isFirst, seen, cs => do
    match ← nextItem isFirst cs with
    | none => do
      let rest ← endOfItems cs
      .ok (seen.reverse, rest)
    | some cs => do
      let (x, rest) ← read fuel depth item cs
      readItems fuel depth item false (x :: seen) rest

/-- The rest of an object of values of one shape; `seen` holds its members so far. -/
def readEntries : Nat → Nat → Shape → Bool → Members → List Char →
    Except DecodeError (Members × List Char)
  | 0, _, _, _, _, _ => .error (.malformed .endInObject)
  | fuel + 1, depth, value, isFirst, seen, cs => do
    match ← nextMember isFirst cs with
    | (none, rest) => .ok (seen, rest)
    | (some name, rest) => do
      let rest ← afterColon rest
      let (x, rest) ← read fuel depth value rest
      readEntries fuel depth value false (Assoc.insert name x seen) rest

/-- The rest of an object: what was found at the places of known members, and the others, the last
one first. -/
def readMembers : Nat → Nat → MemberRule → Bool → Found × Members → List Char →
    Except DecodeError ((Found × Members) × List Char)
  | 0, _, _, _, _, _ => .error (.malformed .endInObject)
  | fuel + 1, depth, rule, isFirst, (found, others), cs => do
    match ← nextMember isFirst cs with
    | (none, rest) => .ok ((found, others), rest)
    | (some name, rest) =>
      match rule.fields.lookup name with
      | some (presence, shape) =>
        if rule.once && (found.lookup name).isSome then .error (.duplicateField name)
        else do
          let rest ← afterColon rest
          let (visit, rest) ← readVisit fuel depth presence shape rest
          readMembers fuel depth rule false ((name, visit) :: found, others) rest
      | none => do
        let rest ← afterColon rest
        if rule.keepsOthers then do
          let (x, rest) ← lexical (value fuel depth rest)
          readMembers fuel depth rule false (found, (name, x) :: others) rest
        else do
          let rest ← lexical (skipValue fuel rest)
          readMembers fuel depth rule false (found, others) rest

/-- The items of a list that stands for a record, from place `i` on, at which the members that are
left belong. -/
def readPlaces : Nat → Nat → String → Nat → List (String × Presence × Shape) → Nat → Found →
    List String → List Char → Except DecodeError (Found × List Char)
  | 0, _, _, _, _, _, _, _, _ => .error (.malformed .endInList)
  | _ + 1, _, _, _, _, _, found, [], cs => .ok (found, cs)
  | fuel + 1, depth, expected, count, fields, i, found, name :: names, cs => do
    match fields.lookup name with
    | none => readPlaces fuel depth expected count fields (i + 1) found names cs
    | some (presence, shape) =>
      match ← nextItem (i == 0) cs with
      | none =>
        if presence.isDemandedInList then .error (shortList expected count i)
        else readPlaces fuel depth expected count fields (i + 1) found names cs
      | some cs => do
        let (visit, rest) ← readVisit fuel depth presence shape cs
        readPlaces fuel depth expected count fields (i + 1) ((name, visit) :: found) names rest

end

/-- The value of a shape that a whole text writes, in its written form. -/
def parse (shape : Shape) (text : String) : Except DecodeError Json := do
  let cs := text.toList
  let (j, rest) ← shape.read (fuelFor cs) depthLimit cs
  lexical (atEnd rest)
  .ok j

end Shape

end WorkloadBindings
