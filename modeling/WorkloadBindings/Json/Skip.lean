import WorkloadBindings.Json.Reader

/-!
# Passing over a value

A value that nobody asks for is passed over and not read: `Json.Reader.skipValue` gives the rest of
the text behind it. It looks at less than the reader does. Numbers may be of any size, escapes need
not name characters, and containers may be nested to any depth; and what is wrong with a list or an
object that does not end well is told apart less.
-/

namespace WorkloadBindings.Json.Reader

/-- The rest of a quoted text, its opening quote already passed, without the text. -/
def skipQuoted : Nat → List Char → Except SyntaxError (List Char)
  | 0, _ => .error .endInString
  | fuel + 1, cs =>
    match cs with
    | [] => .error .endInString
    | '"' :: rest => .ok rest
    | '\\' :: rest =>
      match rest with
      | [] => .error .endInString
      | 'u' :: rest => do
        let (_, rest) ← hex4 rest
        skipQuoted fuel rest
      | c :: rest =>
        if ['"', '\\', '/', 'b', 'f', 'n', 'r', 't'].contains c then skipQuoted fuel rest
        else .error .invalidEscape
    | c :: rest => if c.toNat < 32 then .error .controlCharacter else skipQuoted fuel rest

/-- The text behind the digits that must stand here. -/
def skipDigits (cs : List Char) : Except SyntaxError (List Char) :=
  match cs with
  | c :: _ => if c.isDigit then .ok (cs.dropWhile Char.isDigit) else .error .invalidNumber
  | [] => .error .invalidNumber

/-- The text behind an exponent, if there is one. -/
def skipExponent (cs : List Char) : Except SyntaxError (List Char) :=
  match cs with
  | c :: rest =>
    if c = 'e' ∨ c = 'E' then
      match rest with
      | '+' :: rest => skipDigits rest
      | '-' :: rest => skipDigits rest
      | _ => skipDigits rest
    else .ok cs
  | [] => .ok cs

/-- The text behind a number, its sign already passed. -/
def skipNumber (cs : List Char) : Except SyntaxError (List Char) := do
  let rest ← skipDigits cs
  if cs.head? = some '0' ∧ rest.length + 1 < cs.length then .error .invalidNumber
  else
    match rest with
    | '.' :: rest => do
      let rest ← skipDigits rest
      skipExponent rest
    | _ => skipExponent rest

/-- The text behind a value that is neither a list nor an object, with nothing in front of it. -/
def skipScalar (cs : List Char) : Except SyntaxError (List Char) :=
  match cs with
  | '"' :: rest => skipQuoted (rest.length + 1) rest
  | '-' :: rest => skipNumber rest
  | c :: _ => if c.isDigit then skipNumber cs else (scalar cs).map Prod.snd
  | [] => .error .endInValue

mutual

/-- The text behind a value. -/
def skipValue : Nat → List Char → Except SyntaxError (List Char)
  | 0, _ => .error .endInValue
  | fuel + 1, cs =>
    match skipBlanks cs with
    | '[' :: rest => skipItems fuel true rest
    | '\x7b' :: rest => skipMembers fuel true rest
    | cs => skipScalar cs

/-- The text behind a list. -/
def skipItems : Nat → Bool → List Char → Except SyntaxError (List Char)
  | 0, _, _ => .error .endInList
  | fuel + 1, isFirst, cs =>
    match skipBlanks cs with
    | [] => .error .endInList
    | ']' :: rest => .ok rest
    | c :: rest =>
      if isFirst then do
        let rest ← skipValue fuel (c :: rest)
        skipItems fuel false rest
      else if c = ',' then do
        let rest ← skipValue fuel rest
        skipItems fuel false rest
      else .error .expectedListEnd

/-- The text behind an object. -/
def skipMembers : Nat → Bool → List Char → Except SyntaxError (List Char)
  | 0, _, _ => .error .endInObject
  | fuel + 1, isFirst, cs =>
    match skipBlanks cs with
    | [] => .error .endInObject
    | '\x7d' :: rest => .ok rest
    | c :: rest =>
      if isFirst then skipMember fuel (c :: rest)
      else if c = ',' then skipMember fuel rest
      else .error .expectedObjectEnd

/-- The text behind a member of an object and the members after it. -/
def skipMember : Nat → List Char → Except SyntaxError (List Char)
  | 0, _ => .error .endInObject
  | fuel + 1, cs =>
    match skipBlanks cs with
    | [] => .error .endInObject
    | '"' :: rest => do
      let rest ← skipQuoted (rest.length + 1) rest
      match skipBlanks rest with
      | [] => .error .endInObject
      | ':' :: rest =>
        let rest ← skipValue fuel rest
        skipMembers fuel false rest
      | _ => .error .expectedColon
    | _ => .error .keyNotString

end

end WorkloadBindings.Json.Reader
