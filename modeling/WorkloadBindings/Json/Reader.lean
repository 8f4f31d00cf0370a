import WorkloadBindings.Json.Basic
import WorkloadBindings.Json.Real
import WorkloadBindings.Text.Basic

/-!
# Reading JSON text

`Json.parse` reads a whole text as one value; each step of the reader gives what it read and the
rest of the text. Of two members with one name the later counts, and the members of an object come
out in ascending order of their names. Integers outside the range that 64 bits hold, and numbers
with a fraction or an exponent, are doubles. A text that is no value fails with the first thing that
is wrong in it, as a `SyntaxError`.
-/

namespace WorkloadBindings

/-- What is wrong with a text that is not a JSON value. -/
inductive SyntaxError where
  | endInValue
  | endInList
  | endInObject
  | endInString
  | expectedColon
  | expectedListEnd
  | expectedObjectEnd
  | expectedIdent
  | expectedValue
  | invalidEscape
  | invalidNumber
  | numberOutOfRange
  | controlCharacter
  | keyNotString
  | loneSurrogate
  | endOfHexEscape
  | trailingComma
  | trailingCharacters
  | tooDeep
  deriving DecidableEq, Repr

/-- The words for a syntax error. -/
def SyntaxError.message : SyntaxError → String
  | endInValue => "EOF while parsing a value"
  | endInList => "EOF while parsing a list"
  | endInObject => "EOF while parsing an object"
  | endInString => "EOF while parsing a string"
  | expectedColon => "expected `:`"
  | expectedListEnd => "expected `,` or `]`"
  | expectedObjectEnd => "expected `,` or `\x7d`"
  | expectedIdent => "expected ident"
  | expectedValue => "expected value"
  | invalidEscape => "invalid escape"
  | invalidNumber => "invalid number"
  | numberOutOfRange => "number out of range"
  | controlCharacter => "control character (\\u0000-\\u001F) found while parsing a string"
  | keyNotString => "key must be a string"
  | loneSurrogate => "lone leading surrogate in hex escape"
  | endOfHexEscape => "unexpected end of hex escape"
  | trailingComma => "trailing comma"
  | trailingCharacters => "trailing characters"
  | tooDeep => "recursion limit exceeded"

namespace Json.Reader

/-- The characters that may stand between tokens. -/
def isBlank (c : Char) : Bool := c = ' ' || c = '\n' || c = '\t' || c = '\r'

/-- The text without its leading blanks. -/
def skipBlanks (cs : List Char) : List Char := cs.dropWhile isBlank

/-- The value of a decimal digit. -/
def digitValue (c : Char) : Nat := c.toNat - '0'.toNat

/-- The number that a row of decimal digits writes. -/
def natOfDigits (ds : List Char) : Nat := ds.foldl (fun n d => 10 * n + digitValue d) 0

/-- The value of a hexadecimal digit. -/
def hexValue? (c : Char) : Option Nat :=
  if '0' ≤ c ∧ c ≤ '9' then some (c.toNat - '0'.toNat)
  else if 'a' ≤ c ∧ c ≤ 'f' then some (c.toNat - 'a'.toNat + 10)
  else if 'A' ≤ c ∧ c ≤ 'F' then some (c.toNat - 'A'.toNat + 10)
  else none

/-- Four hexadecimal digits. A text with fewer than four bytes ends too early. -/
def hex4 (cs : List Char) : Except SyntaxError (Nat × List Char) :=
  match cs with
  | a :: b :: c :: d :: rest =>
    match hexValue? a, hexValue? b, hexValue? c, hexValue? d with
    | some a, some b, some c, some d => .ok (((a * 16 + b) * 16 + c) * 16 + d, rest)
    | _, _, _, _ => .error .invalidEscape
  | _ => .error (if Text.byteWidth cs < 4 then .endInString else .invalidEscape)

/-- The character of an escape by code point, its `\u` already read; a leading surrogate takes a
second escape with it. -/
def unicodeEscape (cs : List Char) : Except SyntaxError (Char × List Char) := do
  let (n, rest) ← hex4 cs
  if 0xDC00 ≤ n ∧ n ≤ 0xDFFF then .error .loneSurrogate
  else if 0xD800 ≤ n ∧ n ≤ 0xDBFF then
    match rest with
    | [] => .error .endInString
    | '\\' :: [] => .error .endInString
    | '\\' :: 'u' :: rest =>
      let (low, rest) ← hex4 rest
      if 0xDC00 ≤ low ∧ low ≤ 0xDFFF then
        .ok (Char.ofNat ((n - 0xD800) * 0x400 + (low - 0xDC00) + 0x10000), rest)
      else .error .loneSurrogate
    | _ => .error .endOfHexEscape
  else .ok (Char.ofNat n, rest)

/-- The rest of a quoted text, its opening quote already read; `seen` holds the characters so far,
the last one first. -/
def quoted : Nat → List Char → List Char → Except SyntaxError (String × List Char)
  | 0, _, _ => .error .endInString
  | fuel + 1, seen, cs =>
    match cs with
    | [] => .error .endInString
    | '"' :: rest => .ok (String.ofList seen.reverse, rest)
    | '\\' :: rest =>
      match rest with
      | [] => .error .endInString
      | '"' :: rest => quoted fuel ('"' :: seen) rest
      | '\\' :: rest => quoted fuel ('\\' :: seen) rest
      | '/' :: rest => quoted fuel ('/' :: seen) rest
      | 'b' :: rest => quoted fuel (Char.ofNat 8 :: seen) rest
      | 'f' :: rest => quoted fuel (Char.ofNat 12 :: seen) rest
      | 'n' :: rest => quoted fuel ('\n' :: seen) rest
      | 'r' :: rest => quoted fuel ('\r' :: seen) rest
      | 't' :: rest => quoted fuel ('\t' :: seen) rest
      | 'u' :: rest => do
        let (c, rest) ← unicodeEscape rest
        quoted fuel (c :: seen) rest
      | _ => .error .invalidEscape
    | c :: rest => if c.toNat < 32 then .error .controlCharacter else quoted fuel (c :: seen) rest

/-- A fraction, when there is a point: its digits. -/
def fraction (cs : List Char) : Except SyntaxError (Option (List Char) × List Char) :=
  match cs with
  | '.' :: rest =>
    match rest.takeWhile Char.isDigit with
    | [] => .error (if rest.isEmpty then .endInValue else .invalidNumber)
    | ds => .ok (some ds, rest.dropWhile Char.isDigit)
  | _ => .ok (none, cs)

/-- An exponent, when there is one. -/
def exponent (cs : List Char) : Except SyntaxError (Option Int × List Char) :=
  let unsigned (negative : Bool) (rest : List Char) : Except SyntaxError (Option Int × List Char) :=
    match rest.takeWhile Char.isDigit with
    | [] => .error (if rest.isEmpty then .endInValue else .invalidNumber)
    | ds =>
      let n : Int := natOfDigits ds
      .ok (some (if negative then -n else n), rest.dropWhile Char.isDigit)
  match cs with
  | c :: rest =>
    if c = 'e' ∨ c = 'E' then
      match rest with
      | '+' :: rest => unsigned false rest
      | '-' :: rest => unsigned true rest
      | _ => unsigned false rest
    else .ok (none, cs)
  | [] => .ok (none, cs)

/-- The least natural number that 64 bits do not hold. -/
def wordLimit : Nat := 18446744073709551616

/-- A number with some digits appended, as long as it fits into 64 bits, and the digits from the
first one on that does not fit. -/
def significand : Nat → List Char → Nat × List Char
  | n, [] => (n, [])
  | n, d :: ds =>
    if 10 * n + digitValue d < wordLimit then significand (10 * n + digitValue d) ds
    else (n, d :: ds)

/-- The integer or double of a number's parts. Digits that do not fit into 64 bits count as
zeros. -/
def numberOf (negative : Bool) (whole : List Char) (part : Option (List Char)) (e : Option Int) :
    Except SyntaxError Json :=
  let (n, surplus) := significand 0 whole
  let isInteger : Bool := part.isNone && e.isNone && surplus.isEmpty
  if isInteger && !negative then .ok (.int n)
  else if isInteger && decide (0 < n) && decide (n ≤ 9223372036854775808) then .ok (.int (-n))
  else
    let fraction := part.getD []
    let (n, rest) := significand n fraction
    let exponent : Int := surplus.length - (fraction.length - rest.length : Nat) + e.getD 0
    match Double.ofDecimal n exponent with
    | some d => .ok (.real (if negative then "-" ++ d.text else d.text))
    | none => .error .numberOutOfRange

/-- A number, its sign already read. -/
def number (negative : Bool) (cs : List Char) : Except SyntaxError (Json × List Char) :=
  match cs.takeWhile Char.isDigit with
  | [] => .error (if cs.isEmpty then .endInValue else .invalidNumber)
  | whole =>
    if whole.head? = some '0' ∧ 1 < whole.length then .error .invalidNumber
    else do
      let (part, rest) ← fraction (cs.dropWhile Char.isDigit)
      let (e, rest) ← exponent rest
      let value ← numberOf negative whole part e
      .ok (value, rest)

/-- The letters of a word that must follow, and the value they complete. -/
def word (value : Json) : List Char → List Char → Except SyntaxError (Json × List Char)
  | [], cs => .ok (value, cs)
  | _ :: _, [] => .error .endInValue
  | w :: ws, c :: cs => if w = c then word value ws cs else .error .expectedIdent

/-- A value that is neither a list nor an object, with nothing in front of it. -/
def scalar (cs : List Char) : Except SyntaxError (Json × List Char) :=
  match cs with
  | [] => .error .endInValue
  | 'n' :: rest => word .null ['u', 'l', 'l'] rest
  | 't' :: rest => word (.bool true) ['r', 'u', 'e'] rest
  | 'f' :: rest => word (.bool false) ['a', 'l', 's', 'e'] rest
  | '"' :: rest => do
    let (s, rest) ← quoted (rest.length + 1) [] rest
    .ok (.str s, rest)
  | '-' :: rest => number true rest
  | c :: rest => if c.isDigit then number false (c :: rest) else .error .expectedValue

/-- How many more containers may be opened inside one that is opened now. -/
def inside : Nat → Except SyntaxError Nat
  | depth + 2 => .ok (depth + 1)
  | _ => .error .tooDeep

mutual

/-- A value; `depth` more containers may be opened, less one. -/
def value : Nat → Nat → List Char → Except SyntaxError (Json × List Char)
  | 0, _, _ => .error .endInValue
  | fuel + 1, depth, cs =>
    match skipBlanks cs with
    | '[' :: rest => do
      let depth ← inside depth
      items fuel depth true [] rest
    | '\x7b' :: rest => do
      let depth ← inside depth
      members fuel depth true [] rest
    | cs => scalar cs

/-- The rest of a list; `seen` holds its items so far, the last one first. -/
def items : Nat → Nat → Bool → List Json → List Char → Except SyntaxError (Json × List Char)
  | 0, _, _, _, _ => .error .endInList
  | fuel + 1, depth, isFirst, seen, cs =>
    match skipBlanks cs with
    | [] => .error .endInList
    | ']' :: rest => .ok (.arr seen.reverse, rest)
    | c :: rest =>
      if isFirst then do
        let (x, rest) ← value fuel depth (c :: rest)
        items fuel depth false (x :: seen) rest
      else if c = ',' then
        match skipBlanks rest with
        | [] => .error .endInValue
        | ']' :: _ => .error .trailingComma
        | rest => do
          let (x, rest) ← value fuel depth rest
          items fuel depth false (x :: seen) rest
      else .error .expectedListEnd

/-- The rest of an object; `seen` holds its members so far. -/
def members : Nat → Nat → Bool → Members → List Char → Except SyntaxError (Json × List Char)
  | 0, _, _, _, _ => .error .endInObject
  | fuel + 1, depth, isFirst, seen, cs =>
    match skipBlanks cs with
    | [] => .error .endInObject
    | '\x7d' :: rest => .ok (.obj seen, rest)
    | c :: rest =>
      if isFirst then
        if c = '"' then member fuel depth seen rest else .error .keyNotString
      else if c = ',' then
        match skipBlanks rest with
        | [] => .error .endInValue
        | '"' :: rest => member fuel depth seen rest
        | '\x7d' :: _ => .error .trailingComma
        | _ => .error .keyNotString
      else .error .expectedObjectEnd

/-- A member of an object, the opening quote of its name already read, and the members after it. -/
def member : Nat → Nat → Members → List Char → Except SyntaxError (Json × List Char)
  | 0, _, _, _ => .error .endInObject
  | fuel + 1, depth, seen, cs => do
    let (name, rest) ← quoted (cs.length + 1) [] cs
    match skipBlanks rest with
    | [] => .error .endInObject
    | ':' :: rest =>
      let (x, rest) ← value fuel depth rest
      members fuel depth false (Assoc.insert name x seen) rest
    | _ => .error .expectedColon

end

end Json.Reader

/-- At most 127 containers may be nested. -/
def Json.Reader.depthLimit : Nat := 128

/-- Steps that suffice to read a text. -/
def Json.Reader.fuelFor (cs : List Char) : Nat := 4 * cs.length + 64

/-- Nothing but blanks may follow a value. -/
def Json.Reader.atEnd (rest : List Char) : Except SyntaxError Unit :=
  if (skipBlanks rest).isEmpty then .ok () else .error .trailingCharacters

/-- The value that a whole text writes. -/
def Json.parse (text : String) : Except SyntaxError Json := do
  let cs := text.toList
  let (v, rest) ← Json.Reader.value (Json.Reader.fuelFor cs) Json.Reader.depthLimit cs
  Json.Reader.atEnd rest
  .ok v

end WorkloadBindings
