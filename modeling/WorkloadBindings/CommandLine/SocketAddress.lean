/-!
# Socket addresses

A socket address is an address and the number of a service behind a colon. An address of the old
kind is written as four decimal numbers between dots; one of the new kind is written in brackets as
eight groups of hexadecimal digits between colons, of which one row of zero groups may be left out
and the last two may be written as an address of the old kind. Each reader gives the rest of the
text after what it reads.
-/

namespace WorkloadBindings.SocketAddress

/-- The number that a row of decimal digits writes. -/
def decimal (digits : List Char) : Nat :=
  digits.foldl (fun n d => 10 * n + (d.toNat - '0'.toNat)) 0

/-- The character is a hexadecimal digit. -/
def isHex (c : Char) : Bool :=
  c.isDigit || (decide ('a' ≤ c) && decide (c ≤ 'f')) || (decide ('A' ≤ c) && decide (c ≤ 'F'))

/-- A character that must follow. -/
def mark? (c : Char) : List Char → Option (List Char)
  | [] => none
  | d :: rest => if d = c then some rest else none

/-- A number below 256, without leading zeros. -/
def octet? (cs : List Char) : Option (List Char) :=
  let digits := cs.takeWhile Char.isDigit
  if digits.isEmpty || decide (3 < digits.length) || decide (255 < decimal digits) ||
    (digits.head? == some '0' && decide (1 < digits.length)) then none
  else some (cs.dropWhile Char.isDigit)

/-- An address of the old kind: four numbers between dots. -/
def dotted? (cs : List Char) : Option (List Char) :=
  octet? cs >>= mark? '.' >>= octet? >>= mark? '.' >>= octet? >>= mark? '.' >>= octet?

/-- A group of at most four hexadecimal digits. -/
def group? (cs : List Char) : Option (List Char) :=
  let digits := cs.takeWhile isHex
  if digits.isEmpty || decide (4 < digits.length) then none else some (cs.dropWhile isHex)

/-- As many groups as there are, but at most a limit, with colons between them. An address of the
old kind at the end counts as two groups. The result is the number of groups, whether they end with
such an address, and the rest. -/
def groups : Nat → Bool → List Char → Nat × Bool × List Char
  | 0, _, cs => (0, false, cs)
  | limit + 1, isFirst, cs =>
    match if isFirst then some cs else mark? ':' cs with
    | none => (0, false, cs)
    | some body =>
      match if limit = 0 then none else dotted? body with
      | some rest => (2, true, rest)
      | none =>
        match group? body with
        | none => (0, false, cs)
        | some rest =>
          let (count, isDotted, rest) := groups limit false rest
          (count + 1, isDotted, rest)

/-- An address of the new kind. -/
def colons? (cs : List Char) : Option (List Char) :=
  let (count, isDotted, rest) := groups 8 true cs
  if count = 8 then some rest
  else if isDotted then none
  else do
    let rest ← mark? ':' rest >>= mark? ':'
    some (groups (7 - count) true rest).2.2

/-- A number below a bound. -/
def number? (bound : Nat) (cs : List Char) : Option (List Char) :=
  let digits := cs.takeWhile Char.isDigit
  if digits.isEmpty || decide (bound ≤ decimal digits) then none
  else some (cs.dropWhile Char.isDigit)

/-- The scope of an address of the new kind, which need not be there. -/
def scope (cs : List Char) : List Char := (mark? '%' cs >>= number? 4294967296).getD cs

/-- An address of the new kind in brackets. -/
def bracketed? (cs : List Char) : Option (List Char) := do
  let rest ← mark? '[' cs >>= colons?
  mark? ']' (scope rest)

/-- The number of a service behind a colon. -/
def service? (cs : List Char) : Option (List Char) := mark? ':' cs >>= number? 65536

/-- The text is an address and the number of a service. -/
def isValid (text : String) : Bool :=
  let cs := text.toList
  let address := (dotted? cs >>= service?).or (bracketed? cs >>= service?)
  address == some []

end WorkloadBindings.SocketAddress
