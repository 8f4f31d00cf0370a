/-!
# Base64

Bytes as text in the standard alphabet, padded to whole groups of four symbols. `encode` writes it
and `decode` reads it back; a text is refused at its first foreign symbol, else for its length, its
padding, or bits left over in its last symbol.
-/

namespace WorkloadBindings.Base64

/-- Why a text is no base64. -/
inductive Fault where
  /-- A symbol of no value stands at an offset. -/
  | symbol (byte : Nat) (offset : Nat)
  /-- A single symbol is left over, which holds no whole byte. -/
  | length (symbols : Nat)
  /-- The padding does not fill the last group. -/
  | padding
  /-- The last symbol holds bits that no byte takes. -/
  | lastSymbol (byte : Nat) (offset : Nat)
  deriving DecidableEq, Repr

/-- The words for a refused text. -/
def Fault.message : Fault → String
  | .symbol byte offset => s!"Invalid symbol {byte}, offset {offset}."
  | .length symbols => s!"Invalid input length: {symbols}"
  | .padding => "Invalid padding"
  | .lastSymbol byte offset => s!"Invalid last symbol {byte}, offset {offset}."

/-- The symbol for a value below 64. -/
def symbol (n : Nat) : Char :=
  if n < 26 then Char.ofNat (65 + n)
  else if n < 52 then Char.ofNat (97 + (n - 26))
  else if n < 62 then Char.ofNat (48 + (n - 52))
  else if n = 62 then '+' else '/'

/-- The value of a symbol, by its byte. -/
def value? (b : Nat) : Option Nat :=
  if 65 ≤ b ∧ b ≤ 90 then some (b - 65)
  else if 97 ≤ b ∧ b ≤ 122 then some (b - 97 + 26)
  else if 48 ≤ b ∧ b ≤ 57 then some (b - 48 + 52)
  else if b = 43 then some 62
  else if b = 47 then some 63
  else none

/-- The symbols of a row of bytes. -/
def symbols : List Nat → List Char
  | a :: b :: c :: rest =>
    let n := (a * 256 + b) * 256 + c
    symbol (n / 262144) :: symbol (n / 4096 % 64) :: symbol (n / 64 % 64) :: symbol (n % 64) ::
      symbols rest
  | [a, b] =>
    let n := (a * 256 + b) * 4
    [symbol (n / 4096), symbol (n / 64 % 64), symbol (n % 64), '=']
  | [a] => [symbol (a * 16 / 64), symbol (a * 16 % 64), '=', '=']
  | [] => []

/-- The text of a row of bytes. -/
def encode (bytes : List UInt8) : String := String.ofList (symbols (bytes.map UInt8.toNat))

/-- The bytes that fill a number of bits, which is a multiple of eight. -/
def bytesOf (n : Nat) : Nat → List UInt8
  | 0 => []
  | count + 1 => UInt8.ofNat (n / Nat.pow 256 count) :: bytesOf n count

/-- The values in the last group, with its padding counted; `offset` is where the group begins. -/
structure Suffix where
  values : List Nat
  padding : Nat
  firstPadding : Nat
  lastByte : Nat

/-- Reads the last group symbol by symbol. -/
def suffix (offset : Nat) : Nat → Suffix → List Nat → Except Fault Suffix
  | _, s, [] => .ok s
  | i, s, b :: rest =>
    if b = 61 then
      if i < 2 then .error (.symbol b (offset + i))
      else
        let first := if s.padding = 0 then i else s.firstPadding
        suffix offset (i + 1) { s with padding := s.padding + 1, firstPadding := first } rest
    else if 0 < s.padding then .error (.symbol 61 (offset + s.firstPadding))
    else
      match value? b with
      | none => .error (.symbol b (offset + i))
      | some v => suffix offset (i + 1) { s with values := s.values ++ [v], lastByte := b } rest

/-- The bytes of the last group. -/
def lastGroup (offset : Nat) (group : List Nat) : Except Fault (List UInt8) := do
  let s ← suffix offset 0 ⟨[], 0, 0, 0⟩ group
  let count := s.values.length
  let n := s.values.foldl (fun n v => n * 64 + v) 0
  let spare := count * 6 % 8
  if !group.isEmpty && decide (count < 2) then .error (.length (offset + count))
  else if (s.padding + count) % 4 ≠ 0 then .error .padding
  else if n % Nat.pow 2 spare ≠ 0 then .error (.lastSymbol s.lastByte (offset + count - 1))
  else .ok (bytesOf (n / Nat.pow 2 spare) (count * 6 / 8))

/-- The bytes of the groups before the last one and then of that one; `offset` counts the symbols
already read. -/
def groups (offset : Nat) : List Nat → Except Fault (List UInt8)
  | a :: b :: c :: d :: e :: rest => do
    let v (i x : Nat) : Except Fault Nat :=
      match value? x with
      | some v => .ok v
      | none => .error (.symbol x (offset + i))
    let n := (((← v 0 a) * 64 + (← v 1 b)) * 64 + (← v 2 c)) * 64 + (← v 3 d)
    let more ← groups (offset + 4) (e :: rest)
    .ok (bytesOf n 3 ++ more)
  | group => lastGroup offset group

/-- The bytes that a text stands for. -/
def decode (text : String) : Except Fault (List UInt8) :=
  let bytes := text.toUTF8.toList.map UInt8.toNat
  -- A foreign symbol alone after the last whole group is noticed before anything else.
  match bytes.length % 4, bytes.getLast? with
  | 1, some b =>
    if b ≠ 61 ∧ value? b = none then .error (.symbol b (bytes.length - 1)) else groups 0 bytes
  | _, _ => groups 0 bytes

end WorkloadBindings.Base64
