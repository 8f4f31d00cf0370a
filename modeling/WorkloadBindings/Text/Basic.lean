/-!
# Rows of characters

Texts are trimmed, measured and encoded character by character. White space is what separates the parts
of a timestamp: the ASCII controls from tab to carriage return, the space, and the separators and
fixed-width spaces beyond ASCII.

Limits on names count the bytes of their UTF-8 form. `byteWidth` is that count, `takeBytes?` the
part of a text that a number of bytes holds, and `slice?` the part between two positions, which
exist only when the cuts fall between two characters.

In the query of a request (`formEncode`) letters, digits and `*-._` stand for themselves, a space becomes
a plus, and every other byte of the text a percent sign with two hexadecimal digits.
-/

namespace WorkloadBindings.Text

/-! ## White space -/

/-- The character is white space. -/
def isBlank (c : Char) : Bool :=
  let n := c.toNat
  (decide (9 ≤ n) && decide (n ≤ 13)) || n == 0x20 || n == 0x85 || n == 0xA0 || n == 0x1680 ||
    (decide (0x2000 ≤ n) && decide (n ≤ 0x200A)) || n == 0x2028 || n == 0x2029 || n == 0x202F ||
    n == 0x205F || n == 0x3000

/-- The characters after the leading white space. -/
def trimStart (cs : List Char) : List Char := cs.dropWhile isBlank

/-! ## Bytes -/

/-- The number of bytes of a row of characters. -/
def byteWidth : List Char → Nat
  | [] => 0
  | c :: cs => c.utf8Size + byteWidth cs

/-- The characters in the first `n` bytes; nothing when the cut falls inside a character. -/
def takeBytes? (n : Nat) : List Char → Option (List Char)
  | [] => if n = 0 then some [] else none
  | c :: cs =>
    if n = 0 then some []
    else if c.utf8Size ≤ n then (takeBytes? (n - c.utf8Size) cs).map (c :: ·)
    else none

/-- The characters from one position in bytes up to another; nothing when one of the cuts falls
inside a character. -/
def slice? (start stop : Nat) (cs : List Char) : Option (List Char) := do
  let before ← takeBytes? start cs
  let upTo ← takeBytes? stop cs
  some (upTo.drop before.length)

/-- The characters without those at the end that satisfy a test. -/
def trimEnd (p : Char → Bool) (cs : List Char) : List Char := (cs.reverse.dropWhile p).reverse

/-! ## Form encoding -/

/-- The upper-case hexadecimal digit of a number below sixteen. -/
def upperHexDigit (n : Nat) : Char :=
  if n < 10 then Char.ofNat (48 + n) else Char.ofNat (55 + n)

/-- The byte stands for itself in a form-encoded value. -/
def isFormSafe (b : UInt8) : Bool :=
  let n := b.toNat
  (decide (48 ≤ n) && decide (n ≤ 57)) || (decide (65 ≤ n) && decide (n ≤ 90)) ||
    (decide (97 ≤ n) && decide (n ≤ 122)) || n == 42 || n == 45 || n == 46 || n == 95

/-- The characters that stand for one byte of a form-encoded value. -/
def formByte (b : UInt8) : List Char :=
  if isFormSafe b then [Char.ofNat b.toNat]
  else if b.toNat = 32 then ['+']
  else ['%', upperHexDigit (b.toNat / 16), upperHexDigit (b.toNat % 16)]

/-- A text as it stands in the query of a request. -/
def formEncode (s : String) : String :=
  String.ofList (s.toUTF8.toList.flatMap formByte)

end WorkloadBindings.Text
