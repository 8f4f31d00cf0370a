/-!
# Doubles

A number with a fraction or an exponent is kept as a double. `Double.ofDecimal` reads one: the
digits that fit into 64 bits are rounded to a double, which is then scaled by the double of a power
of ten, so that a number of many digits may come out as a neighbour of the nearest double. A double
is shown by the fewest digits that read back as it under exact rounding, positionally from 1e-5 up
to 1e16 and otherwise with an exponent. Everything is exact arithmetic on natural numbers:
`Double.nearest` rounds a quotient to the nearest double, a tie to the even one, and
`Double.shortest` tries one digit, then two, and so on, each time the two neighbours of the value on
that decimal grid.
-/

namespace WorkloadBindings

/-- A positive double, or zero: `mantissa * 2 ^ exponent`. -/
structure Double where
  mantissa : Nat
  exponent : Int
  deriving DecidableEq

namespace Double

/-- A natural number times a power of a base, as a numerator and a denominator. -/
def scaled (n : Nat) (base : Nat) (exponent : Int) : Nat × Nat :=
  if 0 ≤ exponent then (n * Nat.pow base exponent.toNat, 1) else (n, Nat.pow base (-exponent).toNat)

/-- A quotient rounded to the nearest natural number, a tie to the even one. -/
def roundHalfEven (num den : Nat) : Nat :=
  let q := num / den
  let r := num % den
  if 2 * r < den then q
  else if den < 2 * r then q + 1
  else if q % 2 = 0 then q else q + 1

/-- The double nearest to a quotient, or nothing beyond the largest one. -/
def nearest (num den : Nat) : Option Double :=
  if num = 0 then some ⟨0, 0⟩
  else
    let guess : Int := (num.log2 : Int) - (den.log2 : Int) - 52
    -- The guess may be one too large, which leaves only 52 bits.
    let fits : Bool :=
      let s := scaled 1 2 guess
      decide (4503599627370496 * den * s.1 ≤ num * s.2)
    let exponent := max (if fits then guess else guess - 1) (-1074)
    let s := scaled 1 2 exponent
    let m := roundHalfEven (num * s.2) (den * s.1)
    let d : Double :=
      if m = 9007199254740992 then ⟨4503599627370496, exponent + 1⟩ else ⟨m, exponent⟩
    if 971 < d.exponent then none else some d

/-- The double as a numerator and a denominator. -/
def ratio (d : Double) : Nat × Nat := scaled d.mantissa 2 d.exponent

/-- The decimal `digits * 10 ^ exponent` reads back as the double. -/
def readsBack (d : Double) (digits : Nat) (exponent : Int) : Bool :=
  let s := scaled digits 10 exponent
  nearest s.1 s.2 == some d

/-- The least power of ten above the value. -/
def magnitude (d : Double) : Int :=
  let r := d.ratio
  let start : Int := ((r.1.log2 : Int) - (r.2.log2 : Int)) * 30103 / 100000 - 1
  let above (k : Int) : Bool :=
    let s := scaled 1 10 k
    decide (r.1 * s.2 < s.1 * r.2)
  if above start then start
  else if above (start + 1) then start + 1
  else if above (start + 2) then start + 2
  else start + 3

/-- The neighbour of the value on the grid of a power of ten that reads back, the nearer of two. -/
def onGrid (d : Double) (grid : Int) : Option Nat :=
  let r := d.ratio
  let s := scaled 1 10 grid
  let num := r.1 * s.2
  let den := r.2 * s.1
  let low := num / den
  let near := roundHalfEven num den
  let far := if near = low then low + 1 else low
  if d.readsBack near grid then some near
  else if d.readsBack far grid then some far
  else none

/-- The fewest digits that read back, with their power of ten; `tries` further digits remain. -/
def shortestFrom (d : Double) (top : Int) : Nat → Nat → Nat × Int
  | 0, count => (roundHalfEven d.ratio.1 d.ratio.2, top - count)
  | tries + 1, count =>
    match d.onGrid (top - count) with
    | some digits => (digits, top - count)
    | none => shortestFrom d top tries (count + 1)

/-- A decimal without trailing zeros in its digits; `limit` of them are looked at. -/
def trimZeros : Nat → Nat × Int → Nat × Int
  | 0, decimal => decimal
  | limit + 1, (digits, exponent) =>
    if digits ≠ 0 ∧ digits % 10 = 0 then trimZeros limit (digits / 10, exponent + 1)
    else (digits, exponent)

/-- The fewest digits that read back as the double, with their power of ten. -/
def shortest (d : Double) : Nat × Int :=
  if d.mantissa = 0 then (0, 0) else trimZeros 400 (shortestFrom d d.magnitude 18 1)

/-! ## Writing -/

/-- As many zeros as are asked for. -/
def zeros (n : Nat) : List Char := List.replicate n '0'

/-- A decimal without an exponent and with at least one digit after the point. -/
def positional (digits : List Char) (exponent : Int) : List Char :=
  if 0 ≤ exponent then digits ++ zeros exponent.toNat ++ ['.', '0']
  else
    let places := (-exponent).toNat
    let padded := zeros (places + 1 - digits.length) ++ digits
    let whole := padded.length - places
    padded.take whole ++ '.' :: padded.drop whole

/-- A decimal with one digit before the point and an exponent. -/
def scientific (digits : List Char) (exponent : Int) : List Char :=
  let top := exponent + (digits.length - 1 : Nat)
  let sign := if 0 ≤ top then '+' else '-'
  let point := if digits.length = 1 then [] else ['.']
  digits.take 1 ++ point ++ digits.drop 1 ++ 'e' :: sign :: (toString top.natAbs).toList

/-- The text of the double. -/
def text (d : Double) : String :=
  let short := d.shortest
  let digits := (toString short.1).toList
  -- The power of ten that is just above the value.
  let size : Int := short.2 + digits.length
  String.ofList
    (if -5 < size ∧ size ≤ 16 then positional digits short.2 else scientific digits short.2)

/-! ## Reading -/

/-- The product of two doubles, rounded. -/
def mul (a b : Double) : Option Double := nearest (a.ratio.1 * b.ratio.1) (a.ratio.2 * b.ratio.2)

/-- The quotient of two doubles, rounded. -/
def div (a b : Double) : Option Double := nearest (a.ratio.1 * b.ratio.2) (a.ratio.2 * b.ratio.1)

/-- The double nearest to a power of ten, as far as there is one. -/
def powerOfTen (n : Nat) : Option Double := nearest (Nat.pow 10 n) 1

/-- The greatest power of ten that a double reaches. -/
def mostTens : Nat := 308

/-- The double scaled by a power of ten, in steps of at most 308; nothing when it is out of range.
After the number of steps that are left nothing of a double remains. -/
def scale : Nat → Double → Int → Option Double
  | 0, _, _ => some ⟨0, 0⟩
  | steps + 1, d, exponent =>
    if d.mantissa = 0 then some d
    else if exponent.natAbs ≤ mostTens then do
      let power ← powerOfTen exponent.natAbs
      if 0 ≤ exponent then d.mul power else d.div power
    else if 0 ≤ exponent then none
    else do
      let power ← powerOfTen mostTens
      let d ← d.div power
      scale steps d (exponent + mostTens)

/-- The double that `significand * 10 ^ exponent` is read as; nothing when it is out of range. -/
def ofDecimal (significand : Nat) (exponent : Int) : Option Double := do
  let d ← nearest significand 1
  scale 4 d exponent

end Double

end WorkloadBindings
