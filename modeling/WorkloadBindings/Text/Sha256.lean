/-!
# SHA-256

The digest of a row of bytes, as lower-case hexadecimal text. The message is padded to whole blocks
of sixteen words, each block is spread over a schedule of sixty-four words, and sixty-four rounds
per block stir the schedule into eight words of state. A digest is 64 characters long
(`length_hexDigest`), and each of them is a lower-case hexadecimal digit
(`mem_hexDigits_of_mem_hexDigest`).
-/

namespace WorkloadBindings.Sha256

/-- The first 32 bits of the fractional parts of the cube roots of the first 64 primes. -/
def constants : List UInt32 :=
  [0x428a2f98, 0x71374491, 0xb5c0fbcf, 0xe9b5dba5, 0x3956c25b, 0x59f111f1, 0x923f82a4, 0xab1c5ed5,
   0xd807aa98, 0x12835b01, 0x243185be, 0x550c7dc3, 0x72be5d74, 0x80deb1fe, 0x9bdc06a7, 0xc19bf174,
   0xe49b69c1, 0xefbe4786, 0x0fc19dc6, 0x240ca1cc, 0x2de92c6f, 0x4a7484aa, 0x5cb0a9dc, 0x76f988da,
   0x983e5152, 0xa831c66d, 0xb00327c8, 0xbf597fc7, 0xc6e00bf3, 0xd5a79147, 0x06ca6351, 0x14292967,
   0x27b70a85, 0x2e1b2138, 0x4d2c6dfc, 0x53380d13, 0x650a7354, 0x766a0abb, 0x81c2c92e, 0x92722c85,
   0xa2bfe8a1, 0xa81a664b, 0xc24b8b70, 0xc76c51a3, 0xd192e819, 0xd6990624, 0xf40e3585, 0x106aa070,
   0x19a4c116, 0x1e376c08, 0x2748774c, 0x34b0bcb5, 0x391c0cb3, 0x4ed8aa4a, 0x5b9cca4f, 0x682e6ff3,
   0x748f82ee, 0x78a5636f, 0x84c87814, 0x8cc70208, 0x90befffa, 0xa4506ceb, 0xbef9a3f7, 0xc67178f2]

/-- The eight words of the state between rounds. -/
structure State where
  a : UInt32
  b : UInt32
  c : UInt32
  d : UInt32
  e : UInt32
  f : UInt32
  g : UInt32
  h : UInt32
  deriving DecidableEq

/-- The first 32 bits of the fractional parts of the square roots of the first eight primes. -/
def initial : State :=
  ⟨0x6a09e667, 0xbb67ae85, 0x3c6ef372, 0xa54ff53a, 0x510e527f, 0x9b05688c, 0x1f83d9ab, 0x5be0cd19⟩

/-- A word rotated to the right. -/
def rotr (x n : UInt32) : UInt32 := (x >>> n) ||| (x <<< (32 - n))

/-- The length of the message in bits, as eight bytes. -/
def lengthBytes (bits : Nat) : List UInt8 :=
  (List.range 8).map fun i => UInt8.ofNat (bits / Nat.pow 256 (7 - i))

/-- The message with its delimiter, the zeros that complete the last block, and its length. -/
def pad (message : List UInt8) : List UInt8 :=
  message ++ [0x80] ++ List.replicate ((119 - message.length % 64) % 64) 0 ++
    lengthBytes (8 * message.length)

/-- The words that a row of bytes makes, four bytes to a word, the highest first. -/
def words : List UInt8 → List UInt32
  | a :: b :: c :: d :: rest =>
    ((a.toUInt32 <<< 24) ||| (b.toUInt32 <<< 16) ||| (c.toUInt32 <<< 8) ||| d.toUInt32) ::
      words rest
  | _ => []

/-- The words of a schedule, the latest first, with `count` more of them computed. -/
def extend : Nat → List UInt32 → List UInt32
  | 0, latest => latest
  | count + 1, latest =>
    let w (back : Nat) : UInt32 := latest.getD (back - 1) 0
    let s0 := rotr (w 15) 7 ^^^ rotr (w 15) 18 ^^^ (w 15 >>> 3)
    let s1 := rotr (w 2) 17 ^^^ rotr (w 2) 19 ^^^ (w 2 >>> 10)
    extend count ((w 16 + s0 + w 7 + s1) :: latest)

/-- The schedule of a block: its sixteen words and forty-eight computed ones. -/
def schedule (block : List UInt32) : List UInt32 := (extend 48 block.reverse).reverse

/-- One round: a constant and a word of the schedule stirred into the state. -/
def round (s : State) (kw : UInt32 × UInt32) : State :=
  let s1 := rotr s.e 6 ^^^ rotr s.e 11 ^^^ rotr s.e 25
  let choice := (s.e &&& s.f) ^^^ (~~~s.e &&& s.g)
  let t1 := s.h + s1 + choice + kw.1 + kw.2
  let s0 := rotr s.a 2 ^^^ rotr s.a 13 ^^^ rotr s.a 22
  let majority := (s.a &&& s.b) ^^^ (s.a &&& s.c) ^^^ (s.b &&& s.c)
  ⟨t1 + (s0 + majority), s.a, s.b, s.c, s.d + t1, s.e, s.f, s.g⟩

/-- The state after a block. -/
def compress (s : State) (block : List UInt32) : State :=
  let t := (constants.zip (schedule block)).foldl round s
  ⟨s.a + t.a, s.b + t.b, s.c + t.c, s.d + t.d, s.e + t.e, s.f + t.f, s.g + t.g, s.h + t.h⟩

/-- The state after the blocks of sixteen words that a row of words makes. -/
def compressAll (s : State) : Nat → List UInt32 → State
  | 0, _ => s
  | blocks + 1, ws => compressAll (compress s (ws.take 16)) blocks (ws.drop 16)

/-- The eight hexadecimal digits of a word. -/
def hexWord (w : UInt32) : List Char :=
  (List.range 8).map fun i =>
    let n := w.toNat / Nat.pow 16 (7 - i) % 16
    if n < 10 then Char.ofNat (48 + n) else Char.ofNat (87 + n)

/-- The digest of a message, in 64 hexadecimal digits. -/
def hexDigest (message : List UInt8) : String :=
  let ws := words (pad message)
  let s := compressAll initial (ws.length / 16) ws
  String.ofList ([s.a, s.b, s.c, s.d, s.e, s.f, s.g, s.h].flatMap hexWord)

/-! ## The form of a digest -/

/-- The lower-case hexadecimal digits. -/
def hexDigits : List Char := "0123456789abcdef".toList

/-- Below sixteen, the character of a number is a hexadecimal digit. -/
theorem mem_hexDigits_of_lt :
    ∀ n < 16, (if n < 10 then Char.ofNat (48 + n) else Char.ofNat (87 + n)) ∈ hexDigits := by
  decide

/-- A word is written in eight characters. -/
theorem length_hexWord (w : UInt32) : (hexWord w).length = 8 := by
  rw [hexWord, List.length_map, List.length_range]

/-- A word is written in hexadecimal digits. -/
theorem mem_hexDigits_of_mem_hexWord {w : UInt32} {c : Char} (h : c ∈ hexWord w) :
    c ∈ hexDigits := by
  obtain ⟨i, -, rfl⟩ := List.mem_map.1 h
  exact mem_hexDigits_of_lt _ (Nat.mod_lt _ (by decide))

/-- A digest has 64 characters. -/
theorem length_hexDigest (message : List UInt8) : (hexDigest message).toList.length = 64 := by
  simp only [hexDigest, String.toList_ofList, List.length_flatMap, length_hexWord, List.map_cons,
    List.map_nil]
  rfl

/-- A digest consists of hexadecimal digits. -/
theorem mem_hexDigits_of_mem_hexDigest {message : List UInt8} {c : Char}
    (h : c ∈ (hexDigest message).toList) : c ∈ hexDigits := by
  rw [hexDigest, String.toList_ofList] at h
  obtain ⟨w, -, hc⟩ := List.mem_flatMap.1 h
  exact mem_hexDigits_of_mem_hexWord hc

end WorkloadBindings.Sha256
