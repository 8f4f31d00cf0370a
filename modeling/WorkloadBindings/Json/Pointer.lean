import WorkloadBindings.Json.Basic

/-!
# JSON pointers

A pointer names a place inside a value by the member names and list indices on the way to it, its
reference tokens. In its text every token follows a slash, with `~1` for a slash and `~0` for a
tilde inside a token.
-/

namespace WorkloadBindings

/-- A place inside a JSON value: the reference tokens on the way to it. -/
abbrev Pointer : Type := List String

namespace Pointer

/-- The characters of a token, with tildes and slashes escaped. -/
def escape (cs : List Char) : List Char :=
  cs.flatMap fun c => if c = '~' then ['~', '0'] else if c = '/' then ['~', '1'] else [c]

/-- The characters that an escaped token stands for. -/
def unescape : List Char → List Char
  | '~' :: '1' :: rest => '/' :: unescape rest
  | '~' :: '0' :: rest => '~' :: unescape rest
  | c :: rest => c :: unescape rest
  | [] => []

/-- The text of a pointer. -/
def render (p : Pointer) : String :=
  String.join (p.map fun token => "/" ++ String.ofList (escape token.toList))

/-- Why a text is no pointer. -/
inductive Fault where
  /-- It is not empty and does not begin with a slash. -/
  | noLeadingSlash
  /-- A tilde stands for neither a tilde nor a slash, in the token after the slash at a position in
  bytes. -/
  | malformedToken (offset : Nat)
  deriving DecidableEq, Repr

/-- The words for what is wrong with a text. -/
def Fault.message : Fault → String
  | noLeadingSlash =>
    "json pointer failed to parse; does not start with a slash ('/') and is not empty"
  | malformedToken offset =>
    "json pointer failed to parse; the first token in the partial-pointer starting at offset " ++
      toString offset ++ " is malformed"

/-- Every tilde of a token is part of an escape. -/
def isEscaped : List Char → Bool
  | '~' :: '0' :: rest => isEscaped rest
  | '~' :: '1' :: rest => isEscaped rest
  | '~' :: _ => false
  | _ :: rest => isEscaped rest
  | [] => true

/-- The pointer of some tokens as they are written, the first of them after a slash at a position in
bytes. -/
def ofTokens (offset : Nat) : List String → Except Fault Pointer
  | [] => .ok []
  | token :: rest =>
    if isEscaped token.toList then
      (ofTokens (offset + 1 + token.utf8ByteSize) rest).map
        (String.ofList (unescape token.toList) :: ·)
    else .error (.malformedToken offset)

/-- The pointer of a text; the empty text is the whole value, any other begins with a slash. -/
def parse (text : String) : Except Fault Pointer :=
  match text.splitOn "/" with
  | "" :: tokens => ofTokens 0 tokens
  | _ => .error .noLeadingSlash

/-- The pointer of a text, if it is one. -/
def parse? (text : String) : Option Pointer := (parse text).toOption

/-- The list index that a token writes: decimal digits without a leading zero. -/
def index? (token : String) : Option Nat :=
  match token.toList with
  | [] => none
  | ['0'] => some 0
  | '0' :: _ => none
  | ds =>
    if ds.all Char.isDigit then some (ds.foldl (fun n d => 10 * n + (d.toNat - 48)) 0)
    else none

/-- The token of a list index. -/
def ofIndex (i : Nat) : String := toString i

/-- The digits of a number that is not zero do not begin with a zero. -/
theorem head?_toDigits_ne_zero {n : Nat} (h : 0 < n) : (Nat.toDigits 10 n).head? ≠ some '0' := by
  induction n using Nat.strongRecOn with
  | _ n ih =>
    rw [Nat.toDigits_eq_if (by omega)]
    split
    · simpa using Nat.ne_of_gt h
    · have hq := ih (n / 10) (Nat.div_lt_self h (by omega)) (by omega)
      rw [List.head?_append, List.head?_eq_some_head Nat.toDigits_ne_nil] at *
      exact hq

/-- The token of an index writes that index. -/
theorem index?_ofIndex (i : Nat) : index? (ofIndex i) = some i := by
  have hdigits : (ofIndex i).toList = Nat.toDigits 10 i := by simp [ofIndex]
  have hall : (Nat.toDigits 10 i).all Char.isDigit = true :=
    List.all_eq_true.2 fun c hc => Nat.isDigit_of_mem_toDigits (by omega) (by omega) hc
  have hvalue : (Nat.toDigits 10 i).foldl (fun n d => 10 * n + (d.toNat - 48)) 0 = i := by
    have h := Nat.ofDigitChars_ten_toDigits (n := i)
    rwa [Nat.ofDigitChars_eq_foldl] at h
  unfold index?
  rw [hdigits]
  split
  · rename_i h
    exact absurd h Nat.toDigits_ne_nil
  · rename_i h
    rw [h] at hvalue
    exact congrArg some (by simpa using hvalue)
  · rename_i hne h
    rcases Nat.eq_zero_or_pos i with rfl | hi
    · exact absurd (Nat.toDigits_zero 10) (by simpa [h] using hne)
    · exact absurd (by rw [h]; rfl) (head?_toDigits_ne_zero hi)
  · rw [if_pos hall, hvalue]

/-- The token of an index is not the one for the place after the last item. -/
theorem ofIndex_ne_dash (i : Nat) : ofIndex i ≠ "-" := by
  intro h
  have hi := index?_ofIndex i
  rw [h] at hi
  have hdash : index? "-" = none := by decide
  rw [hdash] at hi
  cases hi

end Pointer

/-- The value at a place inside a value. -/
def Json.at? : Json → Pointer → Option Json
  | j, [] => some j
  | .obj ms, token :: rest => (Assoc.get? token ms).bind (·.at? rest)
  | .arr xs, token :: rest => (Pointer.index? token).bind fun i => (xs[i]?).bind (·.at? rest)
  | _, _ :: _ => none

end WorkloadBindings
