import WorkloadBindings.Text.Alphanumeric

/-!
# Regular expressions

`Pattern.isValid` tells whether a text is a regular expression that an automaton can match. Groups
may have names or flags, classes may be nested and combined, and every repetition needs something to
repeat. Refused are look-around, references to groups, boundaries of words, which no automaton of
this kind can see, and braces: repetition counts and long names of classes need a closing brace, and
the texts that are looked at here have none.
-/

namespace WorkloadBindings.Text.Pattern

/-- What an escape stands for. -/
inductive Escape where
  /-- One character, by its code point. -/
  | literal (codePoint : Nat)
  /-- A set of characters. -/
  | set
  /-- The beginning or the end of the text. -/
  | anchor
  deriving DecidableEq, Repr

/-- The value of a hexadecimal digit. -/
def hexValue? (c : Char) : Option Nat :=
  let n := c.toNat
  if c.isDigit then some (n - 48)
  else if 'a' ≤ c ∧ c ≤ 'f' then some (n - 87)
  else if 'A' ≤ c ∧ c ≤ 'F' then some (n - 55)
  else none

/-- A character by a number of hexadecimal digits. -/
def hexEscape (digits : Nat) (cs : List Char) : Option (Escape × List Char) := do
  let values ← (cs.take digits).mapM hexValue?
  let n := values.foldl (fun n d => 16 * n + d) 0
  if values.length = digits ∧ Nat.isValidChar n then some (.literal n, cs.drop digits) else none

/-- The letters that stand for sets of characters. -/
def setLetters : List Char := ['d', 'D', 's', 'S', 'w', 'W']

/-- The letters that name kinds of characters. -/
def kindLetters : List Char := ['c', 'l', 'm', 'n', 'p', 's', 'z']

/-- The letters that stand for control characters, and their code points. -/
def controlLetters : List (Char × Nat) :=
  [('a', 7), ('f', 12), ('n', 10), ('r', 13), ('t', 9), ('v', 11)]

/-- An escape, its backslash already read. -/
def escape : List Char → Option (Escape × List Char)
  | 'x' :: rest => hexEscape 2 rest
  | 'u' :: rest => hexEscape 4 rest
  | 'U' :: rest => hexEscape 8 rest
  | 'A' :: rest => some (.anchor, rest)
  | 'z' :: rest => some (.anchor, rest)
  | 'p' :: c :: rest => if kindLetters.contains c.toLower then some (.set, rest) else none
  | 'P' :: c :: rest => if kindLetters.contains c.toLower then some (.set, rest) else none
  | c :: rest =>
    if setLetters.contains c then some (.set, rest)
    else
      match controlLetters.lookup c with
      | some n => some (.literal n, rest)
      | none =>
        if decide (c.toNat < 128) && !c.isAlphanum && c != '<' && c != '>' then
          some (.literal c.toNat, rest)
        else none
  | [] => none

/-! ## Classes -/

/-- The names of classes of ASCII characters. -/
def asciiClasses : List String :=
  ["alnum", "alpha", "ascii", "blank", "cntrl", "digit", "graph", "lower", "print", "punct",
   "space", "upper", "word", "xdigit"]

/-- The text behind a named class, its opening bracket already read. -/
def namedClass : List Char → Option (List Char)
  | ':' :: rest =>
    let rest := if rest.head? = some '^' then rest.tail else rest
    let name := rest.takeWhile (· != ':')
    match rest.drop name.length with
    | ':' :: ']' :: rest =>
      if asciiClasses.contains (String.ofList name) then some rest else none
    | _ => none
  | _ => none

/-- The text behind the beginning of a class: a bracket or dashes that come first stand for
themselves. -/
def classStart (cs : List Char) : List Char :=
  let cs := if cs.head? = some '^' then cs.tail else cs
  match cs with
  | '-' :: _ => cs.dropWhile (· == '-')
  | ']' :: rest => rest
  | _ => cs

/-- An item of a class: the code point of a character, or a set. -/
def classItem : List Char → Option (Option Nat × List Char)
  | '\\' :: rest =>
    match escape rest with
    | some (.literal n, rest) => some (some n, rest)
    | some (.set, rest) => some (none, rest)
    | _ => none
  | c :: rest => some (some c.toNat, rest)
  | [] => none

/-- The text behind an item or a range of a class. -/
def classRange (cs : List Char) : Option (List Char) := do
  let (low, rest) ← classItem cs
  match rest with
  | '-' :: ']' :: _ => some rest
  | '-' :: '-' :: _ => some rest
  | '-' :: rest =>
    match low, ← classItem rest with
    | some low, (some high, rest) => if low ≤ high then some rest else none
    | _, _ => none
  | _ => some rest

/-- The text behind a class of which `depth` brackets are open. -/
def classEnd : Nat → Nat → List Char → Option (List Char)
  | 0, _, _ => none
  | fuel + 1, depth, cs =>
    match cs with
    | [] => none
    | '[' :: rest =>
      match namedClass rest with
      | some rest => classEnd fuel depth rest
      | none => classEnd fuel (depth + 1) (classStart rest)
    | ']' :: rest => if depth ≤ 1 then some rest else classEnd fuel (depth - 1) rest
    | '&' :: '&' :: rest => classEnd fuel depth rest
    | '-' :: '-' :: rest => classEnd fuel depth rest
    | '~' :: '~' :: rest => classEnd fuel depth rest
    | cs => (classRange cs).bind (classEnd fuel depth)

/-! ## Groups -/

/-- The letters that stand for flags. -/
def flagLetters : List Char := ['i', 'm', 's', 'U', 'u', 'R', 'x']

/-- The letters are flags, each given once, of which those behind a dash are cleared. -/
def areFlags (cs : List Char) : Bool :=
  cs.all (fun c => flagLetters.contains c || c == '-') && decide cs.Nodup &&
    cs.getLast? != some '-'

/-- The characters name a group. -/
def isGroupName : List Char → Bool
  | [] => false
  | c :: rest =>
    (c == '_' || (isAlphanumeric c && !c.isDigit)) &&
      rest.all fun c => isAlphanumeric c || ['_', '.', '[', ']'].contains c

/-- The text behind the name of a group. -/
def groupName (cs : List Char) : Option (List Char) :=
  let name := cs.takeWhile (· != '>')
  match cs.drop name.length with
  | '>' :: rest => if isGroupName name then some rest else none
  | _ => none

/-- The text behind the beginning of a group, its opening bracket already read, and whether a group
begins there at all: flags alone do not begin one. -/
def groupStart : List Char → Option (Bool × List Char)
  | '?' :: 'P' :: '<' :: rest => (groupName rest).map (true, ·)
  | '?' :: '<' :: rest => (groupName rest).map (true, ·)
  | '?' :: rest =>
    let flags := rest.takeWhile fun c => c != ':' && c != ')'
    match rest.drop flags.length with
    | ':' :: rest => if areFlags flags then some (true, rest) else none
    | ')' :: rest => if areFlags flags && !flags.isEmpty then some (false, rest) else none
    | _ => none
  | rest => some (true, rest)

/-! ## Expressions -/

/-- The rest of an expression in which `depth` groups are open; `repeatable` when there is something
to repeat. -/
def isRest : Nat → Nat → Bool → List Char → Bool
  | 0, _, _, _ => false
  | fuel + 1, depth, repeatable, cs =>
    match cs with
    | [] => depth == 0
    | '(' :: rest =>
      match groupStart rest with
      | some (true, rest) => isRest fuel (depth + 1) false rest
      | some (false, rest) => isRest fuel depth false rest
      | none => false
    | ')' :: rest => decide (0 < depth) && isRest fuel (depth - 1) true rest
    | '|' :: rest => isRest fuel depth false rest
    | '[' :: rest =>
      match classEnd cs.length 1 (classStart rest) with
      | some rest => isRest fuel depth true rest
      | none => false
    | '\\' :: rest =>
      match escape rest with
      | some (_, rest) => isRest fuel depth true rest
      | none => false
    | '\x7b' :: _ => false
    | c :: rest =>
      if ['*', '+', '?'].contains c then
        repeatable && isRest fuel depth true (if rest.head? = some '?' then rest.tail else rest)
      else isRest fuel depth true rest

/-- The text is a regular expression. -/
def isValid (cs : List Char) : Bool := isRest (cs.length + 1) 0 false cs

end WorkloadBindings.Text.Pattern
