import WorkloadBindings.Text.Basic
import WorkloadBindings.Text.Pattern

/-!
# Log filters

A log filter is a list of directives between commas. A directive is a level; or a target, a span in
brackets, or both, and perhaps a level behind an equals sign. A span may have a field in braces, and
the field a value: a truth value, a number or a regular expression. Levels have names, in any case,
and numbers up to five.

White space around a directive is passed over, but the positions that are found without it are then
looked up in the directive as it stands. A directive with white space in front therefore has its
parts shifted to the left; no level is found there, and a cut may fall inside a character.
-/

namespace WorkloadBindings.LogFilter

/-- Why a text is no log filter. -/
inductive Fault where
  /-- It is not written like one. -/
  | malformed
  /-- One of its parts would begin or end inside a character. -/
  | splitCharacter
  deriving DecidableEq, Repr

/-! ## Levels -/

/-- The names of the levels. -/
def levelNames : List String := ["off", "error", "warn", "info", "debug", "trace"]

/-- A number that names a level, perhaps behind a plus sign and zeros. -/
def isLevelNumber (cs : List Char) : Bool :=
  let digits := if cs.head? = some '+' then cs.tail else cs
  let significant := digits.dropWhile (· == '0')
  !digits.isEmpty && digits.all Char.isDigit &&
    (significant.isEmpty || ['1', '2', '3', '4', '5'].any fun d => significant == [d])

/-- The text behind an equals sign is a level or nothing. -/
def isLevel (cs : List Char) : Bool :=
  cs.isEmpty || isLevelNumber cs || levelNames.any fun name => cs.map Char.toLower == name.toList

/-! ## Fields -/

/-- An exponent, perhaps signed, or nothing. -/
def isExponent : List Char → Bool
  | [] => true
  | c :: rest =>
    let digits := if rest.head? = some '+' ∨ rest.head? = some '-' then rest.tail else rest
    (c == 'e' || c == 'E') && !digits.isEmpty && digits.all Char.isDigit

/-- A number without a sign, in decimal or by its name. -/
def isUnsigned (cs : List Char) : Bool :=
  let whole := cs.takeWhile Char.isDigit
  let rest := cs.drop whole.length
  let hasPoint := rest.head? == some '.'
  let places := if hasPoint then rest.tail.takeWhile Char.isDigit else []
  let behind := if hasPoint then rest.tail.drop places.length else rest
  (!(whole.isEmpty && places.isEmpty) && isExponent behind) ||
    ["inf", "infinity", "nan"].any fun name => cs.map Char.toLower == name.toList

/-- The value of a field. A number behind a plus sign is the only one that is no expression. -/
def isFieldValue (cs : List Char) : Bool :=
  Text.Pattern.isValid cs || (cs.head? == some '+' && isUnsigned cs.tail)

/-- A field, which may have a value behind an equals sign; what follows a second one is passed
over. -/
def isField (cs : List Char) : Bool :=
  !cs.isEmpty &&
    match cs.dropWhile (· != '=') with
    | [] => true
    | _ :: value => isFieldValue (value.takeWhile (· != '='))

/-! ## Directives -/

/-- What is being read of a directive, with the position where it began. -/
inductive Phase where
  | start
  | target
  | span (start : Nat)
  | field (start : Nat)
  | fieldsEnd
  | spanEnd
  | level (start : Nat)
  deriving DecidableEq, Repr

/-- The character may begin a target. -/
def beginsTarget (c : Char) : Bool := Text.isAlphanumeric c || ['-', ':', '_'].contains c

/-- The part of a directive between two positions. -/
def part (whole : List Char) (start stop : Nat) : Except Fault (List Char) :=
  match Text.slice? start stop whole with
  | some cs => .ok cs
  | none => .error .splitCharacter

/-- Reads the character at a position of a directive without the white space around it; `whole` is
the directive with it. -/
def step (whole : List Char) (phase : Phase) (i : Nat) (c : Char) : Except Fault Phase :=
  match phase, c with
  | .start, '[' => .ok (.span (i + 1))
  | .start, c => if beginsTarget c then .ok .target else .error .malformed
  | .target, '=' => do
    let _ ← part whole 0 i
    .ok (.level (i + 1))
  | .target, '[' => do
    let _ ← part whole 0 i
    .ok (.span (i + 1))
  | .target, _ => .ok .target
  | .span start, ']' => do
    let _ ← part whole start i
    .ok .spanEnd
  | .span start, '\x7b' => do
    let _ ← part whole start i
    .ok (.field (i + 1))
  | .span start, _ => .ok (.span start)
  | .field start, '\x7d' => do
    let field ← part whole start i
    if isField field then .ok .fieldsEnd else .error .malformed
  | .field start, _ => .ok (.field start)
  | .fieldsEnd, ']' => .ok .spanEnd
  | .spanEnd, '=' => .ok (.level (i + 1))
  | .level start, _ => .ok (.level start)
  | _, _ => .error .malformed

/-- Reads the characters from a position on. -/
def run (whole : List Char) : Phase → Nat → List Char → Except Fault Phase
  | phase, _, [] => .ok phase
  | phase, i, c :: cs => do run whole (← step whole phase i c) (i + c.utf8Size) cs

/-- A directive may end here. -/
def finish (whole : List Char) : Phase → Except Fault Unit
  | .target => .ok ()
  | .spanEnd => .ok ()
  | .level start => do
    let level ← part whole start (Text.byteWidth whole)
    if isLevel level then .ok () else .error .malformed
  | _ => .error .malformed

/-- The text is a directive. -/
def checkDirective (whole : List Char) : Except Fault Unit := do
  finish whole (← run whole .start 0 (Text.trimEnd Text.isBlank (Text.trimStart whole)))

/-- The text is a log filter; there may be nothing between two commas. -/
def check (text : String) : Except Fault Unit :=
  (text.splitOn ",").forM fun directive =>
    if directive.isEmpty then .ok () else checkDirective directive.toList

end WorkloadBindings.LogFilter
