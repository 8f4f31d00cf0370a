import Mathlib.Data.List.Basic
import WorkloadBindings.Label.Selector

/-!
# The label query language

How the API reads the query of a list request. The text is cut into words and symbols
(`LabelQuery.tokens`), these into parts at the commas outside parentheses (`LabelQuery.parts`), and
every part is a condition on one label (`LabelCondition.ofTokens?`). A query without tokens has no
conditions, and selects everything. `in` and `notin` are operators only where an operator stands;
elsewhere they are names or values like any other.

The rules for writing are here too: pieces joined with commas are cut into the tokens of the pieces
(`LabelQuery.scan_intercalate`), they are split where they were joined as long as each keeps its own
commas in parentheses (`LabelQuery.parts_intercalate`), and the values between parentheses are those
that were joined there (`LabelQuery.values?_valueTokens`).
-/

namespace WorkloadBindings

/-! ## Words and symbols -/

/-- A piece of a label query. -/
inductive QueryToken where
  /-- A name, a value or the word for an operator. -/
  | word (text : String)
  | equals
  | bang
  | opening
  | closing
  | comma
  | above
  | below
  deriving DecidableEq, Repr

/-- The piece that a character makes on its own. -/
def QueryToken.symbol? : Char → Option QueryToken
  | '=' => some equals
  | '!' => some bang
  | '(' => some opening
  | ')' => some closing
  | ',' => some comma
  | '>' => some above
  | '<' => some below
  | _ => none

namespace LabelQuery

/-- The characters that separate words and mean nothing else. -/
def blanks : List Char := [' ', '\t', '\r', '\n']

/-- The character is part of a word. -/
def isPlain (c : Char) : Bool := (QueryToken.symbol? c).isNone && !blanks.contains c

/-- The word that the characters before some place make, if there are any. -/
def pending (word : List Char) : List QueryToken :=
  if word = [] then [] else [.word (.ofList word)]

/-- The pieces of what follows the beginning of a word. -/
def scan : List Char → List Char → List QueryToken
  | word, [] => pending word
  | word, c :: cs =>
    match QueryToken.symbol? c with
    | some t => pending word ++ t :: scan [] cs
    | none => if blanks.contains c then pending word ++ scan [] cs else scan (word ++ [c]) cs

/-- The pieces of a query. -/
def tokens (query : String) : List QueryToken := scan [] query.toList

/-! ## Requirements -/

/-- What follows a piece stands in parentheses. -/
def insideAfter (inside : Bool) : QueryToken → Bool
  | .opening => true
  | .closing => false
  | _ => inside

/-- The parts between the commas outside parentheses. -/
def parts : Bool → List QueryToken → List (List QueryToken)
  | _, [] => [[]]
  | inside, t :: ts =>
    if t = .comma ∧ inside = false then [] :: parts false ts
    else (parts (insideAfter inside t) ts).modifyHead (t :: ·)

/-- The values up to the closing parenthesis. A value that is not written is the empty one. -/
def values? : List QueryToken → Option (List String)
  | [.closing] => some [""]
  | [.word v, .closing] => some [v]
  | .comma :: ts => (values? ts).map ("" :: ·)
  | .word v :: .comma :: ts => (values? ts).map (v :: ·)
  | _ => none

end LabelQuery

/-- A condition on one label. -/
inductive LabelCondition where
  | equals (key value : String)
  | among (key : String) (values : List String)
  | notAmong (key : String) (values : List String)
  | present (key : String)
  | absent (key : String)
  deriving DecidableEq, Repr

namespace LabelCondition

/-- The condition that a part of a query writes. -/
def ofTokens? : List QueryToken → Option LabelCondition
  | [.word k] => some (.present k)
  | [.bang, .word k] => some (.absent k)
  | [.word k, .equals] => some (.equals k "")
  | [.word k, .equals, .word v] => some (.equals k v)
  | .word k :: .word o :: .opening :: ts =>
    if o = "in" then (LabelQuery.values? ts).map (.among k)
    else if o = "notin" then (LabelQuery.values? ts).map (.notAmong k)
    else none
  | _ => none

/-- The labels satisfy the condition. A label that is not there has none of the values. -/
def holds (labels : Labels) : LabelCondition → Bool
  | .equals k v => labels.get? k == some v
  | .among k vs => (labels.get? k).any fun v => vs.contains v
  | .notAmong k vs => !(labels.get? k).any fun v => vs.contains v
  | .present k => (labels.get? k).isSome
  | .absent k => (labels.get? k).isNone

end LabelCondition

/-- The conditions of a query, all of which must hold. -/
abbrev LabelQuery : Type := List LabelCondition

namespace LabelQuery

/-- Reads a query. -/
def read (query : String) : Option LabelQuery :=
  match tokens query with
  | [] => some []
  | ts => (parts false ts).mapM LabelCondition.ofTokens?

/-- The query selects what has the labels. -/
def selects (q : LabelQuery) (labels : Labels) : Bool := q.all (·.holds labels)

/-! ## How text is cut -/

/-- A text without symbols and blanks. -/
def IsWord (text : String) : Prop := ∀ c ∈ text.toList, isPlain c = true

instance (text : String) : Decidable (IsWord text) :=
  decidable_of_iff (text.toList.all isPlain = true) List.all_eq_true

/-- A letter or a digit is no symbol and no blank. -/
theorem isPlain_of_isAlphanum {c : Char} (h : c.isAlphanum = true) : isPlain c = true := by
  unfold isPlain
  rw [Bool.and_eq_true]
  constructor
  · unfold QueryToken.symbol?
    split <;> first | rfl | cases h
  · have hblank : ∀ b ∈ blanks, b.isAlphanum = false := by simp [blanks]
    rw [Bool.not_eq_true', Bool.eq_false_iff, Ne, List.contains_iff_mem]
    intro hc
    cases h.symm.trans (hblank c hc)

/-- Letters, digits and the marks in names of labels make words. -/
theorem isWord_of_label {text : String}
    (h : ∀ c ∈ text.toList, c.isAlphanum = true ∨ c ∈ ['-', '_', '.', '/']) : IsWord text := by
  have hmarks : ∀ c ∈ ['-', '_', '.', '/'], isPlain c = true := List.all_eq_true.1 (by decide)
  exact fun c hc => (h c hc).elim isPlain_of_isAlphanum (hmarks c)

variable {c : Char} {t : QueryToken} {word cs rest : List Char}

/-- A character that stands for a piece ends the word before it. -/
theorem scan_symbol (h : QueryToken.symbol? c = some t) :
    scan word (c :: rest) = pending word ++ t :: scan [] rest := by
  rw [scan, h]

/-- A blank ends the word before it. -/
theorem scan_blank : scan word (' ' :: rest) = pending word ++ scan [] rest := rfl

/-- The characters of a word go on with the word before them. -/
theorem scan_word {text : String} (h : IsWord text) :
    scan word (text.toList ++ rest) = scan (word ++ text.toList) rest := by
  unfold IsWord at h
  generalize text.toList = us at h
  -- Each character goes to the end of the word before it, which the induction is general in.
  induction us generalizing word with
  | nil => rw [List.append_nil, List.nil_append]
  | cons u us ih =>
    obtain ⟨hu, hus⟩ := List.forall_mem_cons.1 h
    unfold isPlain at hu
    rw [Bool.and_eq_true, Option.isNone_iff_eq_none, Bool.not_eq_true'] at hu
    rw [List.cons_append, scan, hu.1]
    dsimp only
    rw [if_neg (Bool.eq_false_iff.1 hu.2), ih hus, List.append_assoc, List.singleton_append]

/-- A word on its own is the one piece of its text, and an empty text has none. -/
theorem scan_toList {text : String} (h : IsWord text) : scan [] text.toList = pending text.toList := by
  have hscan : scan [] (text.toList ++ []) = scan text.toList [] := scan_word h
  rwa [List.append_nil] at hscan

/-- A word that is not empty is a piece. -/
theorem pending_toList {text : String} (h : text ≠ "") : pending text.toList = [.word text] := by
  unfold pending
  rw [if_neg fun hnil => h (String.toList_eq_nil_iff.1 hnil), String.ofList_toList]

/-- A symbol cuts a text into two that are cut on their own. -/
theorem scan_append_symbol (h : QueryToken.symbol? c = some t) :
    scan word (cs ++ c :: rest) = scan word cs ++ t :: scan [] rest := by
  induction cs generalizing word with
  | nil => exact scan_symbol h
  | cons d cs ih =>
    -- Whatever the first character is, the rest is cut on its own, with another word before it.
    rw [List.cons_append, scan, scan]
    cases QueryToken.symbol? d with
    | some u => rw [ih, List.append_assoc, List.cons_append]
    | none =>
      dsimp only
      split
      · rw [ih, List.append_assoc]
      · exact ih

/-- Texts joined with commas are cut into their own pieces, joined with commas. -/
theorem scan_intercalate (texts : List (List Char)) :
    scan [] ([','].intercalate texts) = [.comma].intercalate (texts.map (scan [])) := by
  induction texts with
  | nil => rfl
  | cons text texts ih =>
    cases texts with
    | nil => rw [List.intercalate_singleton, List.map_singleton, List.intercalate_singleton]
    | cons next texts =>
      rw [List.intercalate_cons_cons, List.append_assoc, List.singleton_append,
        scan_append_symbol (t := .comma) rfl, ih]
      simp only [List.map_cons, List.intercalate_cons_cons, List.append_assoc,
        List.singleton_append]

/-! ## Where parts end -/

/-- Every comma stands in parentheses, and every parenthesis is closed in the end. -/
def Encloses : Bool → List QueryToken → Prop
  | inside, [] => inside = false
  | inside, t :: ts => (t = .comma → inside = true) ∧ Encloses (insideAfter inside t) ts

variable {inside : Bool} {p ts : List QueryToken}

/-- A part that encloses its commas is one part at the end of a query. -/
theorem Encloses.parts_eq (h : Encloses inside p) : parts inside p = [p] := by
  induction p generalizing inside with
  | nil => rfl
  | cons t p ih =>
    obtain ⟨hcomma, hrest⟩ := h
    rw [parts, if_neg, ih hrest, List.modifyHead_cons]
    rintro ⟨rfl, hout⟩
    cases hout.symm.trans (hcomma rfl)

/-- A part that encloses its commas ends at the comma after it. -/
theorem Encloses.parts_append (h : Encloses inside p) :
    parts inside (p ++ .comma :: ts) = p :: parts false ts := by
  induction p generalizing inside with
  | nil =>
    have hout : inside = false := h
    rw [List.nil_append, parts, if_pos ⟨rfl, hout⟩]
  | cons t p ih =>
    obtain ⟨hcomma, hrest⟩ := h
    rw [List.cons_append, parts, if_neg, ih hrest, List.modifyHead_cons]
    rintro ⟨rfl, hout⟩
    cases hout.symm.trans (hcomma rfl)

/-- Parts that enclose their commas are found again when they are joined with commas. -/
theorem parts_intercalate {ps : List (List QueryToken)} (hne : ps ≠ [])
    (h : ∀ p ∈ ps, Encloses false p) : parts false ([.comma].intercalate ps) = ps := by
  induction ps with
  | nil => exact absurd rfl hne
  | cons p ps ih =>
    obtain ⟨hp, hps⟩ := List.forall_mem_cons.1 h
    cases ps with
    | nil => rw [List.intercalate_singleton, hp.parts_eq]
    | cons next ps =>
      rw [List.intercalate_cons_cons, List.append_assoc, List.singleton_append, hp.parts_append,
        ih (List.cons_ne_nil _ _) hps]

/-- A query that joins parts with commas has the conditions of the parts. -/
theorem read_of_parts {query : String} {ps : List (List QueryToken)}
    (htokens : tokens query = [.comma].intercalate ps)
    (hps : ∀ p ∈ ps, p ≠ [] ∧ Encloses false p) :
    read query = ps.mapM LabelCondition.ofTokens? := by
  unfold read
  cases ps with
  | nil =>
    rw [htokens, List.intercalate_nil]
    rfl
  | cons p ps =>
    have hne : [QueryToken.comma].intercalate (p :: ps) ≠ [] := by
      intro hnil
      obtain ⟨hp, -⟩ := hps p List.mem_cons_self
      cases ps with
      | nil =>
        rw [List.intercalate_singleton] at hnil
        exact hp hnil
      | cons next ps =>
        rw [List.intercalate_cons_cons, List.append_assoc] at hnil
        exact hp (List.append_eq_nil_iff.1 hnil).1
    have hparts := parts_intercalate (List.cons_ne_nil p ps) fun q hq => (hps q hq).2
    rw [htokens]
    split
    · rename_i hnil
      exact absurd hnil hne
    · rw [hparts]

/-! ## Values in parentheses -/

/-- The pieces of some values that stand in parentheses, with the closing one. -/
def valueTokens (values : List String) : List QueryToken :=
  [.comma].intercalate (values.map fun v => pending v.toList) ++ [.closing]

/-- One value stands before the closing parenthesis. -/
theorem valueTokens_singleton (v : String) : valueTokens [v] = pending v.toList ++ [.closing] := by
  unfold valueTokens
  rw [List.map_singleton, List.intercalate_singleton]

/-- The first of several values stands before a comma. -/
theorem valueTokens_cons_cons (v next : String) (values : List String) :
    valueTokens (v :: next :: values) =
      pending v.toList ++ .comma :: valueTokens (next :: values) := by
  unfold valueTokens
  simp only [List.map_cons, List.intercalate_cons_cons, List.append_assoc, List.singleton_append]
  rfl

/-- The values that were joined are read again. There must be one, since nothing in parentheses is
the empty value. -/
theorem values?_valueTokens {values : List String} (h : values ≠ []) :
    values? (valueTokens values) = some values := by
  -- A value is read from its piece, or from the lack of one.
  have hvalue : ∀ v : String, values? (pending v.toList ++ [.closing]) = some [v] ∧
      ∀ ts, values? (pending v.toList ++ .comma :: ts) = (values? ts).map (v :: ·) := by
    intro v
    by_cases hv : v = ""
    · subst hv
      exact ⟨rfl, fun ts => rfl⟩
    · rw [pending_toList hv]
      exact ⟨rfl, fun ts => rfl⟩
  induction values with
  | nil => exact absurd rfl h
  | cons v values ih =>
    cases values with
    | nil => rw [valueTokens_singleton, (hvalue v).1]
    | cons next values =>
      rw [valueTokens_cons_cons, (hvalue v).2, ih (List.cons_ne_nil _ _), Option.map_some]

/-- The commas between values are enclosed by the parentheses around them. -/
theorem encloses_valueTokens (values : List String) : Encloses true (valueTokens values) := by
  have hvalue : ∀ (v : String) (ts : List QueryToken),
      Encloses true ts → Encloses true (pending v.toList ++ ts) := by
    intro v ts hts
    by_cases hv : v = ""
    · rwa [hv]
    · rw [pending_toList hv]
      exact ⟨fun _ => rfl, hts⟩
  have hclosing : Encloses true [.closing] := ⟨fun _ => rfl, rfl⟩
  induction values with
  | nil => exact hclosing
  | cons v values ih =>
    cases values with
    | nil =>
      rw [valueTokens_singleton]
      exact hvalue v _ hclosing
    | cons next values =>
      rw [valueTokens_cons_cons]
      exact hvalue v _ ⟨fun _ => rfl, ih⟩

end LabelQuery

end WorkloadBindings
