import Mathlib.Data.List.Basic
import WorkloadBindings.Proofs.Text.ByteWidth

/-!
# Names of the domain name system

A label is a row of lower-case letters, digits and dashes that begins and ends with a letter or a
digit, and a subdomain consists of labels with dots between them. A subdomain is a label just when it
has no dot (`IsSubdomain.isLabel_iff`). Of a subdomain every beginning that ends with a letter or a
digit is a subdomain (`IsSubdomain.of_isPrefix`), and it stays one when its first label is continued to
the left or its last one to the right.
-/

namespace WorkloadBindings.Text

/-- The character is a lower-case letter or a digit. -/
def isLowerAlphanumeric (c : Char) : Bool := 'a' ≤ c && c ≤ 'z' || '0' ≤ c && c ≤ '9'

/-- The character may stand in a label. -/
def isLabelChar (c : Char) : Bool := isLowerAlphanumeric c || c == '-'

/-- The text is a label, of whatever length. -/
structure IsLabel (cs : List Char) : Prop where
  chars : ∀ c ∈ cs, isLabelChar c = true
  first : cs.head?.any isLowerAlphanumeric = true
  last : cs.getLast?.any isLowerAlphanumeric = true

instance (cs : List Char) : Decidable (IsLabel cs) :=
  decidable_of_iff
    (cs.all isLabelChar = true ∧ cs.head?.any isLowerAlphanumeric = true ∧
      cs.getLast?.any isLowerAlphanumeric = true)
    ⟨fun h => ⟨List.all_eq_true.1 h.1, h.2.1, h.2.2⟩,
      fun h => ⟨List.all_eq_true.2 h.chars, h.first, h.last⟩⟩

/-- The text is a subdomain, of whatever length: labels with dots between them. -/
inductive IsSubdomain : List Char → Prop where
  /-- A single label. -/
  | label {cs : List Char} : IsLabel cs → IsSubdomain cs
  /-- A label in front of others. -/
  | dot {cs rest : List Char} : IsLabel cs → IsSubdomain rest → IsSubdomain (cs ++ '.' :: rest)

variable {c : Char} {cs ds : List Char}

/-! ## Ends of a text -/

section

variable {p : Char → Bool}

/-- A text ends as it does whatever stands in front of it. -/
theorem any_getLast?_append (h : ds.getLast?.any p = true) (cs : List Char) :
    (cs ++ ds).getLast?.any p = true := by
  cases hlast : ds.getLast? with
  | none =>
    rw [hlast] at h
    cases h
  | some d => rwa [List.getLast?_append, hlast, Option.some_or, ← hlast]

/-- A text begins as it does whatever stands behind it. -/
theorem any_head?_append (h : cs.head?.any p = true) (ds : List Char) :
    (cs ++ ds).head?.any p = true := by
  cases hfirst : cs.head? with
  | none =>
    rw [hfirst] at h
    cases h
  | some c => rwa [List.head?_append, hfirst, Option.some_or, ← hfirst]

/-- A beginning of a text begins as the text does, unless it is empty. -/
theorem any_head?_of_isPrefix (h : cs.head?.any p = true) (hbegins : ds <+: cs) (hne : ds ≠ []) :
    ds.head?.any p = true := by
  obtain ⟨rest, rfl⟩ := hbegins
  rwa [List.head?_append_of_ne_nil _ hne] at h

/-- A text that does not end in a character which fails a test ends behind it. -/
theorem any_getLast?_of_append (h : (cs ++ c :: ds).getLast?.any p = true) (hc : p c = false) :
    ds.getLast?.any p = true := by
  cases ds with
  | nil =>
    rw [List.getLast?_concat, Option.any_some, hc] at h
    cases h
  | cons d ds =>
    have hsome : (d :: ds).getLast?.isSome = true :=
      List.getLast?_isSome.2 (List.cons_ne_nil d ds)
    rwa [List.getLast?_append, List.getLast?_cons_cons, Option.or_of_isSome hsome] at h

end

/-! ## Labels -/

/-- The characters of labels are ASCII characters. -/
theorem toNat_lt_of_isLabelChar (h : isLabelChar c = true) : c.toNat < 128 := by
  have hle : ∀ {limit : Char}, limit.toNat < 128 → c ≤ limit → c.toNat < 128 := fun hlimit h =>
    Nat.lt_of_le_of_lt (UInt32.le_iff_toNat_le.1 h) hlimit
  simp only [isLabelChar, isLowerAlphanumeric, Bool.or_eq_true, Bool.and_eq_true,
    decide_eq_true_eq, beq_iff_eq] at h
  rcases h with (⟨-, hletter⟩ | ⟨-, hdigit⟩) | rfl
  · exact hle (by decide) hletter
  · exact hle (by decide) hdigit
  · decide

/-- There is no dot in a label. -/
theorem IsLabel.dot_notMem (h : IsLabel cs) : '.' ∉ cs := fun hmem =>
  absurd (h.chars '.' hmem) (by decide)

/-- A beginning of a label that ends with a letter or digit is a label. -/
theorem IsLabel.of_isPrefix (h : IsLabel cs) (hbegins : ds <+: cs)
    (hlast : ds.getLast?.any isLowerAlphanumeric = true) : IsLabel ds where
  chars c hc := h.chars c (hbegins.subset hc)
  first := any_head?_of_isPrefix h.first hbegins (by rintro rfl; cases hlast)
  last := hlast

/-! ## Subdomains -/

namespace IsSubdomain

/-- A subdomain begins with a letter or digit. -/
theorem first (h : IsSubdomain cs) : cs.head?.any isLowerAlphanumeric = true := by
  cases h with
  | label hlabel => exact hlabel.first
  | dot hlabel _ => exact any_head?_append hlabel.first _

/-- The characters of a subdomain are those of labels, and dots. -/
theorem chars (h : IsSubdomain cs) : ∀ c ∈ cs, isLabelChar c = true ∨ c = '.' := by
  induction h with
  | label hlabel => exact fun c hc => .inl (hlabel.chars c hc)
  | dot hlabel _ ih =>
    intro c hc
    rcases List.mem_append.1 hc with hc | hc
    · exact .inl (hlabel.chars c hc)
    · rcases List.mem_cons.1 hc with rfl | hc
      · exact .inr rfl
      · exact ih c hc

/-- A subdomain consists of ASCII characters. -/
theorem isAscii (h : IsSubdomain cs) : IsAscii cs := by
  intro c hc
  rcases h.chars c hc with hchar | rfl
  · exact toNat_lt_of_isLabelChar hchar
  · decide

/-- A subdomain is a label just when there is no dot in it. -/
theorem isLabel_iff (h : IsSubdomain cs) : IsLabel cs ↔ '.' ∉ cs := by
  refine ⟨IsLabel.dot_notMem, fun hdot => ?_⟩
  cases h with
  | label hlabel => exact hlabel
  | dot _ _ => exact absurd (List.mem_append_right _ List.mem_cons_self) hdot

/-- Behind a dot in a subdomain stands a subdomain. -/
theorem of_append_dot (cs : List Char) (h : IsSubdomain (cs ++ '.' :: ds)) : IsSubdomain ds := by
  generalize htext : cs ++ '.' :: ds = text at h
  induction h generalizing cs with
  | label hlabel =>
    subst htext
    exact absurd (List.mem_append_right _ List.mem_cons_self) hlabel.dot_notMem
  | @dot label rest hlabel hrest ih =>
    rcases List.append_eq_append_iff.1 htext with ⟨more, rfl, hmore⟩ | ⟨more, rfl, hmore⟩
    · cases more with
      | nil =>
        obtain ⟨-, rfl⟩ := List.cons_eq_cons.1 hmore
        exact hrest
      | cons c more =>
        obtain ⟨rfl, -⟩ := List.cons_eq_cons.1 hmore
        exact absurd (List.mem_append_right _ List.mem_cons_self) hlabel.dot_notMem
    · cases more with
      | nil =>
        obtain ⟨-, rfl⟩ := List.cons_eq_cons.1 hmore
        exact hrest
      | cons c more =>
        obtain ⟨-, hbehind⟩ := List.cons_eq_cons.1 hmore
        exact ih more hbehind.symm

/-- A beginning of a subdomain that ends with a letter or digit is a subdomain. -/
theorem of_isPrefix (h : IsSubdomain cs) (hbegins : ds <+: cs)
    (hlast : ds.getLast?.any isLowerAlphanumeric = true) : IsSubdomain ds := by
  induction h generalizing ds with
  | label hlabel => exact .label (hlabel.of_isPrefix hbegins hlast)
  | dot hlabel _ ih =>
    obtain ⟨tail, htail⟩ := hbegins
    rcases List.append_eq_append_iff.1 htail with ⟨more, rfl, -⟩ | ⟨more, rfl, hmore⟩
    · exact .label (hlabel.of_isPrefix (List.prefix_append _ _) hlast)
    · cases more with
      | nil =>
        rw [List.append_nil]
        exact .label hlabel
      | cons c more =>
        obtain ⟨rfl, rfl⟩ := List.cons_eq_cons.1 hmore
        exact .dot hlabel (ih (List.prefix_append _ _) (any_getLast?_of_append hlast (by decide)))

/-- A subdomain stays one behind characters of labels of which the first is a letter or digit. -/
theorem prepend (h : IsSubdomain cs) {front : List Char}
    (hchars : ∀ c ∈ front, isLabelChar c = true)
    (hfirst : front.head?.any isLowerAlphanumeric = true) : IsSubdomain (front ++ cs) := by
  have hlabel : ∀ {cs}, IsLabel cs → IsLabel (front ++ cs) := fun h =>
    ⟨List.forall_mem_append.2 ⟨hchars, h.chars⟩, any_head?_append hfirst _,
      any_getLast?_append h.last _⟩
  cases h with
  | label h => exact .label (hlabel h)
  | dot h hrest =>
    rw [← List.append_assoc]
    exact .dot (hlabel h) hrest

/-- A subdomain stays one before characters of labels of which the last is a letter or digit. -/
theorem append (h : IsSubdomain cs) {back : List Char}
    (hchars : ∀ c ∈ back, isLabelChar c = true)
    (hlast : back.getLast?.any isLowerAlphanumeric = true) : IsSubdomain (cs ++ back) := by
  induction h with
  | label h =>
    exact .label ⟨List.forall_mem_append.2 ⟨h.chars, hchars⟩, any_head?_append h.first _,
      any_getLast?_append hlast _⟩
  | dot h _ ih =>
    rw [List.append_assoc, List.cons_append]
    exact .dot h ih

end IsSubdomain

end WorkloadBindings.Text
