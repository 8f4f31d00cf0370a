import Mathlib.Data.List.Basic
import WorkloadBindings.Proofs.Label.Selection

/-!
# Which queries are unambiguous

A query is taken apart from its beginning. Each of its parts has a lead, up to the first comma, equals
sign or opening parenthesis, and the rest of it ends at a comma, or, when it is a list of values, at
the closing parenthesis. So the query determines its parts when no name, value or list of values goes
on behind the place where it is taken to end (`QueryPart.eq_of_joined`), and the parts determine the
pairs and the requirements (`Selector.eq_of_query_eq`), and with them what is accepted
(`Selector.query_unambiguous`). Nothing keeps other names and values out of a selector that is
accepted: for every pair there is a requirement with the same query and another meaning
(`Selector.joint_ambiguous`).
-/

namespace WorkloadBindings

/-! ## Texts that end where a stop comes -/

/-- Two texts without stops are the same when they begin texts that are the same and in which the
stops begin behind them. -/
theorem eq_of_append_eq_of_stops (stop : Char → Prop) {as bs xs ys : List Char}
    (has : ∀ c ∈ as, ¬stop c) (hbs : ∀ c ∈ bs, ¬stop c) (hxs : ∀ c ∈ xs.head?, stop c)
    (hys : ∀ c ∈ ys.head?, stop c) (h : as ++ xs = bs ++ ys) : as = bs ∧ xs = ys := by
  induction as generalizing bs with
  | nil =>
    cases bs with
    | nil => exact ⟨rfl, h⟩
    | cons b bs =>
      obtain rfl : xs = b :: (bs ++ ys) := h
      exact absurd (hxs b rfl) (hbs b List.mem_cons_self)
  | cons a as ih =>
    cases bs with
    | nil =>
      obtain rfl : a :: (as ++ xs) = ys := h
      exact absurd (hys a rfl) (has a List.mem_cons_self)
    | cons b bs =>
      obtain ⟨rfl, hrest⟩ := List.cons.inj h
      obtain ⟨-, has'⟩ := List.forall_mem_cons.1 has
      obtain ⟨-, hbs'⟩ := List.forall_mem_cons.1 hbs
      obtain ⟨rfl, rfl⟩ := ih has' hbs' hrest
      exact ⟨rfl, rfl⟩

/-- Lists are the same when a function makes the same of them that keeps their items apart. -/
theorem eq_of_map_eq {α β : Type} {f : α → β} {xs ys : List α}
    (hinj : ∀ x ∈ xs, ∀ y ∈ ys, f x = f y → x = y) (h : xs.map f = ys.map f) : xs = ys := by
  induction xs generalizing ys with
  | nil => exact (List.map_eq_nil_iff.1 h.symm).symm
  | cons x xs ih =>
    cases ys with
    | nil => cases h
    | cons y ys =>
      obtain ⟨hhead, htail⟩ := List.cons.inj h
      obtain rfl := hinj x List.mem_cons_self y List.mem_cons_self hhead
      rw [ih (fun x hx y hy => hinj x (List.mem_cons_of_mem _ hx) y (List.mem_cons_of_mem _ hy)) htail]

/-- Texts joined with a mark hold nothing but the mark and what they hold. -/
theorem mem_of_mem_intercalate {c mark : Char} {texts : List (List Char)}
    (h : c ∈ [mark].intercalate texts) : c = mark ∨ ∃ text ∈ texts, c ∈ text := by
  induction texts with
  | nil => cases h
  | cons text texts ih =>
    cases texts with
    | nil =>
      rw [List.intercalate_singleton] at h
      exact Or.inr ⟨text, List.mem_cons_self, h⟩
    | cons next texts =>
      rw [List.intercalate_cons_cons, List.append_assoc, List.singleton_append, List.mem_append,
        List.mem_cons] at h
      rcases h with hc | rfl | hc
      · exact Or.inr ⟨text, List.mem_cons_self, hc⟩
      · exact Or.inl rfl
      · refine (ih hc).imp_right ?_
        rintro ⟨u, hu, hcu⟩
        exact ⟨u, List.mem_cons_of_mem _ hu, hcu⟩

/-! ## Parts of a query -/

/-- The character is one at which a lead is taken to end. -/
def isStop (c : Char) : Bool := c == ',' || c == '=' || c == '('

/-- No character of the text is one at which a lead is taken to end. -/
def IsLead (cs : List Char) : Prop := ∀ c ∈ cs, ¬isStop c = true

instance (cs : List Char) : Decidable (IsLead cs) := List.decidableBAll _ cs

/-- What follows the lead in a part of a query. -/
inductive QueryRest where
  | nothing
  /-- A value behind an equals sign. -/
  | value (text : List Char)
  /-- Values in parentheses. -/
  | values (texts : List (List Char))

namespace QueryRest

/-- The text of what follows the lead. -/
def text : QueryRest → List Char
  | nothing => []
  | value v => '=' :: v
  | values vs => '(' :: ([','].intercalate vs ++ [')'])

/-- No value goes on behind the place where it is taken to end. -/
def IsDelimited : QueryRest → Prop
  | nothing => True
  | value v => ',' ∉ v
  | values vs => vs ≠ [] ∧ ∀ v ∈ vs, ',' ∉ v ∧ ')' ∉ v

/-- The text begins where a lead ends. -/
theorem mem_head?_text_append {r : QueryRest} {xs : List Char} (hxs : ∀ c ∈ xs.head?, c = ',') :
    ∀ c ∈ (r.text ++ xs).head?, isStop c = true := by
  intro c hc
  cases r with
  | nothing =>
    rw [hxs c hc]
    rfl
  | value v =>
    obtain rfl := Option.some.inj hc
    rfl
  | values vs =>
    obtain rfl := Option.some.inj hc
    rfl

/-- A rest is found again in front of nothing or of a comma. -/
theorem eq_of_text_append {r r' : QueryRest} {xs ys : List Char} (hr : r.IsDelimited)
    (hr' : r'.IsDelimited) (hxs : ∀ c ∈ xs.head?, c = ',') (hys : ∀ c ∈ ys.head?, c = ',')
    (h : r.text ++ xs = r'.text ++ ys) : r = r' ∧ xs = ys := by
  -- Rests of different kinds begin with different characters.
  match r, r' with
  | nothing, nothing => exact ⟨rfl, h⟩
  | nothing, value _ => exact absurd (hxs '=' (congrArg List.head? h)) (by decide)
  | nothing, values _ => exact absurd (hxs '(' (congrArg List.head? h)) (by decide)
  | value _, nothing => exact absurd (hys '=' (congrArg List.head? h.symm)) (by decide)
  | values _, nothing => exact absurd (hys '(' (congrArg List.head? h.symm)) (by decide)
  | value _, values _ => exact absurd (List.cons.inj h).1 (by decide)
  | values _, value _ => exact absurd (List.cons.inj h).1 (by decide)
  | value v, value w =>
    have hv : ∀ c ∈ v, ¬c = ',' := fun c hc hcomma => hr (hcomma ▸ hc)
    have hw : ∀ c ∈ w, ¬c = ',' := fun c hc hcomma => hr' (hcomma ▸ hc)
    obtain ⟨rfl, rfl⟩ := eq_of_append_eq_of_stops _ hv hw hxs hys (List.cons.inj h).2
    exact ⟨rfl, rfl⟩
  | values vs, values ws =>
    have hclosed : ∀ us : List (List Char), (∀ u ∈ us, ',' ∉ u ∧ ')' ∉ u) →
        ∀ c ∈ [','].intercalate us, ¬c = ')' := by
      rintro us hus c hc rfl
      rcases mem_of_mem_intercalate hc with hcomma | ⟨u, hu, hcu⟩
      · exact absurd hcomma (by decide)
      · exact (hus u hu).2 hcu
    have htext : [','].intercalate vs ++ [')'] ++ xs = [','].intercalate ws ++ [')'] ++ ys :=
      (List.cons.inj h).2
    rw [List.append_assoc, List.append_assoc] at htext
    have hparenthesis : ∀ (zs : List Char), ∀ c ∈ (')' :: zs).head?, c = ')' :=
      fun zs c hc => (Option.some.inj hc).symm
    obtain ⟨hjoined, hrest⟩ := eq_of_append_eq_of_stops _ (hclosed vs hr.2) (hclosed ws hr'.2)
      (hparenthesis xs) (hparenthesis ys) htext
    have hsplit := congrArg (List.splitOn ',') hjoined
    rw [List.splitOn_intercalate ',' (fun v hv => (hr.2 v hv).1) hr.1,
      List.splitOn_intercalate ',' (fun w hw => (hr'.2 w hw).1) hr'.1] at hsplit
    obtain rfl := hsplit
    exact ⟨rfl, (List.cons.inj hrest).2⟩

end QueryRest

/-- One part of a query: the name with what tells how it is meant, and what follows them. -/
structure QueryPart where
  lead : List Char
  rest : QueryRest

namespace QueryPart

/-- The text of a part. -/
def text (p : QueryPart) : List Char := p.lead ++ p.rest.text

/-- Neither the lead nor a value goes on behind the place where it is taken to end. -/
structure IsDelimited (p : QueryPart) : Prop where
  lead : IsLead p.lead
  rest : p.rest.IsDelimited

/-- The texts of parts, each behind a comma. -/
def joined (ps : List QueryPart) : List Char := ps.flatMap fun p => ',' :: p.text

variable {p q : QueryPart} {ps qs : List QueryPart}

/-- Joined parts begin with a comma. -/
theorem eq_comma_of_mem_head? : ∀ c ∈ (joined ps).head?, c = ',' := by
  intro c hc
  cases ps with
  | nil => cases hc
  | cons p ps => exact (Option.some.inj hc).symm

/-- A part is found again in front of nothing or of a comma. -/
theorem eq_of_text_append {xs ys : List Char} (hp : p.IsDelimited) (hq : q.IsDelimited)
    (hxs : ∀ c ∈ xs.head?, c = ',') (hys : ∀ c ∈ ys.head?, c = ',')
    (h : p.text ++ xs = q.text ++ ys) : p = q ∧ xs = ys := by
  obtain ⟨lead, rest⟩ := p
  obtain ⟨lead', rest'⟩ := q
  unfold text at h
  rw [List.append_assoc, List.append_assoc] at h
  have hstops : ∀ (r : QueryRest) {zs : List Char}, (∀ c ∈ zs.head?, c = ',') →
      ∀ c ∈ (r.text ++ zs).head?, isStop c = true := fun r _ => r.mem_head?_text_append
  obtain ⟨rfl, hrest⟩ := eq_of_append_eq_of_stops (fun c => isStop c = true) hp.lead hq.lead
    (hstops rest hxs) (hstops rest' hys) h
  obtain ⟨rfl, rfl⟩ := QueryRest.eq_of_text_append hp.rest hq.rest hxs hys hrest
  exact ⟨rfl, rfl⟩

/-- Joined parts determine the parts. -/
theorem eq_of_joined (hps : ∀ p ∈ ps, p.IsDelimited) (hqs : ∀ q ∈ qs, q.IsDelimited)
    (h : joined ps = joined qs) : ps = qs := by
  induction ps generalizing qs with
  | nil =>
    cases qs with
    | nil => rfl
    | cons q qs => cases h
  | cons p ps ih =>
    cases qs with
    | nil => cases h
    | cons q qs =>
      obtain ⟨hp, hps'⟩ := List.forall_mem_cons.1 hps
      obtain ⟨hq, hqs'⟩ := List.forall_mem_cons.1 hqs
      have htext : p.text ++ joined ps = q.text ++ joined qs := (List.cons.inj h).2
      obtain ⟨rfl, hrest⟩ :=
        eq_of_text_append hp hq eq_comma_of_mem_head? eq_comma_of_mem_head? htext
      rw [ih hps' hqs' hrest]

/-- Texts joined with commas are those behind commas, but for the first comma. -/
theorem joined_eq (hne : ps ≠ []) : joined ps = ',' :: [','].intercalate (ps.map text) := by
  induction ps with
  | nil => exact absurd rfl hne
  | cons p ps ih =>
    cases ps with
    | nil => simp [joined]
    | cons q qs =>
      have hrest := ih (List.cons_ne_nil q qs)
      rw [List.map_cons, List.map_cons, List.intercalate_cons_cons, ← List.map_cons,
        List.append_assoc, List.singleton_append, ← hrest]
      rfl

/-- Parts are determined by their texts joined with commas, when none of them is empty. -/
theorem eq_of_intercalate (hps : ∀ p ∈ ps, p.IsDelimited ∧ p.lead ≠ [])
    (hqs : ∀ q ∈ qs, q.IsDelimited ∧ q.lead ≠ [])
    (h : [','].intercalate (ps.map text) = [','].intercalate (qs.map text)) : ps = qs := by
  -- Only no parts at all make an empty text.
  have hnil : ∀ rs : List QueryPart, (∀ r ∈ rs, r.IsDelimited ∧ r.lead ≠ []) →
      [','].intercalate (rs.map text) = [] → rs = [] := by
    intro rs hrs hempty
    by_contra hne
    obtain ⟨r, rest, rfl⟩ := List.exists_cons_of_ne_nil hne
    have hjoined := joined_eq hne
    rw [hempty] at hjoined
    have htext : r.text ++ joined rest = [] := (List.cons.inj hjoined).2
    obtain ⟨htext, -⟩ := List.append_eq_nil_iff.1 htext
    exact (hrs r List.mem_cons_self).2 (List.append_eq_nil_iff.1 htext).1
  by_cases hp : ps = []
  · subst hp
    exact (hnil qs hqs h.symm).symm
  · by_cases hq : qs = []
    · subst hq
      exact hnil ps hps h
    · refine eq_of_joined (fun p hp => (hps p hp).1) (fun q hq => (hqs q hq).1) ?_
      rw [joined_eq hp, joined_eq hq, h]

end QueryPart

/-! ## Parts of a selector -/

namespace Requirement

/-- The part of a query that writes a requirement. -/
def queryPart (r : Requirement) : QueryPart :=
  match r.operator with
  | .oneOf => ⟨r.key.toList ++ [' ', 'i', 'n', ' '], .values (r.values.toList.map String.toList)⟩
  | .noneOf =>
    ⟨r.key.toList ++ [' ', 'n', 'o', 't', 'i', 'n', ' '],
      .values (r.values.toList.map String.toList)⟩
  | .present => ⟨r.key.toList, .nothing⟩
  | .absent => ⟨'!' :: r.key.toList, .nothing⟩

/-- No name, value or list of values of the requirement is taken to end before it does, and its name
is not taken for that of a label that must not be there. -/
structure IsSeparable (r : Requirement) : Prop where
  key : IsLead r.key.toList
  values : ∀ v ∈ r.values.toList, ',' ∉ v.toList ∧ ')' ∉ v.toList
  present : r.operator = .present → r.key.toList.head? ≠ some '!'

instance (r : Requirement) : Decidable r.IsSeparable :=
  decidable_of_iff
    (IsLead r.key.toList ∧
      (∀ v ∈ r.values.toList, ',' ∉ v.toList ∧ ')' ∉ v.toList) ∧
      (r.operator = .present → r.key.toList.head? ≠ some '!'))
    ⟨fun h => ⟨h.1, h.2.1, h.2.2⟩, fun h => ⟨h.key, h.values, h.present⟩⟩

/-- The query of a requirement is the text of its part. -/
theorem toList_query (r : Requirement) : r.query.toList = r.queryPart.text := by
  unfold query queryPart
  cases r.operator <;>
    simp [QueryPart.text, QueryRest.text, String.toList_append, String.toList_intercalate]

variable {r r' : Requirement}

/-- A well-formed requirement that does not compare with values has none. -/
theorem values_of_validate (h : r.validate = .ok ()) (hop : r.operator.takesValues = false) :
    r.values.toList = [] := by
  have hvalid : r.IsWellFormed := (r.decided_validate.ok_iff ()).1 h
  by_contra hvalues
  exact Bool.false_ne_true (hop.symm.trans (hvalid.values_ne_iff.1 hvalues))

/-- The part of a requirement that is well-formed and can be separated is delimited, and not empty. -/
theorem isDelimited_queryPart (hvalid : r.validate = .ok ()) (h : r.IsSeparable) :
    r.queryPart.IsDelimited ∧ r.queryPart.lead ≠ [] := by
  obtain ⟨hkey, hvalues⟩ := of_validate hvalid
  have hne : r.key.toList ≠ [] := fun hnil => hkey (String.toList_eq_nil_iff.1 hnil)
  have hlead : ∀ more : List Char, IsLead more → IsLead (r.key.toList ++ more) := fun more hmore =>
    List.forall_mem_append.2 ⟨h.key, hmore⟩
  have htexts : ∀ text ∈ r.values.toList.map String.toList, ',' ∉ text ∧ ')' ∉ text :=
    List.forall_mem_map.2 h.values
  unfold queryPart
  cases hop : r.operator with
  | oneOf =>
    have hsome := hvalues (by rw [hop]; rfl)
    refine ⟨⟨hlead _ (by decide), ?_, htexts⟩, List.append_ne_nil_of_left_ne_nil hne _⟩
    exact fun hnil => hsome (List.map_eq_nil_iff.1 hnil)
  | noneOf =>
    have hsome := hvalues (by rw [hop]; rfl)
    refine ⟨⟨hlead _ (by decide), ?_, htexts⟩, List.append_ne_nil_of_left_ne_nil hne _⟩
    exact fun hnil => hsome (List.map_eq_nil_iff.1 hnil)
  | present => exact ⟨⟨h.key, trivial⟩, hne⟩
  | absent => exact ⟨⟨List.forall_mem_cons.2 ⟨by decide, h.key⟩, trivial⟩, List.cons_ne_nil _ _⟩

/-- The part of a requirement determines it. -/
theorem eq_of_queryPart (hvalid : r.validate = .ok ()) (hvalid' : r'.validate = .ok ())
    (h : r.IsSeparable) (h' : r'.IsSeparable) (hpart : r.queryPart = r'.queryPart) : r = r' := by
  have hlead := congrArg QueryPart.lead hpart
  have hrest := congrArg QueryPart.rest hpart
  have hempty := values_of_validate hvalid
  have hempty' := values_of_validate hvalid'
  have hpresent := h.present
  have hpresent' := h'.present
  obtain ⟨key, operator, values⟩ := r
  obtain ⟨key', operator', values'⟩ := r'
  -- Values are compared as texts, and as the characters of the texts.
  have hset : values.toList = values'.toList → values = values' := fun hsame =>
    SortedSet.ext_mem fun v => by rw [hsame]
  have htexts : values.toList.map String.toList = values'.toList.map String.toList →
      values = values' := fun hsame =>
    hset (List.map_injective_iff.2 (fun _ _ => String.toList_inj.1) hsame)
  have hkeys : key.toList = key'.toList → key = key' := String.toList_inj.1
  match operator, operator' with
  | .oneOf, .oneOf | .noneOf, .noneOf =>
    rw [hkeys (List.append_cancel_right hlead), htexts (QueryRest.values.inj hrest)]
  | .present, .present =>
    rw [hkeys hlead, hset ((hempty rfl).trans (hempty' rfl).symm)]
  | .absent, .absent =>
    rw [hkeys (List.cons.inj hlead).2, hset ((hempty rfl).trans (hempty' rfl).symm)]
  | .oneOf, .noneOf =>
    have hend : key.toList ++ [' ', 'i', 'n', ' '] =
        key'.toList ++ [' ', 'n', 'o'] ++ ['t', 'i', 'n', ' '] :=
      hlead.trans (List.append_assoc key'.toList [' ', 'n', 'o'] ['t', 'i', 'n', ' ']).symm
    exact absurd (List.append_inj_right' hend rfl) (by decide)
  | .noneOf, .oneOf =>
    have hend : key'.toList ++ [' ', 'i', 'n', ' '] =
        key.toList ++ [' ', 'n', 'o'] ++ ['t', 'i', 'n', ' '] :=
      hlead.symm.trans (List.append_assoc key.toList [' ', 'n', 'o'] ['t', 'i', 'n', ' ']).symm
    exact absurd (List.append_inj_right' hend rfl) (by decide)
  | .present, .absent =>
    exact absurd (congrArg List.head? hlead) (hpresent rfl)
  | .absent, .present =>
    exact absurd (congrArg List.head? hlead.symm) (hpresent' rfl)
  | .oneOf, .present | .oneOf, .absent | .noneOf, .present | .noneOf, .absent => cases hrest
  | .present, .oneOf | .present, .noneOf | .absent, .oneOf | .absent, .noneOf => cases hrest

end Requirement

namespace Selector

/-- The part of a query that writes a pair. -/
def pairPart (p : String × String) : QueryPart := ⟨p.1.toList, .value p.2.toList⟩

/-- The parts of a selector's query. -/
def queryParts (s : Selector) : List QueryPart :=
  s.pairs.map pairPart ++ s.requirements.map Requirement.queryPart

/-- No name, value or list of values of the selector is taken to end before it does, and no name is
taken for that of a label that must not be there. -/
structure IsSeparable (s : Selector) : Prop where
  pairs : ∀ p ∈ s.pairs, IsLead p.1.toList ∧ ',' ∉ p.2.toList
  requirements : ∀ r ∈ s.requirements, r.IsSeparable

variable {s s' : Selector}

/-- The query of a selector is made of its parts, joined with commas. -/
theorem toList_query (s : Selector) :
    s.query.toList = [','].intercalate (s.queryParts.map QueryPart.text) := by
  have hpair : ∀ p : String × String, (p.1 ++ "=" ++ p.2).toList = (pairPart p).text := by
    intro p
    simp [pairPart, QueryPart.text, QueryRest.text, String.toList_append]
  unfold query queryParts
  rw [String.toList_intercalate, List.map_append, List.map_append, List.map_map, List.map_map,
    List.map_map, List.map_map]
  congr 2
  · exact List.map_congr_left fun p _ => hpair p
  · exact List.map_congr_left fun r _ => r.toList_query

/-- The parts of a selector that is well-formed and can be separated are delimited, and not empty. -/
theorem isDelimited_queryParts (hvalid : s.validate = .ok ()) (h : s.IsSeparable) :
    ∀ p ∈ s.queryParts, p.IsDelimited ∧ p.lead ≠ [] := by
  obtain ⟨hrequirements, hnames⟩ := of_validate hvalid
  refine List.forall_mem_append.2 ⟨List.forall_mem_map.2 fun p hp => ?_,
    List.forall_mem_map.2 fun r hr => ?_⟩
  · obtain ⟨hname, hvalue⟩ := h.pairs p hp
    exact ⟨⟨hname, hvalue⟩, fun hnil => hnames p hp (String.toList_eq_nil_iff.1 hnil)⟩
  · exact Requirement.isDelimited_queryPart (hrequirements r hr) (h.requirements r hr)

/-- The parts of pairs are those with a value behind an equals sign. -/
theorem queryParts_pairs (s : Selector) :
    s.queryParts.filter (fun p => p.rest matches .value _) = s.pairs.map pairPart := by
  unfold queryParts
  rw [List.filter_append, List.filter_eq_self.2, List.filter_eq_nil_iff.2, List.append_nil]
  · refine List.forall_mem_map.2 fun r _ => ?_
    unfold Requirement.queryPart
    cases r.operator <;> exact Bool.false_ne_true
  · exact List.forall_mem_map.2 fun p _ => rfl

/-- The query of a selector that is well-formed and can be separated determines its pairs and its
requirements. -/
theorem eq_of_query_eq (hvalid : s.validate = .ok ()) (hvalid' : s'.validate = .ok ())
    (h : s.IsSeparable) (h' : s'.IsSeparable) (hquery : s.query = s'.query) :
    s.pairs = s'.pairs ∧ s.requirements = s'.requirements := by
  have hparts : s.queryParts = s'.queryParts := by
    refine QueryPart.eq_of_intercalate (isDelimited_queryParts hvalid h)
      (isDelimited_queryParts hvalid' h') ?_
    rw [← toList_query, ← toList_query, hquery]
  have hpairs : s.pairs.map pairPart = s'.pairs.map pairPart := by
    rw [← queryParts_pairs, ← queryParts_pairs, hparts]
  have hrequirements :
      s.requirements.map Requirement.queryPart = s'.requirements.map Requirement.queryPart := by
    unfold queryParts at hparts
    rw [hpairs] at hparts
    exact List.append_cancel_left hparts
  constructor
  · refine eq_of_map_eq (fun p _ q _ hpart => ?_) hpairs
    have hname := String.toList_inj.1 (congrArg QueryPart.lead hpart)
    have hvalue := String.toList_inj.1 (QueryRest.value.inj (congrArg QueryPart.rest hpart))
    exact Prod.ext hname hvalue
  · obtain ⟨hwell, -⟩ := of_validate hvalid
    obtain ⟨hwell', -⟩ := of_validate hvalid'
    refine eq_of_map_eq (fun r hr r' hr' hpart => ?_) hrequirements
    exact Requirement.eq_of_queryPart (hwell r hr) (hwell' r' hr') (h.requirements r hr)
      (h'.requirements r' hr') hpart

/-- What a selector accepts depends on its pairs and its requirements only. -/
theorem accepts_congr (hpairs : s.pairs = s'.pairs) (hrequirements : s.requirements = s'.requirements)
    (labels : Labels) : s.accepts labels = s'.accepts labels := by
  unfold accepts
  rw [hpairs, hrequirements]

/-- A text without symbols has none of those at which names and values are taken to end. -/
theorem not_mem_of_isWord {text : String} (h : LabelQuery.IsWord text) {c : Char}
    (hc : LabelQuery.isPlain c = false) : c ∉ text.toList := fun hmem =>
  Bool.false_ne_true (hc.symm.trans (h c hmem))

/-- A selector whose names and values are words can be separated. -/
theorem IsPlain.isSeparable (h : s.IsPlain) : s.IsSeparable := by
  have hname : ∀ text : String, LabelQuery.IsWord text → IsLead text.toList := by
    intro text hword c hc hstop
    have hplain : LabelQuery.isPlain c = false := by
      unfold isStop at hstop
      simp only [Bool.or_eq_true, beq_iff_eq] at hstop
      rcases hstop with (rfl | rfl) | rfl <;> rfl
    exact not_mem_of_isWord hword hplain hc
  constructor
  · intro p hp
    obtain ⟨hfirst, hsecond⟩ := h.pairs p hp
    exact ⟨hname p.1 hfirst, not_mem_of_isWord hsecond (by decide)⟩
  · intro r hr
    obtain ⟨hkey, hvalues⟩ := h.requirements r hr
    refine ⟨hname r.key hkey, fun v hv => ?_, fun _ hmark => ?_⟩
    · exact ⟨not_mem_of_isWord (hvalues v hv) (by decide),
        not_mem_of_isWord (hvalues v hv) (by decide)⟩
    · exact not_mem_of_isWord hkey (c := '!') (by decide) (List.mem_of_mem_head? hmark)

/-! ## Selectors with one query -/

/-- The selector of what has a label with a name and a value in one, joined by an equals sign. -/
def joint (name value : String) : Selector :=
  ofRequirements [⟨name ++ "=" ++ value, .present, SortedSet.ofList []⟩]

/-- A selector is well-formed when its requirements are and its pairs have names. -/
theorem validate_of_forall (hrequirements : ∀ r ∈ s.requirements, r.validate = .ok ())
    (hnames : ∀ p ∈ s.pairs, p.1 ≠ "") : s.validate = .ok () := by
  have hall : s.requirements.forM Requirement.validate = .ok () := by
    generalize s.requirements = rs at hrequirements
    induction rs with
    | nil => rfl
    | cons r rs ih =>
      obtain ⟨hr, hrs⟩ := List.forall_mem_cons.1 hrequirements
      exact (congrArg (· >>= fun _ => rs.forM Requirement.validate) hr).trans (ih hrs)
  have hnone : ¬(s.pairs.any fun p => p.1 == "") = true := by
    rw [Bool.not_eq_true, List.any_eq_false]
    exact fun p hp hempty => hnames p hp (beq_iff_eq.1 hempty)
  unfold validate
  rw [hall]
  exact if_neg hnone

/-- A name that is joined with a value is another one. -/
theorem joined_ne_name (name value : String) : name ++ "=" ++ value ≠ name := by
  intro h
  have hlength := congrArg String.length h
  rw [String.length_append, String.length_append] at hlength
  have hmark : "=".length = 1 := rfl
  omega

/-- The label that joins a pair makes a well-formed selector. -/
theorem validate_joint (name value : String) : (joint name value).validate = .ok () := by
  have hkey : name ++ "=" ++ value ≠ "" := by
    intro h
    have hlist := congrArg String.toList h
    simp [String.toList_append] at hlist
  refine validate_of_forall (List.forall_mem_singleton.2 ?_) (List.forall_mem_nil _)
  unfold Requirement.validate
  rw [if_neg hkey]
  rfl

/-- The query of one pair is that of the label that joins it. -/
theorem query_joint (name value : String) : (joint name value).query = (ofPairs [(name, value)]).query :=
  rfl

/-- Of one pair, the labels must have the value of the name. -/
theorem accepts_ofPairs (name value : String) (labels : Labels) :
    (ofPairs [(name, value)]).accepts labels = (labels.get? name == some value) := by
  change (true && ((labels.get? name == some value) && true)) = _
  rw [Bool.true_and, Bool.and_true]

/-- Of the label that joins a pair, the labels must have the name. -/
theorem accepts_joint (name value : String) (labels : Labels) :
    (joint name value).accepts labels = (labels.get? (name ++ "=" ++ value)).isSome := by
  change (((labels.get? (name ++ "=" ++ value)).isSome && true) && true) = _
  rw [Bool.and_true, Bool.and_true]

/-- Queries are ambiguous: whatever the name and the value of a pair, the pair and the label that joins
them are accepted as selectors and have one query, but of the labels with just the pair they do not
accept the same. -/
theorem joint_ambiguous {name : String} (value : String) (hname : name ≠ "") :
    (ofPairs [(name, value)]).validate = .ok () ∧ (joint name value).validate = .ok () ∧
      (ofPairs [(name, value)]).query = (joint name value).query ∧
      ∃ labels, (ofPairs [(name, value)]).accepts labels = true ∧
        (joint name value).accepts labels = false := by
  have hpair : (ofPairs [(name, value)]).validate = .ok () :=
    validate_of_forall (List.forall_mem_nil _) (List.forall_mem_singleton.2 hname)
  refine ⟨hpair, validate_joint name value, (query_joint name value).symm,
    SortedMap.empty.insert name value, ?_, ?_⟩
  · rw [accepts_ofPairs, SortedMap.get?_insert, Std.compare_self, if_pos rfl, beq_self_eq_true]
  · have hother : compare (name ++ "=" ++ value) name ≠ .eq := fun heq =>
      joined_ne_name name value (Std.LawfulEqCmp.eq_of_compare heq)
    rw [accepts_joint, SortedMap.get?_insert, if_neg hother]
    rfl

/-- Two accepted selectors with one query have the same pairs and requirements, and so accept the same
labels, when it is clear of both at which character each name, value and list of values ends, and which
names are those of labels that must not be there. When the names and values of one of them are words,
the query is read as that one: all that is listed by the query of the other one is accepted by it. -/
theorem query_unambiguous (hvalid : s.validate = .ok ()) (hvalid' : s'.validate = .ok ())
    (hquery : s.query = s'.query) :
    (s.IsSeparable → s'.IsSeparable →
      s.pairs = s'.pairs ∧ s.requirements = s'.requirements ∧
        ∀ labels, s.accepts labels = s'.accepts labels) ∧
      (s.IsPlain → s.IsSeparable ∧ ∃ q, LabelQuery.read s'.query = some q ∧
        ∀ (world : World) (place : Place), ∀ w ∈ world.queried place q,
          s.accepts w.metadata.labelSet = true) := by
  constructor
  · intro h h'
    obtain ⟨hpairs, hrequirements⟩ := eq_of_query_eq hvalid hvalid' h h' hquery
    exact ⟨hpairs, hrequirements, accepts_congr hpairs hrequirements⟩
  · intro hplain
    rw [← hquery]
    refine ⟨hplain.isSeparable, s.conditions, read_query hvalid hplain, fun world place w hw => ?_⟩
    obtain ⟨e, he, rfl⟩ := List.mem_map.1 hw
    have hselects := (Bool.and_eq_true_iff.1 (List.mem_filter.1 he).2).2
    rwa [s.selects_conditions] at hselects

/-- A selector with blanks in its names, and with symbols in its values that do not end them. -/
def oddSelector : Selector where
  matchLabels := none
  matchExpressions := some
    [⟨"is in", .oneOf, SortedSet.ofList ["x=(", "!y"]⟩, ⟨"!stage)", .noneOf, SortedSet.ofList [""]⟩,
     ⟨"old", .absent, SortedSet.ofList []⟩]

/-- The same selector with an empty list of pairs. -/
def oddSelectorWithPairs : Selector := { oddSelector with matchLabels := some (SortedMap.ofList []) }

/-- Two selectors of one query that accept the same, and two of one query that do not, though all that
is listed by it is accepted by the first of them. -/
theorem query_unambiguous_oddSelector :
    oddSelector.validate = .ok () ∧ oddSelectorWithPairs.validate = .ok () ∧
      oddSelector.query = "is in in (!y,x=(),!stage) notin (),!old" ∧
      oddSelectorWithPairs.query = oddSelector.query ∧
      (∀ labels, oddSelector.accepts labels = oddSelectorWithPairs.accepts labels) ∧
      (∃ labels, (ofPairs [("app", "web")]).accepts labels = true ∧
        (joint "app" "web").accepts labels = false) ∧
      ∃ q, LabelQuery.read (joint "app" "web").query = some q ∧
        ∀ (world : World) (place : Place), ∀ w ∈ world.queried place q,
          (ofPairs [("app", "web")]).accepts w.metadata.labelSet = true := by
  have hvalid : oddSelector.validate = .ok () := by rfl
  have hvalid' : oddSelectorWithPairs.validate = .ok () := by rfl
  have hquery : oddSelector.query = oddSelectorWithPairs.query := by rfl
  obtain ⟨hsame, -⟩ := query_unambiguous hvalid hvalid' hquery
  have hseparable : oddSelector.IsSeparable := ⟨by decide, by decide⟩
  obtain ⟨-, -, haccepts⟩ := hsame hseparable ⟨by decide, by decide⟩
  obtain ⟨hpair, hjoint, hone, hdiffer⟩ := joint_ambiguous "web" (by decide : "app" ≠ "")
  obtain ⟨-, hlisted⟩ := query_unambiguous hpair hjoint hone
  have hplain : (ofPairs [("app", "web")]).IsPlain :=
    ⟨List.forall_mem_singleton.2 ⟨by decide, by decide⟩, List.forall_mem_nil _⟩
  exact ⟨hvalid, hvalid', by decide, hquery.symm, haccepts, hdiffer, (hlisted hplain).2⟩

end Selector

end WorkloadBindings
