import WorkloadBindings.Json.ShapeReader
import WorkloadBindings.Proofs.Json.Ascending

/-!
# Values as they are read

The readers put every member of an object at its place among the others as soon as they have read it, and
the later one of two members with one name in the place of the earlier. So whatever a text holds, and
in whatever order, the value that is read from it is ordered (`Json.isOrdered_of_parse`), and so is the
written form that is read by a shape that is written in order (`Shape.isOrdered_of_parse`).
-/

namespace WorkloadBindings

namespace Json.Reader

variable {cs rest : List Char} {x : Json}

/-- A number has no parts. -/
theorem isOrdered_of_number {negative : Bool} (h : number negative cs = .ok (x, rest)) :
    x.isOrdered = true := by
  unfold number at h
  split at h
  · cases h
  · split at h
    · cases h
    · obtain ⟨⟨part, rest₁⟩, -, h⟩ := exists_of_bind_eq_ok h
      obtain ⟨⟨e, rest₂⟩, -, h⟩ := exists_of_bind_eq_ok h
      obtain ⟨value, hvalue, h⟩ := exists_of_bind_eq_ok h
      obtain ⟨rfl, -⟩ := Prod.mk.inj (Except.ok.inj h)
      unfold numberOf at hvalue
      simp only at hvalue
      split at hvalue
      · exact Except.ok.inj hvalue ▸ rfl
      · split at hvalue
        · exact Except.ok.inj hvalue ▸ rfl
        · split at hvalue
          · exact Except.ok.inj hvalue ▸ rfl
          · cases hvalue

/-- A word completes the value that it is for. -/
theorem eq_of_word {value : Json} {letters : List Char} (h : word value letters cs = .ok (x, rest)) :
    x = value := by
  induction letters generalizing cs with
  | nil => exact (Prod.mk.inj (Except.ok.inj h)).1.symm
  | cons c letters ih =>
    cases cs with
    | nil => cases h
    | cons d cs =>
      rw [word] at h
      split at h
      · exact ih h
      · cases h

/-- A value that is neither a list nor an object has no parts. -/
theorem isOrdered_of_scalar (h : scalar cs = .ok (x, rest)) : x.isOrdered = true := by
  unfold scalar at h
  split at h
  · cases h
  · exact eq_of_word h ▸ rfl
  · exact eq_of_word h ▸ rfl
  · exact eq_of_word h ▸ rfl
  · obtain ⟨⟨s, rest'⟩, -, h⟩ := exists_of_bind_eq_ok h
    obtain ⟨rfl, -⟩ := Prod.mk.inj (Except.ok.inj h)
    rfl
  · exact isOrdered_of_number h
  · split at h
    · exact isOrdered_of_number h
    · cases h

/-! ## Step by step -/

/-- A value that is read in so many steps is ordered. -/
def ValueSound (fuel : Nat) : Prop :=
  ∀ {depth cs x rest}, value fuel depth cs = .ok (x, rest) → x.isOrdered = true

/-- A list that is read in so many steps is ordered, when its items so far are. -/
def ItemsSound (fuel : Nat) : Prop :=
  ∀ {depth isFirst seen cs x rest}, (∀ y ∈ seen, y.isOrdered = true) →
    items fuel depth isFirst seen cs = .ok (x, rest) → x.isOrdered = true

/-- An object that is read in so many steps is ordered, when its members so far are. -/
def MembersSound (fuel : Nat) : Prop :=
  ∀ {depth isFirst seen cs x rest}, (obj seen).isOrdered = true →
    members fuel depth isFirst seen cs = .ok (x, rest) → x.isOrdered = true

/-- The same, when the next member is already begun. -/
def MemberSound (fuel : Nat) : Prop :=
  ∀ {depth seen cs x rest}, (obj seen).isOrdered = true →
    member fuel depth seen cs = .ok (x, rest) → x.isOrdered = true

/-- Whatever is read in so many steps is ordered. -/
structure IsSound (fuel : Nat) : Prop where
  value : ValueSound fuel
  items : ItemsSound fuel
  members : MembersSound fuel
  member : MemberSound fuel

variable {fuel : Nat}

/-- A value is a list, an object or a scalar. -/
theorem IsSound.value_succ (ih : IsSound fuel) : ValueSound (fuel + 1) := by
  intro depth cs x rest h
  rw [Reader.value] at h
  split at h
  · obtain ⟨inner, -, h⟩ := exists_of_bind_eq_ok h
    exact ih.items (List.forall_mem_nil _) h
  · obtain ⟨inner, -, h⟩ := exists_of_bind_eq_ok h
    exact ih.members rfl h
  · exact isOrdered_of_scalar h

/-- A list ends, or has one more item. -/
theorem IsSound.items_succ (ih : IsSound fuel) : ItemsSound (fuel + 1) := by
  intro depth isFirst seen cs x rest hseen h
  have hnext : ∀ {cs'}, (Reader.value fuel depth cs').bind
      (fun y => Reader.items fuel depth false (y.1 :: seen) y.2) = .ok (x, rest) →
        x.isOrdered = true := by
    intro cs' h
    obtain ⟨⟨y, rest'⟩, hy, h⟩ := exists_of_bind_eq_ok h
    exact ih.items (List.forall_mem_cons.2 ⟨ih.value hy, hseen⟩) h
  rw [Reader.items] at h
  split at h
  · cases h
  · obtain ⟨rfl, -⟩ := Prod.mk.inj (Except.ok.inj h)
    exact (isOrdered_arr_iff _).2 fun y hy => hseen y (List.mem_reverse.1 hy)
  · split at h
    · exact hnext h
    · split at h
      · split at h
        · cases h
        · cases h
        · exact hnext h
      · cases h

/-- An object ends, or has one more member. -/
theorem IsSound.members_succ (ih : IsSound fuel) : MembersSound (fuel + 1) := by
  intro depth isFirst seen cs x rest hseen h
  rw [Reader.members] at h
  split at h
  · cases h
  · obtain ⟨rfl, -⟩ := Prod.mk.inj (Except.ok.inj h)
    exact hseen
  · split at h
    · split at h
      · exact ih.member hseen h
      · cases h
    · split at h
      · split at h
        · cases h
        · exact ih.member hseen h
        · cases h
        · cases h
      · cases h

/-- A member is put in at its place. -/
theorem IsSound.member_succ (ih : IsSound fuel) : MemberSound (fuel + 1) := by
  intro depth seen cs x rest hseen h
  rw [Reader.member] at h
  obtain ⟨⟨name, rest₁⟩, -, h⟩ := exists_of_bind_eq_ok h
  simp only at h
  split at h
  · cases h
  · obtain ⟨⟨y, rest₂⟩, hy, h⟩ := exists_of_bind_eq_ok h
    exact ih.members (isOrdered_insert hseen (ih.value hy)) h
  · cases h

/-- Whatever is read is ordered. -/
theorem isSound (fuel : Nat) : IsSound fuel := by
  induction fuel with
  | zero =>
    refine ⟨fun h => ?_, fun _ h => ?_, fun _ h => ?_, fun _ h => ?_⟩
    all_goals simp only [value, items, members, member, reduceCtorEq] at h
  | succ fuel ih => exact ⟨ih.value_succ, ih.items_succ, ih.members_succ, ih.member_succ⟩

end Json.Reader

/-- The value of a whole text is ordered. -/
theorem Json.isOrdered_of_parse {text : String} {x : Json} (h : Json.parse text = .ok x) :
    x.isOrdered = true := by
  unfold Json.parse at h
  obtain ⟨⟨y, rest⟩, hy, h⟩ := exists_of_bind_eq_ok h
  obtain ⟨_, -, h⟩ := exists_of_bind_eq_ok h
  obtain rfl := Except.ok.inj h
  exact (Reader.isSound _).value hy

namespace Shape

open Json (isOrdered_arr_iff isOrdered_obj_iff)
open Json.Reader (atEnd depthLimit fuelFor isOrdered_of_scalar)

/-! ## By a shape -/

variable {cs rest : List Char} {x : Json}

/-- A text without faults is read. -/
theorem eq_ok_of_lexical {α : Type} {r : Except SyntaxError α} {a : α} (h : lexical r = .ok a) :
    r = .ok a := by
  cases r with
  | error fault => cases h
  | ok b => exact congrArg _ (Except.ok.inj h)

/-- What was found of members is ordered. -/
def Found.IsOrdered (found : Found) : Prop := ∀ f ∈ found, f.2.IsOrdered

/-- What was found last at the place of a member is ordered. -/
theorem Found.IsOrdered.get {found : Found} (h : found.IsOrdered) (name : String) :
    (found.get name).IsOrdered := by
  unfold Found.get
  induction found with
  | nil => exact trivial
  | cons f found ih =>
    obtain ⟨hf, hfound⟩ := List.forall_mem_cons.1 h
    rw [List.lookup_cons]
    split
    · exact hf
    · exact ih hfound

/-- The object of the members that were found. -/
theorem isOrdered_written_visitsOf {fields : List (String × Presence × Shape)} {found : Found}
    (hfields : (fields.Pairwise fun a b => compare a.1 b.1 = .lt) ∧ allAscending fields = true)
    (hfound : found.IsOrdered) : (Json.obj (written (visitsOf fields found))).isOrdered = true := by
  obtain ⟨hnames, hall⟩ := hfields
  refine isOrdered_written ?_ ?_
  · rw [visitsOf, List.map_map]
    exact List.pairwise_map.2 hnames
  · rw [visitsOf, List.forall_mem_map]
    exact fun f hf => ⟨((allAscending_iff fields).1 hall f hf).1, hfound.get f.1⟩

/-- A value that is neither a list nor an object is written as its shape says. -/
theorem isOrdered_of_readScalar {shape : Shape} (hs : shape.isAscending = true)
    (h : readScalar shape cs = .ok (x, rest)) : x.isOrdered = true := by
  unfold readScalar at h
  split at h
  · obtain ⟨y, hy, hx⟩ := exists_of_map_eq_ok h
    obtain ⟨rfl, -⟩ := Prod.mk.inj hx
    exact isOrdered_of_conform hs _ _ rfl hy
  · obtain ⟨y, hy, hx⟩ := exists_of_map_eq_ok h
    obtain ⟨rfl, -⟩ := Prod.mk.inj hx
    exact isOrdered_of_conform hs _ _ rfl hy
  · obtain ⟨⟨j, rest'⟩, hj, h⟩ := exists_of_bind_eq_ok h
    obtain ⟨y, hy, h⟩ := exists_of_bind_eq_ok h
    obtain ⟨rfl, -⟩ := Prod.mk.inj (Except.ok.inj h)
    exact isOrdered_of_conform hs _ _ (isOrdered_of_scalar (eq_ok_of_lexical hj)) hy

/-- A choice is read as a text. -/
theorem isOrdered_of_readChoice {depth : Nat} {names : List String}
    (h : readChoice depth names cs = .ok (x, rest)) : x.isOrdered = true := by
  unfold readChoice at h
  split at h
  · obtain ⟨r, -, hx⟩ := exists_of_map_eq_ok h
    obtain ⟨rfl, -⟩ := Prod.mk.inj hx
    rfl
  · obtain ⟨_, -, h⟩ := exists_of_bind_eq_ok h
    obtain ⟨⟨s, rest₁⟩, -, h⟩ := exists_of_bind_eq_ok h
    obtain ⟨rest₂, -, h⟩ := exists_of_bind_eq_ok h
    simp only at h
    split at h
    · cases h
    · cases h
    · cases h
    · obtain ⟨⟨j, rest₃⟩, -, h⟩ := exists_of_bind_eq_ok h
      simp only at h
      split at h
      · cases h
      · split at h
        · cases h
        · obtain ⟨rfl, -⟩ := Prod.mk.inj (Except.ok.inj h)
          rfl
        · cases h
  · cases h

/-- The member that a name finds. -/
theorem isAscending_of_lookup {fields : List (String × Presence × Shape)} {name : String}
    {presence : Presence} {shape : Shape} (h : allAscending fields = true)
    (hfound : fields.lookup name = some (presence, shape)) :
    presence.isOrdered = true ∧ shape.isAscending = true := by
  obtain ⟨before, after, rfl, -⟩ := List.lookup_eq_some_iff.1 hfound
  exact (allAscending_iff _).1 h _ (List.mem_append_right before List.mem_cons_self)

/-- A value that is read in so many steps is ordered. -/
def ReadSound (fuel : Nat) : Prop :=
  ∀ {depth shape cs x rest}, isAscending shape = true →
    read fuel depth shape cs = .ok (x, rest) → x.isOrdered = true

/-- What is found at the place of a member in so many steps is ordered. -/
def VisitSound (fuel : Nat) : Prop :=
  ∀ {depth presence shape cs visit rest}, presence.isOrdered = true → isAscending shape = true →
    readVisit fuel depth presence shape cs = .ok (visit, rest) → visit.IsOrdered

/-- Items that are read in so many steps are ordered, when those so far are. -/
def ItemsSound (fuel : Nat) : Prop :=
  ∀ {depth item isFirst seen cs xs rest}, isAscending item = true →
    (∀ x ∈ seen, x.isOrdered = true) →
    readItems fuel depth item isFirst seen cs = .ok (xs, rest) → ∀ x ∈ xs, x.isOrdered = true

/-- An object of values of one shape that is read in so many steps is ordered, when its members so far
are. -/
def EntriesSound (fuel : Nat) : Prop :=
  ∀ {depth value isFirst seen cs ms rest}, isAscending value = true →
    (Json.obj seen).isOrdered = true →
    readEntries fuel depth value isFirst seen cs = .ok (ms, rest) → (Json.obj ms).isOrdered = true

/-- What is found of members in so many steps is ordered, when it is so far. -/
def MembersSound (fuel : Nat) : Prop :=
  ∀ {depth rule isFirst found others cs found' others' rest}, allAscending rule.fields = true →
    found.IsOrdered → (∀ m ∈ others, m.2.isOrdered = true) →
    readMembers fuel depth rule isFirst (found, others) cs = .ok ((found', others'), rest) →
    found'.IsOrdered ∧ ∀ m ∈ others', m.2.isOrdered = true

/-- What is found of members in a list in so many steps is ordered, when it is so far. -/
def PlacesSound (fuel : Nat) : Prop :=
  ∀ {depth expected count fields i found names cs found' rest}, allAscending fields = true →
    found.IsOrdered → readPlaces fuel depth expected count fields i found names cs =
      .ok (found', rest) → found'.IsOrdered

/-- Whatever is read in so many steps by shapes that are written in order is ordered. -/
structure IsSound (fuel : Nat) : Prop where
  read : ReadSound fuel
  visit : VisitSound fuel
  items : ItemsSound fuel
  entries : EntriesSound fuel
  members : MembersSound fuel
  places : PlacesSound fuel

variable {fuel : Nat}

/-- A value is read as its shape says. -/
theorem IsSound.read_succ (ih : IsSound fuel) : ReadSound (fuel + 1) := by
  intro depth shape cs x rest hs h
  unfold Shape.read at h
  split at h
  · cases h
  · exact (Json.Reader.isSound fuel).value (eq_ok_of_lexical h)
  · exact isOrdered_of_readChoice h
  · rw [isAscending] at hs
    obtain ⟨inner, -, h⟩ := exists_of_bind_eq_ok h
    obtain ⟨⟨xs, rest₁⟩, hxs, h⟩ := exists_of_bind_eq_ok h
    obtain ⟨rfl, -⟩ := Prod.mk.inj (Except.ok.inj h)
    exact (isOrdered_arr_iff xs).2 (ih.items hs (List.forall_mem_nil _) hxs)
  · obtain ⟨inner, -, h⟩ := exists_of_bind_eq_ok h
    obtain ⟨⟨xs, rest₁⟩, hxs, h⟩ := exists_of_bind_eq_ok h
    obtain ⟨y, hy, h⟩ := exists_of_bind_eq_ok h
    obtain ⟨rfl, -⟩ := Prod.mk.inj (Except.ok.inj h)
    have hitems := ih.items rfl (List.forall_mem_nil _) hxs
    exact isOrdered_of_conform hs _ _ ((isOrdered_arr_iff xs).2 hitems) hy
  · rw [isAscending] at hs
    obtain ⟨inner, -, h⟩ := exists_of_bind_eq_ok h
    obtain ⟨⟨ms, rest₁⟩, hms, h⟩ := exists_of_bind_eq_ok h
    obtain ⟨rfl, -⟩ := Prod.mk.inj (Except.ok.inj h)
    exact ih.entries hs rfl hms
  · rw [isAscending, Bool.and_eq_true, decide_eq_true_iff] at hs
    obtain ⟨inner, -, h⟩ := exists_of_bind_eq_ok h
    obtain ⟨⟨⟨found, others⟩, rest₁⟩, hfound, h⟩ := exists_of_bind_eq_ok h
    obtain ⟨y, hy, h⟩ := exists_of_bind_eq_ok h
    obtain ⟨rfl, -⟩ := Prod.mk.inj (Except.ok.inj h)
    obtain rfl := eq_of_ofObject hy
    obtain ⟨hmembers, -⟩ := ih.members hs.2 (List.forall_mem_nil _) (List.forall_mem_nil _) hfound
    exact isOrdered_written_visitsOf hs hmembers
  · rw [isAscending, Bool.and_eq_true, decide_eq_true_iff] at hs
    obtain ⟨inner, -, h⟩ := exists_of_bind_eq_ok h
    obtain ⟨⟨found, rest₁⟩, hfound, h⟩ := exists_of_bind_eq_ok h
    obtain ⟨rest₂, -, h⟩ := exists_of_bind_eq_ok h
    obtain ⟨rfl, -⟩ := Prod.mk.inj (Except.ok.inj h)
    exact isOrdered_written_visitsOf hs (ih.places hs.2 (List.forall_mem_nil _) hfound)
  · rw [isAscending, Bool.and_eq_true, decide_eq_true_iff] at hs
    obtain ⟨inner, -, h⟩ := exists_of_bind_eq_ok h
    obtain ⟨⟨⟨found, others⟩, rest₁⟩, hfound, h⟩ := exists_of_bind_eq_ok h
    obtain ⟨y, hy, h⟩ := exists_of_bind_eq_ok h
    obtain ⟨_, -, h⟩ := exists_of_bind_eq_ok h
    obtain ⟨_, -, h⟩ := exists_of_bind_eq_ok h
    obtain ⟨rfl, -⟩ := Prod.mk.inj (Except.ok.inj h)
    obtain rfl := eq_of_ofObject hy
    obtain ⟨hmembers, hothers⟩ :=
      ih.members hs.2 (List.forall_mem_nil _) (List.forall_mem_nil _) hfound
    -- The known members are put in among the others.
    have hkept : (Json.obj (Assoc.ofList others.reverse)).isOrdered = true :=
      Json.isOrdered_foldl_insert rfl fun m hm => hothers m (List.mem_reverse.1 hm)
    exact Json.isOrdered_foldl_insert hkept
      ((isOrdered_obj_iff _).1 (isOrdered_written_visitsOf hs hmembers)).2
  · exact isOrdered_of_readScalar hs h

/-- At the place of a member stands a null or a value of its shape. -/
theorem IsSound.visit_succ (ih : IsSound fuel) : VisitSound (fuel + 1) := by
  intro depth presence shape cs visit rest hpresence hs h
  unfold readVisit at h
  split at h
  · rename_i ofNull _ hnull _
    obtain ⟨⟨_, rest₁⟩, -, h⟩ := exists_of_bind_eq_ok h
    obtain ⟨rfl, -⟩ := Prod.mk.inj (Except.ok.inj h)
    cases ofNull with
    | none => exact trivial
    | some fallback => exact Presence.isOrdered_of_ofNull hpresence hnull
  · obtain ⟨⟨j, rest₁⟩, hj, h⟩ := exists_of_bind_eq_ok h
    obtain ⟨rfl, -⟩ := Prod.mk.inj (Except.ok.inj h)
    exact ih.read hs hj

/-- A list ends, or has one more item. -/
theorem IsSound.items_succ (ih : IsSound fuel) : ItemsSound (fuel + 1) := by
  intro depth item isFirst seen cs xs rest hs hseen h
  rw [readItems] at h
  obtain ⟨next, -, h⟩ := exists_of_bind_eq_ok h
  cases next with
  | none =>
    obtain ⟨rest₁, -, h⟩ := exists_of_bind_eq_ok h
    obtain ⟨rfl, -⟩ := Prod.mk.inj (Except.ok.inj h)
    exact fun x hx => hseen x (List.mem_reverse.1 hx)
  | some cs₁ =>
    obtain ⟨⟨x, rest₁⟩, hx, h⟩ := exists_of_bind_eq_ok h
    exact ih.items hs (List.forall_mem_cons.2 ⟨ih.read hs hx, hseen⟩) h

/-- An object of values of one shape ends, or has one more member. -/
theorem IsSound.entries_succ (ih : IsSound fuel) : EntriesSound (fuel + 1) := by
  intro depth value isFirst seen cs ms rest hs hseen h
  rw [readEntries] at h
  obtain ⟨⟨next, cs₁⟩, -, h⟩ := exists_of_bind_eq_ok h
  cases next with
  | none =>
    obtain ⟨rfl, -⟩ := Prod.mk.inj (Except.ok.inj h)
    exact hseen
  | some name =>
    obtain ⟨rest₁, -, h⟩ := exists_of_bind_eq_ok h
    obtain ⟨⟨x, rest₂⟩, hx, h⟩ := exists_of_bind_eq_ok h
    exact ih.entries hs (Json.isOrdered_insert hseen (ih.read hs hx)) h

/-- An object ends, or has one more member, which is known or not. -/
theorem IsSound.members_succ (ih : IsSound fuel) : MembersSound (fuel + 1) := by
  intro depth rule isFirst found others cs found' others' rest hfields hfound hothers h
  rw [readMembers] at h
  obtain ⟨⟨next, cs₁⟩, -, h⟩ := exists_of_bind_eq_ok h
  cases next with
  | none =>
    obtain ⟨hends, -⟩ := Prod.mk.inj (Except.ok.inj h)
    obtain ⟨rfl, rfl⟩ := Prod.mk.inj hends
    exact ⟨hfound, hothers⟩
  | some name =>
    simp only at h
    split at h
    · rename_i presence shape hlookup
      obtain ⟨hpresence, hs⟩ := isAscending_of_lookup hfields hlookup
      split at h
      · cases h
      · obtain ⟨rest₁, -, h⟩ := exists_of_bind_eq_ok h
        obtain ⟨⟨visit, rest₂⟩, hvisit, h⟩ := exists_of_bind_eq_ok h
        have hmember := ih.visit hpresence hs hvisit
        exact ih.members hfields (List.forall_mem_cons.2 ⟨hmember, hfound⟩) hothers h
    · obtain ⟨rest₁, -, h⟩ := exists_of_bind_eq_ok h
      split at h
      · obtain ⟨⟨x, rest₂⟩, hx, h⟩ := exists_of_bind_eq_ok h
        have hother := (Json.Reader.isSound fuel).value (eq_ok_of_lexical hx)
        exact ih.members hfields hfound (List.forall_mem_cons.2 ⟨hother, hothers⟩) h
      · obtain ⟨rest₂, -, h⟩ := exists_of_bind_eq_ok h
        exact ih.members hfields hfound hothers h

/-- A list that stands for an object ends, or has one more place. -/
theorem IsSound.places_succ (ih : IsSound fuel) : PlacesSound (fuel + 1) := by
  intro depth expected count fields i found names cs found' rest hfields hfound h
  cases names with
  | nil =>
    rw [readPlaces] at h
    obtain ⟨rfl, -⟩ := Prod.mk.inj (Except.ok.inj h)
    exact hfound
  | cons name names =>
    rw [readPlaces] at h
    split at h
    · exact ih.places hfields hfound h
    · rename_i presence shape hlookup
      obtain ⟨hpresence, hs⟩ := isAscending_of_lookup hfields hlookup
      obtain ⟨next, -, h⟩ := exists_of_bind_eq_ok h
      cases next with
      | none =>
        simp only at h
        split at h
        · cases h
        · exact ih.places hfields hfound h
      | some cs₁ =>
        obtain ⟨⟨visit, rest₁⟩, hvisit, h⟩ := exists_of_bind_eq_ok h
        have hmember := ih.visit hpresence hs hvisit
        exact ih.places hfields (List.forall_mem_cons.2 ⟨hmember, hfound⟩) h

/-- Whatever is read by shapes that are written in order is ordered. -/
theorem isSound (fuel : Nat) : IsSound fuel := by
  induction fuel with
  | zero =>
    refine ⟨fun _ h => ?_, fun _ _ h => ?_, fun _ _ h => ?_, fun _ _ h => ?_, fun _ _ _ h => ?_,
      fun _ _ h => ?_⟩
    all_goals
      simp only [read, readVisit, readItems, readEntries, readMembers, readPlaces, reduceCtorEq] at h
  | succ fuel ih =>
    exact ⟨ih.read_succ, ih.visit_succ, ih.items_succ, ih.entries_succ, ih.members_succ,
      ih.places_succ⟩

/-- How a text is read that is given by its characters. -/
theorem parse_ofList (shape : Shape) (cs : List Char) : shape.parse (String.ofList cs) = (do
    let (j, rest) ← shape.read (fuelFor cs) depthLimit cs
    lexical (atEnd rest)
    .ok j) := by
  unfold parse
  rw [String.toList_ofList]

/-- What is read by a shape that is written in order is ordered. -/
theorem isOrdered_of_parse {shape : Shape} (hs : shape.isAscending = true) {text : String} {x : Json}
    (h : shape.parse text = .ok x) : x.isOrdered = true := by
  unfold parse at h
  obtain ⟨⟨y, rest⟩, hy, h⟩ := exists_of_bind_eq_ok h
  obtain ⟨_, -, h⟩ := exists_of_bind_eq_ok h
  obtain rfl := Except.ok.inj h
  exact (isSound _).read hs hy

end Shape

end WorkloadBindings
