import WorkloadBindings.Json.Basic

/-!
# Ordered values

The lists of members that objects are made of have a canonical form, in which the names ascend and
none is repeated, so that a value in that form is determined by its look-ups. `Json.isOrdered` says
that every object inside a value has it, as every object has that was read from a text. Main
statements: objects of named parts (`isOrdered_record`) and of texts (`isOrdered_texts`) are ordered
when their names ascend.
-/

namespace WorkloadBindings.Json

theorem orderedItems_iff (xs : List Json) :
    orderedItems xs = true ↔ ∀ x ∈ xs, x.isOrdered = true := by
  induction xs with
  | nil => simp [orderedItems]
  | cons x rest ih => simp [orderedItems, ih]

theorem orderedMembers_iff (ms : Members) :
    orderedMembers ms = true ↔ ∀ m ∈ ms, m.2.isOrdered = true := by
  induction ms with
  | nil => simp [orderedMembers]
  | cons m rest ih => simp [orderedMembers, ih]

/-- A list is ordered when its items are. -/
theorem isOrdered_arr_iff (xs : List Json) :
    (arr xs).isOrdered = true ↔ ∀ x ∈ xs, x.isOrdered = true := by
  rw [isOrdered, orderedItems_iff]

/-- An object is ordered when its names ascend and the values of its members are ordered. -/
theorem isOrdered_obj_iff (ms : Members) :
    (obj ms).isOrdered = true ↔ Assoc.Sorted ms ∧ ∀ m ∈ ms, m.2.isOrdered = true := by
  rw [isOrdered, Bool.and_eq_true, decide_eq_true_iff, orderedMembers_iff]

/-- The names of an ordered object ascend. -/
theorem sorted_of_isOrdered {ms : Members} (h : (obj ms).isOrdered = true) : Assoc.Sorted ms :=
  ((isOrdered_obj_iff ms).1 h).1

/-- The value of a member of an ordered object is ordered. -/
theorem isOrdered_of_get? {ms : Members} {name : String} {x : Json}
    (h : (obj ms).isOrdered = true) (hx : Assoc.get? name ms = some x) : x.isOrdered = true := by
  obtain ⟨hs, hms⟩ := (isOrdered_obj_iff ms).1 h
  exact hms _ (hs.get?_eq_some_iff.1 hx)

/-- What an ordered value has as a member is ordered. -/
theorem isOrdered_of_member {j x : Json} {name : String} (h : j.isOrdered = true)
    (hx : j.get? name = some x) : x.isOrdered = true := by
  cases j with
  | obj ms => exact isOrdered_of_get? h hx
  | _ => cases hx

/-- An ordered object stays so when members are taken out of it. -/
theorem isOrdered_filter {ms : Members} (h : (obj ms).isOrdered = true) (keep : String × Json → Bool) :
    (obj (ms.filter keep)).isOrdered = true := by
  obtain ⟨hsorted, hms⟩ := (isOrdered_obj_iff ms).1 h
  exact (isOrdered_obj_iff _).2
    ⟨List.Pairwise.filter _ hsorted, fun m hm => hms m (List.mem_filter.1 hm).1⟩

/-- An ordered object stays so when an ordered member is put into it. -/
theorem isOrdered_insert {ms : Members} {name : String} {x : Json} (h : (obj ms).isOrdered = true)
    (hx : x.isOrdered = true) : (obj (Assoc.insert name x ms)).isOrdered = true := by
  obtain ⟨hsorted, hms⟩ := (isOrdered_obj_iff ms).1 h
  refine (isOrdered_obj_iff _).2 ⟨hsorted.insert name x, fun m hm => ?_⟩
  rcases Assoc.mem_insert hm with rfl | hold
  · exact hx
  · exact hms m hold

/-- An ordered object stays so when ordered members are put into it, one after the other. -/
theorem isOrdered_foldl_insert {ms news : Members} (h : (obj ms).isOrdered = true)
    (hnews : ∀ m ∈ news, m.2.isOrdered = true) :
    (obj (news.foldl (fun ms m => Assoc.insert m.1 m.2 ms) ms)).isOrdered = true := by
  induction news generalizing ms with
  | nil => exact h
  | cons m rest ih =>
    obtain ⟨hm, hrest⟩ := List.forall_mem_cons.1 hnews
    exact ih (isOrdered_insert h hm) hrest

/-! ## Objects of named parts -/

/-- Parts that are given keep the order in which all parts are listed. -/
theorem sorted_filterMap {fields : List (String × Option Json)}
    (h : fields.Pairwise fun a b => compare a.1 b.1 = .lt) :
    Assoc.Sorted (fields.filterMap fun f => f.2.map (f.1, ·)) := by
  refine List.Pairwise.filterMap _ ?_ h
  intro a b hab x hx y hy
  obtain ⟨_, _, rfl⟩ := Option.map_eq_some_iff.1 hx
  obtain ⟨_, _, rfl⟩ := Option.map_eq_some_iff.1 hy
  exact hab

/-- In an object of parts with ascending names, each part is found by its name. -/
theorem get?_record {parts : List (String × Option Json)}
    (h : parts.Pairwise fun a b => compare a.1 b.1 = .lt) :
    ∀ part ∈ parts, (record parts).get? part.1 = part.2 := by
  induction parts with
  | nil => exact fun _ hm => nomatch hm
  | cons hd tl ih =>
    obtain ⟨hfirst, htl⟩ := List.pairwise_cons.1 h
    have hrest : ∀ part ∈ tl, Assoc.get? part.1 (tl.filterMap fun f => f.2.map (f.1, ·)) = part.2 :=
      ih htl
    intro part hpart
    rcases List.mem_cons.1 hpart with rfl | hmem
    · cases hvalue : part.2 with
      | some x => simp [record, get?, hvalue, Assoc.get?]
      | none =>
        have hnone : Assoc.get? part.1 (tl.filterMap fun f => f.2.map (f.1, ·)) = none := by
          refine Assoc.get?_eq_none_of_lt fun e he => ?_
          obtain ⟨f, hf, hmap⟩ := List.mem_filterMap.1 he
          obtain ⟨_, _, rfl⟩ := Option.map_eq_some_iff.1 hmap
          exact hfirst f hf
        simpa [record, get?, hvalue] using hnone
    · have hne : compare part.1 hd.1 ≠ .eq := Assoc.compare_ne_eq_of_lt (hfirst part hmem)
      cases hvalue : hd.2 with
      | some x => simpa [record, get?, hvalue, Assoc.get?_cons, hne] using hrest part hmem
      | none => simpa [record, get?, hvalue] using hrest part hmem

/-- Entries are in the order of their names. -/
theorem ascending_of_names {α : Type} {entries : List (String × α)} {names : List String}
    (h : names.Pairwise fun a b => compare a b = .lt) (hnames : entries.map Prod.fst = names) :
    entries.Pairwise fun a b => compare a.1 b.1 = .lt := by
  subst hnames
  exact List.pairwise_map.1 h

/-- The parts of an object with ascending names are found by their names. -/
theorem get?_of_eq_record {j : Json} {parts : List (String × Option Json)} (hj : j = .record parts)
    {names : List String} (h : names.Pairwise fun a b => compare a b = .lt)
    (hnames : parts.map Prod.fst = names) : ∀ part ∈ parts, j.get? part.1 = part.2 :=
  hj ▸ get?_record (ascending_of_names h hnames)

/-- Parts with ascending names are those that are found by the names. -/
theorem eq_map_get?_record {parts : List (String × Option Json)} {names : List String}
    (h : names.Pairwise fun a b => compare a b = .lt) (hnames : parts.map Prod.fst = names) :
    parts = names.map fun name => (name, (record parts).get? name) := by
  have hlook := get?_record (ascending_of_names h hnames)
  rw [← hnames, List.map_map]
  exact (List.map_id parts).symm.trans (List.map_congr_left fun p hp => by simp [hlook p hp])

/-- Only names of parts are found in an object of named parts. -/
theorem get?_record_of_forall_ne {parts : List (String × Option Json)} {name : String}
    (h : ∀ part ∈ parts, part.1 ≠ name) : (record parts).get? name = none := by
  have hnone : ∀ e ∈ parts.filterMap fun f => f.2.map (f.1, ·), name ≠ e.1 := by
    intro e he heq
    obtain ⟨f, hf, hmap⟩ := List.mem_filterMap.1 he
    obtain ⟨_, _, rfl⟩ := Option.map_eq_some_iff.1 hmap
    exact h f hf heq.symm
  rw [record, get?]
  generalize parts.filterMap (fun f => f.2.map (f.1, ·)) = entries at hnone
  induction entries with
  | nil => rfl
  | cons e rest ih =>
    rw [Assoc.get?, if_neg (hnone e List.mem_cons_self)]
    exact ih fun e he => hnone e (List.mem_cons_of_mem _ he)

section

variable {τ : Type} {fields : List (String × τ)}

/-- Objects that are made from the members of one table list their names in one order. -/
theorem ascending_map (h : fields.Pairwise fun a b => compare a.1 b.1 = .lt)
    (part : String × τ → Option Json) :
    (fields.map fun f => (f.1, part f)).Pairwise fun a b => compare a.1 b.1 = .lt :=
  List.pairwise_map.2 h

/-- A name is that of a member of a table, whose part is found by it in each object that is made from
the table, or nothing is found by it in any. -/
theorem get?_record_map (h : fields.Pairwise fun a b => compare a.1 b.1 = .lt) (name : String) :
    (∃ f ∈ fields, f.1 = name ∧ ∀ part : String × τ → Option Json,
      (record (fields.map fun f => (f.1, part f))).get? name = part f) ∨
    ∀ part : String × τ → Option Json,
      (record (fields.map fun f => (f.1, part f))).get? name = none := by
  by_cases hname : ∃ f ∈ fields, f.1 = name
  · obtain ⟨f, hf, rfl⟩ := hname
    refine Or.inl ⟨f, hf, rfl, fun part => ?_⟩
    exact get?_record (ascending_map h part) _ (List.mem_map_of_mem hf)
  · refine Or.inr fun part => get?_record_of_forall_ne fun p hp heq => hname ?_
    obtain ⟨f, hf, rfl⟩ := List.mem_map.1 hp
    exact ⟨f, hf, heq⟩

end

/-- A part of a type that is written with its names in order. -/
theorem isOrdered_of_map {τ : Type} {toJson : τ → Json} (h : ∀ t, (toJson t).isOrdered = true)
    (part : Option τ) : ∀ x, part.map toJson = some x → x.isOrdered = true := by
  intro x hx
  obtain ⟨t, -, rfl⟩ := Option.map_eq_some_iff.1 hx
  exact h t

/-- A list of values of a type that are written with their names in order. -/
theorem isOrdered_arr_map {τ : Type} {toJson : τ → Json} (h : ∀ t, (toJson t).isOrdered = true)
    (ts : List τ) : (arr (ts.map toJson)).isOrdered = true := by
  rw [isOrdered_arr_iff, List.forall_mem_map]
  exact fun t _ => h t

/-- An object of named parts is ordered when their names ascend and the given ones are ordered. -/
theorem isOrdered_record {fields : List (String × Option Json)}
    (hnames : fields.Pairwise fun a b => compare a.1 b.1 = .lt)
    (hparts : ∀ f ∈ fields, ∀ x, f.2 = some x → x.isOrdered = true) :
    (record fields).isOrdered = true := by
  refine (isOrdered_obj_iff _).2 ⟨sorted_filterMap hnames, ?_⟩
  intro m hm
  obtain ⟨f, hf, hmap⟩ := List.mem_filterMap.1 hm
  obtain ⟨x, hx, rfl⟩ := Option.map_eq_some_iff.1 hmap
  exact hparts f hf x hx

/-- What is given of the members of a table is ordered in an ordered object. -/
theorem isOrdered_of_mem_table {τ : Type} {fields : List (String × τ)}
    {part : String × τ → Option Json}
    (h : (record (fields.map fun f => (f.1, part f))).isOrdered = true) {f : String × τ}
    (hf : f ∈ fields) {x : Json} (hx : part f = some x) : x.isOrdered = true := by
  have hmem : (f.1, x) ∈ (fields.map fun f => (f.1, part f)).filterMap fun f => f.2.map (f.1, ·) :=
    List.mem_filterMap.2 ⟨_, List.mem_map_of_mem hf, by rw [hx]; rfl⟩
  exact ((isOrdered_obj_iff _).1 h).2 (f.1, x) hmem

/-- An object of texts is ordered when its names ascend. -/
theorem isOrdered_texts {entries : List (String × String)} (h : Assoc.Sorted entries) :
    (texts entries).isOrdered = true := by
  refine (isOrdered_obj_iff _).2 ⟨List.Pairwise.map _ (fun _ _ hab => hab) h, ?_⟩
  intro m hm
  obtain ⟨e, _, rfl⟩ := List.mem_map.1 hm
  rfl

/-- A list of texts is ordered. -/
theorem isOrdered_strings (xs : List String) : (strings xs).isOrdered = true := by
  refine (isOrdered_arr_iff _).2 fun x hx => ?_
  obtain ⟨s, _, rfl⟩ := List.mem_map.1 hx
  rfl

end WorkloadBindings.Json
