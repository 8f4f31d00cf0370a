import WorkloadBindings.Json.Rest
import WorkloadBindings.Proofs.Json.Ascending

/-!
# Typed values and their written form

A typed value is read off a value in written form and written back into it. `Shape.IsWritten` is
that form: `Shape.conform` leaves the value as it is, and its names are in order. Here are its rules
for lists and for objects of named parts, and what reading a part and writing it again gives; the
round trips of the types follow from them part by part.
-/

namespace WorkloadBindings.Shape

/-- The value is in the written form of the shape, with its names in order. -/
structure IsWritten (s : Shape) (j : Json) : Prop where
  conform : s.conform j = .ok j
  ordered : j.isOrdered = true

/-- What an ordered value of a plain shape is written as is in written form. -/
theorem isWritten_of_conform {s : Shape} (hs : s.isPlain = true) {x y : Json}
    (hx : x.isOrdered = true) (h : conform s x = .ok y) : s.IsWritten y :=
  ⟨conform_conform hs h, isOrdered_of_conform (isAscending_of_isPlain hs) x y hx h⟩

/-- A text is in written form. -/
theorem isWritten_text (s : String) : text.IsWritten (.str s) := ⟨rfl, rfl⟩

/-- A truth value is in written form. -/
theorem isWritten_flag (b : Bool) : flag.IsWritten (.bool b) := ⟨rfl, rfl⟩

/-- Only texts have the shape of a text. -/
theorem IsWritten.exists_str {j : Json} (h : text.IsWritten j) : ∃ s, j = .str s := by
  cases j with
  | str s => exact ⟨s, rfl⟩
  | _ => cases h.conform

/-- Only truth values have the shape of a truth value. -/
theorem IsWritten.exists_bool {j : Json} (h : flag.IsWritten j) : ∃ b, j = .bool b := by
  cases j with
  | bool b => exact ⟨b, rfl⟩
  | _ => cases h.conform

/-- Only integers have the shape of an integer. -/
theorem IsWritten.exists_int {name : String} {low high : Int} {j : Json}
    (h : (integer name low high).IsWritten j) : ∃ n, j = .int n := by
  have hconform := h.conform
  cases j with
  | int n => exact ⟨n, rfl⟩
  | _ => simp [Shape.conform] at hconform

/-- A list is in written form when its items are. -/
theorem isWritten_list_iff {item : Shape} {xs : List Json} :
    (list item).IsWritten (.arr xs) ↔ ∀ x ∈ xs, item.IsWritten x := by
  constructor
  · intro h x hx
    obtain ⟨ys, zs, hys, hzs, hall⟩ := conform_list_iff.1 h.conform
    obtain rfl := Json.arr.inj hys
    obtain rfl := Json.arr.inj hzs
    exact ⟨List.forall₂_same.1 hall x hx, (Json.isOrdered_arr_iff xs).1 h.ordered x hx⟩
  · intro h
    exact ⟨conform_list_iff.2 ⟨xs, xs, rfl, rfl, List.forall₂_same.2 fun x hx => (h x hx).conform⟩,
      (Json.isOrdered_arr_iff xs).2 fun x hx => (h x hx).ordered⟩

/-- Only lists have the shape of a list. -/
theorem IsWritten.exists_arr {item : Shape} {j : Json} (h : (list item).IsWritten j) :
    ∃ xs, j = .arr xs := by
  obtain ⟨xs, _, hxs, -⟩ := conform_list_iff.1 h.conform
  exact ⟨xs, hxs⟩

/-! ## Objects of named parts -/

/-- The part of an object is in written form: left out where that may be, and else a value in
written form, which is not null. -/
def IsWrittenPart (presence : Presence) (shape : Shape) (part : Option Json) : Prop :=
  (presence = .nullable ∧ part = none) ∨ ∃ y, part = some y ∧ y ≠ .null ∧ shape.IsWritten y

/-- A part that may be left out. -/
theorem isWrittenPart_nullable {shape : Shape} {part : Option Json} :
    IsWrittenPart .nullable shape part ↔ ∀ y, part = some y → y ≠ .null ∧ shape.IsWritten y := by
  cases part <;> simp [IsWrittenPart]

/-- A part that is always written. -/
theorem isWrittenPart_filled {fallback : Json} {shape : Shape} {part : Option Json} :
    IsWrittenPart (.filled fallback) shape part ↔
      ∃ y, part = some y ∧ y ≠ .null ∧ shape.IsWritten y := by
  simp [IsWrittenPart]

/-- A value in written form, which is not null, is a part that is. -/
theorem IsWritten.part {presence : Presence} {shape : Shape} {y : Json} (h : shape.IsWritten y)
    (hnull : y ≠ .null) : IsWrittenPart presence shape (some y) :=
  .inr ⟨y, rfl, hnull, h⟩

/-- A part is in written form when it is written as it is, and ordered. -/
theorem isWrittenPart_iff {presence : Presence} {shape : Shape}
    (h : acceptsNull presence shape = true) (part : Option Json) :
    IsWrittenPart presence shape part ↔
      Writes presence shape part part ∧ ∀ y, part = some y → y.isOrdered = true := by
  constructor
  · rintro (⟨rfl, rfl⟩ | ⟨y, rfl, hnull, hy⟩)
    · exact ⟨writes_fallback h (Or.inl rfl), nofun⟩
    · refine ⟨writes_given h hnull hy.conform, fun z hz => ?_⟩
      exact Option.some.inj hz ▸ hy.ordered
  · rintro ⟨hwrites, hordered⟩
    cases part with
    | none =>
      cases presence with
      | nullable => exact Or.inl ⟨rfl, rfl⟩
      | filled fallback => cases hwrites
      | _ => cases h
    | some y =>
      obtain ⟨hnull, hy⟩ := conform_of_writes h hwrites id
      exact Or.inr ⟨y, rfl, hnull, hy, hordered y rfl⟩

/-- The members of a plain object, their names and shapes. -/
theorem plainFields_of_isPlain {expected : String} {fields : List (String × Presence × Shape)}
    (h : (object expected fields none).isPlain = true) : PlainFields fields := by
  rw [isPlain, Bool.and_eq_true, decide_eq_true_iff, allPlain_iff] at h
  exact ⟨ascending_of_isChain h.1, fun f hf => (h.2 f hf).1⟩

/-- An object in written form is that of its parts, which are in written form. -/
theorem IsWritten.parts {expected : String} {fields : List (String × Presence × Shape)} {j : Json}
    (hplain : (object expected fields none).isPlain = true)
    (h : (object expected fields none).IsWritten j) :
    j = .record (fields.map fun f => (f.1, j.get? f.1)) ∧
      ∀ f ∈ fields, IsWrittenPart f.2.1 f.2.2 (j.get? f.1) := by
  have hfields := plainFields_of_isPlain hplain
  obtain ⟨ms, rfl⟩ := conform_object h.conform
  obtain ⟨hrecord, hwrites⟩ := (conform_object_iff hfields.allOptional ms _).1 h.conform
  refine ⟨hrecord, fun f hf => ?_⟩
  exact (isWrittenPart_iff (hfields.acceptsNull f hf) _).2
    ⟨hwrites f hf, fun y hy => Json.isOrdered_of_get? h.ordered hy⟩

/-- The names of parts that are those of the members of a plain object ascend. -/
theorem ascending_of_isPlain {expected : String} {fields : List (String × Presence × Shape)}
    (hplain : (object expected fields none).isPlain = true) {parts : List (String × Option Json)}
    (hnames : parts.map Prod.fst = fields.map Prod.fst) :
    parts.Pairwise fun a b => compare a.1 b.1 = .lt :=
  Json.ascending_of_names (List.pairwise_map.2 (plainFields_of_isPlain hplain).ascending) hnames

/-- The parts of an object with the names of a plain one are found by their names. -/
theorem get?_of_eq_record {expected : String} {fields : List (String × Presence × Shape)}
    (hplain : (object expected fields none).isPlain = true) {j : Json}
    {parts : List (String × Option Json)} (hj : j = .record parts)
    (hnames : parts.map Prod.fst = fields.map Prod.fst) :
    ∀ part ∈ parts, j.get? part.1 = part.2 :=
  hj ▸ Json.get?_record (ascending_of_isPlain hplain hnames)

/-- Parts with the names of members are those that are found by the names. -/
theorem eq_map_get?_record {fields : List (String × Presence × Shape)}
    (h : fields.Pairwise fun a b => compare a.1 b.1 = .lt) {parts : List (String × Option Json)}
    (hnames : parts.map Prod.fst = fields.map Prod.fst) :
    parts = fields.map fun f => (f.1, (Json.record parts).get? f.1) :=
  (Json.eq_map_get?_record (List.pairwise_map.2 h) hnames).trans List.map_map

/-- What holds of parts with the names of members holds of what is found by the names. -/
theorem forall₂_parts_iff {fields : List (String × Presence × Shape)}
    (h : fields.Pairwise fun a b => compare a.1 b.1 = .lt) {parts : List (String × Option Json)}
    (hnames : parts.map Prod.fst = fields.map Prod.fst)
    {P : String × Presence × Shape → Option Json → Prop} :
    List.Forall₂ (fun f p => P f p.2) fields parts ↔
      ∀ f ∈ fields, P f ((Json.record parts).get? f.1) := by
  have hparts := eq_map_get?_record h hnames
  generalize hg : (fun f : String × Presence × Shape => (f.1, (Json.record parts).get? f.1)) = g
    at hparts
  rw [hparts, List.forall₂_map_right_iff, List.forall₂_same, ← hparts, ← hg]

/-- An object of named parts is in written form when the parts are. -/
theorem isWritten_record_iff {expected : String} {fields : List (String × Presence × Shape)}
    (hplain : (object expected fields none).isPlain = true) {parts : List (String × Option Json)}
    (hnames : parts.map Prod.fst = fields.map Prod.fst) :
    (object expected fields none).IsWritten (.record parts) ↔
      List.Forall₂ (fun f p => IsWrittenPart f.2.1 f.2.2 p.2) fields parts := by
  have hfields := plainFields_of_isPlain hplain
  have hparts := eq_map_get?_record hfields.ascending hnames
  rw [forall₂_parts_iff hfields.ascending hnames (P := fun f part => IsWrittenPart f.2.1 f.2.2 part)]
  constructor
  · exact fun h => (h.parts hplain).2
  · intro h
    have hwrites := fun f hf =>
      (isWrittenPart_iff (hfields.acceptsNull f hf) _).1 (h f hf)
    refine ⟨(conform_object_iff hfields.allOptional _ _).2
      ⟨congrArg Json.record hparts, fun f hf => (hwrites f hf).1⟩,
      Json.isOrdered_record (ascending_of_isPlain hplain hnames) ?_⟩
    rw [hparts, List.forall_mem_map]
    exact fun f hf x hx => (hwrites f hf).2 x hx

/-! ## Tables of members

Objects of many members are written by a table: the names are those of the shape, and a function gives
the part of each. -/

section

variable {expected : String} {fields : List (String × Presence × Shape)} {part : String → Option Json}

/-- The parts that a function gives are found by their names. -/
theorem get?_table (hplain : (object expected fields none).isPlain = true)
    {f : String × Presence × Shape} (hf : f ∈ fields) :
    (Json.record (fields.map fun f => (f.1, part f.1))).get? f.1 = part f.1 :=
  get?_of_eq_record hplain rfl (by simp [Function.comp_def]) (f.1, part f.1)
    (List.mem_map_of_mem hf)

/-- An object of the parts that a function gives is in written form when the parts are. -/
theorem isWritten_table_iff (hplain : (object expected fields none).isPlain = true) :
    (object expected fields none).IsWritten (.record (fields.map fun f => (f.1, part f.1))) ↔
      ∀ f ∈ fields, IsWrittenPart f.2.1 f.2.2 (part f.1) := by
  rw [isWritten_record_iff hplain (by simp [Function.comp_def]), List.forall₂_map_right_iff,
    List.forall₂_same]

/-- What is carried along of the members of an object is in written form. -/
def RestWritten (fields : List (String × Presence × Shape)) {names : List String}
    (rest : Rest names) : Prop :=
  ∀ f ∈ fields, f.1 ∈ names → IsWrittenPart f.2.1 f.2.2 (rest.get? f.1)

/-- Nothing is carried along of members that may be left out. -/
theorem restWritten_empty {names : List String}
    (h : ∀ f ∈ fields, f.1 ∈ names → f.2.1 = .nullable) :
    RestWritten fields (∅ : Rest names) :=
  fun f hf hname => .inl ⟨h f hf hname, rfl⟩

/-- What is carried along of the members of a table is read back from the object that is made from
it. -/
theorem ofJson_table {names : List String} {rest : Rest names}
    (hplain : (object expected fields none).isPlain = true)
    (hnames : ∀ name ∈ names, ∃ f ∈ fields, f.1 = name)
    (hpart : ∀ name ∈ names, part name = rest.get? name) :
    Rest.ofJson names (.record (fields.map fun f => (f.1, part f.1))) = rest := by
  refine Rest.ext_get? fun name hmem => ?_
  obtain ⟨f, hf, rfl⟩ := hnames name hmem
  rw [Rest.get?_ofJson hmem, ← hpart _ hmem]
  exact get?_table hplain hf

/-- An object in written form is that of the parts that a function gives, when these are its own. -/
theorem IsWritten.eq_table {j : Json} (hplain : (object expected fields none).isPlain = true)
    (h : (object expected fields none).IsWritten j) (hpart : ∀ f ∈ fields, part f.1 = j.get? f.1) :
    .record (fields.map fun f => (f.1, part f.1)) = j := by
  refine Eq.trans (congrArg Json.record ?_) (h.parts hplain).1.symm
  exact List.map_congr_left fun f hf => congrArg (f.1, ·) (hpart f hf)

end

/-! ## Parts that are written as they are -/

/-- A part stays as it is when it is written, and is there if it must be. -/
structure Stays (presence : Presence) (shape : Shape) (part : Option Json) : Prop where
  given : presence.isDemanded = true → part.isSome = true
  writes : Writes presence shape part part

/-- A value that is not null is visited as a value of its shape. -/
theorem visitAt_of_ne_null {presence : Presence} {shape : Shape} {x : Json} (hx : x ≠ .null) :
    visitAt presence shape (some x) =
      match conform shape x with
      | .ok y => .given y
      | .error cause => .refused cause := by
  cases x <;> first | rfl | exact absurd rfl hx

/-- A value in written form stays as it is, unless it is left out for being empty. -/
theorem stays_some {presence : Presence} {shape : Shape} {x : Json} (hx : x ≠ .null)
    (hempty : presence = .omittable → x ≠ .arr []) (hconform : conform shape x = .ok x) :
    Stays presence shape (some x) := by
  refine ⟨fun _ => rfl, ?_⟩
  rw [Writes, visitAt_of_ne_null hx, hconform]
  exact if_neg fun h => hempty h.1 h.2

/-- What may be left out, and has no fallback, stays left out. -/
theorem stays_none {presence : Presence} {shape : Shape} (hoptional : presence.isDemanded = false)
    (hfallback : presence.fallback? = none) : Stays presence shape none := by
  refine ⟨fun h => ?_, congrArg some hfallback⟩
  rw [hoptional] at h
  cases h

/-- What may be absent or null stays as it is when it is given as values that stay. -/
theorem stays_map {τ : Type} {shape : Shape} {toJson : τ → Json} (hnull : ∀ t, toJson t ≠ .null)
    (hconform : ∀ t, conform shape (toJson t) = .ok (toJson t)) (x : Option τ) :
    Stays .elective shape (x.map toJson) := by
  cases x with
  | none => exact stays_none rfl rfl
  | some t => exact stays_some (hnull t) nofun (hconform t)

/-- A list of values that stay as they are stays as it is. -/
theorem conform_arr_map {τ : Type} {item : Shape} {toJson : τ → Json}
    (h : ∀ t, conform item (toJson t) = .ok (toJson t)) (ts : List τ) :
    conform (.list item) (.arr (ts.map toJson)) = .ok (.arr (ts.map toJson)) := by
  refine conform_list_iff.2 ⟨_, _, rfl, rfl, List.forall₂_same.2 ?_⟩
  rw [List.forall_mem_map]
  exact fun t _ => h t

/-- An object of parts that stay as they are stays as it is. -/
theorem conform_record {expected : String} {fields : List (String × Presence × Shape)}
    {order : Option (List String)} (h : Noticing fields order) {parts : List (String × Option Json)}
    (hnames : parts.map Prod.fst = fields.map Prod.fst)
    (hparts : List.Forall₂ (fun f p => Stays f.2.1 f.2.2 p.2) fields parts) :
    conform (.object expected fields order) (.record parts) = .ok (.record parts) := by
  have hstays := (forall₂_parts_iff h.ascending hnames).1 hparts
  refine (conform_object_iff_of_noticing h _ _).2 ⟨fun f hf => (hstays f hf).given, ?_,
    fun f hf => (hstays f hf).writes⟩
  exact congrArg Json.record (eq_map_get?_record h.ascending hnames)

/-! ## Reading a part and writing it again -/

section

variable {part : Option Json}

/-- A text that may be left out. -/
theorem map_str (h : IsWrittenPart .nullable .text part) :
    (part.bind Json.str?).map .str = part := by
  cases part with
  | none => rfl
  | some y =>
    obtain ⟨s, rfl⟩ := (isWrittenPart_nullable.1 h y rfl).2.exists_str
    rfl

/-- A text that is always written. -/
theorem some_str {fallback : Json} (h : IsWrittenPart (.filled fallback) .text part) :
    some (.str ((part.bind Json.str?).getD "")) = part := by
  obtain ⟨y, rfl, -, hy⟩ := isWrittenPart_filled.1 h
  obtain ⟨s, rfl⟩ := hy.exists_str
  rfl

/-- A truth value that may be left out. -/
theorem map_bool (h : IsWrittenPart .nullable .flag part) :
    (part.bind Json.bool?).map .bool = part := by
  cases part with
  | none => rfl
  | some y =>
    obtain ⟨b, rfl⟩ := (isWrittenPart_nullable.1 h y rfl).2.exists_bool
    rfl

/-- An integer that may be left out. -/
theorem map_int {name : String} {low high : Int}
    (h : IsWrittenPart .nullable (.integer name low high) part) :
    (part.bind Json.int?).map .int = part := by
  cases part with
  | none => rfl
  | some y =>
    obtain ⟨n, rfl⟩ := (isWrittenPart_nullable.1 h y rfl).2.exists_int
    rfl

variable {τ : Type} {shape : Shape} {ofJson : Json → τ} {toJson : τ → Json}

/-- The items of a list that may be left out are written in written form. -/
def ItemsWritten (shape : Shape) (toJson : τ → Json) (items : Option (List τ)) : Prop :=
  ∀ ts, items = some ts → ∀ t ∈ ts, shape.IsWritten (toJson t)

/-- A list of values that are written is in written form when these are. -/
theorem isWritten_arr_map_iff {ts : List τ} :
    (list shape).IsWritten (.arr (ts.map toJson)) ↔ ∀ t ∈ ts, shape.IsWritten (toJson t) := by
  rw [isWritten_list_iff, List.forall_mem_map]

/-- A list of values that may be left out is a part in written form when the values are. -/
theorem isWrittenPart_items_iff {items : Option (List τ)} :
    IsWrittenPart .nullable (.list shape) (items.map fun ts => .arr (ts.map toJson)) ↔
      ItemsWritten shape toJson items := by
  unfold ItemsWritten
  rw [isWrittenPart_nullable]
  cases items with
  | none => exact ⟨nofun, nofun⟩
  | some ts => simp [isWritten_arr_map_iff]

/-- A part of a type that is written as it was read. -/
theorem map_toJson (htype : ∀ {j : Json}, shape.IsWritten j → toJson (ofJson j) = j)
    (h : IsWrittenPart .nullable shape part) : (part.map ofJson).map toJson = part := by
  cases part with
  | none => rfl
  | some y => exact congrArg some (htype (isWrittenPart_nullable.1 h y rfl).2)

/-- A list of values of a type that are written as they were read. -/
theorem arr_map_toJson (htype : ∀ {j : Json}, shape.IsWritten j → toJson (ofJson j) = j)
    {y : Json} (h : (list shape).IsWritten y) :
    .arr ((y.items.map ofJson).map toJson) = y := by
  obtain ⟨xs, rfl⟩ := h.exists_arr
  have hitems := isWritten_list_iff.1 h
  rw [Json.items, List.map_map]
  exact congrArg Json.arr ((List.map_congr_left fun x hx => htype (hitems x hx)).trans
    (List.map_id xs))

/-- A list that may be left out, of values of a type that are written as they were read. -/
theorem map_arr_toJson (htype : ∀ {j : Json}, shape.IsWritten j → toJson (ofJson j) = j)
    (h : IsWrittenPart .nullable (.list shape) part) :
    (part.map fun xs => xs.items.map ofJson).map (fun ts => .arr (ts.map toJson)) = part := by
  cases part with
  | none => rfl
  | some y => exact congrArg some (arr_map_toJson htype (isWrittenPart_nullable.1 h y rfl).2)

/-- A list that is always written, of values of a type that are written as they were read. -/
theorem some_arr_toJson {fallback : Json}
    (htype : ∀ {j : Json}, shape.IsWritten j → toJson (ofJson j) = j)
    (h : IsWrittenPart (.filled fallback) (.list shape) part) :
    some (.arr (((part.map fun xs => xs.items.map ofJson).getD []).map toJson)) = part := by
  obtain ⟨y, rfl, -, hy⟩ := isWrittenPart_filled.1 h
  exact congrArg some (arr_map_toJson htype hy)

/-! ## Writing a part and reading it again -/

/-- A text that may be left out. -/
theorem bind_str? (x : Option String) : (x.map Json.str).bind Json.str? = x := by
  cases x <;> rfl

/-- A list of texts. -/
theorem filterMap_strings (xs : List String) : (Json.strings xs).items.filterMap Json.str? = xs := by
  rw [Json.strings, Json.items, List.filterMap_map]
  exact List.filterMap_some

/-- A truth value that may be left out. -/
theorem bind_bool? (x : Option Bool) : (x.map Json.bool).bind Json.bool? = x := by
  cases x <;> rfl

/-- An integer that may be left out. -/
theorem bind_int? (x : Option Int) : (x.map Json.int).bind Json.int? = x := by
  cases x <;> rfl

/-- A part of a type that is read as it was written. -/
theorem map_ofJson (htype : ∀ t, ofJson (toJson t) = t) (x : Option τ) :
    (x.map toJson).map ofJson = x := by
  cases x with
  | none => rfl
  | some t => exact congrArg some (htype t)

/-- A list of values of a type that are read as they were written. -/
theorem items_map_ofJson (htype : ∀ t, ofJson (toJson t) = t) (ts : List τ) :
    (Json.arr (ts.map toJson)).items.map ofJson = ts := by
  rw [Json.items, List.map_map]
  exact (List.map_congr_left fun t _ => htype t).trans (List.map_id ts)

/-- A list that may be left out, of values of a type that are read as they were written. -/
theorem map_items_ofJson (htype : ∀ t, ofJson (toJson t) = t) (x : Option (List τ)) :
    (x.map fun ts => Json.arr (ts.map toJson)).map (fun xs => xs.items.map ofJson) = x := by
  cases x with
  | none => rfl
  | some ts => exact congrArg some (items_map_ofJson htype ts)

end

end WorkloadBindings.Shape
