import WorkloadBindings.Proofs.Json.Conform

/-!
# Shapes that are written in order

`Shape.conform` reads the members of an object by its shape and writes them in the order in which the
shape lists them, and `Shape.isAscending` says that this is the order of their names, all the way down.
Then the written form of an ordered value is ordered (`Shape.isOrdered_of_conform`), whichever members
it holds. The plain shapes are of this kind (`Shape.isAscending_of_isPlain`).
-/

namespace WorkloadBindings

/-- What the member is written as when it is absent or null is ordered. -/
def Presence.isOrdered : Presence → Bool
  | lenient fallback | filled fallback | stated fallback => fallback.isOrdered
  | _ => true

/-- What a null is written as is ordered. -/
theorem Presence.isOrdered_of_ofNull {presence : Presence} {fallback : Json}
    (h : presence.isOrdered = true) (hnull : presence.ofNull = some (some fallback)) :
    fallback.isOrdered = true := by
  unfold ofNull at hnull
  split at hnull <;> cases hnull
  exact h

namespace Shape

open Json (isOrdered_arr_iff isOrdered_obj_iff)

mutual

/-- The objects of the shape are written in order: the names of known members ascend, and what is
written for those that are absent or null is ordered. -/
def isAscending : Shape → Bool
  | .list item => isAscending item
  | .map value => isAscending value
  | .object _ fields _ | .extensible _ fields _ =>
    decide (fields.Pairwise fun a b => compare a.1 b.1 = .lt) && allAscending fields
  | _ => true

/-- The values of the members are written in order. -/
def allAscending : List (String × Presence × Shape) → Bool
  | [] => true
  | (_, presence, shape) :: rest =>
    presence.isOrdered && (isAscending shape && allAscending rest)

end

theorem allAscending_iff (fields : List (String × Presence × Shape)) :
    allAscending fields = true ↔
      ∀ f ∈ fields, f.2.1.isOrdered = true ∧ f.2.2.isAscending = true := by
  induction fields with
  | nil => simp [allAscending]
  | cons f rest ih => simp [allAscending, ih, and_assoc]

/-- A value that was found at the place of a member is ordered. -/
def Visit.IsOrdered : Visit → Prop
  | given value => value.isOrdered = true
  | _ => True

/-- The names of the members that are written are among those of the visits, in their order. -/
theorem sublist_written (visits : List (String × Presence × Visit)) :
    ((written visits).map Prod.fst).Sublist (visits.map Prod.fst) := by
  induction visits with
  | nil => exact List.Sublist.slnil
  | cons hd tl ih =>
    obtain ⟨name, presence, visit⟩ := hd
    unfold written
    rw [List.map_cons]
    split
    · exact ih.cons name
    · exact ih.cons_cons name
    · exact ih.cons_cons name
    · exact ih.cons_cons name
    · exact ih.cons name

/-- What is written was found, or is written of its own accord. -/
theorem isOrdered_of_mem_written {visits : List (String × Presence × Visit)}
    (h : ∀ v ∈ visits, v.2.1.isOrdered = true ∧ v.2.2.IsOrdered) :
    ∀ m ∈ written visits, m.2.isOrdered = true := by
  induction visits with
  | nil => exact fun _ hm => nomatch hm
  | cons hd tl ih =>
    obtain ⟨name, presence, visit⟩ := hd
    obtain ⟨⟨hpresence, hvisit⟩, htl⟩ := List.forall_mem_cons.1 h
    unfold written
    split
    · exact ih htl
    · exact List.forall_mem_cons.2 ⟨hvisit, ih htl⟩
    · exact List.forall_mem_cons.2 ⟨hpresence, ih htl⟩
    · exact List.forall_mem_cons.2 ⟨hpresence, ih htl⟩
    · exact ih htl

/-- The object of the members that are written after some visits. -/
theorem isOrdered_written {visits : List (String × Presence × Visit)}
    (hnames : (visits.map Prod.fst).Pairwise fun a b => compare a b = .lt)
    (h : ∀ v ∈ visits, v.2.1.isOrdered = true ∧ v.2.2.IsOrdered) :
    (Json.obj (written visits)).isOrdered = true :=
  (isOrdered_obj_iff _).2
    ⟨List.pairwise_map.1 (hnames.sublist (sublist_written visits)), isOrdered_of_mem_written h⟩

/-- The members of an object are those that are written after the visits. -/
theorem eq_of_ofObject {visits : List (String × Presence × Visit)} {order : Option (List String)}
    {y : Json} (h : ofObject visits order = .ok y) : y = .obj (written visits) := by
  unfold ofObject at h
  split at h
  · cases h
  · split at h
    · cases h
    · exact (Except.ok.inj h).symm

/-- The members of an object for which a list stands are those that are written after the visits. -/
theorem eq_of_ofList {expected : String} {order : List String} {given : Nat}
    {visits : List (String × Presence × Visit)} {y : Json}
    (h : ofList expected order given visits = .ok y) : y = .obj (written visits) := by
  unfold ofList at h
  split at h
  · cases h
  · split at h
    · cases h
    · exact (Except.ok.inj h).symm

/-- What stands at the place of a member is ordered when the values of its shape are. -/
theorem isOrdered_visitAt {presence : Presence} {shape : Shape} {found : Option Json}
    (hpresence : presence.isOrdered = true) (hfound : ∀ x, found = some x → x.isOrdered = true)
    (hshape : ∀ x y, x.isOrdered = true → conform shape x = .ok y → y.isOrdered = true) :
    (visitAt presence shape found).IsOrdered := by
  cases found with
  | none => exact trivial
  | some x =>
    unfold visitAt
    simp only
    split
    · exact trivial
    · rename_i fallback hnull
      exact Presence.isOrdered_of_ofNull hpresence hnull
    · have hx := hfound _ rfl
      split
      · rename_i y hy
        exact hshape _ y hx hy
      · exact trivial

/-- The object of the members that are written of an ordered object, or of a list of ordered items. -/
theorem isOrdered_written_visitMembers {fields : List (String × Presence × Shape)} {ms : Members}
    (hfields : (fields.Pairwise fun a b => compare a.1 b.1 = .lt) ∧ allAscending fields = true)
    (hms : ∀ m ∈ ms, m.2.isOrdered = true)
    (hshapes : ∀ f ∈ fields, ∀ x y, x.isOrdered = true → conform f.2.2 x = .ok y →
      y.isOrdered = true) :
    (Json.obj (written (visitMembers fields ms))).isOrdered = true := by
  obtain ⟨hnames, hall⟩ := hfields
  rw [visitMembers_eq_map]
  refine isOrdered_written ?_ ?_
  · rw [List.map_map]
    exact List.pairwise_map.2 hnames
  · rw [List.forall_mem_map]
    intro f hf
    have hpresence := ((allAscending_iff fields).1 hall f hf).1
    exact ⟨hpresence, isOrdered_visitAt hpresence
      (fun x hx => hms _ (Assoc.mem_of_get? hx)) (hshapes f hf)⟩

/-- A choice is written as a text. -/
theorem isOrdered_of_chosen {names : List String} {x y : Json} (h : chosen names x = .ok y) :
    y.isOrdered = true := by
  have hpick : ∀ s : String, (if names.contains s then Except.ok (Json.str s)
      else Except.error (DecodeError.unknownVariant s names)) = .ok y → y.isOrdered = true := by
    intro s hs
    split at hs
    · obtain rfl := Except.ok.inj hs
      rfl
    · cases hs
  unfold chosen at h
  split at h
  · exact hpick _ h
  · exact hpick _ h
  · obtain ⟨_, -, h⟩ := exists_of_bind_eq_ok h
    cases h
  · cases h
  · cases h

/-- Members are written one by one, and keep their names. -/
theorem isOrdered_of_eachMember {f : Json → Except DecodeError Json} {ms ms' : Members}
    (hms : (Json.obj ms).isOrdered = true) (h : eachMember f ms = .ok ms')
    (hf : ∀ x y, x.isOrdered = true → f x = .ok y → y.isOrdered = true) :
    (Json.obj ms').isOrdered = true := by
  have hnames : ms'.map Prod.fst = ms.map Prod.fst ∧ ∀ m ∈ ms', m.2.isOrdered = true := by
    have hall := ((isOrdered_obj_iff ms).1 hms).2
    clear hms
    induction ms generalizing ms' with
    | nil =>
      obtain rfl := Except.ok.inj h
      exact ⟨rfl, nofun⟩
    | cons m rest ih =>
      obtain ⟨hm, hrest⟩ := List.forall_mem_cons.1 hall
      rw [eachMember] at h
      obtain ⟨y, hy, h⟩ := exists_of_bind_eq_ok h
      obtain ⟨rest', hrest', h⟩ := exists_of_bind_eq_ok h
      obtain rfl := Except.ok.inj h
      obtain ⟨hkeep, hvalues⟩ := ih hrest' hrest
      exact ⟨congrArg (m.1 :: ·) hkeep, List.forall_mem_cons.2 ⟨hf _ _ hm hy, hvalues⟩⟩
  have hsorted : ms.Pairwise fun a b => compare a.1 b.1 = .lt := Json.sorted_of_isOrdered hms
  exact (isOrdered_obj_iff ms').2
    ⟨Json.ascending_of_names (List.pairwise_map.2 hsorted) hnames.1, hnames.2⟩

mutual

/-- The written form of an ordered value of a shape is ordered, when objects of the shape are written in
order. -/
theorem isOrdered_of_conform : ∀ {s : Shape}, s.isAscending = true → ∀ x y : Json,
    x.isOrdered = true → conform s x = .ok y → y.isOrdered = true
  | .any, _, x, y, hx, h => by
    obtain rfl := Except.ok.inj h
    exact hx
  | .text, _, x, y, _, h => by
    cases x <;> simp only [conform, reduceCtorEq, Except.ok.injEq] at h
    exact h ▸ rfl
  | .flag, _, x, y, _, h => by
    cases x <;> simp only [conform, reduceCtorEq, Except.ok.injEq] at h
    exact h ▸ rfl
  | .integer _ _ _, _, x, y, _, h => by
    cases x <;> simp only [conform, reduceCtorEq] at h
    split at h <;> cases h
    rfl
  | .integerOrText, _, x, y, _, h => by
    cases x <;> simp only [conform, reduceCtorEq, Except.ok.injEq] at h
    · split at h <;> cases h
      rfl
    · exact h ▸ rfl
  | .instant _, _, x, y, _, h => by
    cases x <;> simp only [conform, reduceCtorEq] at h
    split at h <;> cases h
    rfl
  | .pointer, _, x, y, _, h => by
    cases x <;> simp only [conform, reduceCtorEq] at h
    split at h <;> cases h
    rfl
  | .bytes orNull, _, x, y, _, h => by
    cases x <;> cases orNull <;> simp only [conform, reduceCtorEq, Except.ok.injEq] at h
    · exact h ▸ rfl
    · split at h <;> cases h
      rfl
    · split at h <;> cases h
      rfl
  | .literal _, _, x, y, _, h => by
    cases x <;> simp only [conform, reduceCtorEq] at h
    split at h <;> cases h
    rfl
  | .choice _, _, x, y, _, h => by
    rw [conform] at h
    exact isOrdered_of_chosen h
  | .list item, hs, x, y, hx, h => by
    obtain ⟨xs, ys, rfl, rfl, hxs⟩ := conform_list_iff.1 h
    rw [isOrdered_arr_iff] at hx ⊢
    intro y hy
    obtain ⟨x, hmem, hxy⟩ := exists_of_mem_right hxs hy
    exact isOrdered_of_conform (s := item) hs x y (hx x hmem) hxy
  | .textSet, _, x, y, _, h => by
    cases x <;> simp only [conform, reduceCtorEq] at h
    obtain ⟨ss, -, rfl⟩ := exists_of_map_eq_ok h
    exact Json.isOrdered_strings _
  | .map value, hs, x, y, hx, h => by
    cases x <;> simp only [conform, reduceCtorEq] at h
    obtain ⟨ms', hms', rfl⟩ := exists_of_map_eq_ok h
    exact isOrdered_of_eachMember hx hms' (isOrdered_of_conform hs)
  | .object expected fields order, hs, x, y, hx, h => by
    rw [isAscending, Bool.and_eq_true, decide_eq_true_iff] at hs
    have hmembers := isOrdered_of_conform_of_mem hs.2
    cases x with
    | obj ms =>
      rw [conform] at h
      obtain rfl := eq_of_ofObject h
      exact isOrdered_written_visitMembers hs ((isOrdered_obj_iff ms).1 hx).2 hmembers
    | arr xs =>
      cases order with
      | none => simp [conform] at h
      | some names =>
        rw [conform] at h
        obtain rfl := eq_of_ofList h
        refine isOrdered_written_visitMembers hs (fun m hm => ?_) hmembers
        exact (isOrdered_arr_iff xs).1 hx _ (List.of_mem_zip hm).2
    | _ => simp [conform] at h
  | .extensible expected fields late, hs, x, y, hx, h => by
    rw [isAscending, Bool.and_eq_true, decide_eq_true_iff] at hs
    cases x with
    | obj ms =>
      rw [conform] at h
      obtain ⟨known, hknown, h⟩ := exists_of_bind_eq_ok h
      obtain ⟨_, -, h⟩ := exists_of_bind_eq_ok h
      obtain rfl := Except.ok.inj h
      obtain rfl := eq_of_ofObject hknown
      have hordered := isOrdered_written_visitMembers hs ((isOrdered_obj_iff ms).1 hx).2
        (isOrdered_of_conform_of_mem hs.2)
      exact Json.isOrdered_foldl_insert (Json.isOrdered_filter hx _)
        ((isOrdered_obj_iff _).1 hordered).2
    | _ => simp [conform] at h

theorem isOrdered_of_conform_of_mem : ∀ {fields : List (String × Presence × Shape)},
    allAscending fields = true → ∀ f ∈ fields, ∀ x y : Json, x.isOrdered = true →
      conform f.2.2 x = .ok y → y.isOrdered = true
  | [], _, _, hf => nomatch hf
  | (_, _, shape) :: rest, h, f, hf => by
    rw [allAscending, Bool.and_eq_true, Bool.and_eq_true] at h
    rcases List.mem_cons.1 hf with rfl | hf
    · exact isOrdered_of_conform h.2.1
    · exact isOrdered_of_conform_of_mem h.2.2 f hf

end

/-- Objects of plain shapes are written in order. -/
theorem isAscending_of_isPlain {s : Shape} (hs : s.isPlain = true) : s.isAscending = true := by
  refine isPlain_induction (P := fun s => s.isAscending = true)
    { copied := ?copied, instant := rfl, list := fun _ _ h => h, object := ?object } s hs
  case copied =>
    intro s hs
    cases s with
    | map value =>
      cases value with
      | text => rfl
      | _ => cases hs
    | _ => first | rfl | cases hs
  case object =>
    intro expected fields hfields hmembers
    rw [isAscending, Bool.and_eq_true, decide_eq_true_iff]
    refine ⟨hfields.ascending, (allAscending_iff fields).2 fun f hf => ⟨?_, (hmembers f hf).2⟩⟩
    have hnull := hfields.acceptsNull f hf
    unfold acceptsNull at hnull
    split at hnull
    · rename_i heq
      rw [heq]
      rfl
    · rename_i heq
      rw [heq]
      exact (Bool.and_eq_true_iff.1 hnull).1
    · cases hnull

end Shape

end WorkloadBindings
