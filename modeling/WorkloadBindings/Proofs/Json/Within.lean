import Mathlib.Data.Set.Defs
import WorkloadBindings.Proofs.Json.Difference

/-!
# Where a difference acts

A patch is within some places when each of its operations acts at one of them or below it. A difference
acts nowhere above the place that it is taken at (`Json.prefix_of_mem_diffAt`), so that it is within
some places as soon as every part in which the two values differ is at or below one of them, or has a
difference that is within them itself (`Json.PartWithin`). Objects are put together from their parts by
`Json.isWithin_diffAt_table`, and lists from their items by `Json.isWithin_diffAt_map`.
-/

namespace WorkloadBindings

/-- Each operation of the patch acts at one of some places or below it. -/
def Patch.IsWithin (patch : Patch) (places : Set Pointer) : Prop :=
  ∀ op ∈ patch, ∃ place ∈ places, place <+: op.path

namespace Patch

variable {p q : Patch} {places places' : Set Pointer}

theorem isWithin_nil (places : Set Pointer) : IsWithin [] places := fun _ h => nomatch h

/-- A patch in two parts is within some places when both parts are. -/
theorem IsWithin.append (hp : p.IsWithin places) (hq : q.IsWithin places) :
    IsWithin (p ++ q) places := List.forall_mem_append.2 ⟨hp, hq⟩

/-- A patch that is within some places is within more of them. -/
theorem IsWithin.mono (h : p.IsWithin places) (hsub : ∀ place ∈ places, place ∈ places') :
    p.IsWithin places' := by
  intro op hop
  obtain ⟨place, hplace, hprefix⟩ := h op hop
  exact ⟨place, hsub place hplace, hprefix⟩

end Patch

/-- An operation inside a part acts at its place behind the token of the part. -/
theorem PatchOp.path_under (token : String) (op : PatchOp) : (op.under token).path = token :: op.path := by
  cases op <;> rfl

namespace Json

variable {places : Set Pointer} {path : Pointer} {olds news : Members}

/-- A difference acts at the place that it is taken at, or below it. -/
theorem prefix_of_mem_diffAt (path : Pointer) (old new : Json) :
    ∀ op ∈ diffAt path old new, path <+: op.path := by
  induction path with
  | nil => exact fun _ _ => List.nil_prefix
  | cons token path ih =>
    rw [diffAt_cons, List.forall_mem_map]
    intro op hop
    rw [PatchOp.path_under]
    exact List.cons_prefix_cons.2 ⟨rfl, ih op hop⟩

/-- What becomes of a part, which may be absent, is a matter of some places: it stays as it is, or its
own place is at or below one of them, or it is there before and after and has a difference that is
within them. -/
def PartWithin (places : Set Pointer) (path : Pointer) (before after : Option Json) : Prop :=
  after = before ∨ (∃ place ∈ places, place <+: path) ∨
    ∃ old new, before = some old ∧ after = some new ∧ (diffAt path old new).IsWithin places

theorem partWithin_self (places : Set Pointer) (path : Pointer) (part : Option Json) :
    PartWithin places path part part := Or.inl rfl

/-- A part that is there before and after is a matter of some places when its difference is within
them. -/
theorem partWithin_of_isWithin {old new : Json} (h : (diffAt path old new).IsWithin places) :
    PartWithin places path (some old) (some new) := Or.inr (Or.inr ⟨old, new, rfl, rfl, h⟩)

/-! ## Objects -/

/-- A difference of members is within some places when each of the new ones is a matter of them. -/
theorem isWithin_diffMembers (holds : (obj olds).isOrdered = true) {ms : List (String × Json)}
    (h : ∀ m ∈ ms, PartWithin places (path ++ [m.1]) (Assoc.get? m.1 olds) (some m.2)) :
    (diffMembers path olds ms).IsWithin places := by
  induction ms with
  | nil => exact Patch.isWithin_nil places
  | cons m rest ih =>
    obtain ⟨name, new⟩ := m
    obtain ⟨hpart, hrest⟩ := List.forall_mem_cons.1 h
    rw [diffMembers]
    refine Patch.IsWithin.append ?_ (ih hrest)
    rcases hpart with hsame | ⟨place, hplace, hprefix⟩ | ⟨old, new', hold, hnew, hwithin⟩
    · -- The member stays as it is, and so it makes no difference.
      have hold : Assoc.get? name olds = some new := hsame.symm
      have hnothing := diffAt_self (path ++ [name]) (isOrdered_of_get? holds hold)
      rw [hold]
      change (diffAt (path ++ [name]) new new).IsWithin places
      rw [hnothing]
      exact Patch.isWithin_nil places
    · -- Whatever the member becomes, it becomes so at its own place or below it.
      refine fun op hop => ⟨place, hplace, hprefix.trans ?_⟩
      cases hold : Assoc.get? name olds with
      | none =>
        rw [hold] at hop
        obtain rfl := List.mem_singleton.1 hop
        exact List.prefix_refl _
      | some old =>
        rw [hold] at hop
        exact prefix_of_mem_diffAt _ old new op hop
    · obtain rfl := Option.some.inj hnew
      have hold : Assoc.get? name olds = some old := hold
      rw [hold]
      exact hwithin

/-- The difference of two objects is within some places when each of their members is a matter of
them. -/
theorem isWithin_diffAt_obj (holds : (obj olds).isOrdered = true) (hnews : Assoc.Sorted news)
    (h : ∀ name, PartWithin places (path ++ [name]) (Assoc.get? name olds) (Assoc.get? name news)) :
    (diffAt path (obj olds) (obj news)).IsWithin places := by
  rw [diffAt]
  refine Patch.IsWithin.append (isWithin_diffMembers holds fun m hm => ?_) fun op hop => ?_
  · have hpart := h m.1
    rwa [hnews.get?_eq_some_iff.2 hm] at hpart
  · -- What is removed was there before, so that it does not stay as it is.
    obtain ⟨m, hm, rfl⟩ := List.mem_map.1 hop
    obtain ⟨hm, hgone⟩ := List.mem_filter.1 hm
    have hpart := h m.1
    rw [(sorted_of_isOrdered holds).get?_eq_some_iff.2 hm, Option.isNone_iff_eq_none.1 hgone] at hpart
    rcases hpart with hsame | hplace | ⟨_, _, _, hnew, _⟩
    · cases hsame
    · exact hplace
    · cases hnew

/-- The difference of two objects with the members of one table is within some places when each of
the members is a matter of them. -/
theorem isWithin_diffAt_table {τ : Type} {fields : List (String × τ)}
    {before after : String × τ → Option Json}
    (hnames : fields.Pairwise fun a b => compare a.1 b.1 = .lt)
    (holds : (record (fields.map fun f => (f.1, before f))).isOrdered = true)
    (h : ∀ f ∈ fields, PartWithin places (path ++ [f.1]) (before f) (after f)) :
    (diffAt path (record (fields.map fun f => (f.1, before f)))
      (record (fields.map fun f => (f.1, after f)))).IsWithin places := by
  refine isWithin_diffAt_obj holds (sorted_filterMap (ascending_map hnames after)) fun name => ?_
  change PartWithin places (path ++ [name])
    ((record (fields.map fun f => (f.1, before f))).get? name)
    ((record (fields.map fun f => (f.1, after f))).get? name)
  rcases get?_record_map hnames name with ⟨f, hf, rfl, hget⟩ | hnone
  · rw [hget before, hget after]
    exact h f hf
  · rw [hnone before, hnone after]
    exact partWithin_self places _ none

/-! ## Lists -/

/-- The difference of two lists of as many items is within some places when those of the items are. -/
theorem isWithin_diffAt_map {τ : Type} (before after : τ → Json) (ts : List τ)
    (h : ∀ i t, ts[i]? = some t →
      (diffAt (path ++ [Pointer.ofIndex i]) (before t) (after t)).IsWithin places) :
    (diffAt path (arr (ts.map before)) (arr (ts.map after))).IsWithin places := by
  have hrest : ∀ (rest : List τ) (i : Nat),
      (∀ j t, rest[j]? = some t →
        (diffAt (path ++ [Pointer.ofIndex (i + j)]) (before t) (after t)).IsWithin places) →
      (diffItems path i (rest.map before) (rest.map after)).IsWithin places := by
    intro rest
    induction rest with
    | nil => exact fun _ _ => Patch.isWithin_nil places
    | cons t rest ih =>
      intro i hitems
      rw [List.map_cons, List.map_cons, diffItems]
      refine Patch.IsWithin.append (hitems 0 t rfl) (ih (i + 1) fun j u hu => ?_)
      rw [Nat.add_right_comm]
      exact hitems (j + 1) u hu
  rw [diffAt]
  refine hrest ts 0 fun j t ht => ?_
  rw [Nat.zero_add]
  exact h j t ht

end Json

end WorkloadBindings
