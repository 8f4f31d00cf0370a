import Mathlib.Data.List.Chain
import Mathlib.Data.List.Forall2
import WorkloadBindings.Json.Shape
import WorkloadBindings.Proofs.Except
import WorkloadBindings.Proofs.Json.Difference
import WorkloadBindings.Proofs.Text.ByteOrder
import WorkloadBindings.Proofs.Timestamp.Reading

/-!
# Values in written form

What `Shape.conform` makes of an object, member by member: `Shape.Writes` says what a member is
written as, and `Shape.conform_object_iff` that an object is written as the object of its written
members. From there everything is stated for plain shapes, those of the specification of a pod: they
are made of values that are written as they are, points in time in whole seconds, lists, and objects
whose members may all be absent. Their written form stays as it is when it is read again
(`Shape.conform_conform`), and revising a value that holds more than its written form revises its
written form (`Shape.conform_revise`).
-/

namespace WorkloadBindings

namespace Presence

/-- What a member is written as when it is absent. -/
def fallback? : Presence → Option Json
  | lenient fallback | filled fallback => some fallback
  | _ => none

end Presence

namespace Shape

/-! ## Members -/

/-- What stands at the place of a member, in its written form. -/
def Visit.part? (presence : Presence) : Visit → Option (Option Json)
  | refused _ => none
  | absent => some presence.fallback?
  | given value => if presence = .omittable ∧ value = .arr [] then some none else some (some value)

/-- The visit of a member. -/
def visitAt (presence : Presence) (shape : Shape) (found : Option Json) : Visit :=
  match found with
  | none => .absent
  | some value =>
    match value, presence.ofNull with
    | .null, some none => .absent
    | .null, some (some fallback) => .given fallback
    | value, _ =>
      match conform shape value with
      | .ok value => .given value
      | .error cause => .refused cause

/-- A member that is found as it is, or not at all, is written so. -/
def Writes (presence : Presence) (shape : Shape) (found part : Option Json) : Prop :=
  (visitAt presence shape found).part? presence = some part

/-- A member is written in one way. -/
theorem Writes.unique {presence : Presence} {shape : Shape} {found part part' : Option Json}
    (h : Writes presence shape found part) (h' : Writes presence shape found part') :
    part = part' :=
  Option.some.inj (h.symm.trans h')

theorem visitMembers_eq_map (fields : List (String × Presence × Shape)) (ms : Members) :
    visitMembers fields ms =
      fields.map fun f => (f.1, f.2.1, visitAt f.2.1 f.2.2 (Assoc.get? f.1 ms)) := by
  induction fields with
  | nil => rw [visitMembers, List.map_nil]
  | cons hd tl ih =>
    obtain ⟨name, presence, shape⟩ := hd
    rw [visitMembers, ih, List.map_cons]
    rfl

/-- Nothing is refused when every member is written somehow. -/
theorem firstRefusal_eq_none_iff (visits : List (String × Presence × Visit)) :
    firstRefusal visits = none ↔ ∀ v ∈ visits, ∃ part, v.2.2.part? v.2.1 = some part := by
  induction visits with
  | nil => simp [firstRefusal]
  | cons hd tl ih =>
    obtain ⟨name, presence, visit⟩ := hd
    cases visit with
    | refused cause => simp [firstRefusal, Visit.part?]
    | absent => simp [firstRefusal, ih, Visit.part?]
    | given value =>
      have hpart : ∃ part, (Visit.given value).part? presence = some part := by
        rw [Visit.part?]
        split <;> exact ⟨_, rfl⟩
      simp [firstRefusal, ih, hpart]

/-- The members that are written after some visits, each by its name. -/
theorem obj_written {visits : List (String × Presence × Visit)}
    (h : ∀ v ∈ visits, ∃ part, v.2.2.part? v.2.1 = some part) :
    Json.obj (written visits) =
      .record (visits.map fun v => (v.1, (v.2.2.part? v.2.1).getD none)) := by
  refine congrArg Json.obj ?_
  induction visits with
  | nil => rfl
  | cons hd tl ih =>
    obtain ⟨name, presence, visit⟩ := hd
    obtain ⟨part, hhd⟩ : ∃ part, visit.part? presence = some part := h _ List.mem_cons_self
    have htl := ih fun v hv => h v (List.mem_cons_of_mem _ hv)
    cases visit with
    | refused cause => simp [Visit.part?] at hhd
    | absent =>
      cases presence <;>
        simp only [written, htl, Visit.part?, Presence.fallback?, List.map_cons,
          List.filterMap_cons, Option.map_some, Option.map_none, Option.getD_some]
    | given value =>
      -- Only an empty list that may be omitted is given and not written.
      by_cases hempty : presence = .omittable ∧ value = .arr []
      · obtain ⟨rfl, rfl⟩ := hempty
        simp [written, htl, Visit.part?]
      · rw [written]
        · simp [htl, Visit.part?, hempty]
        · rintro rfl rfl
          exact hempty ⟨rfl, rfl⟩

/-- The names of some members ascend, and none of them must be given. -/
def AllOptional (fields : List (String × Presence × Shape)) : Prop :=
  (fields.Pairwise fun a b => compare a.1 b.1 = .lt) ∧ ∀ f ∈ fields, f.2.1.isDemanded = false

/-- The names of some members ascend, and those that must be given are looked for. -/
structure Noticing (fields : List (String × Presence × Shape)) (order : Option (List String)) :
    Prop where
  ascending : fields.Pairwise fun a b => compare a.1 b.1 = .lt
  demanded : ∀ f ∈ fields, f.2.1.isDemanded = true → f.1 ∈ order.getD (fields.map Prod.fst)

/-- Of members that may all be absent none is looked for. -/
theorem AllOptional.noticing {fields : List (String × Presence × Shape)} (h : AllOptional fields)
    (order : Option (List String)) : Noticing fields order := by
  refine ⟨h.1, fun f hf hdemanded => ?_⟩
  rw [h.2 f hf] at hdemanded
  cases hdemanded

/-- What is found by its name is one of the visits. -/
theorem mem_of_visitOf {visits : List (String × Presence × Visit)} {name : String}
    {presence : Presence} {visit : Visit} (h : visitOf name visits = some (presence, visit)) :
    (name, presence, visit) ∈ visits := by
  induction visits with
  | nil => cases h
  | cons hd tl ih =>
    rw [visitOf] at h
    split at h
    · obtain ⟨n, p, v⟩ := hd
      rename_i hname
      obtain ⟨rfl, rfl⟩ := Prod.mk.inj (Option.some.inj h)
      exact hname ▸ List.mem_cons_self
    · exact List.mem_cons_of_mem _ (ih h)

/-- The visit of a member that some members have is found by its name. -/
theorem visitOf_visitMembers {fields : List (String × Presence × Shape)}
    (h : fields.Pairwise fun a b => compare a.1 b.1 = .lt) (ms : Members)
    {f : String × Presence × Shape} (hf : f ∈ fields) :
    visitOf f.1 (visitMembers fields ms) =
      some (f.2.1, visitAt f.2.1 f.2.2 (Assoc.get? f.1 ms)) := by
  rw [visitMembers_eq_map]
  induction fields with
  | nil => cases hf
  | cons hd tl ih =>
    rw [List.map_cons, visitOf]
    rcases List.mem_cons.1 hf with rfl | htl
    · rw [if_pos rfl]
    · have hlt := List.rel_of_pairwise_cons h htl
      have hne : hd.1 ≠ f.1 := by
        intro heq
        rw [heq, Std.compare_self] at hlt
        cases hlt
      rw [if_neg hne]
      exact ih h.of_cons htl

/-- A member that must be given counts as absent only when it is. -/
theorem eq_none_of_visitAt {presence : Presence} {shape : Shape} {found : Option Json}
    (hdemanded : presence.isDemanded = true) (h : visitAt presence shape found = .absent) :
    found = none := by
  cases found with
  | none => rfl
  | some value =>
    have hnull : presence.ofNull ≠ some none := by
      cases presence <;> simp_all [Presence.isDemanded, Presence.ofNull]
    unfold visitAt at h
    simp only at h
    split at h
    · exact absurd ‹_› hnull
    · cases h
    · split at h <;> cases h

/-- Nothing is missed when all that must be given is. -/
theorem find?_isMissing_eq_none_iff {fields : List (String × Presence × Shape)}
    {order : Option (List String)} (h : Noticing fields order) (ms : Members) :
    (noticed (visitMembers fields ms) order).find? (isMissing (visitMembers fields ms)) = none ↔
      ∀ f ∈ fields, f.2.1.isDemanded = true → (Assoc.get? f.1 ms).isSome = true := by
  have hnames : (visitMembers fields ms).map (fun v => v.1) = fields.map Prod.fst := by
    rw [visitMembers_eq_map, List.map_map]
    rfl
  rw [List.find?_eq_none, noticed, hnames]
  constructor
  · intro hnone f hf hdemanded
    by_contra habsent
    refine hnone f.1 (h.demanded f hf hdemanded) ?_
    rw [isMissing, visitOf_visitMembers h.ascending ms hf, Option.not_isSome_iff_eq_none.1 habsent]
    exact hdemanded
  · intro hall name _ hmissing
    rw [isMissing] at hmissing
    split at hmissing
    · rename_i presence hvisit
      have hmem := mem_of_visitOf hvisit
      rw [visitMembers_eq_map] at hmem
      obtain ⟨f, hf, heq⟩ := List.mem_map.1 hmem
      obtain ⟨-, hpresence, habsent⟩ := Prod.mk.inj heq |>.imp_right Prod.mk.inj
      have hnone := eq_none_of_visitAt (hpresence ▸ hmissing) habsent
      have hsome := hall f hf (hpresence ▸ hmissing)
      rw [hnone] at hsome
      cases hsome
    · cases hmissing

/-- The members that are written after the visits of an object. -/
theorem obj_written_visitMembers {fields : List (String × Presence × Shape)} {ms : Members}
    (h : ∀ f ∈ fields, ∃ part, Writes f.2.1 f.2.2 (Assoc.get? f.1 ms) part) :
    Json.obj (written (visitMembers fields ms)) = .record (fields.map fun f =>
      (f.1, ((visitAt f.2.1 f.2.2 (Assoc.get? f.1 ms)).part? f.2.1).getD none)) := by
  have hvisits : ∀ v ∈ visitMembers fields ms, ∃ part, v.2.2.part? v.2.1 = some part := by
    rw [visitMembers_eq_map, List.forall_mem_map]
    exact h
  rw [obj_written hvisits, visitMembers_eq_map, List.map_map]
  rfl

/-- What is found at the place of a member is what the member is written as. -/
theorem writes_written {fields : List (String × Presence × Shape)}
    (h : fields.Pairwise fun a b => compare a.1 b.1 = .lt) {ms : Members}
    (hall : ∀ f ∈ fields, ∃ part, Writes f.2.1 f.2.2 (Assoc.get? f.1 ms) part) :
    ∀ f ∈ fields, Writes f.2.1 f.2.2 (Assoc.get? f.1 ms)
      ((Json.obj (written (visitMembers fields ms))).get? f.1) := by
  have hlook := Json.get?_record (List.pairwise_map.2 h : (fields.map fun f =>
    (f.1, ((visitAt f.2.1 f.2.2 (Assoc.get? f.1 ms)).part? f.2.1).getD none)).Pairwise
      fun a b => compare a.1 b.1 = .lt)
  rw [List.forall_mem_map] at hlook
  intro f hf
  obtain ⟨part, hpart⟩ := hall f hf
  rw [obj_written_visitMembers hall, hlook f hf, hpart]
  exact hpart

/-- An object that has what must be given is written as the object of what its members are written as.
-/
theorem conform_object_iff_of_noticing {expected : String}
    {fields : List (String × Presence × Shape)} {order : Option (List String)}
    (h : Noticing fields order) (ms : Members) (e : Json) :
    conform (.object expected fields order) (.obj ms) = .ok e ↔
      (∀ f ∈ fields, f.2.1.isDemanded = true → (Assoc.get? f.1 ms).isSome = true) ∧
        e = .record (fields.map fun f => (f.1, e.get? f.1)) ∧
          ∀ f ∈ fields, Writes f.2.1 f.2.2 (Assoc.get? f.1 ms) (e.get? f.1) := by
  have hrefusal : firstRefusal (visitMembers fields ms) = none ↔
      ∀ f ∈ fields, ∃ part, Writes f.2.1 f.2.2 (Assoc.get? f.1 ms) part := by
    rw [firstRefusal_eq_none_iff, visitMembers_eq_map, List.forall_mem_map]
    rfl
  rw [conform, ofObject, ← find?_isMissing_eq_none_iff h]
  constructor
  · intro hconform
    -- Reading fails when a member is refused, and when one is missed.
    cases hnone : firstRefusal (visitMembers fields ms) with
    | some cause => simp [hnone] at hconform
    | none =>
      cases hmissing : (noticed (visitMembers fields ms) order).find?
          (isMissing (visitMembers fields ms)) with
      | some name => simp [hnone, hmissing] at hconform
      | none =>
        have hall := hrefusal.1 hnone
        obtain rfl : e = .obj (written (visitMembers fields ms)) := by
          simpa [hnone, hmissing] using hconform.symm
        have hwrites := writes_written h.ascending hall
        refine ⟨rfl, ?_, hwrites⟩
        rw [obj_written_visitMembers hall] at hwrites ⊢
        refine congrArg Json.record (List.map_congr_left fun f hf => ?_)
        rw [hwrites f hf, Option.getD_some]
  · rintro ⟨hmissing, hrecord, hwrites⟩
    have hall : ∀ f ∈ fields, ∃ part, Writes f.2.1 f.2.2 (Assoc.get? f.1 ms) part :=
      fun f hf => ⟨_, hwrites f hf⟩
    simp only [hrefusal.2 hall, hmissing]
    rw [obj_written_visitMembers hall, hrecord]
    refine congrArg (fun parts => Except.ok (Json.record parts)) (List.map_congr_left fun f hf => ?_)
    rw [hwrites f hf, Option.getD_some]

/-- An object whose members may all be absent is written as the object of what its members are
written as. -/
theorem conform_object_iff {expected : String} {fields : List (String × Presence × Shape)}
    {order : Option (List String)} (h : AllOptional fields) (ms : Members) (e : Json) :
    conform (.object expected fields order) (.obj ms) = .ok e ↔
      e = .record (fields.map fun f => (f.1, e.get? f.1)) ∧
        ∀ f ∈ fields, Writes f.2.1 f.2.2 (Assoc.get? f.1 ms) (e.get? f.1) := by
  have hgiven : ∀ f ∈ fields, f.2.1.isDemanded = true → (Assoc.get? f.1 ms).isSome = true := by
    intro f hf hdemanded
    rw [h.2 f hf] at hdemanded
    cases hdemanded
  rw [conform_object_iff_of_noticing (h.noticing order), and_iff_right hgiven]

/-- No item of a list that is read for an object was refused. -/
theorem visitOf_ne_refused {expected : String} {count given : Nat}
    {visits : List (String × Presence × Visit)} {i : Nat} {order : List String}
    (h : listRefusal expected count given visits i order = none) {name : String}
    (hname : name ∈ order) (presence : Presence) (cause : DecodeError) :
    visitOf name visits ≠ some (presence, .refused cause) := by
  induction order generalizing i with
  | nil => cases hname
  | cons hd tl ih =>
    intro hvisit
    rw [listRefusal] at h
    rcases List.mem_cons.1 hname with rfl | htl
    · simp [hvisit] at h
    · split at h
      · cases h
      · split at h
        · cases h
        · exact ih h htl hvisit
      · exact ih h htl hvisit

/-- Whatever is read as an object whose members may all be absent, be it an object or a list that
stands for one, has parts of which each is written. -/
theorem exists_members {expected : String} {fields : List (String × Presence × Shape)}
    {order : Option (List String)} (h : AllOptional fields) {x e : Json}
    (he : conform (.object expected fields order) x = .ok e) :
    ∃ ms : Members, (x.isOrdered = true → ∀ m ∈ ms, m.2.isOrdered = true) ∧
      ∀ f ∈ fields, Writes f.2.1 f.2.2 (Assoc.get? f.1 ms) (e.get? f.1) := by
  cases x with
  | obj ms =>
    exact ⟨ms, fun hx => ((Json.isOrdered_obj_iff ms).1 hx).2, ((conform_object_iff h ms e).1 he).2⟩
  | arr xs =>
    cases order with
    | none => simp [conform] at he
    | some names =>
      rw [conform, ofList] at he
      split at he
      · cases he
      rename_i hnone
      split at he
      · cases he
      obtain rfl := Except.ok.inj he
      refine ⟨names.zip xs, fun hx m hm => ?_, writes_written h.1 fun f hf => ?_⟩
      · exact (Json.isOrdered_arr_iff xs).1 hx m.2 (List.of_mem_zip hm).2
      · -- A member that the list has no place for is absent, and no item was refused.
        cases hvisit : visitAt f.2.1 f.2.2 (Assoc.get? f.1 (names.zip xs)) with
        | absent => exact ⟨_, by rw [Writes, hvisit]; rfl⟩
        | given value => exact ⟨((Visit.given value).part? f.2.1).getD none, by
            rw [Writes, hvisit, Visit.part?]
            split <;> rfl⟩
        | refused cause =>
          have hfound := visitOf_visitMembers h.1 (names.zip xs) hf
          rw [hvisit] at hfound
          by_cases hname : f.1 ∈ names
          · exact absurd hfound (visitOf_ne_refused hnone hname f.2.1 cause)
          · have habsent : Assoc.get? f.1 (names.zip xs) = none := by
              refine Option.eq_none_iff_forall_ne_some.2 fun v hv => hname ?_
              exact (List.of_mem_zip (Assoc.mem_of_get? hv)).1
            rw [habsent] at hvisit
            cases hvisit
  | _ => simp [conform] at he

/-- A member that must not be null, and is not left out for being empty, is written in the written form
of its value. -/
theorem writes_iff_of_ofNull {presence : Presence} (hnull : presence.ofNull = none)
    (hempty : presence ≠ .omittable) {shape : Shape} {x : Json} {part : Option Json} :
    Writes presence shape (some x) part ↔ ∃ y, conform shape x = .ok y ∧ part = some y := by
  have hvisit : visitAt presence shape (some x) =
      match conform shape x with
      | .ok y => .given y
      | .error cause => .refused cause := by
    cases x <;> simp [visitAt, hnull]
  unfold Writes
  rw [hvisit]
  cases conform shape x with
  | ok y => simp [Visit.part?, eq_comm, hempty]
  | error cause => simp [Visit.part?]

/-- A member that must not be null is written in the written form of its value. -/
theorem writes_lenient_iff {fallback : Json} {shape : Shape} {x : Json} {part : Option Json} :
    Writes (.lenient fallback) shape (some x) part ↔ ∃ y, conform shape x = .ok y ∧ part = some y :=
  writes_iff_of_ofNull rfl (by nofun)

/-- A member that must not be null is absent and written as its fallback, or it is given. -/
theorem writes_lenient_cases {fallback : Json} {shape : Shape} {found part : Option Json}
    (h : Writes (.lenient fallback) shape found part) :
    part = some fallback ∨ ∃ x y, found = some x ∧ conform shape x = .ok y ∧ part = some y := by
  cases found with
  | none => exact Or.inl (Option.some.inj h).symm
  | some x =>
    obtain ⟨y, hxy, hy⟩ := writes_lenient_iff.1 h
    exact Or.inr ⟨x, y, rfl, hxy, hy⟩

/-- A member with a fallback that must not be null is always written. -/
theorem exists_of_writes_lenient {fallback : Json} {shape : Shape} {found part : Option Json}
    (h : Writes (.lenient fallback) shape found part) : ∃ y, part = some y := by
  rcases writes_lenient_cases h with hpart | ⟨_, y, -, -, hpart⟩
  · exact ⟨fallback, hpart⟩
  · exact ⟨y, hpart⟩

/-- Members with one name are one member. -/
theorem eq_of_fst_eq {fields : List (String × Presence × Shape)}
    (h : fields.Pairwise fun a b => compare a.1 b.1 = .lt) {f g : String × Presence × Shape}
    (hf : f ∈ fields) (hg : g ∈ fields) (hname : f.1 = g.1) : f = g := by
  have hsorted : Assoc.Sorted fields := h
  have hff : Assoc.get? f.1 fields = some f.2 := hsorted.get?_eq_some_iff.2 hf
  have hgg : Assoc.get? g.1 fields = some g.2 := hsorted.get?_eq_some_iff.2 hg
  rw [hname, hgg] at hff
  exact Prod.ext hname (Option.some.inj hff).symm

/-- When one member of an object changes, and is not taken away if it must be given, so does one part
of what the object is written as. -/
theorem exists_conform_of_update_of_noticing {expected : String}
    {fields : List (String × Presence × Shape)} {order : Option (List String)}
    (h : Noticing fields order) {ms ms' : Members} {e : Json}
    (he : conform (.object expected fields order) (.obj ms) = .ok e)
    {member : String × Presence × Shape} (hmember : member ∈ fields) {part : Option Json}
    (hgiven : member.2.1.isDemanded = true → (Assoc.get? member.1 ms').isSome = true)
    (hpart : Writes member.2.1 member.2.2 (Assoc.get? member.1 ms') part)
    (hsame : ∀ f ∈ fields, f.1 ≠ member.1 → Assoc.get? f.1 ms' = Assoc.get? f.1 ms) :
    ∃ e', conform (.object expected fields order) (.obj ms') = .ok e' ∧
      e'.get? member.1 = part ∧ ∀ name, name ≠ member.1 → e'.get? name = e.get? name := by
  obtain ⟨hall, hrecord, hwrites⟩ := (conform_object_iff_of_noticing h ms e).1 he
  -- What the changed object is written as, member by member.
  let parts : List (String × Option Json) :=
    fields.map fun f => (f.1, if f.1 = member.1 then part else e.get? f.1)
  have hlook : ∀ f ∈ fields, (Json.record parts).get? f.1 =
      if f.1 = member.1 then part else e.get? f.1 :=
    List.forall_mem_map.1 (Json.get?_record (List.pairwise_map.2 h.ascending))
  refine ⟨.record parts, (conform_object_iff_of_noticing h ms' _).2 ⟨fun f hf hdemanded => ?_, ?_,
    fun f hf => ?_⟩, ?_, fun name hname => ?_⟩
  · by_cases hf' : f.1 = member.1
    · obtain rfl := eq_of_fst_eq h.ascending hf hmember hf'
      exact hgiven hdemanded
    · rw [hsame f hf hf']
      exact hall f hf hdemanded
  · exact congrArg Json.record (List.map_congr_left fun f hf => by rw [hlook f hf])
  · rw [hlook f hf]
    by_cases hf' : f.1 = member.1
    · obtain rfl := eq_of_fst_eq h.ascending hf hmember hf'
      rwa [if_pos rfl]
    · rw [if_neg hf', hsame f hf hf']
      exact hwrites f hf
  · rw [hlook member hmember, if_pos rfl]
  · by_cases hfield : ∃ f ∈ fields, f.1 = name
    · obtain ⟨f, hf, rfl⟩ := hfield
      rw [hlook f hf, if_neg hname]
    · -- A name that the shape does not list is in neither form.
      have hnone : ∀ parts : List (String × Option Json), parts.map Prod.fst = fields.map Prod.fst →
          (Json.record parts).get? name = none := by
        intro parts hnames
        refine Json.get?_record_of_forall_ne fun p hp heq => hfield ?_
        have hmem : p.1 ∈ fields.map Prod.fst := hnames ▸ List.mem_map.2 ⟨p, hp, rfl⟩
        obtain ⟨f, hf, hfp⟩ := List.mem_map.1 hmem
        exact ⟨f, hf, hfp.trans heq⟩
      rw [hrecord, hnone parts (by simp [parts, Function.comp_def]),
        hnone _ (by simp [Function.comp_def])]

/-- When one member of an object whose members may all be absent changes, so does one part of what the
object is written as. -/
theorem exists_conform_of_update {expected : String} {fields : List (String × Presence × Shape)}
    {order : Option (List String)} (h : AllOptional fields) {ms ms' : Members} {e : Json}
    (he : conform (.object expected fields order) (.obj ms) = .ok e)
    {member : String × Presence × Shape} (hmember : member ∈ fields) {part : Option Json}
    (hpart : Writes member.2.1 member.2.2 (Assoc.get? member.1 ms') part)
    (hsame : ∀ f ∈ fields, f.1 ≠ member.1 → Assoc.get? f.1 ms' = Assoc.get? f.1 ms) :
    ∃ e', conform (.object expected fields order) (.obj ms') = .ok e' ∧
      e'.get? member.1 = part ∧ ∀ name, name ≠ member.1 → e'.get? name = e.get? name := by
  refine exists_conform_of_update_of_noticing (h.noticing order) he hmember (fun hdemanded => ?_) hpart
    hsame
  rw [h.2 member hmember] at hdemanded
  cases hdemanded

/-! ## Plain shapes -/

/-- The member may be absent or null, and is then left out or written with a fallback that is a
value of its shape in written form, with its names in order. -/
def acceptsNull (presence : Presence) (shape : Shape) : Bool :=
  match presence with
  | .nullable => true
  | .filled fallback =>
    fallback.isOrdered && decide (fallback ≠ .null ∧ (conform shape fallback).toOption = some fallback)
  | _ => false

/-- The values of the shape are in written form. -/
def isCopied : Shape → Bool
  | .any | .text | .flag | .integer _ _ _ | .integerOrText | .map .text => true
  | _ => false

mutual

/-- The shape is made of values that are written as they are, points in time in whole seconds, lists,
and objects whose members may all be absent or null. The names of the members are compared by their
bytes, which takes least to compute. -/
def isPlain : Shape → Bool
  | .any | .text | .flag | .integer _ _ _ | .integerOrText | .map .text | .instant false => true
  | .list item => isPlain item
  | .object _ fields none =>
    decide ((fields.map Prod.fst).IsChain fun a b => Text.bytes a < Text.bytes b) && allPlain fields
  | _ => false

/-- The members may all be absent or null, and have plain shapes. -/
def allPlain : List (String × Presence × Shape) → Bool
  | [] => true
  | (_, presence, shape) :: rest => acceptsNull presence shape && (isPlain shape && allPlain rest)

end

theorem allPlain_iff (fields : List (String × Presence × Shape)) :
    allPlain fields = true ↔
      ∀ f ∈ fields, acceptsNull f.2.1 f.2.2 = true ∧ f.2.2.isPlain = true := by
  induction fields with
  | nil => simp [allPlain]
  | cons f rest ih => simp [allPlain, ih, and_assoc]

/-- The members of a plain object: their names ascend, and they may all be absent or null. -/
structure PlainFields (fields : List (String × Presence × Shape)) : Prop where
  ascending : fields.Pairwise fun a b => compare a.1 b.1 = .lt
  acceptsNull : ∀ f ∈ fields, acceptsNull f.2.1 f.2.2 = true

/-- The members of a plain object may all be absent. -/
theorem PlainFields.allOptional {fields : List (String × Presence × Shape)}
    (h : PlainFields fields) : AllOptional fields := by
  refine ⟨h.ascending, fun f hf => ?_⟩
  have hnull := h.acceptsNull f hf
  cases hp : f.2.1 <;> simp_all [Shape.acceptsNull, Presence.isDemanded]

/-- Names of which each comes after the one before it come after all before them. -/
theorem ascending_of_isChain {fields : List (String × Presence × Shape)}
    (h : (fields.map Prod.fst).IsChain fun a b => Text.bytes a < Text.bytes b) :
    fields.Pairwise fun a b => compare a.1 b.1 = .lt := by
  have htrans : Trans (fun a b : String => compare a b = .lt) (fun a b => compare a b = .lt)
      (fun a b => compare a b = .lt) := ⟨Std.TransCmp.lt_trans⟩
  have hchain : (fields.map Prod.fst).IsChain fun a b => compare a b = .lt :=
    h.imp fun _ _ hlt => compare_lt_iff_lt.2 (Text.bytes_lt_iff.1 hlt)
  exact List.pairwise_map.1 (List.isChain_iff_pairwise.1 hchain)

/-- What is to be shown of a property to have it of all plain shapes: that shapes of values that are
written as they are and points in time have it, and lists and objects when their items and members
have it. -/
structure PlainCases (P : Shape → Prop) : Prop where
  copied : ∀ s : Shape, s.isCopied = true → P s
  instant : P (.instant false)
  list : ∀ item, item.isPlain = true → P item → P (.list item)
  object : ∀ expected fields, PlainFields fields →
    (∀ f ∈ fields, f.2.2.isPlain = true ∧ P f.2.2) → P (.object expected fields none)

mutual

/-- Induction over plain shapes. -/
theorem isPlain_induction {P : Shape → Prop} (hP : PlainCases P) :
    ∀ s : Shape, s.isPlain = true → P s
  | .any, _ => hP.copied .any rfl
  | .text, _ => hP.copied .text rfl
  | .flag, _ => hP.copied .flag rfl
  | .integer name low high, _ => hP.copied (.integer name low high) rfl
  | .integerOrText, _ => hP.copied .integerOrText rfl
  | .map .text, _ => hP.copied (.map .text) rfl
  | .instant false, _ => hP.instant
  | .list item, h => hP.list item h (isPlain_induction hP item h)
  | .object expected fields none, h => by
    rw [isPlain, Bool.and_eq_true, decide_eq_true_iff] at h
    have hfields := (allPlain_iff fields).1 h.2
    exact hP.object expected fields ⟨ascending_of_isChain h.1, fun f hf => (hfields f hf).1⟩
      fun f hf => ⟨(hfields f hf).2, isPlain_induction_of_mem hP fields h.2 f hf⟩

theorem isPlain_induction_of_mem {P : Shape → Prop} (hP : PlainCases P) :
    ∀ fields : List (String × Presence × Shape), allPlain fields = true → ∀ f ∈ fields, P f.2.2
  | [], _, _, hf => nomatch hf
  | (_, _, shape) :: rest, h, f, hf => by
    rw [allPlain, Bool.and_eq_true, Bool.and_eq_true] at h
    rcases List.mem_cons.1 hf with rfl | hf
    · exact isPlain_induction hP shape h.2.1
    · exact isPlain_induction_of_mem hP rest h.2.2 f hf

end

/-! ## Inversion -/

/-- The items that a list is written with. -/
theorem eachItem_eq_ok_iff (f : Json → Except DecodeError Json) {xs ys : List Json} :
    eachItem f xs = .ok ys ↔ List.Forall₂ (fun x y => f x = .ok y) xs ys := by
  induction xs generalizing ys with
  | nil => simp [eachItem, eq_comm]
  | cons x xs ih =>
    rw [List.forall₂_cons_left_iff]
    simp only [← ih]
    rw [eachItem]
    cases f x with
    | error cause => simp [bind, Except.bind]
    | ok y => cases eachItem f xs <;> simp [bind, Except.bind, eq_comm]

/-- What corresponds to an item of the right one of two lists. -/
theorem exists_of_mem_right {α β : Type} {R : α → β → Prop} {xs : List α} {ys : List β}
    (h : List.Forall₂ R xs ys) : ∀ {y : β}, y ∈ ys → ∃ x ∈ xs, R x y := by
  induction h with
  | nil => exact fun hy => nomatch hy
  | cons hhd _ ih =>
    intro y hy
    rcases List.mem_cons.1 hy with rfl | hy
    · exact ⟨_, List.mem_cons_self, hhd⟩
    · obtain ⟨x, hx, hxy⟩ := ih hy
      exact ⟨x, List.mem_cons_of_mem _ hx, hxy⟩

/-- The written form of a list. -/
theorem conform_list_iff {item : Shape} {x y : Json} :
    conform (.list item) x = .ok y ↔ ∃ xs ys, x = .arr xs ∧ y = .arr ys ∧
      List.Forall₂ (fun x y => conform item x = .ok y) xs ys := by
  constructor
  · intro h
    cases x with
    | arr xs =>
      rw [conform] at h
      obtain ⟨ys, hys, rfl⟩ := exists_of_map_eq_ok h
      exact ⟨xs, ys, rfl, rfl, (eachItem_eq_ok_iff _).1 hys⟩
    | _ => simp [conform] at h
  · rintro ⟨xs, ys, rfl, rfl, h⟩
    rw [conform, (eachItem_eq_ok_iff _).2 h]
    rfl

/-- Members of which each is in written form are written as they are. -/
theorem eachMember_eq_ok {f : Json → Except DecodeError Json} (hf : ∀ x y, f x = .ok y → y = x) :
    ∀ {ms ms' : Members}, eachMember f ms = .ok ms' → ms' = ms
  | [], ms', h => by
    rw [eachMember] at h
    exact (Except.ok.inj h).symm
  | (name, x) :: rest, ms', h => by
    rw [eachMember] at h
    cases hx : f x with
    | error cause => simp [hx, bind, Except.bind] at h
    | ok y =>
      cases hrest : eachMember f rest with
      | error cause => simp [hx, hrest, bind, Except.bind] at h
      | ok rest' =>
        obtain rfl := hf x y hx
        obtain rfl := eachMember_eq_ok hf hrest
        simpa [hx, hrest, bind, Except.bind] using h.symm

/-- A value of a shape that is written as it is. -/
theorem conform_copied {s : Shape} (hs : s.isCopied = true) {x y : Json} (h : conform s x = .ok y) :
    y = x := by
  cases s with
  | any => exact (Except.ok.inj h).symm
  | text =>
    cases x <;> simp only [conform, reduceCtorEq, Except.ok.injEq] at h
    exact h.symm
  | flag =>
    cases x <;> simp only [conform, reduceCtorEq, Except.ok.injEq] at h
    exact h.symm
  | integer name low high =>
    cases x <;> simp only [conform, reduceCtorEq] at h
    split at h <;> cases h
    rfl
  | integerOrText =>
    cases x <;> simp only [conform, reduceCtorEq, Except.ok.injEq] at h
    · split at h <;> cases h
      rfl
    · exact h.symm
  | map value =>
    cases value with
    | text =>
      cases x <;> simp only [conform, reduceCtorEq] at h
      obtain ⟨ms', hms, rfl⟩ := exists_of_map_eq_ok h
      refine congrArg Json.obj (eachMember_eq_ok (fun x y hxy => ?_) hms)
      cases x <;> simp only [conform, reduceCtorEq, Except.ok.injEq] at hxy
      exact hxy.symm
    | _ => cases hs
  | _ => cases hs

/-- Only a text is a point in time, and it is written in whole seconds. -/
theorem conform_instant {x y : Json} (h : conform (.instant false) x = .ok y) :
    ∃ s t, x = .str s ∧ Timestamp.parse s = .ok t ∧ y = .str t.render := by
  cases x with
  | str s =>
    rw [conform] at h
    split at h
    · rename_i t ht
      exact ⟨s, t, rfl, ht, (Except.ok.inj h).symm⟩
    · cases h
  | _ => simp [conform] at h

/-- A point in time that is written in whole seconds is written as it is. -/
theorem conform_conform_instant {x y : Json} (h : conform (.instant false) x = .ok y) :
    conform (.instant false) y = .ok y := by
  obtain ⟨s, t, rfl, ht, rfl⟩ := conform_instant h
  obtain ⟨t', ht', hrender⟩ := Timestamp.render_of_parse ht
  simp [conform, ht', hrender]

/-- Only an object is a value of the shape of one. -/
theorem conform_object {expected : String} {fields : List (String × Presence × Shape)} {x y : Json}
    (h : conform (.object expected fields none) x = .ok y) : ∃ ms, x = .obj ms := by
  cases x with
  | obj ms => exact ⟨ms, rfl⟩
  | _ => simp [conform] at h

/-- Only a null is written as a null, if at all. -/
theorem eq_null_iff_of_conform {s : Shape} (hs : s.isPlain = true) {x y : Json}
    (h : conform s x = .ok y) : y = .null ↔ x = .null := by
  revert x y
  refine isPlain_induction
    (P := fun s => ∀ {x y : Json}, conform s x = .ok y → (y = .null ↔ x = .null))
    { copied := ?copied, instant := ?instant, list := ?list, object := ?object } s hs
  case copied =>
    intro s hs x y h
    rw [conform_copied hs h]
  case instant =>
    intro x y h
    obtain ⟨text, t, rfl, -, rfl⟩ := conform_instant h
    exact iff_of_false nofun nofun
  case list =>
    intro item _ _ x y h
    obtain ⟨xs, ys, rfl, rfl, -⟩ := conform_list_iff.1 h
    exact iff_of_false nofun nofun
  case object =>
    intro expected fields hfields _ x y h
    obtain ⟨ms, rfl⟩ := conform_object h
    rw [((conform_object_iff hfields.allOptional ms y).1 h).1]
    exact iff_of_false nofun nofun

/-! ## Members of plain objects -/

/-- A member that is absent or null is written as its fallback. -/
theorem writes_fallback {presence : Presence} {shape : Shape} (h : acceptsNull presence shape = true)
    {found : Option Json} (hfound : found = none ∨ found = some .null) :
    Writes presence shape found presence.fallback? := by
  cases presence <;> simp [acceptsNull] at h <;>
    rcases hfound with rfl | rfl <;> rfl

/-- A member that is given is written in the written form of its value. -/
theorem writes_given {presence : Presence} {shape : Shape} (h : acceptsNull presence shape = true)
    {x y : Json} (hx : x ≠ .null) (hxy : conform shape x = .ok y) :
    Writes presence shape (some x) (some y) := by
  have hvisit : visitAt presence shape (some x) = .given y := by
    cases x <;> simp_all [visitAt]
  rw [Writes, hvisit]
  cases presence <;> simp_all [acceptsNull, Visit.part?]

/-- A member is absent or null and written as its fallback, or it is given. -/
theorem writes_cases {presence : Presence} {shape : Shape} (h : acceptsNull presence shape = true)
    {found part : Option Json} (hwrites : Writes presence shape found part) :
    ((found = none ∨ found = some .null) ∧ part = presence.fallback?) ∨
      ∃ x y, found = some x ∧ x ≠ .null ∧ conform shape x = .ok y ∧ part = some y := by
  by_cases hnull : found = none ∨ found = some .null
  · exact Or.inl ⟨hnull, hwrites.unique (writes_fallback h hnull)⟩
  · obtain ⟨x, rfl⟩ := Option.ne_none_iff_exists'.1 fun hnone => hnull (Or.inl hnone)
    have hx : x ≠ .null := fun heq => hnull (Or.inr (congrArg some heq))
    cases hxy : conform shape x with
    | ok y => exact Or.inr ⟨x, y, rfl, hx, hxy, hwrites.unique (writes_given h hx hxy)⟩
    | error cause =>
      have hvisit : visitAt presence shape (some x) = .refused cause := by
        cases x <;> simp_all [visitAt]
      rw [Writes, hvisit] at hwrites
      cases hwrites

/-- What a member is written as when it is absent is not null, ordered, and in written form. -/
theorem conform_fallback {presence : Presence} {shape : Shape}
    (h : acceptsNull presence shape = true) {value : Json} (hvalue : presence.fallback? = some value) :
    value ≠ .null ∧ value.isOrdered = true ∧ conform shape value = .ok value := by
  cases presence with
  | filled fallback =>
    obtain rfl : fallback = value := by simpa [Presence.fallback?] using hvalue
    rw [acceptsNull, Bool.and_eq_true, decide_eq_true_iff] at h
    obtain ⟨hordered, hnull, hwritten⟩ := h
    refine ⟨hnull, hordered, ?_⟩
    cases hc : conform shape fallback with
    | ok y => simpa [hc, Except.toOption] using hwritten
    | error cause => simp [hc, Except.toOption] at hwritten
  | _ => simp_all [acceptsNull, Presence.fallback?]

/-! ## Reading the written form again -/

/-- The written form of a member is written as it is. -/
theorem writes_self {presence : Presence} {shape : Shape} (h : acceptsNull presence shape = true)
    (hshape : shape.isPlain = true)
    (hself : ∀ {x y : Json}, conform shape x = .ok y → conform shape y = .ok y)
    {found part : Option Json} (hwrites : Writes presence shape found part) :
    Writes presence shape part part := by
  rcases writes_cases h hwrites with ⟨-, rfl⟩ | ⟨x, y, rfl, hx, hxy, rfl⟩
  · cases hvalue : presence.fallback? with
    | none => simpa only [hvalue] using writes_fallback h (Or.inl rfl : (none : Option Json) = none ∨ _)
    | some value =>
      obtain ⟨hnull, -, hvalue⟩ := conform_fallback h hvalue
      exact writes_given h hnull hvalue
  · exact writes_given h ((eq_null_iff_of_conform hshape hxy).not.2 hx) (hself hxy)

/-- A value of a plain shape that is in written form is written as it is. -/
theorem conform_conform {s : Shape} (hs : s.isPlain = true) {x y : Json}
    (h : conform s x = .ok y) : conform s y = .ok y := by
  revert x y
  refine isPlain_induction
    (P := fun s => ∀ {x y : Json}, conform s x = .ok y → conform s y = .ok y)
    { copied := ?copied, instant := fun h => conform_conform_instant h, list := ?list,
      object := ?object } s hs
  case copied =>
    intro s hs x y h
    obtain rfl := conform_copied hs h
    exact h
  case list =>
    intro item _ hitem x y h
    obtain ⟨xs, ys, rfl, rfl, hxs⟩ := conform_list_iff.1 h
    refine conform_list_iff.2 ⟨ys, ys, rfl, rfl, List.forall₂_same.2 fun y hy => ?_⟩
    obtain ⟨x, -, hxy⟩ := exists_of_mem_right hxs hy
    exact hitem hxy
  case object =>
    intro expected fields hfields hmembers x y h
    obtain ⟨ms, rfl⟩ := conform_object h
    obtain ⟨hrecord, hwrites⟩ := (conform_object_iff hfields.allOptional ms y).1 h
    obtain ⟨es, rfl⟩ : ∃ es, y = .obj es := ⟨_, hrecord⟩
    refine (conform_object_iff hfields.allOptional es (.obj es)).2 ⟨hrecord, fun f hf => ?_⟩
    exact writes_self (hfields.acceptsNull f hf) (hmembers f hf).1 (hmembers f hf).2 (hwrites f hf)

/-! ## Revising -/

/-- A member that is not taken for absent is given. -/
theorem conform_of_writes {presence : Presence} {shape : Shape} (h : acceptsNull presence shape = true)
    {x y : Json} (hwrites : Writes presence shape (some x) (some y)) (hnull : x = .null → y = .null) :
    x ≠ .null ∧ conform shape x = .ok y := by
  rcases writes_cases h hwrites with ⟨hfound, hfallback⟩ | ⟨x', y', hx, hne, hxy, hy⟩
  · have hx : x = .null := by simpa using hfound
    exact absurd (hnull hx) (conform_fallback h hfallback.symm).1
  · obtain rfl := Option.some.inj hx
    obtain rfl := Option.some.inj hy
    exact ⟨hne, hxy⟩

/-- A member that covers what it is written as is written as the new value when it is revised. -/
theorem writes_revise {presence : Presence} {shape : Shape} (h : acceptsNull presence shape = true)
    {found old new : Option Json} (hold : Writes presence shape found old)
    (hnew : Writes presence shape new new)
    (hcovers : ∀ o, old = some o → ∃ x, found = some x ∧ x.covers o = true)
    (hrevise : ∀ x o n, found = some x → old = some o → new = some n → x.covers o = true →
      conform shape x = .ok o → conform shape n = .ok n → conform shape (x.revise o n) = .ok n) :
    Writes presence shape (Json.reviseMember found old new) new := by
  cases new with
  | none =>
    -- What was not written before stays, be it a null, and what was written is taken out.
    cases old with
    | none => exact hold
    | some o => exact hnew
  | some n =>
    cases old with
    | none => cases found <;> exact hnew
    | some o =>
      obtain ⟨x, rfl, hxo⟩ := hcovers o rfl
      obtain ⟨hn, hnn⟩ := conform_of_writes h hnew id
      -- A null that is there is not what an object with the member has been written from.
      obtain ⟨-, hxy⟩ := conform_of_writes h hold fun hx => Json.eq_null_of_null_covers (hx ▸ hxo)
      exact writes_given h (Json.revise_ne_null x o hn) (hrevise x o n rfl rfl rfl hxo hxy hnn)

/-- Items that cover what they are written as are written as the new ones when they are revised. -/
theorem forall₂_reviseItems {item : Shape}
    (hitem : ∀ x o n : Json, x.isOrdered = true → o.isOrdered = true → n.isOrdered = true →
      x.covers o = true → conform item x = .ok o → conform item n = .ok n →
      conform item (x.revise o n) = .ok n) :
    ∀ {xs olds news : List Json}, (∀ x ∈ xs, x.isOrdered = true) →
      (∀ o ∈ olds, o.isOrdered = true) → (∀ n ∈ news, n.isOrdered = true) →
      Json.coversItems xs olds = true →
      List.Forall₂ (fun x o => conform item x = .ok o) xs olds →
      (∀ n ∈ news, conform item n = .ok n) →
      List.Forall₂ (fun x n => conform item x = .ok n) (Json.reviseItems xs olds news) news
  | _, _, [], _, _, _, _, _, _ => by
    rw [Json.reviseItems]
    exact .nil
  | [], _, n :: news, hxs, _, hn, _, .nil, hnews => by
    rw [Json.reviseItems]
    · have hrest := forall₂_reviseItems hitem hxs hxs
        (fun m hm => hn m (List.mem_cons_of_mem _ hm)) rfl .nil
        fun m hm => hnews m (List.mem_cons_of_mem _ hm)
      exact .cons (hnews n List.mem_cons_self) hrest
    · nofun
  | x :: xs, o :: olds, n :: news, hxs, ho, hn, hc, .cons hhd htl, hnews => by
    rw [Json.coversItems, Bool.and_eq_true] at hc
    have hrest := forall₂_reviseItems hitem (fun m hm => hxs m (List.mem_cons_of_mem _ hm))
      (fun m hm => ho m (List.mem_cons_of_mem _ hm)) (fun m hm => hn m (List.mem_cons_of_mem _ hm))
      hc.2 htl fun m hm => hnews m (List.mem_cons_of_mem _ hm)
    rw [Json.reviseItems]
    exact .cons (hitem x o n (hxs x List.mem_cons_self) (ho o List.mem_cons_self)
      (hn n List.mem_cons_self) hc.1 hhd (hnews n List.mem_cons_self)) hrest

/-- A value that covers its written form is written as the new value when it is revised to one in
written form. -/
theorem conform_revise {s : Shape} (hs : s.isPlain = true) {x o n : Json} (hx : x.isOrdered = true)
    (ho : o.isOrdered = true) (hn : n.isOrdered = true) (hc : x.covers o = true)
    (hxo : conform s x = .ok o) (hnn : conform s n = .ok n) : conform s (x.revise o n) = .ok n := by
  revert x o n
  refine isPlain_induction (P := fun s => ∀ {x o n : Json}, x.isOrdered = true →
    o.isOrdered = true → n.isOrdered = true → x.covers o = true → conform s x = .ok o →
    conform s n = .ok n → conform s (x.revise o n) = .ok n)
    { copied := ?copied, instant := ?instant, list := ?list, object := ?object } s hs
  case copied =>
    intro s hs x o n hx _ hn _ hxo hnn
    obtain rfl := conform_copied hs hxo
    rw [Json.revise_self hx hn]
    exact hnn
  case instant =>
    intro x o n _ _ _ _ _ hnn
    obtain ⟨text, t, rfl, -⟩ := conform_instant hnn
    have hnew : x.revise o (.str text) = .str text := by simp [Json.revise]
    rw [hnew]
    exact hnn
  case list =>
    intro item _ hitem x o n hx ho hn hc hxo hnn
    obtain ⟨xs, olds, rfl, rfl, hxs⟩ := conform_list_iff.1 hxo
    obtain ⟨news, news', rfl, heq, hnews⟩ := conform_list_iff.1 hnn
    obtain rfl := Json.arr.inj heq
    rw [Json.isOrdered_arr_iff] at hx ho hn
    rw [Json.covers] at hc
    rw [Json.revise]
    exact conform_list_iff.2 ⟨_, _, rfl, rfl, forall₂_reviseItems (fun _ _ _ => hitem) hx ho hn hc hxs
      (List.forall₂_same.1 hnews)⟩
  case object =>
    intro expected fields hfields hmembers x o n hx ho hn hc hxo hnn
    obtain ⟨ms, rfl⟩ := conform_object hxo
    obtain ⟨news, rfl⟩ := conform_object hnn
    obtain ⟨holds, hwrites⟩ := (conform_object_iff hfields.allOptional ms o).1 hxo
    obtain ⟨hrecord, hself⟩ := (conform_object_iff hfields.allOptional news _).1 hnn
    obtain ⟨olds, rfl⟩ : ∃ olds, o = .obj olds := ⟨_, holds⟩
    obtain ⟨ms', hms'⟩ : ∃ ms', (Json.obj ms).revise (.obj olds) (.obj news) = .obj ms' :=
      ⟨_, by rw [Json.revise]⟩
    -- Each member of the revised object is written as that of the new one.
    rw [hms']
    refine (conform_object_iff hfields.allOptional ms' _).2 ⟨hrecord, fun f hf => ?_⟩
    have hfound : Assoc.get? f.1 ms' = ((Json.obj ms).revise (.obj olds) (.obj news)).get? f.1 := by
      rw [hms', Json.get?]
    rw [hfound, Json.get?_revise_obj (Json.sorted_of_isOrdered hn)]
    refine writes_revise (hfields.acceptsNull f hf) (hwrites f hf) (hself f hf) ?_ ?_
    · intro o hfound
      rw [Json.covers] at hc
      exact Json.exists_of_coversMembers hc
        ((Json.sorted_of_isOrdered ho).get?_eq_some_iff.1 hfound)
    · intro x o n hxf hof hnf hc hxo hnn
      exact (hmembers f hf).2 (Json.isOrdered_of_get? hx hxf) (Json.isOrdered_of_get? ho hof)
        (Json.isOrdered_of_get? hn hnf) hc hxo hnn

end Shape

end WorkloadBindings
