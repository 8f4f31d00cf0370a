import WorkloadBindings.Binding.Status
import WorkloadBindings.Proofs.Json.Merge
import WorkloadBindings.Proofs.Json.Written

/-!
# Status of bindings, recorded and read again

Recording the same observation again changes nothing, not even the time of the last change
(`BindingStatus.setReady_setReady`), and there is a `Ready` condition from the first record on. A status
with conditions that is merged into the one before is read again as it was written
(`BindingStatus.exists_conform_merge`), unless it leaves out a generation that was there: a merge patch
does not clear what it leaves out.
-/

namespace WorkloadBindings

namespace Shape

/-- A member that may be absent or null is left out when it is. -/
theorem writes_elective_none_iff {shape : Shape} {found : Option Json} :
    Writes .elective shape found none ↔ found = none ∨ found = some .null := by
  constructor
  · intro h
    cases found with
    | none => exact Or.inl rfl
    | some x =>
      by_cases hx : x = .null
      · exact Or.inr (congrArg some hx)
      · rw [Writes, visitAt_of_ne_null hx] at h
        cases hx' : conform shape x <;> simp [hx', Visit.part?] at h
  · rintro (rfl | rfl) <;> rfl

/-- A member that may be absent or null is given when it is written. -/
theorem exists_of_writes_elective {shape : Shape} {found : Option Json} {y : Json}
    (h : Writes .elective shape found (some y)) : ∃ x, conform shape x = .ok y := by
  cases found with
  | none => cases h
  | some x =>
    refine ⟨x, ?_⟩
    by_cases hx : x = .null
    · subst hx
      cases h
    · rw [Writes, visitAt_of_ne_null hx] at h
      cases hx' : conform shape x <;> simp [hx', Visit.part?] at h
      exact congrArg Except.ok h

end Shape

/-! ## Conditions -/

/-- The value of a condition is written with its own word. -/
theorem ConditionStatus.conform_name (status : ConditionStatus) :
    (Shape.choice (ConditionStatus.all.map ConditionStatus.name)).conform (.str status.name) =
      .ok (.str status.name) := by
  cases status <;> rfl

namespace Condition

/-- The names of the members of a condition, in ascending order. -/
def names : List String := ["lastTransitionTime", "message", "reason", "status", "type"]

theorem ascending_names : names.Pairwise fun a b => compare a b = .lt := by decide

/-- A condition that was written is in written form. -/
theorem conform_toJson (c : Condition) : shape.conform c.toJson = .ok c.toJson := by
  have htext : ∀ text : Option String, Shape.Stays .elective .text (text.map .str) :=
    Shape.stays_map nofun fun _ => rfl
  refine Shape.conform_record ⟨by decide, by decide⟩ rfl ?_
  exact .cons (htext _) (.cons (htext _) (.cons (htext _)
    (.cons (Shape.stays_some nofun nofun c.status.conform_name)
      (.cons (Shape.stays_some nofun nofun rfl) .nil))))

/-- A condition that was written is read as it was. -/
theorem ofJson_toJson (c : Condition) : ofJson c.toJson = c := by
  have hparts := Json.get?_of_eq_record (rfl : c.toJson = .record _) ascending_names rfl
  simp only [List.forall_mem_cons] at hparts
  obtain ⟨htime, hmessage, hreason, hstatus, htype, -⟩ := hparts
  have hword : ConditionStatus.ofName? c.status.name = some c.status := by
    cases c.status <;> rfl
  simp only [ofJson, htime, hmessage, hreason, hstatus, htype, Shape.bind_str?, Option.bind_some,
    Json.str?, hword, Option.getD_some]

end Condition

namespace BindingStatus

variable (status : ConditionStatus) (reason message : Option String) (now later : Timestamp)

/-- Updating a condition in the same way again changes nothing. -/
theorem update_update (c : Condition) :
    Condition.update (Condition.update c status reason message now) status reason message later =
      Condition.update c status reason message now := by
  simp [Condition.update]

/-- Recording the same observation again changes nothing. -/
theorem setReady_setReady (cs : List Condition) :
    setReady status reason message later (setReady status reason message now cs) =
      setReady status reason message now cs := by
  induction cs with
  | nil => simp [setReady, Condition.update]
  | cons c rest ih =>
    by_cases h : c.type = readyType
    · have htype : (Condition.update c status reason message now).type = readyType := h
      rw [setReady, if_pos h, setReady, if_pos htype, update_update]
    · rw [setReady, if_neg h, setReady, if_neg h, ih]

/-- The `Ready` condition of a status has this value, this reason and this message. -/
def Tells (s : BindingStatus) (status : ConditionStatus) (reason message : Option String) : Prop :=
  ∃ c, s.ready? = some c ∧ c.status = status ∧ c.reason = reason ∧ c.message = message

/-- An observation that was recorded is told. -/
theorem tells_setReady (s : BindingStatus) :
    Tells { s with conditions := setReady status reason message now s.conditions } status reason
      message := by
  unfold Tells ready?
  simp only
  generalize s.conditions = cs
  induction cs with
  | nil => exact ⟨_, rfl, rfl, rfl, rfl⟩
  | cons c rest ih =>
    by_cases h : c.type = readyType
    · refine ⟨Condition.update c status reason message now, ?_, rfl, rfl, rfl⟩
      rw [setReady, if_pos h]
      exact List.find?_cons_of_pos (beq_iff_eq.2 h)
    · rw [setReady, if_neg h, List.find?_cons_of_neg (by simpa using h)]
      exact ih

/-- There is a `Ready` condition once an observation was recorded. -/
theorem isSome_find?_setReady (cs : List Condition) :
    ((setReady status reason message now cs).find? fun c => c.type == readyType).isSome = true := by
  obtain ⟨c, hready, -⟩ := tells_setReady status reason message now { conditions := cs }
  exact Option.isSome_iff_exists.2 ⟨c, hready⟩

/-- A status with a `Ready` condition has conditions. -/
theorem conditions_ne_nil {s : BindingStatus} (h : s.ready?.isSome = true) : s.conditions ≠ [] := by
  intro hnil
  rw [ready?, hnil] at h
  cases h

/-- There is a `Ready` condition in a prepared status. -/
theorem isSome_ready?_prepare (s : BindingStatus) : (s.prepare now).ready?.isSome = true := by
  unfold prepare
  split
  · rename_i c hready
    rw [hready]
    rfl
  · simp [ready?]

/-- A status with a `Ready` condition needs no preparation. -/
theorem prepare_of_ready {s : BindingStatus} (h : s.ready?.isSome = true) : s.prepare now = s := by
  obtain ⟨c, hready⟩ := Option.isSome_iff_exists.1 h
  rw [prepare, hready]

/-- Preparing a status leaves the generation. -/
theorem observedGeneration_prepare (s : BindingStatus) :
    (s.prepare now).observedGeneration = s.observedGeneration := by
  unfold prepare
  split <;> rfl

/-! ## Written and read again -/

/-- The generation of a status fits its place. -/
def Fits (s : BindingStatus) : Prop :=
  ∀ n, s.observedGeneration = some n → Shape.int64.conform (.int n) = .ok (.int n)

/-- The names of the members of a status, in ascending order. -/
def names : List String := ["conditions", "observedGeneration"]

theorem ascending_names : names.Pairwise fun a b => compare a b = .lt := by decide

/-- The members of a status. -/
def fields : List (String × Presence × Shape) :=
  [("conditions", .omittable, .list Condition.shape), ("observedGeneration", .elective, Shape.int64)]

theorem allOptional_fields : Shape.AllOptional fields := by
  unfold Shape.AllOptional
  decide

/-- The parts of a status that has conditions. -/
theorem get?_toJson {s : BindingStatus} (h : s.conditions ≠ []) :
    s.toJson.get? "conditions" = some (.arr (s.conditions.map Condition.toJson)) ∧
      s.toJson.get? "observedGeneration" = s.observedGeneration.map .int := by
  have hparts := Json.get?_of_eq_record (rfl : s.toJson = .record _) ascending_names rfl
  simp only [List.forall_mem_cons] at hparts
  rw [if_neg (by simpa using h)] at hparts
  exact ⟨hparts.1, hparts.2.1⟩

/-- A status that has conditions is read from members that hold its parts, a null in place of a
generation that is absent. -/
theorem exists_conform_of_get? {s : BindingStatus} (hconditions : s.conditions ≠ []) (hfits : s.Fits)
    {ms : Members}
    (hms : Assoc.get? "conditions" ms = some (.arr (s.conditions.map Condition.toJson)))
    (hgeneration : Assoc.get? "observedGeneration" ms = s.observedGeneration.map .int ∨
      s.observedGeneration = none ∧ Assoc.get? "observedGeneration" ms = some .null) :
    ∃ e, shape.conform (.obj ms) = .ok e ∧ ofJson e = s := by
  obtain ⟨hfound, hfound'⟩ := get?_toJson hconditions
  have hlist : Shape.Writes .omittable (.list Condition.shape)
      (some (.arr (s.conditions.map Condition.toJson)))
      (some (.arr (s.conditions.map Condition.toJson))) := by
    have hconform := Shape.conform_arr_map Condition.conform_toJson s.conditions
    simp [Shape.Writes, Shape.visitAt, hconform, Shape.Visit.part?, hconditions]
  have hint : Shape.Writes .elective Shape.int64 (Assoc.get? "observedGeneration" ms)
      (s.observedGeneration.map .int) := by
    rcases hgeneration with hgeneration | ⟨hnone, hnull⟩
    · rw [hgeneration]
      cases hvalue : s.observedGeneration with
      | none => rfl
      | some n =>
        simp [Shape.Writes, Shape.visitAt, hfits n hvalue, Shape.Visit.part?]
    · rw [hnull, hnone]
      rfl
  refine ⟨s.toJson, (Shape.conform_object_iff allOptional_fields ms _).2 ⟨?_, ?_⟩, ?_⟩
  · simp only [fields, List.map_cons, List.map_nil, hfound, hfound']
    simp [toJson, hconditions]
  · simp only [fields, List.forall_mem_cons, hfound, hfound', hms]
    exact ⟨hlist, hint, fun _ h => absurd h List.not_mem_nil⟩
  · rw [ofJson, hfound, hfound', Shape.bind_int?, Option.map_some, Option.getD_some,
      Shape.items_map_ofJson Condition.ofJson_toJson]

/-- The generation of a status that was read fits its place. -/
theorem fits_ofJson {x e : Json} (h : shape.conform x = .ok e) : (ofJson e).Fits := by
  intro n hn
  obtain ⟨ms, -, hwrites⟩ := Shape.exists_members allOptional_fields h
  have hgeneration := hwrites _ (List.mem_cons_of_mem _ List.mem_cons_self)
  obtain ⟨y, hy, hyn⟩ := Option.bind_eq_some_iff.1 hn
  simp only [hy] at hgeneration
  obtain ⟨z, hz⟩ := Shape.exists_of_writes_elective hgeneration
  obtain rfl := Shape.conform_copied rfl hz
  obtain ⟨m, rfl⟩ : ∃ m, y = .int m := by
    cases y with
    | int m => exact ⟨m, rfl⟩
    | _ => cases hyn
  obtain rfl := Option.some.inj hyn
  exact hz

/-- Where a status was read that has no generation, there is none, or a null. -/
theorem get?_members_of_writes {found part : Option Json}
    (h : Shape.Writes .nullable shape found part)
    (hnone : ((part.map ofJson).getD {}).observedGeneration = none) :
    Assoc.get? "observedGeneration" (found.getD .null).members = none ∨
      Assoc.get? "observedGeneration" (found.getD .null).members = some .null := by
  rcases Shape.writes_cases rfl h with ⟨rfl | rfl, -⟩ | ⟨x, e, rfl, -, hconform, rfl⟩
  · exact Or.inl rfl
  · exact Or.inl rfl
  · cases x with
    | obj ms =>
      have hwrites : Shape.Writes .elective Shape.int64 (Assoc.get? "observedGeneration" ms)
          (e.get? "observedGeneration") :=
        ((Shape.conform_object_iff allOptional_fields ms e).1 hconform).2 _
          (List.mem_cons_of_mem _ List.mem_cons_self)
      cases hvalue : e.get? "observedGeneration" with
      | none => exact Shape.writes_elective_none_iff.1 (hvalue ▸ hwrites)
      | some y =>
        -- What was read as a generation is an integer.
        rw [hvalue] at hwrites
        obtain ⟨z, hz⟩ := Shape.exists_of_writes_elective hwrites
        obtain rfl := Shape.conform_copied rfl hz
        simp only [Option.map_some, Option.getD_some, ofJson, hvalue, Option.bind_some] at hnone
        cases y with
        | int n => cases hnone
        | _ => cases hz
    | _ => exact Or.inl rfl

/-- A member for a status that is merged with what is there is read as the status, unless it leaves out
a generation that was read before. -/
theorem exists_conform_merge {s : BindingStatus} (hconditions : s.conditions ≠ []) (hfits : s.Fits)
    {found part : Option Json} (hfound : Shape.Writes .nullable shape found part)
    (hkeeps : s.observedGeneration = none →
      ((part.map ofJson).getD {}).observedGeneration = none) :
    ∃ e, shape.conform (Json.merge (found.getD .null) s.toJson) = .ok e ∧ ofJson e = s := by
  obtain ⟨hlist, hint⟩ := get?_toJson hconditions
  obtain ⟨changes, hchanges⟩ : ∃ changes, s.toJson = .obj changes := ⟨_, rfl⟩
  have hsorted : Assoc.Sorted changes := by
    have h := Json.sorted_filterMap (Json.ascending_of_names ascending_names (rfl :
      [("conditions", if s.conditions.isEmpty then none
          else some (Json.arr (s.conditions.map Condition.toJson))),
        ("observedGeneration", s.observedGeneration.map Json.int)].map Prod.fst = names))
    rw [toJson, Json.record] at hchanges
    rwa [Json.obj.inj hchanges] at h
  have hlook : ∀ name, Assoc.get? name changes = s.toJson.get? name := fun name => by
    rw [hchanges, Json.get?]
  rw [hchanges, Json.merge]
  refine exists_conform_of_get? hconditions hfits ?_ ?_
  · rw [Json.get?_mergeMembers hsorted, hlook, hlist]
    rfl
  · rw [Json.get?_mergeMembers hsorted, hlook, hint]
    cases hvalue : s.observedGeneration with
    | some n => exact Or.inl rfl
    | none =>
      -- What is left out stays, and that was no generation.
      rcases get?_members_of_writes hfound (hkeeps hvalue) with hnone | hnull
      · exact Or.inl hnone
      · exact Or.inr ⟨rfl, hnull⟩

end BindingStatus

end WorkloadBindings
