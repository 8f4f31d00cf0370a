import WorkloadBindings.Binding.Spec
import WorkloadBindings.Proofs.Binding.Status
import WorkloadBindings.Proofs.Workload.Written

/-!
# What bindings hold, written and read again

Selectors, references, specifications and statuses are read as they were written, part by part from
the small types up: what was not given is left out and read as not given, and what was given empty is
kept. What was read can therefore be written and read any number of times
(`bindings_roundTrip`), whatever the first value looked like: lists that stand for objects,
nulls, members that no shape knows, and sets with repetitions.
-/

namespace WorkloadBindings

/-- The values that fit are read as they were written, and no others are ever read. -/
structure RoundTrips {α : Type} (decode : Json → Except DecodeError α) (toJson : α → Json)
    (fits : α → Prop) : Prop where
  /-- Writing loses nothing. -/
  decode_toJson : ∀ a, fits a → decode (toJson a) = .ok a
  /-- What was read fits. -/
  fits_of_decode : ∀ j a, decode j = .ok a → fits a
  /-- What was read is read again from what it is written as. -/
  decode_again : ∀ j a, decode j = .ok a → decode (toJson a) = .ok a

/-- A type whose values that fit are written in written form, and are read as they were. -/
theorem RoundTrips.of_conform {α : Type} {shape : Shape} {ofJson : Json → α} {toJson : α → Json}
    {fits : α → Prop} (hwritten : ∀ a, fits a → shape.conform (toJson a) = .ok (toJson a))
    (hread : ∀ a, ofJson (toJson a) = a) (hfits : ∀ {j e}, shape.conform j = .ok e → fits (ofJson e)) :
    RoundTrips (fun j => (shape.conform j).map ofJson) toJson fits := by
  have hdecode : ∀ a, fits a → (shape.conform (toJson a)).map ofJson = .ok a := fun a ha => by
    rw [hwritten a ha, Except.map, hread]
  have hrange : ∀ j a, (shape.conform j).map ofJson = .ok a → fits a := fun j a h => by
    obtain ⟨e, he, rfl⟩ := exists_of_map_eq_ok h
    exact hfits he
  exact ⟨hdecode, hrange, fun j a h => hdecode a (hrange j a h)⟩

/-- A type whose values are all written in written form, and are read as they were. -/
theorem RoundTrips.of_conform_all {α : Type} {shape : Shape} {ofJson : Json → α}
    {toJson : α → Json} (hwritten : ∀ a, shape.conform (toJson a) = .ok (toJson a))
    (hread : ∀ a, ofJson (toJson a) = a) :
    RoundTrips (fun j => (shape.conform j).map ofJson) toJson fun _ => True :=
  .of_conform (fun a _ => hwritten a) hread fun _ => trivial

namespace Shape

/-- A text stays as it is where it must be given. -/
theorem stays_text (s : String) : Stays .required .text (some (.str s)) :=
  stays_some nofun nofun rfl

/-- A text stays as it is where it may be left out. -/
theorem stays_text? (s : Option String) : Stays .elective .text (s.map .str) :=
  stays_map nofun (fun _ => rfl) s

/-- The texts of a list of texts. -/
theorem textItems_map_str (ss : List String) : textItems (ss.map .str) = .ok ss := by
  induction ss with
  | nil => rfl
  | cons s ss ih => rw [List.map_cons, textItems, ih, Except.map]

/-- The members of a set, in order, stay as they are. -/
theorem conform_strings (s : SortedSet String) :
    textSet.conform (.strings s.toList) = .ok (.strings s.toList) := by
  rw [Json.strings, conform, textItems_map_str, Except.map, SortedSet.ofList_toList, Json.strings]

/-- An object of texts stays as it is. -/
theorem conform_texts_self (entries : List (String × String)) :
    (map .text).conform (.texts entries) = .ok (.texts entries) := by
  have hmembers : ∀ es : List (String × String),
      eachMember (conform .text) (es.map fun e => (e.1, .str e.2)) =
        .ok (es.map fun e => (e.1, .str e.2)) := by
    intro es
    induction es with
    | nil => rfl
    | cons e es ih =>
      rw [List.map_cons, eachMember, conform, ih]
      rfl
  rw [Json.texts, conform, hmembers, Except.map]

end Shape

/-! ## Selectors -/

namespace Operator

/-- An operator is found by its name. -/
theorem ofName?_name (o : Operator) : ofName? o.name = some o := by cases o <;> rfl

/-- An operator is written with its own name. -/
theorem conform_name (o : Operator) :
    (Shape.choice (all.map name)).conform (.str o.name) = .ok (.str o.name) := by
  cases o <;> rfl

end Operator

namespace Requirement

/-- The values of a requirement are left out only when there are none. -/
theorem stays_values (r : Requirement) : Shape.Stays .omittable .textSet
    (if r.values.size = 0 then none else some (.strings r.values.toList)) := by
  by_cases h : r.values.size = 0
  · rw [if_pos h]
    exact Shape.stays_none rfl rfl
  · rw [if_neg h]
    refine Shape.stays_some nofun (fun _ hempty => h ?_) (Shape.conform_strings r.values)
    rw [Json.strings, Json.arr.injEq, List.map_eq_nil_iff, SortedSet.toList,
      List.map_eq_nil_iff] at hempty
    rw [SortedMap.size, hempty, List.length_nil]

/-- A requirement that was written is in written form. -/
theorem conform_toJson (r : Requirement) : shape.conform r.toJson = .ok r.toJson := by
  refine Shape.conform_record ⟨by decide, by decide⟩ rfl ?_
  exact .cons (Shape.stays_text _) (.cons (Shape.stays_some nofun nofun r.operator.conform_name)
    (.cons r.stays_values .nil))

/-- The values of a requirement are read as they were written, and none when they were left out. -/
theorem ofList_values (values : SortedSet String) :
    SortedSet.ofList (((if values.size = 0 then none else some (Json.strings values.toList)).map
      Json.items).getD [] |>.filterMap Json.str?) = values := by
  by_cases h : values.size = 0
  · have hempty : values = SortedMap.empty :=
      SortedMap.ext_get? fun k => by rw [SortedMap.get?, List.eq_nil_of_length_eq_zero h]; rfl
    rw [if_pos h, hempty]
    rfl
  · rw [if_neg h, Option.map_some, Option.getD_some, Shape.filterMap_strings, SortedSet.ofList_toList]

/-- A requirement that was written is read as it was. -/
theorem ofJson_toJson (r : Requirement) : ofJson r.toJson = r := by
  have hparts := Json.get?_of_eq_record (rfl : r.toJson = .record _)
    (by decide : ["key", "operator", "values"].Pairwise fun a b => compare a b = .lt) rfl
  simp only [List.forall_mem_cons] at hparts
  obtain ⟨hkey, hoperator, hvalues, -⟩ := hparts
  rw [ofJson, hkey, hoperator, hvalues, ofList_values]
  simp only [Option.bind_some, Json.str?, Operator.ofName?_name, Option.getD_some]

end Requirement

namespace Selector

/-- A selector that was written is in written form. -/
theorem conform_toJson (s : Selector) : shape.conform s.toJson = .ok s.toJson := by
  refine Shape.conform_record ⟨by decide, by decide⟩ rfl ?_
  exact .cons (Shape.stays_map nofun (Shape.conform_arr_map Requirement.conform_toJson) _)
    (.cons (Shape.stays_map nofun (fun l : Labels => Shape.conform_texts_self l.entries) _) .nil)

/-- A selector that was written is read as it was. -/
theorem ofJson_toJson (s : Selector) : ofJson s.toJson = s := by
  have hparts := Json.get?_of_eq_record (rfl : s.toJson = .record _)
    (by decide : ["matchExpressions", "matchLabels"].Pairwise fun a b => compare a b = .lt) rfl
  simp only [List.forall_mem_cons] at hparts
  obtain ⟨hexpressions, hlabels, -⟩ := hparts
  rw [ofJson, hlabels, hexpressions, Shape.map_ofJson Labels.ofJson_toJson,
    Shape.map_items_ofJson Requirement.ofJson_toJson]

end Selector

/-! ## References and specifications -/

namespace SubjectRef

/-- A reference that was written is in written form. -/
theorem conform_toJson (r : SubjectRef) : shape.conform r.toJson = .ok r.toJson := by
  refine Shape.conform_record ⟨by decide, by decide⟩ rfl ?_
  exact .cons (Shape.stays_text _) (.cons (Shape.stays_text _) (.cons (Shape.stays_text? _)
    (.cons (Shape.stays_text? _) (.cons (Shape.stays_map nofun Selector.conform_toJson _) .nil))))

/-- A reference that was written is read as it was. -/
theorem ofJson_toJson (r : SubjectRef) : ofJson r.toJson = r := by
  have hparts := Json.get?_of_eq_record (rfl : r.toJson = .record _)
    (by decide : ["apiVersion", "kind", "name", "namespace", "selector"].Pairwise
      fun a b => compare a b = .lt) rfl
  simp only [List.forall_mem_cons] at hparts
  obtain ⟨hversion, hkind, hname, hnamespace, hselector, -⟩ := hparts
  rw [ofJson, hversion, hkind, hname, hnamespace, hselector, Shape.bind_str?, Shape.bind_str?,
    Shape.map_ofJson Selector.ofJson_toJson]
  rfl

/-- A reference stays as it is where it must be given. -/
theorem stays (r : SubjectRef) : Shape.Stays .required shape (some r.toJson) :=
  Shape.stays_some nofun nofun r.conform_toJson

end SubjectRef

namespace SecretBindingSpec

/-- The name of a secret that was written is in written form. -/
theorem conform_secret (name : String) :
    (Shape.declared "SecretRef" ["name"] [("name", .required, .text)]).conform
      (.obj [("name", .str name)]) = .ok (.obj [("name", .str name)]) := by
  have hrecord : Json.obj [("name", .str name)] = .record [("name", some (.str name))] := rfl
  rw [hrecord]
  exact Shape.conform_record ⟨by decide, by decide⟩ rfl (.cons (Shape.stays_text name) .nil)

/-- A specification that was written is in written form. -/
theorem conform_toJson (s : SecretBindingSpec) : shape.conform s.toJson = .ok s.toJson := by
  refine Shape.conform_record ⟨by decide, by decide⟩ rfl ?_
  exact .cons (Shape.stays_text? _) (.cons (Shape.stays_some nofun nofun (conform_secret s.secret))
    (.cons s.subject.stays .nil))

/-- A specification that was written is read as it was. -/
theorem ofJson_toJson (s : SecretBindingSpec) : ofJson s.toJson = s := by
  have hparts := Json.get?_of_eq_record (rfl : s.toJson = .record _)
    (by decide : ["mountPath", "secret", "subject"].Pairwise fun a b => compare a b = .lt) rfl
  simp only [List.forall_mem_cons] at hparts
  obtain ⟨hpath, hsecret, hsubject, -⟩ := hparts
  rw [ofJson, hpath, hsecret, hsubject, Shape.bind_str?, Option.getD_some, SubjectRef.ofJson_toJson]
  rfl

end SecretBindingSpec

namespace EnvEntry

/-- A variable that was written is in written form. -/
theorem conform_toJson (e : EnvEntry) : shape.conform e.toJson = .ok e.toJson := by
  have hrecord : e.toJson = .record [("name", some (.str e.name)), ("value", some (.str e.value))] :=
    rfl
  rw [hrecord]
  exact Shape.conform_record ⟨by decide, by decide⟩ rfl
    (.cons (Shape.stays_text _) (.cons (Shape.stays_some nofun nofun rfl) .nil))

/-- A variable that was written is read as it was. -/
theorem ofJson_toJson (e : EnvEntry) : ofJson e.toJson = e := rfl

end EnvEntry

namespace EnvBindingSpec

/-- The parts of a specification are always given. -/
theorem toJson_eq_record (s : EnvBindingSpec) : s.toJson =
    .record [("env", some (.arr (s.env.map EnvEntry.toJson))), ("subject", some s.subject.toJson)] :=
  rfl

/-- A specification that was written is in written form. -/
theorem conform_toJson (s : EnvBindingSpec) : shape.conform s.toJson = .ok s.toJson := by
  rw [toJson_eq_record]
  exact Shape.conform_record ⟨by decide, by decide⟩ rfl
    (.cons (Shape.stays_some nofun nofun (Shape.conform_arr_map EnvEntry.conform_toJson s.env))
      (.cons s.subject.stays .nil))

/-- A specification that was written is read as it was. -/
theorem ofJson_toJson (s : EnvBindingSpec) : ofJson s.toJson = s := by
  have hparts := Json.get?_of_eq_record s.toJson_eq_record
    (by decide : ["env", "subject"].Pairwise fun a b => compare a b = .lt) rfl
  simp only [List.forall_mem_cons] at hparts
  obtain ⟨henv, hsubject, -⟩ := hparts
  rw [ofJson, henv, hsubject, Option.map_some, Option.getD_some, Option.getD_some,
    SubjectRef.ofJson_toJson, Shape.items_map_ofJson EnvEntry.ofJson_toJson]

end EnvBindingSpec

/-! ## Statuses -/

namespace BindingStatus

/-- The generation of a status is a 64-bit integer. -/
def InRange (s : BindingStatus) : Prop :=
  ∀ n, s.observedGeneration = some n → -9223372036854775808 ≤ n ∧ n ≤ 9223372036854775807

/-- A generation fits its place when it is a 64-bit integer. -/
theorem fits_iff (s : BindingStatus) : s.Fits ↔ s.InRange := by
  refine forall₂_congr fun n _ => ?_
  rw [Shape.int64, Shape.conform]
  constructor
  · intro h
    split at h
    · omega
    · cases h
  · intro h
    rw [if_pos (by omega)]

/-- A status that fits is in written form when it was written. -/
theorem conform_toJson {s : BindingStatus} (h : s.Fits) : shape.conform s.toJson = .ok s.toJson := by
  have hconditions : Shape.Stays .omittable (.list Condition.shape) (if s.conditions.isEmpty then none
      else some (.arr (s.conditions.map Condition.toJson))) := by
    cases hcs : s.conditions with
    | nil => exact Shape.stays_none rfl rfl
    | cons c cs =>
      exact Shape.stays_some nofun nofun (Shape.conform_arr_map Condition.conform_toJson (c :: cs))
  have hgeneration : Shape.Stays .elective Shape.int64 (s.observedGeneration.map .int) := by
    cases hn : s.observedGeneration with
    | none => exact Shape.stays_none rfl rfl
    | some n => exact Shape.stays_some nofun nofun (h n hn)
  exact Shape.conform_record ⟨by decide, by decide⟩ rfl (.cons hconditions (.cons hgeneration .nil))

/-- A status that was written is read as it was, also when it has no conditions. -/
theorem ofJson_toJson (s : BindingStatus) : ofJson s.toJson = s := by
  have hparts := Json.get?_of_eq_record (rfl : s.toJson = .record _) ascending_names rfl
  simp only [List.forall_mem_cons] at hparts
  obtain ⟨hconditions, hgeneration, -⟩ := hparts
  rw [ofJson, hconditions, hgeneration, Shape.bind_int?]
  obtain ⟨generation, cs⟩ := s
  cases cs with
  | nil => rfl
  | cons c cs =>
    simp only [List.isEmpty_cons, Bool.false_eq_true, if_false, Option.map_some, Option.getD_some,
      Shape.items_map_ofJson Condition.ofJson_toJson]

end BindingStatus

/-- Whatever a binding holds is read as it was written: selectors with any requirements, references,
the specifications of both kinds, and statuses with any conditions, whose generation is a 64-bit
integer. What was read, from whatever value, is read again from what it is written as. -/
theorem bindings_roundTrip :
    RoundTrips Selector.decode Selector.toJson (fun _ => True) ∧
    RoundTrips SubjectRef.decode SubjectRef.toJson (fun _ => True) ∧
    RoundTrips SecretBindingSpec.decode SecretBindingSpec.toJson (fun _ => True) ∧
    RoundTrips EnvBindingSpec.decode EnvBindingSpec.toJson (fun _ => True) ∧
    RoundTrips BindingStatus.decode BindingStatus.toJson BindingStatus.InRange := by
  refine ⟨?selector, ?reference, ?secret, ?env, ?status⟩
  case selector => exact .of_conform_all Selector.conform_toJson Selector.ofJson_toJson
  case reference => exact .of_conform_all SubjectRef.conform_toJson SubjectRef.ofJson_toJson
  case secret =>
    exact .of_conform_all SecretBindingSpec.conform_toJson SecretBindingSpec.ofJson_toJson
  case env => exact .of_conform_all EnvBindingSpec.conform_toJson EnvBindingSpec.ofJson_toJson
  case status =>
    exact .of_conform (fun s h => BindingStatus.conform_toJson (s.fits_iff.2 h))
      BindingStatus.ofJson_toJson fun h => (BindingStatus.fits_iff _).1 (BindingStatus.fits_ofJson h)

/-- What was given empty is told from what was not given. -/
example : Selector.toJson ⟨none, some []⟩ = .obj [("matchExpressions", .arr [])] ∧
    Selector.toJson ⟨none, none⟩ = .obj [] := by decide

end WorkloadBindings
