import WorkloadBindings.Proofs.Workload.Written
import WorkloadBindings.Resource.Metadata

/-!
# Patching the object that a workload was read from

The API stores an object that holds more than the workload read from it: metadata is brought into
written form on the way in, all else is passed on as it is, and the workload drops what it does not
know. A workload that is read is in written form (`Workload.isWritten_of_decode`).
`Workload.exists_patched` is about the difference between the specification of the workload
and another one in written form: carried out at its place in the stored object, it gives an object
from which the workload with the other specification is read.
-/

namespace WorkloadBindings

namespace Dynamic

/-- The members of objects of any kind that are known. -/
def fields : List (String × Presence × Shape) := [("metadata", .lenient (.obj []), Metadata.shape)]

theorem allOptional_fields : Shape.AllOptional fields := by
  unfold Shape.AllOptional
  decide

/-- The members with their metadata in written form. -/
def stored (metadata : Json) (ms : Members) : Members :=
  Assoc.insert "metadata" metadata (ms.filter fun m => m.1 != "metadata")

/-- What is found in an object is what its members hold, but for the metadata. -/
theorem get?_stored (metadata : Json) (ms : Members) (name : String) :
    Assoc.get? name (stored metadata ms) =
      if name = "metadata" then some metadata else Assoc.get? name ms := by
  unfold stored
  by_cases h : name = "metadata"
  · rw [h, Assoc.get?_insert_self, if_pos rfl]
  · rw [Assoc.get?_insert_of_ne h, Assoc.get?_filter fun name => name != "metadata", if_neg h]
    simp [h]

/-- An object is read as its members, with its metadata in written form. -/
theorem conform_iff (ms : Members) (object : Json) :
    shape.conform (.obj ms) = .ok object ↔
      ∃ metadata, Shape.Writes (.lenient (.obj [])) Metadata.shape (Assoc.get? "metadata" ms)
        (some metadata) ∧ object = .obj (stored metadata ms) := by
  have hknown : Shape.ofObject (Shape.visitMembers fields ms) none =
      (Shape.object "" fields none).conform (.obj ms) := by
    rw [Shape.conform]
  have hunknown : (ms.filter fun m => (fields.lookup m.1).isNone) =
      ms.filter fun m => m.1 != "metadata" := by
    refine List.filter_congr fun m _ => ?_
    cases h : m.1 == "metadata" <;> simp [fields, List.lookup_cons, bne, h]
  have hoverlay : ∀ metadata : Json, Shape.overlay (ms.filter fun m => (fields.lookup m.1).isNone)
      (.record [("metadata", some metadata)]) = .obj (stored metadata ms) := by
    intro metadata
    rw [hunknown]
    rfl
  have hconform : shape.conform (.obj ms) =
      ((Shape.object "" fields none).conform (.obj ms)).map
        (Shape.overlay (ms.filter fun m => (fields.lookup m.1).isNone)) := by
    rw [← hknown, shape, ← fields, Shape.conform]
    cases Shape.ofObject (Shape.visitMembers fields ms) none <;> rfl
  rw [hconform]
  constructor
  · intro h
    obtain ⟨known, hread, rfl⟩ := exists_of_map_eq_ok h
    obtain ⟨hrecord, hwrites⟩ := (Shape.conform_object_iff allOptional_fields ms known).1 hread
    have hmetadata := hwrites _ List.mem_cons_self
    obtain ⟨metadata, hfound⟩ := Shape.exists_of_writes_lenient hmetadata
    refine ⟨metadata, hfound ▸ hmetadata, ?_⟩
    rw [hrecord, ← hoverlay metadata]
    simp [fields, hfound]
  · rintro ⟨metadata, hwrites, rfl⟩
    have hread : (Shape.object "" fields none).conform (.obj ms) =
        .ok (.record [("metadata", some metadata)]) := by
      have hfound : (Json.record [("metadata", some metadata)]).get? "metadata" = some metadata :=
        Assoc.get?_insert_self "metadata" metadata []
      refine (Shape.conform_object_iff allOptional_fields ms _).2 ⟨?_, ?_⟩
      · rw [fields, List.map_singleton, hfound]
      · refine List.forall_mem_singleton.2 ?_
        rw [hfound]
        exact hwrites
    rw [hread, Except.map, hoverlay]

end Dynamic

namespace Workload

/-! ## Shapes of the outer parts -/

/-- The members of the specification of a workload. -/
def specFields : List (String × Presence × Shape) :=
  [("template", .lenient (.obj []), PodTemplate.shape)]

/-- The wire shape of the specification of a workload. -/
def specShape : Shape := .declared "PodSpecableSpec" ["template"] specFields

/-- The members of a workload. -/
def fields : List (String × Presence × Shape) :=
  [("metadata", .lenient (.obj []), Metadata.shape),
   ("spec", .lenient (.obj [("template", .obj [])]), specShape)]

/-- The members of a template. -/
def templateFields : List (String × Presence × Shape) :=
  [("metadata", .nullable, Metadata.shape), ("spec", .nullable, PodSpec.shape)]

theorem allOptional_fields : Shape.AllOptional fields := by
  unfold Shape.AllOptional
  decide

theorem allOptional_specFields : Shape.AllOptional specFields := by
  unfold Shape.AllOptional
  decide

theorem allOptional_templateFields : Shape.AllOptional templateFields := by
  unfold Shape.AllOptional
  decide

/-! ## Reading -/

/-- A workload whose parts were read from some members, the specification among them with its names
in order, is in written form. -/
theorem isWritten_ofJson {ms : Members} {e : Json}
    (hspec : ∀ x, Assoc.get? "spec" ms = some x → x.isOrdered = true)
    (hwrites : ∀ f ∈ fields, Shape.Writes f.2.1 f.2.2 (Assoc.get? f.1 ms) (e.get? f.1)) :
    (ofJson e).IsWritten := by
  intro p hp
  have hmember : ∀ {ms : Members} {name : String} {x : Json}, (∀ m ∈ ms, m.2.isOrdered = true) →
      Assoc.get? name ms = some x → x.isOrdered = true :=
    fun hms hx => hms _ (Assoc.mem_of_get? hx)
  -- A workload or a specification without a template has no pods.
  rcases Shape.writes_lenient_cases (hwrites _ (List.mem_cons_of_mem _ List.mem_cons_self)) with
    hfallback | ⟨x, se, hx, hse, hfound⟩
  · simp only at hfallback
    rw [ofJson, hfallback] at hp
    cases hp
  simp only at hx hfound
  obtain ⟨sms, hsms, hwrites⟩ := Shape.exists_members allOptional_specFields hse
  rcases Shape.writes_lenient_cases (hwrites _ List.mem_cons_self) with
    htemplate | ⟨y, te, hy, hte, htemplate⟩
  · simp only at htemplate
    rw [ofJson, hfound, Option.bind_some, htemplate] at hp
    cases hp
  simp only at hy htemplate
  rw [ofJson, hfound, Option.bind_some, htemplate] at hp
  -- The pods of a template are read from its member.
  have hyo := hmember (hsms (hspec x hx)) hy
  obtain ⟨tms, htms, hwrites⟩ := Shape.exists_members allOptional_templateFields hte
  obtain ⟨pe, hpe, rfl⟩ := Option.map_eq_some_iff.1 hp
  have hpod := hwrites _ (List.mem_cons_of_mem _ List.mem_cons_self)
  simp only [Option.getD_some] at hpe hpod
  rw [hpe] at hpod
  rcases Shape.writes_cases rfl hpod with ⟨-, hnone⟩ | ⟨z, pe', hz, -, hconform, hpart⟩
  · cases hnone
  · obtain rfl := Option.some.inj hpart
    have hwritten := Shape.isWritten_of_conform PodSpec.isPlain_shape (hmember (htms hyo) hz) hconform
    rwa [PodSpec.toJson_ofJson hwritten]

/-- A workload that is read from a value with its names in order is in written form. -/
theorem isWritten_of_decode {object : Json} {w : Workload} (hordered : object.isOrdered = true)
    (hw : decode object = .ok w) : w.IsWritten := by
  obtain ⟨e, he, rfl⟩ := exists_of_map_eq_ok hw
  obtain ⟨ms, hms, hwrites⟩ := Shape.exists_members allOptional_fields he
  exact isWritten_ofJson (fun x hx => hms hordered _ (Assoc.mem_of_get? hx)) hwrites

/-! ## The way to the specification -/

/-- The place of the specification of the pods. -/
def podPath : Pointer := ["spec", "template", "spec"]

/-- What is found at the place of the specification is a member of a member of a member. -/
theorem exists_of_at?_podPath {j x : Json} (h : j.at? podPath = some x) :
    ∃ ms sms tms, j = .obj ms ∧ Assoc.get? "spec" ms = some (.obj sms) ∧
      Assoc.get? "template" sms = some (.obj tms) ∧ Assoc.get? "spec" tms = some x := by
  -- None of the names is an index, so that no list lies on the way.
  have hindex : ∀ name ∈ podPath, Pointer.index? name = none := by decide
  have hmember : ∀ name ∈ podPath, ∀ (j : Json) (rest : Pointer), j.at? (name :: rest) = some x →
      ∃ ms y, j = .obj ms ∧ Assoc.get? name ms = some y ∧ y.at? rest = some x := by
    intro name hname j rest hj
    cases j with
    | obj ms =>
      obtain ⟨y, hy, hrest⟩ := Option.bind_eq_some_iff.1 hj
      exact ⟨ms, y, rfl, hy, hrest⟩
    | arr xs => simp [Json.at?, hindex name hname] at hj
    | _ => cases hj
  obtain ⟨ms, y, rfl, hy, hrest⟩ := hmember "spec" (by decide) j ["template", "spec"] h
  obtain ⟨sms, z, rfl, hz, hrest⟩ := hmember "template" (by decide) y ["spec"] hrest
  obtain ⟨tms, x', rfl, hx, hrest⟩ := hmember "spec" (by decide) z [] hrest
  obtain rfl := Option.some.inj hrest
  exact ⟨ms, sms, tms, rfl, hy, hz, hx⟩

/-! ## Patching -/

/-- When the template changes in its specification, it is written with the other one. -/
theorem exists_conform_template {tms : Members} {te x pod : Json}
    (hte : PodTemplate.shape.conform (.obj tms) = .ok te) (hx : x ≠ .null)
    (hpod : PodSpec.shape.conform x = .ok pod) :
    ∃ te', PodTemplate.shape.conform (.obj (Assoc.insert "spec" x tms)) = .ok te' ∧
      te'.get? "spec" = some pod ∧ ∀ name, name ≠ "spec" → te'.get? name = te.get? name := by
  have hmember : ("spec", .nullable, PodSpec.shape) ∈ templateFields := by
    simp [templateFields]
  refine Shape.exists_conform_of_update allOptional_templateFields hte hmember ?_ ?_
  · rw [Assoc.get?_insert_self]
    exact Shape.writes_given rfl hx hpod
  · exact fun f _ hf => Assoc.get?_insert_of_ne hf x tms

/-- The specification of a workload and its template are read from their places. -/
theorem exists_conform_parts {oms sms tms : Members} {e : Json}
    (he : shape.conform (.obj oms) = .ok e) (hspec : Assoc.get? "spec" oms = some (.obj sms))
    (htemplate : Assoc.get? "template" sms = some (.obj tms)) :
    ∃ se te, e.get? "spec" = some se ∧ specShape.conform (.obj sms) = .ok se ∧
      se.get? "template" = some te ∧ PodTemplate.shape.conform (.obj tms) = .ok te := by
  have hwrites := ((Shape.conform_object_iff allOptional_fields oms e).1 he).2 _
    (List.mem_cons_of_mem _ List.mem_cons_self)
  rw [hspec, Shape.writes_lenient_iff] at hwrites
  obtain ⟨se, hse, hfound⟩ := hwrites
  have hwrites' := ((Shape.conform_object_iff allOptional_specFields sms se).1 hse).2 _
    List.mem_cons_self
  rw [htemplate, Shape.writes_lenient_iff] at hwrites'
  obtain ⟨te, hte, hfound'⟩ := hwrites'
  exact ⟨se, te, hfound, hse, hfound', hte⟩

/-- When the specification of a workload changes in its template, the workload is read with the
other template. -/
theorem exists_conform_workload {oms oms' sms tms' : Members} {e se te' : Json}
    (he : shape.conform (.obj oms) = .ok e) (hse : specShape.conform (.obj sms) = .ok se)
    (hte' : PodTemplate.shape.conform (.obj tms') = .ok te')
    (hspec : Assoc.get? "spec" oms' = some (.obj (Assoc.insert "template" (.obj tms') sms)))
    (hsame : ∀ name, name ≠ "spec" → Assoc.get? name oms' = Assoc.get? name oms) :
    ∃ e', shape.conform (.obj oms') = .ok e' ∧
      ofJson e' = { ofJson e with template := PodTemplate.ofJson te' } := by
  obtain ⟨se', hse', htemplate, -⟩ := Shape.exists_conform_of_update allOptional_specFields hse
    (List.mem_cons_self : ("template", .lenient (.obj []), PodTemplate.shape) ∈ specFields)
    (by rw [Assoc.get?_insert_self]; exact Shape.writes_lenient_iff.2 ⟨te', hte', rfl⟩)
    fun f _ hf => Assoc.get?_insert_of_ne hf (.obj tms') sms
  obtain ⟨e', he', hfound, hrest⟩ := Shape.exists_conform_of_update allOptional_fields he
    (List.mem_cons_of_mem _ List.mem_cons_self :
      ("spec", .lenient (.obj [("template", .obj [])]), specShape) ∈ fields)
    (by rw [hspec]; exact Shape.writes_lenient_iff.2 ⟨se', hse', rfl⟩)
    fun f _ hf => hsame f.1 hf
  refine ⟨e', he', ?_⟩
  have hmetadata : e'.get? "metadata" = e.get? "metadata" := hrest "metadata" (by decide)
  simp only at hfound htemplate
  simp only [ofJson, hmetadata, hfound, htemplate, Option.bind_some, Option.getD_some]

/-- The specification in a template is read from its place. -/
theorem conform_podSpec {tms : Members} {te x : Json} {p : PodSpec}
    (hte : PodTemplate.shape.conform (.obj tms) = .ok te) (hpod : Assoc.get? "spec" tms = some x)
    (hordered : x.isOrdered = true) (hp : (PodTemplate.ofJson te).spec = some p) :
    PodSpec.shape.conform x = .ok p.toJson ∧ PodSpec.shape.IsWritten p.toJson := by
  obtain ⟨pe, hpe, rfl⟩ := Option.map_eq_some_iff.1 hp
  have hwrites := ((Shape.conform_object_iff allOptional_templateFields tms te).1 hte).2 _
    (List.mem_cons_of_mem _ List.mem_cons_self)
  rw [hpod, hpe] at hwrites
  -- A null would be left out.
  have hread : PodSpec.shape.conform x = .ok pe := by
    rcases Shape.writes_cases rfl hwrites with ⟨-, hnone⟩ | ⟨y, z, hy, -, hyz, hz⟩
    · cases hnone
    · obtain rfl := Option.some.inj hy
      obtain rfl := Option.some.inj hz
      exact hyz
  have hwritten := Shape.isWritten_of_conform PodSpec.isPlain_shape hordered hread
  rw [PodSpec.toJson_ofJson hwritten]
  exact ⟨hread, hwritten⟩

/-- The specification of a workload that was read from an object is read from its place in it, and
with another one in its place the workload is read with the other one. -/
theorem conform_replaced {ms sms tms : Members} {object x : Json} {w : Workload} {p : PodSpec}
    (hraw : (Json.obj ms).isOrdered = true) (hobject : Dynamic.shape.conform (.obj ms) = .ok object)
    (hw : decode object = .ok w) (hp : w.template.spec = some p)
    (hspec : Assoc.get? "spec" ms = some (.obj sms))
    (htemplate : Assoc.get? "template" sms = some (.obj tms))
    (hpod : Assoc.get? "spec" tms = some x) :
    PodSpec.shape.conform x = .ok p.toJson ∧ PodSpec.shape.IsWritten p.toJson ∧
      ∀ (y : Json) (p' : PodSpec), y ≠ .null → PodSpec.shape.conform y = .ok p'.toJson →
        ∃ object', Dynamic.shape.conform (.obj (Assoc.insert "spec" (.obj (Assoc.insert "template"
            (.obj (Assoc.insert "spec" y tms)) sms)) ms)) = .ok object' ∧
          decode object' = .ok { w with template := { w.template with spec := some p' } } := by
  have hsms := Json.isOrdered_of_get? hraw hspec
  have htms := Json.isOrdered_of_get? hsms htemplate
  -- What was read, from the outside in.
  obtain ⟨metadata, hmetadata, rfl⟩ := (Dynamic.conform_iff ms object).1 hobject
  obtain ⟨e, he, rfl⟩ := exists_of_map_eq_ok hw
  have hspec' : Assoc.get? "spec" (Dynamic.stored metadata ms) = some (.obj sms) := by
    rw [Dynamic.get?_stored, if_neg (by decide), hspec]
  obtain ⟨se, te, hes, hse, hset, hte⟩ := exists_conform_parts he hspec' htemplate
  have htemplateOf : (ofJson e).template = PodTemplate.ofJson te := by
    simp only [ofJson, hes, hset, Option.bind_some, Option.getD_some]
  rw [htemplateOf] at hp
  obtain ⟨hread, hwritten⟩ := conform_podSpec hte hpod (Json.isOrdered_of_get? htms hpod) hp
  refine ⟨hread, hwritten, fun y p' hnull hy => ?_⟩
  -- What is read from it then, from the inside out.
  obtain ⟨te', hte', hpod', hrest⟩ := exists_conform_template hte hnull hy
  generalize Assoc.insert "spec" y tms = tms' at hte'
  have hspec'' : Assoc.get? "spec" (Dynamic.stored metadata
      (Assoc.insert "spec" (.obj (Assoc.insert "template" (.obj tms') sms)) ms)) =
        some (.obj (Assoc.insert "template" (.obj tms') sms)) := by
    rw [Dynamic.get?_stored, if_neg (by decide), Assoc.get?_insert_self]
  obtain ⟨e', he', heq⟩ := exists_conform_workload he hse hte' hspec'' fun name hname => by
    rw [Dynamic.get?_stored, Dynamic.get?_stored, Assoc.get?_insert_of_ne hname]
  refine ⟨_, (Dynamic.conform_iff _ _).2 ⟨metadata, ?_, rfl⟩, ?_⟩
  · rw [Assoc.get?_insert_of_ne (by decide)]
    exact hmetadata
  · rw [decode, he', Except.map, heq, htemplateOf]
    simp only [PodTemplate.ofJson, hpod', hrest "metadata" (by decide), Option.map_some,
      PodSpec.ofJson_toJson]

/-- A difference at the place of the specification revises the specification in its place. -/
theorem applyPatch_diffAt_podPath {ms sms tms : Members} {x old new : Json}
    (hms : (Json.obj ms).isOrdered = true) (hspec : Assoc.get? "spec" ms = some (.obj sms))
    (htemplate : Assoc.get? "template" sms = some (.obj tms)) (hpod : Assoc.get? "spec" tms = some x)
    (hold : old.isOrdered = true) (hnew : new.isOrdered = true) (hc : x.covers old = true) :
    (Json.obj ms).applyPatch (Json.diffAt podPath old new) =
      some (.obj (Assoc.insert "spec" (.obj (Assoc.insert "template"
        (.obj (Assoc.insert "spec" (x.revise old new) tms)) sms)) ms)) := by
  have hsms := Json.isOrdered_of_get? hms hspec
  have htms := Json.isOrdered_of_get? hsms htemplate
  have hx := Json.isOrdered_of_get? htms hpod
  unfold podPath
  rw [Json.applyPatch_diffAt_member (Json.sorted_of_isOrdered hms) hspec,
    Json.applyPatch_diffAt_member (Json.sorted_of_isOrdered hsms) htemplate,
    Json.applyPatch_diffAt_member (Json.sorted_of_isOrdered htms) hpod, ← Json.diff,
    Json.applyPatch_diff hx hold hc hnew]
  rfl

/-- The specification of a workload that was read from an object which holds all of it is in written
form, and the difference between it and another one in written form is carried out on the object,
from which the workload is then read with the other one. -/
theorem exists_patched {raw object x : Json} {w : Workload} {p : PodSpec}
    (hraw : raw.isOrdered = true) (hobject : Dynamic.shape.conform raw = .ok object)
    (hw : decode object = .ok w) (hp : w.template.spec = some p) (hx : raw.at? podPath = some x)
    (hc : x.covers p.toJson = true) :
    PodSpec.shape.IsWritten p.toJson ∧ ∀ p' : PodSpec, PodSpec.shape.IsWritten p'.toJson →
      ∃ raw' object', raw.applyPatch (Json.diffAt podPath p.toJson p'.toJson) = some raw' ∧
        Dynamic.shape.conform raw' = .ok object' ∧
        decode object' = .ok { w with template := { w.template with spec := some p' } } := by
  obtain ⟨ms, sms, tms, rfl, hspec, htemplate, hpod⟩ := exists_of_at?_podPath hx
  have hxo : x.isOrdered = true :=
    Json.isOrdered_of_get? (Json.isOrdered_of_get? (Json.isOrdered_of_get? hraw hspec) htemplate) hpod
  obtain ⟨hread, hwritten, hreplaced⟩ := conform_replaced hraw hobject hw hp hspec htemplate hpod
  refine ⟨hwritten, fun p' hp' => ?_⟩
  have hpatch :=
    applyPatch_diffAt_podPath hraw hspec htemplate hpod hwritten.ordered hp'.ordered hc
  have hrevised := Shape.conform_revise PodSpec.isPlain_shape hxo hwritten.ordered hp'.ordered hc hread
    hp'.conform
  obtain ⟨object', hobject', hdecode⟩ :=
    hreplaced _ p' (Json.revise_ne_null x p.toJson (by nofun)) hrevised
  exact ⟨_, object', hpatch, hobject', hdecode⟩

end Workload

end WorkloadBindings
