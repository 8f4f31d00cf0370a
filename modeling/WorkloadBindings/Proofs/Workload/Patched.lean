import WorkloadBindings.Proofs.Json.Outcome
import WorkloadBindings.Proofs.Workload.Mutation
import WorkloadBindings.Proofs.Workload.Stored

/-!
# Patched objects as they are read again

A pass computes the patch of a workload from what it has read, and the API carries it out on the
object it stores, which may hold more or less. Whatever the object holds, if the patch can be carried
out, the changed workload is read from the object afterwards (`Workload.read_of_applyPatch`).
-/

namespace WorkloadBindings

namespace Workload

/-- Reads a workload from an object as the API stores it. -/
def read (raw : Json) : Except DecodeError Workload := do decode (← Dynamic.shape.conform raw)

/-- A workload that is read from an object with its names in order is in written form. -/
theorem isWritten_of_read {raw : Json} {w : Workload} (hraw : raw.isOrdered = true)
    (h : read raw = .ok w) : w.IsWritten := by
  obtain ⟨object, hobject, hdecode⟩ := exists_of_bind_eq_ok h
  cases raw with
  | obj ms =>
    obtain ⟨metadata, -, rfl⟩ := (Dynamic.conform_iff ms object).1 hobject
    obtain ⟨e, he, rfl⟩ := exists_of_map_eq_ok hdecode
    obtain ⟨-, hwrites⟩ := (Shape.conform_object_iff allOptional_fields _ e).1 he
    -- The specification is passed on as it is stored.
    refine isWritten_ofJson (fun x hx => ?_) hwrites
    rw [Dynamic.get?_stored, if_neg (by decide)] at hx
    exact Json.isOrdered_of_get? hraw hx
  | _ => cases hobject

/-- The difference that a change of the specification of the pods makes is that of the
specification, at its place. -/
theorem diff_onPod (f : PodSpec → PodSpec) {w : Workload} {p : PodSpec}
    (hp : w.template.spec = some p) (hordered : p.toJson.isOrdered = true) :
    Json.diff w.toJson (Mutation.onPod f w).toJson =
      Json.diffAt podPath p.toJson (f p).toJson := by
  have hw : w.toJson.isOrdered = true := by
    refine isOrdered_toJson fun q hq => ?_
    obtain rfl := Option.some.inj (hp.symm.trans hq)
    exact hordered
  -- Each object on the way changes in one member only.
  obtain ⟨ms, sms, tms, hms, hspec, htemplate, hpod, hnew⟩ := Mutation.toJson_onPod f hp
  rw [hms] at hw
  have hsms := Json.isOrdered_of_get? hw hspec
  have htms := Json.isOrdered_of_get? hsms htemplate
  rw [hms, hnew, Json.diff, Json.diffAt_insert [] _ hw hspec,
    Json.diffAt_insert _ _ hsms htemplate, Json.diffAt_insert _ _ htms hpod]
  rfl

/-- A difference at the place of the specification was carried out on what is found there. -/
theorem exists_parts_of_applyPatch {raw raw' old new : Json} (hraw : raw.isOrdered = true)
    (hne : Json.diff old new ≠ [])
    (h : raw.applyPatch (Json.diffAt podPath old new) = some raw') :
    ∃ ms sms tms x y, raw = .obj ms ∧ Assoc.get? "spec" ms = some (.obj sms) ∧
      Assoc.get? "template" sms = some (.obj tms) ∧ Assoc.get? "spec" tms = some x ∧
      x.applyPatch (Json.diff old new) = some y ∧
      raw' = .obj (Assoc.insert "spec" (.obj (Assoc.insert "template"
        (.obj (Assoc.insert "spec" y tms)) sms)) ms) := by
  have hlocal := fun path => Json.isLocal_of_mem_diffAt path old new
  have hnonempty : ∀ (token : String) (path : Pointer), Json.diffAt path old new ≠ [] →
      Json.diffAt (token :: path) old new ≠ [] := by
    intro token path hpath
    rw [Json.diffAt_cons]
    exact fun hnil => hpath (List.map_eq_nil_iff.1 hnil)
  have hpod := hnonempty "spec" [] hne
  have htemplate := hnonempty "template" ["spec"] hpod
  -- None of the names on the way is an index.
  rw [podPath, Json.diffAt_cons] at h
  obtain ⟨ms, x₁, y₁, rfl, hx₁, h₁, rfl⟩ :=
    Json.exists_member_of_applyPatch hraw (by decide) (hlocal _) htemplate h
  have hx₁o := Json.isOrdered_of_get? hraw hx₁
  rw [Json.diffAt_cons] at h₁
  obtain ⟨sms, x₂, y₂, rfl, hx₂, h₂, rfl⟩ :=
    Json.exists_member_of_applyPatch hx₁o (by decide) (hlocal _) hpod h₁
  have hx₂o := Json.isOrdered_of_get? hx₁o hx₂
  rw [Json.diffAt_cons] at h₂
  obtain ⟨tms, x₃, y₃, rfl, hx₃, h₃, rfl⟩ :=
    Json.exists_member_of_applyPatch hx₂o (by decide) (hlocal _) hne h₂
  exact ⟨ms, sms, tms, x₃, y₃, rfl, hx₁, hx₂, hx₃, h₃, rfl⟩

/-- When the difference that a change of the specification of the pods makes to a workload can be
carried out on the object that the workload was read from, the changed workload is read from the
result. -/
theorem read_of_applyPatch {f : PodSpec → PodSpec}
    (hf : ∀ p, PodSpec.shape.IsWritten p.toJson → PodSpec.shape.IsWritten (f p).toJson)
    {raw raw' : Json} {w : Workload} (hraw : raw.isOrdered = true) (hread : read raw = .ok w)
    (h : raw.applyPatch (Json.diff w.toJson (Mutation.onPod f w).toJson) = some raw') :
    read raw' = .ok (Mutation.onPod f w) := by
  have hwritten : w.IsWritten := isWritten_of_read hraw hread
  by_cases hsame : Mutation.onPod f w = w
  · rw [hsame, Json.diff_self hwritten.ordered] at h
    obtain rfl := Option.some.inj h
    rw [hread, hsame]
  obtain ⟨p, hp⟩ : ∃ p, w.template.spec = some p :=
    Option.ne_none_iff_exists'.1 fun hnone => hsame (Mutation.onPod_of_none f hnone)
  have hpw : PodSpec.shape.IsWritten p.toJson := hwritten p hp
  have hnew := hf p hpw
  rw [diff_onPod f hp hpw.ordered] at h
  -- Pods without a difference would be the same, since they are read back from what they write.
  have hne : Json.diff p.toJson (f p).toJson ≠ [] := by
    intro hnil
    have hjson := (Json.diff_eq_nil_iff hpw.ordered hnew.ordered).1 hnil
    have hpod : f p = p := by rw [← PodSpec.ofJson_toJson (f p), ← hjson, PodSpec.ofJson_toJson]
    have hedited : (Mutation.onPod f w).template.spec = w.template.spec := by
      rw [Mutation.onPod, hp, Option.map_some, hpod]
    exact hsame (congrArg (fun spec => { w with template := { w.template with spec } }) hedited)
  obtain ⟨ms, sms, tms, x, y, rfl, hspec, htemplate, hpod, hpatch, rfl⟩ :=
    exists_parts_of_applyPatch hraw hne h
  -- The specification that is stored is read as the old one, so what it became is read as the new one.
  obtain ⟨object, hobject, hdecode⟩ := exists_of_bind_eq_ok hread
  obtain ⟨hx, -, hreplaced⟩ := conform_replaced hraw hobject hdecode hp hspec htemplate hpod
  have hxo : x.isOrdered = true :=
    Json.isOrdered_of_get? (Json.isOrdered_of_get? (Json.isOrdered_of_get? hraw hspec) htemplate) hpod
  have hy := Shape.conform_of_applyPatch_diff PodSpec.isPlain_shape hxo hpw.ordered hnew.ordered hx
    hnew.conform hpatch
  have hobj : (f p).toJson ≠ .null := Json.noConfusion
  have hynull : y ≠ .null :=
    (Shape.eq_null_iff_of_conform PodSpec.isPlain_shape hy).not.1 hobj
  obtain ⟨object', hobject', hdecode'⟩ := hreplaced y (f p) hynull hy
  rw [read, hobject']
  refine hdecode'.trans ?_
  rw [Mutation.onPod, hp, Option.map_some]

end Workload

end WorkloadBindings
