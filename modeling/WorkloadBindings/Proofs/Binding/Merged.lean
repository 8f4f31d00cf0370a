import WorkloadBindings.Api.Client
import WorkloadBindings.Binding.Basic
import WorkloadBindings.Proofs.Binding.Basic
import WorkloadBindings.Proofs.Binding.Status

/-!
# Bindings as they are read after a merge patch

The client writes the finalizers and the status of a binding by merge patches, and the API gives a
binding that it stores a new version. Whatever else the stored object holds, the binding that is read
from it afterwards is the one before with the finalizers, the status or the version that was written
(`BindingResource.decode_finalizers`, `decode_status`, `decode_version`), and what it asks for is as it
was (`BindingResource.IsRewriteOf`).
-/

namespace WorkloadBindings

/-! ## Metadata -/

namespace Metadata

theorem allOptional_fields : Shape.AllOptional fields := by
  unfold Shape.AllOptional
  decide

variable {ms : Members} {e : Json}

/-- Metadata is read with other finalizers when these are put in. -/
theorem exists_conform_finalizers (h : shape.conform (.obj ms) = .ok e) (finalizers : List String) :
    ∃ e', shape.conform (.obj (Assoc.insert "finalizers" (.strings finalizers) ms)) = .ok e' ∧
      ofJson e' = { ofJson e with finalizers := some finalizers } := by
  have hmember : ("finalizers", .nullable, .list .text) ∈ fields := by simp [fields]
  have hlist : (Shape.list .text).conform (.strings finalizers) = .ok (.strings finalizers) :=
    Shape.conform_arr_map (fun _ => rfl) finalizers
  obtain ⟨e', he', hfound, hrest⟩ := Shape.exists_conform_of_update allOptional_fields h hmember
    (by rw [Assoc.get?_insert_self]; exact Shape.writes_given rfl (by nofun) hlist)
    fun f _ hf => Assoc.get?_insert_of_ne hf _ ms
  refine ⟨e', he', ?_⟩
  have hsame : ∀ name, name ≠ "finalizers" → e'.get? name = e.get? name := hrest
  simp only at hfound
  simp (disch := decide) only [ofJson, hfound, Option.map_some, Shape.filterMap_strings, hsame]

/-- Metadata is read with another version when that is put in. -/
theorem exists_conform_resourceVersion (h : shape.conform (.obj ms) = .ok e) (version : String) :
    ∃ e', shape.conform (.obj (Assoc.insert "resourceVersion" (.str version) ms)) = .ok e' ∧
      ofJson e' = { ofJson e with resourceVersion := some version } := by
  have hmember : ("resourceVersion", .nullable, .text) ∈ fields := by simp [fields]
  have htext : Shape.text.conform (.str version) = .ok (.str version) := rfl
  obtain ⟨e', he', hfound, hrest⟩ := Shape.exists_conform_of_update allOptional_fields h hmember
    (by rw [Assoc.get?_insert_self]; exact Shape.writes_given rfl (by nofun) htext)
    fun f _ hf => Assoc.get?_insert_of_ne hf _ ms
  refine ⟨e', he', ?_⟩
  have hsame : ∀ name, name ≠ "resourceVersion" → e'.get? name = e.get? name := hrest
  simp only at hfound
  simp (disch := decide) only [ofJson, hfound, Option.bind_some, Json.str?, hsame]

/-- The generation that was read fits its place. -/
theorem fits_generation {n : Int} (h : shape.conform (.obj ms) = .ok e)
    (hn : (ofJson e).generation = some n) : Shape.int64.conform (.int n) = .ok (.int n) := by
  have hmember : ("generation", .nullable, Shape.int64) ∈ fields := by simp [fields]
  have hwrites : Shape.Writes .nullable Shape.int64 (Assoc.get? "generation" ms)
      (e.get? "generation") :=
    ((Shape.conform_object_iff allOptional_fields ms e).1 h).2 _ hmember
  obtain ⟨y, hy, hyn⟩ := Option.bind_eq_some_iff.1 hn
  rw [hy] at hwrites
  rcases Shape.writes_cases rfl hwrites with ⟨-, hnone⟩ | ⟨x, z, -, -, hxz, hz⟩
  · cases hnone
  · obtain rfl := Option.some.inj hz
    obtain rfl := Shape.conform_copied rfl hxz
    cases y with
    | int m =>
      obtain rfl := Option.some.inj hyn
      exact hxz
    | _ => cases hyn

end Metadata

/-! ## Bindings -/

namespace BindingResource

/-- The members of a binding. -/
def fields (k : BindingKind) : List (String × Presence × Shape) :=
  [("metadata", .required, Metadata.shape),
   ("spec", .required, BindingSpec.shape k),
   ("status", .nullable, BindingStatus.shape)]

theorem noticing_fields (k : BindingKind) :
    Shape.Noticing (fields k) (some ["metadata", "spec", "status"]) := by
  refine ⟨?_, fun f hf _ => ?_⟩
  · cases k <;> decide
  · have hnames : (fields k).map Prod.fst = ["metadata", "spec", "status"] := rfl
    exact hnames ▸ List.mem_map_of_mem hf

variable {k : BindingKind} {ms : Members} {r : BindingResource}

/-- The metadata of a binding is read from its place. -/
theorem exists_metadata (h : decode k (.obj ms) = .ok r) :
    ∃ mms e, Assoc.get? "metadata" ms = some (.obj mms) ∧
      Metadata.shape.conform (.obj mms) = .ok e ∧ Metadata.ofJson e = r.metadata := by
  obtain ⟨e, he, rfl⟩ := exists_of_map_eq_ok h
  obtain ⟨hgiven, -, hwrites⟩ := (Shape.conform_object_iff_of_noticing (noticing_fields k) ms e).1 he
  obtain ⟨x, hx⟩ := Option.isSome_iff_exists.1 (hgiven _ List.mem_cons_self rfl)
  have hmetadata := hwrites _ List.mem_cons_self
  simp only at hx hmetadata
  rw [hx, Shape.writes_iff_of_ofNull rfl (by nofun)] at hmetadata
  obtain ⟨y, hxy, hy⟩ := hmetadata
  obtain ⟨mms, rfl⟩ := Shape.conform_object hxy
  refine ⟨mms, y, hx, hxy, ?_⟩
  rw [ofJson, hy, Option.getD_some]

/-- The generation of a binding that was read fits its place. -/
theorem fits_generation (h : decode k (.obj ms) = .ok r) {n : Int}
    (hn : r.metadata.generation = some n) : Shape.int64.conform (.int n) = .ok (.int n) := by
  obtain ⟨mms, e, -, he, hmetadata⟩ := exists_metadata h
  rw [← hmetadata] at hn
  exact Metadata.fits_generation he hn

/-- The specification of a binding is read from its place. -/
theorem exists_spec (h : decode k (.obj ms) = .ok r) :
    ∃ x, Assoc.get? "spec" ms = some x ∧ BindingSpec.decode k x = .ok r.spec := by
  obtain ⟨e, he, rfl⟩ := exists_of_map_eq_ok h
  obtain ⟨hgiven, -, hwrites⟩ := (Shape.conform_object_iff_of_noticing (noticing_fields k) ms e).1 he
  have hmember : ("spec", .required, BindingSpec.shape k) ∈ fields k :=
    List.mem_cons_of_mem _ List.mem_cons_self
  obtain ⟨x, hx⟩ := Option.isSome_iff_exists.1 (hgiven _ hmember rfl)
  have hspec := hwrites _ hmember
  simp only at hx hspec
  rw [hx, Shape.writes_iff_of_ofNull rfl (by nofun)] at hspec
  obtain ⟨y, hxy, hy⟩ := hspec
  refine ⟨x, hx, ?_⟩
  rw [BindingSpec.decode, hxy, ofJson, hy]
  rfl

/-- A binding of a kind is of that kind. -/
theorem kind_of_decode {raw : Json} (h : decode k raw = .ok r) : r.kind = k := by
  obtain ⟨e, -, rfl⟩ := exists_of_map_eq_ok h
  cases k <;> rfl

/-- The status of a binding is read from its place. -/
theorem exists_status (h : decode k (.obj ms) = .ok r) :
    ∃ part, Shape.Writes .nullable BindingStatus.shape (Assoc.get? "status" ms) part ∧
      part.map BindingStatus.ofJson = r.status := by
  obtain ⟨e, he, rfl⟩ := exists_of_map_eq_ok h
  obtain ⟨-, -, hwrites⟩ := (Shape.conform_object_iff_of_noticing (noticing_fields k) ms e).1 he
  exact ⟨e.get? "status", hwrites ("status", .nullable, BindingStatus.shape) (by simp [fields]), rfl⟩

/-- The generation that was observed fits its place in the status that was read. -/
theorem fits_status (h : decode k (.obj ms) = .ok r) : (r.status.getD {}).Fits := by
  obtain ⟨part, hwrites, hstatus⟩ := exists_status h
  rw [← hstatus]
  rcases Shape.writes_cases rfl hwrites with ⟨-, hnone⟩ | ⟨x, e, -, -, hconform, rfl⟩
  · obtain rfl : part = none := hnone
    nofun
  · exact BindingStatus.fits_ofJson hconform

/-- A binding is read with other metadata when that is put in its place. -/
theorem decode_metadata (h : decode k (.obj ms) = .ok r) {y e : Json}
    (hy : Metadata.shape.conform y = .ok e) :
    decode k (.obj (Assoc.insert "metadata" y ms)) =
      .ok { r with metadata := Metadata.ofJson e } := by
  obtain ⟨be, hbe, rfl⟩ := exists_of_map_eq_ok h
  have hfound := Assoc.get?_insert_self "metadata" y ms
  obtain ⟨be', hbe', hmetadata, hrest⟩ := Shape.exists_conform_of_update_of_noticing (noticing_fields k)
    hbe (List.mem_cons_self : ("metadata", .required, Metadata.shape) ∈ fields k)
    (fun _ => by rw [hfound]; rfl)
    (by rw [hfound]; exact (Shape.writes_iff_of_ofNull rfl (by nofun)).2 ⟨e, hy, rfl⟩)
    fun f _ hf => Assoc.get?_insert_of_ne hf y ms
  simp only at hmetadata
  have hread : (shape k).conform (.obj (Assoc.insert "metadata" y ms)) = .ok be' := hbe'
  rw [decode, hread, Except.map, ofJson, hmetadata, hrest "spec" (by decide),
    hrest "status" (by decide)]
  rfl

/-- A binding is read with the status that was written, unless this leaves out a generation that was
read before. -/
theorem decode_status (h : decode k (.obj ms) = .ok r) {s : BindingStatus}
    (hconditions : s.conditions ≠ []) (hfits : s.Fits)
    (hkeeps : s.observedGeneration = none → (r.status.getD {}).observedGeneration = none) :
    ∃ ms', Json.merge (.obj ms) (Client.statusBody s) = .obj ms' ∧
      decode k (.obj ms') = .ok { r with status := some s } := by
  obtain ⟨part, hwrites, hstatus⟩ := exists_status h
  obtain ⟨e, he, hs⟩ := BindingStatus.exists_conform_merge hconditions hfits hwrites (hstatus ▸ hkeeps)
  refine ⟨_, Json.merge_member ms "status" (by nofun), ?_⟩
  -- What is merged is no null, which would be read as the lack of a status.
  generalize hmerged : Json.merge ((Assoc.get? "status" ms).getD .null) s.toJson = merged at he
  have hnull : merged ≠ .null := by
    rw [← hmerged]
    nofun
  obtain ⟨be, hbe, rfl⟩ := exists_of_map_eq_ok h
  have hmember : ("status", .nullable, BindingStatus.shape) ∈ fields k := by simp [fields]
  obtain ⟨be', hbe', hfound, hrest⟩ := Shape.exists_conform_of_update_of_noticing (noticing_fields k)
    hbe hmember (by nofun)
    (by rw [Assoc.get?_insert_self]; exact Shape.writes_given rfl hnull he)
    fun f _ hf => Assoc.get?_insert_of_ne hf merged ms
  simp only at hfound
  have hread : (shape k).conform (.obj (Assoc.insert "status" merged ms)) = .ok be' := hbe'
  rw [decode, hread, Except.map, ofJson, hfound, hrest "metadata" (by decide),
    hrest "spec" (by decide), Option.map_some, hs]
  rfl

/-- A binding is read with the finalizers that were written. -/
theorem decode_finalizers (h : decode k (.obj ms) = .ok r) (version : Option String)
    (finalizers : List String) :
    ∃ ms', Json.merge (.obj ms) (Client.finalizersBody version finalizers) = .obj ms' ∧
      decode k (.obj ms') = .ok
        { r with
          metadata :=
            { r.metadata with
              finalizers := some finalizers
              resourceVersion := version.or r.metadata.resourceVersion } } := by
  obtain ⟨mms, e, hx, he, hmetadata⟩ := exists_metadata h
  refine ⟨_, Json.merge_member ms "metadata" (by nofun), ?_⟩
  obtain ⟨e₁, he₁, hfinalizers⟩ := Metadata.exists_conform_finalizers he finalizers
  rw [hx, Option.getD_some, ← hmetadata]
  -- The version is sent only when there is one, and then after the finalizers.
  cases version with
  | none =>
    have hmerge : Json.merge (.obj mms) (.record
        [("finalizers", some (.strings finalizers)), ("resourceVersion", none)]) =
          .obj (Assoc.insert "finalizers" (.strings finalizers) mms) := rfl
    rw [Option.map_none, hmerge, Option.none_or, ← hfinalizers]
    exact decode_metadata h he₁
  | some version =>
    obtain ⟨e₂, he₂, hversion⟩ := Metadata.exists_conform_resourceVersion he₁ version
    have hmerge : Json.merge (.obj mms) (.record
        [("finalizers", some (.strings finalizers)), ("resourceVersion", some (.str version))]) =
          .obj (Assoc.insert "resourceVersion" (.str version)
            (Assoc.insert "finalizers" (.strings finalizers) mms)) := rfl
    rw [Option.map_some, hmerge, Option.some_or, decode_metadata h he₂, hversion, hfinalizers]

/-- The change by which the API gives a binding that it stores a version. -/
def versionBody (version : String) : Json :=
  .obj [("metadata", .obj [("resourceVersion", .str version)])]

/-- A binding is read with the version that it was given. -/
theorem decode_version (h : decode k (.obj ms) = .ok r) (version : String) :
    ∃ ms', Json.merge (.obj ms) (versionBody version) = .obj ms' ∧
      decode k (.obj ms') = .ok
        { r with metadata := { r.metadata with resourceVersion := some version } } := by
  obtain ⟨mms, e, hx, he, hmetadata⟩ := exists_metadata h
  obtain ⟨e', he', hversion⟩ := Metadata.exists_conform_resourceVersion he version
  refine ⟨_, Json.merge_member ms "metadata" (by nofun), ?_⟩
  rw [hx, Option.getD_some, Json.merge_member mms "resourceVersion" (by nofun), ← hmetadata, ← hversion]
  exact decode_metadata h he'

/-! ## Bindings that were written -/

/-- The binding is the other one after its finalizers, its status or its version were written. -/
structure IsRewriteOf (r' r : BindingResource) : Prop extends r'.IsVersionOf r where
  generation : r'.metadata.generation = r.metadata.generation
  deletionTimestamp : r'.metadata.deletionTimestamp = r.metadata.deletionTimestamp

variable {r' r'' : BindingResource}

theorem IsRewriteOf.refl (r : BindingResource) : r.IsRewriteOf r := ⟨.refl r, rfl, rfl⟩

theorem IsRewriteOf.trans (h : r''.IsRewriteOf r') (h' : r'.IsRewriteOf r) : r''.IsRewriteOf r :=
  ⟨h.toIsVersionOf.trans h'.toIsVersionOf, h.generation.trans h'.generation,
    h.deletionTimestamp.trans h'.deletionTimestamp⟩

/-- Writing a binding does not ask for its deletion. -/
theorem IsRewriteOf.isDeleting (h : r'.IsRewriteOf r) : r'.isDeleting = r.isDeleting := by
  unfold BindingResource.isDeleting Metadata.isDeleting
  rw [h.deletionTimestamp]

end BindingResource

end WorkloadBindings
