import WorkloadBindings.Proofs.Json.Within
import WorkloadBindings.Proofs.Workload.Edit
import WorkloadBindings.Proofs.Workload.Patched

/-!
# The lists that a change is written to

A mutation is about some of three kinds of lists (`PodList`): the volumes of a pod, and the mounts and
the variables of its containers. In the object of a workload each list has its place
(`PodList.places`). Whatever an edit makes of a workload, its difference is within the places of the
lists that the edit changes (`Edit.isWithin_diff`), which goes down to the lists by way of the pod and
of the containers. Lists of different kinds have no place in common, nor one below the other
(`PodList.eq_of_below`), so that a patch that is within the places of some kinds of lists keeps away
from the others.
-/

namespace WorkloadBindings

/-! ## Places of lists -/

/-- A kind of list that mutations are about. -/
inductive PodList where
  /-- The volumes of a pod. -/
  | volumes
  /-- The mounts of a container. -/
  | volumeMounts
  /-- The variables of a container. -/
  | env
  deriving DecidableEq

/-- The places of the regular and of the initialising containers in the object of a workload. -/
def PodSpec.containerPlaces (p : PodSpec) : List Pointer :=
  ((List.range p.containers.length).map fun i =>
    ["spec", "template", "spec", "containers", Pointer.ofIndex i]) ++
  (List.range (p.initContainers.getD []).length).map fun i =>
    ["spec", "template", "spec", "initContainers", Pointer.ofIndex i]

/-- The places of the lists of a kind in the object of a workload, whether the lists are there or
absent. -/
def PodList.places (l : PodList) (w : Workload) : List Pointer :=
  match w.template.spec with
  | none => []
  | some p =>
    match l with
    | .volumes => [["spec", "template", "spec", "volumes"]]
    | .volumeMounts => p.containerPlaces.map (· ++ ["volumeMounts"])
    | .env => p.containerPlaces.map (· ++ ["env"])

/-- The kinds of lists that the mutation is about. -/
def Mutation.lists : Mutation → List PodList
  | .secret _ => [.volumes, .volumeMounts]
  | .env _ => [.env]

namespace PodList

variable {l l' : PodList} {w : Workload} {p : PodSpec} {place place' path : Pointer}

/-- The kind of list that a place is at or below. -/
def ofPath? : Pointer → Option PodList
  | _ :: _ :: _ :: "volumes" :: _ => some .volumes
  | _ :: _ :: _ :: _ :: _ :: "volumeMounts" :: _ => some .volumeMounts
  | _ :: _ :: _ :: _ :: _ :: "env" :: _ => some .env
  | _ => none

/-- The place of a container is that of a regular or of an initialising one, by its index. -/
theorem mem_containerPlaces_iff :
    place ∈ p.containerPlaces ↔
      (∃ i < p.containers.length,
        place = ["spec", "template", "spec", "containers", Pointer.ofIndex i]) ∨
      ∃ i < (p.initContainers.getD []).length,
        place = ["spec", "template", "spec", "initContainers", Pointer.ofIndex i] := by
  unfold PodSpec.containerPlaces
  simp only [List.mem_append, List.mem_map, List.mem_range, eq_comm]

/-- What is at or below the place of a list is so for lists of its kind. -/
theorem ofPath?_of_below (hplace : place ∈ l.places w) (h : place <+: path) :
    ofPath? path = some l := by
  obtain ⟨rest, rfl⟩ := h
  unfold places at hplace
  cases hspec : w.template.spec with
  | none => simp [hspec] at hplace
  | some p =>
    rw [hspec] at hplace
    cases l with
    | volumes =>
      obtain rfl := List.mem_singleton.1 hplace
      rfl
    | volumeMounts =>
      obtain ⟨container, hcontainer, rfl⟩ := List.mem_map.1 hplace
      rcases mem_containerPlaces_iff.1 hcontainer with ⟨i, -, rfl⟩ | ⟨i, -, rfl⟩ <;> rfl
    | env =>
      obtain ⟨container, hcontainer, rfl⟩ := List.mem_map.1 hplace
      rcases mem_containerPlaces_iff.1 hcontainer with ⟨i, -, rfl⟩ | ⟨i, -, rfl⟩ <;> rfl

/-- The place of the volumes. -/
theorem volumes_mem_places (hp : w.template.spec = some p) :
    Workload.podPath ++ ["volumes"] ∈ volumes.places w := by
  simp only [places, hp]
  exact List.mem_singleton_self _

/-- The places of the mounts. -/
theorem volumeMounts_mem_places (hp : w.template.spec = some p) (hplace : place ∈ p.containerPlaces) :
    place ++ ["volumeMounts"] ∈ volumeMounts.places w := by
  simp only [places, hp]
  exact List.mem_map_of_mem hplace

/-- The places of the variables. -/
theorem env_mem_places (hp : w.template.spec = some p) (hplace : place ∈ p.containerPlaces) :
    place ++ ["env"] ∈ env.places w := by
  simp only [places, hp]
  exact List.mem_map_of_mem hplace

/-- Nothing is at or below the places of lists of two kinds. -/
theorem eq_of_below (hplace : place ∈ l.places w) (h : place <+: path)
    (hplace' : place' ∈ l'.places w) (h' : place' <+: path) : l = l' := by
  have hkind := ofPath?_of_below hplace h
  rw [ofPath?_of_below hplace' h'] at hkind
  exact (Option.some.inj hkind).symm

end PodList

/-! ## Edits -/

namespace Edit

/-- The edit changes lists of the kind, or may do so. -/
def Changes (e : Edit) : PodList → Prop
  | .volumes => e.volumes ≠ id
  | .volumeMounts => e.volumeMounts ≠ id
  | .env => e.env ≠ id

variable {e f : Edit} {l : PodList}

/-- The edit that changes no lists makes nothing of a pod. -/
theorem onPod_empty (p : PodSpec) : ({} : Edit).onPod p = p := by
  have hcontainer : ({} : Edit).onContainer = id := rfl
  unfold onPod Mutation.mapContainers
  rw [hcontainer, List.map_id, List.map_id_fun, Option.map_id_fun]
  rfl

/-- One edit after another changes no other lists than the two do. -/
theorem Changes.of_comp (h : (e.comp f).Changes l) : e.Changes l ∨ f.Changes l := by
  by_contra hneither
  obtain ⟨he, hf⟩ := not_or.1 hneither
  cases l with
  | volumes => exact h (by rw [comp, not_not.1 he, not_not.1 hf, Function.id_comp])
  | volumeMounts => exact h (by rw [comp, not_not.1 he, not_not.1 hf, Function.id_comp])
  | env => exact h (by rw [comp, not_not.1 he, not_not.1 hf, Function.id_comp])

/-- A change of a mutation changes the lists that the mutation is about. -/
theorem Changes.mem_lists {c : Change} {m : Mutation} (h : (c.edit m).Changes l) : l ∈ m.lists := by
  cases m <;> cases l <;> first | exact absurd rfl h | simp [Mutation.lists]

/-- The places of the lists in the object of a workload that the edit changes. -/
def places (e : Edit) (w : Workload) : Set Pointer := {place | ∃ l, e.Changes l ∧ place ∈ l.places w}

/-- The places in a container that an edit changes. -/
theorem places_of_mem {w : Workload} {p : PodSpec} {place : Pointer} (hp : w.template.spec = some p)
    (hplace : place ∈ p.containerPlaces) :
    (e.Changes .volumeMounts → place ++ ["volumeMounts"] ∈ e.places w) ∧
      (e.Changes .env → place ++ ["env"] ∈ e.places w) :=
  ⟨fun h => ⟨.volumeMounts, h, PodList.volumeMounts_mem_places hp hplace⟩,
    fun h => ⟨.env, h, PodList.env_mem_places hp hplace⟩⟩

variable {places : Set Pointer} {path : Pointer}

/-- What becomes of a list is a matter of its own place, if anything becomes of it. -/
theorem partWithin_items {α : Type} (toJson : α → Json) {g : Option (List α) → Option (List α)}
    (h : g ≠ id → path ∈ places) (items : Option (List α)) :
    Json.PartWithin places path (items.map fun xs => .arr (xs.map toJson))
      ((g items).map fun xs => .arr (xs.map toJson)) := by
  by_cases hg : g = id
  · rw [hg]
    exact Json.partWithin_self places path _
  · exact Or.inr (Or.inl ⟨path, h hg, List.prefix_refl path⟩)

/-- The difference that an edit makes in a container is within the places of the lists that it changes
there. -/
theorem isWithin_container (hmounts : e.Changes .volumeMounts → path ++ ["volumeMounts"] ∈ places)
    (henv : e.Changes .env → path ++ ["env"] ∈ places) {c : Container}
    (hc : c.toJson.isOrdered = true) :
    (Json.diffAt path c.toJson (e.onContainer c).toJson).IsWithin places := by
  refine Json.isWithin_diffAt_table Container.ascending hc fun f _ => ?_
  by_cases hvars : f.1 = "env"
  · rw [hvars]
    exact partWithin_items EnvVar.toJson henv c.env
  by_cases hplaces : f.1 = "volumeMounts"
  · rw [hplaces]
    exact partWithin_items VolumeMount.toJson hmounts c.volumeMounts
  · rw [part_onContainer e c hvars hplaces]
    exact Json.partWithin_self places _ _

/-- The difference that an edit makes in containers is within the places of the lists that it changes
in them. -/
theorem isWithin_containers {cs : List Container}
    (hlists : ∀ i < cs.length,
      (e.Changes .volumeMounts → path ++ [Pointer.ofIndex i] ++ ["volumeMounts"] ∈ places) ∧
      (e.Changes .env → path ++ [Pointer.ofIndex i] ++ ["env"] ∈ places))
    (hcs : (Json.arr (cs.map Container.toJson)).isOrdered = true) :
    (Json.diffAt path (.arr (cs.map Container.toJson))
      (.arr ((cs.map e.onContainer).map Container.toJson))).IsWithin places := by
  have hitems := (Json.isOrdered_arr_iff _).1 hcs
  rw [List.map_map]
  refine Json.isWithin_diffAt_map _ _ cs fun i c hc => ?_
  obtain ⟨hi, -⟩ := List.getElem?_eq_some_iff.1 hc
  obtain ⟨hmounts, henv⟩ := hlists i hi
  exact isWithin_container hmounts henv
    (hitems _ (List.mem_map_of_mem (List.mem_of_getElem? hc)))

/-- The difference that an edit makes in the specification of the pods of a workload is within the
places of the lists that it changes. -/
theorem isWithin_pod (e : Edit) {w : Workload} {p : PodSpec} (hp : w.template.spec = some p)
    (hordered : p.toJson.isOrdered = true) :
    (Json.diffAt Workload.podPath p.toJson (e.onPod p).toJson).IsWithin (e.places w) := by
  have hcontainers : Json.PartWithin (e.places w) (Workload.podPath ++ ["containers"])
      (some (.arr (p.containers.map Container.toJson)))
      (some (.arr ((e.onPod p).containers.map Container.toJson))) := by
    have hcs := Json.isOrdered_of_mem_table hordered PodSpec.mem_containers rfl
    refine Json.partWithin_of_isWithin (isWithin_containers (fun i hi => ?_) hcs)
    exact places_of_mem hp (PodList.mem_containerPlaces_iff.2 (Or.inl ⟨i, hi, rfl⟩))
  have hinit : Json.PartWithin (e.places w) (Workload.podPath ++ ["initContainers"])
      (p.initContainers.map fun cs => .arr (cs.map Container.toJson))
      ((e.onPod p).initContainers.map fun cs => .arr (cs.map Container.toJson)) := by
    unfold onPod Mutation.mapContainers
    cases hspec : p.initContainers with
    | none => exact Json.partWithin_self _ _ none
    | some cs =>
      have hcs : (Json.arr (cs.map Container.toJson)).isOrdered = true := by
        have hpart : p.part "initContainers" =
          p.initContainers.map fun cs => .arr (cs.map Container.toJson) := rfl
        rw [hspec] at hpart
        exact Json.isOrdered_of_mem_table hordered PodSpec.mem_initContainers hpart
      refine Json.partWithin_of_isWithin (isWithin_containers (fun i hi => ?_) hcs)
      exact places_of_mem hp (PodList.mem_containerPlaces_iff.2 (Or.inr ⟨i, by rwa [hspec], rfl⟩))
  have hvolumes : e.Changes .volumes → Workload.podPath ++ ["volumes"] ∈ e.places w :=
    fun hchanges => ⟨.volumes, hchanges, PodList.volumes_mem_places hp⟩
  refine Json.isWithin_diffAt_table PodSpec.ascending hordered fun f _ => ?_
  by_cases hregular : f.1 = "containers"
  · rw [hregular]
    exact hcontainers
  by_cases hinitial : f.1 = "initContainers"
  · rw [hinitial]
    exact hinit
  by_cases hplaces : f.1 = "volumes"
  · rw [hplaces]
    exact partWithin_items Volume.toJson hvolumes p.volumes
  · rw [e.part_onPod p hregular hinitial hplaces]
    exact Json.partWithin_self _ _ _

/-- The difference that an edit makes in a workload is within the places of the lists that it changes.
-/
theorem isWithin_diff (e : Edit) {w : Workload} (hw : w.toJson.isOrdered = true) :
    (Json.diff w.toJson (Mutation.onPod e.onPod w).toJson).IsWithin (e.places w) := by
  cases hp : w.template.spec with
  | none =>
    rw [Mutation.onPod_of_none e.onPod hp, Json.diff_self hw]
    exact Patch.isWithin_nil _
  | some p =>
    -- The specification is found in the object of the workload, three members deep.
    have hordered : p.toJson.isOrdered = true := by
      obtain ⟨ms, sms, tms, hms, hspec, htemplate, hpod, -⟩ := Mutation.toJson_onPod e.onPod hp
      rw [hms] at hw
      have hsms := Json.isOrdered_of_get? hw hspec
      exact Json.isOrdered_of_get? (Json.isOrdered_of_get? hsms htemplate) hpod
    rw [Workload.diff_onPod e.onPod hp hordered]
    exact e.isWithin_pod hp hordered

end Edit

end WorkloadBindings
