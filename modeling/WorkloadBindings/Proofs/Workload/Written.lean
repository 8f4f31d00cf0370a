import WorkloadBindings.Proofs.Json.Written
import WorkloadBindings.Workload.Basic

/-!
# The written form of workloads

The specification of a pod and what it is made of are written as they were read, and read as they
were written, part by part from the small types to `PodSpec`. So a specification is decided by its
written form, and a value in that form by the specification it writes. Metadata is written with its
names in order whatever it holds, and a workload when its specification is. A workload that was
written is read as it was (`Workload.ofJson_toJson`), so that no two workloads are written alike.
-/

namespace WorkloadBindings

open Schema

/-! ## Environment variables and mounts -/

namespace EnvVar

theorem isPlain_shape : shape.isPlain = true := by decide +kernel

/-- A variable that was read is written as it was. -/
theorem toJson_ofJson {j : Json} (h : shape.IsWritten j) : (ofJson j).toJson = j := by
  obtain ⟨hj, hparts⟩ := h.parts isPlain_shape
  simp only [List.forall_mem_cons, always, maybe] at hparts
  obtain ⟨hname, hvalue, -, -⟩ := hparts
  rw [toJson, ofJson, Shape.some_str hname, Shape.map_str hvalue]
  exact hj.symm

/-- A variable that was written is read as it was. -/
theorem ofJson_toJson (v : EnvVar) : ofJson v.toJson = v := by
  have hparts := Shape.get?_of_eq_record isPlain_shape (rfl : v.toJson = .record _) rfl
  simp only [List.forall_mem_cons] at hparts
  obtain ⟨hname, hvalue, hfrom, -⟩ := hparts
  rw [ofJson, hname, hvalue, hfrom, Shape.bind_str?]
  rfl

end EnvVar

namespace VolumeMount

theorem isPlain_shape : shape.isPlain = true := by decide +kernel

/-- A mount that was read is written as it was. -/
theorem toJson_ofJson {j : Json} (h : shape.IsWritten j) : (ofJson j).toJson = j := by
  obtain ⟨hj, hparts⟩ := h.parts isPlain_shape
  simp only [List.forall_mem_cons, always, maybe] at hparts
  obtain ⟨hpath, hpropagation, hname, honly, hrecursive, hsub, hexpr, -⟩ := hparts
  rw [toJson, ofJson, Shape.some_str hpath, Shape.map_str hpropagation, Shape.some_str hname,
    Shape.map_bool honly, Shape.map_str hrecursive, Shape.map_str hsub, Shape.map_str hexpr]
  exact hj.symm

/-- A mount that was written is read as it was. -/
theorem ofJson_toJson (m : VolumeMount) : ofJson m.toJson = m := by
  have hparts := Shape.get?_of_eq_record isPlain_shape (rfl : m.toJson = .record _) rfl
  simp only [List.forall_mem_cons] at hparts
  obtain ⟨hpath, hpropagation, hname, honly, hrecursive, hsub, hexpr, -⟩ := hparts
  rw [ofJson, hpath, hpropagation, hname, honly, hrecursive, hsub, hexpr]
  simp only [Shape.bind_bool?, Shape.bind_str?]
  rfl

end VolumeMount

namespace SecretSource

theorem isPlain_shape : shape.isPlain = true := by decide +kernel

/-- A secret that was read is written as it was. -/
theorem toJson_ofJson {j : Json} (h : shape.IsWritten j) : (ofJson j).toJson = j := by
  obtain ⟨hj, hparts⟩ := h.parts isPlain_shape
  simp only [List.forall_mem_cons, maybe] at hparts
  obtain ⟨hmode, -, hoptional, hname, -⟩ := hparts
  rw [toJson, ofJson, Shape.map_int hmode, Shape.map_bool hoptional, Shape.map_str hname]
  exact hj.symm

/-- A secret that was written is read as it was. -/
theorem ofJson_toJson (s : SecretSource) : ofJson s.toJson = s := by
  have hparts := Shape.get?_of_eq_record isPlain_shape (rfl : s.toJson = .record _) rfl
  simp only [List.forall_mem_cons] at hparts
  obtain ⟨hmode, hitems, hoptional, hname, -⟩ := hparts
  rw [ofJson, hmode, hitems, hoptional, hname, Shape.bind_int?, Shape.bind_bool?, Shape.bind_str?]

end SecretSource

/-! ## Volumes, containers and pods -/

namespace Volume

theorem isPlain_shape : shape.isPlain = true := by decide +kernel

theorem mem_name : always "name" ∈ fields := by
  unfold fields
  repeat first | exact List.mem_cons_self | apply List.mem_cons_of_mem

theorem mem_secret : maybe "secret" SecretSource.shape ∈ fields := by
  unfold fields
  repeat first | exact List.mem_cons_self | apply List.mem_cons_of_mem

/-- What is carried along are all members but those that bindings act on. -/
theorem mem_restNames {name : String} :
    name ∈ restNames ↔ (∃ f ∈ fields, f.1 = name) ∧ name ≠ "name" ∧ name ≠ "secret" := by
  simp only [restNames, List.mem_filter, List.mem_map, decide_eq_true_eq, List.mem_cons,
    List.not_mem_nil, or_false, not_or]

/-- What is carried along is found by its names. -/
theorem part_of_mem {name : String} (h : name ∈ restNames) (v : Volume) :
    v.part name = v.rest.get? name := by
  obtain ⟨-, hname, hsecret⟩ := mem_restNames.1 h
  rw [part, if_neg hname, if_neg hsecret]

/-- A volume that was read is written as it was. -/
theorem toJson_ofJson {j : Json} (h : shape.IsWritten j) : (ofJson j).toJson = j := by
  have hparts := (h.parts isPlain_shape).2
  refine h.eq_table isPlain_shape fun f hf => ?_
  by_cases hname : f.1 = "name"
  · rw [hname]
    exact Shape.some_str (hparts _ mem_name)
  by_cases hsecret : f.1 = "secret"
  · rw [hsecret]
    exact Shape.map_toJson SecretSource.toJson_ofJson (hparts _ mem_secret)
  · have hrest : f.1 ∈ restNames := mem_restNames.2 ⟨⟨f, hf, rfl⟩, hname, hsecret⟩
    rw [part_of_mem hrest]
    exact Rest.get?_ofJson hrest j

/-- A volume that was written is read as it was. -/
theorem ofJson_toJson (v : Volume) : ofJson v.toJson = v := by
  have hname : v.toJson.get? "name" = v.part "name" := Shape.get?_table isPlain_shape mem_name
  have hsecret : v.toJson.get? "secret" = v.part "secret" :=
    Shape.get?_table isPlain_shape mem_secret
  have hrest : Rest.ofJson restNames v.toJson = v.rest :=
    Shape.ofJson_table isPlain_shape (fun _ h => (mem_restNames.1 h).1) fun _ h => part_of_mem h v
  rw [ofJson, hname, hsecret, hrest]
  simp only [part, reduceIte, String.reduceEq, Option.bind_some, Json.str?, Option.getD_some,
    Shape.map_ofJson SecretSource.ofJson_toJson]

end Volume

namespace Container

theorem isPlain_shape : shape.isPlain = true := by decide +kernel

theorem mem_env : maybe "env" (.list EnvVar.shape) ∈ fields := by
  unfold fields
  repeat first | exact List.mem_cons_self | apply List.mem_cons_of_mem

theorem mem_name : always "name" ∈ fields := by
  unfold fields
  repeat first | exact List.mem_cons_self | apply List.mem_cons_of_mem

theorem mem_volumeMounts : maybe "volumeMounts" (.list VolumeMount.shape) ∈ fields := by
  unfold fields
  repeat first | exact List.mem_cons_self | apply List.mem_cons_of_mem

/-- What is carried along are all members but those that bindings act on. -/
theorem mem_restNames {name : String} :
    name ∈ restNames ↔ (∃ f ∈ fields, f.1 = name) ∧
      name ≠ "env" ∧ name ≠ "name" ∧ name ≠ "volumeMounts" := by
  simp only [restNames, List.mem_filter, List.mem_map, decide_eq_true_eq, List.mem_cons,
    List.not_mem_nil, or_false, not_or]

/-- What is carried along is found by its names. -/
theorem part_of_mem {name : String} (h : name ∈ restNames) (c : Container) :
    c.part name = c.rest.get? name := by
  obtain ⟨-, henv, hname, hmounts⟩ := mem_restNames.1 h
  rw [part, if_neg henv, if_neg hname, if_neg hmounts]

/-- A container that was read is written as it was. -/
theorem toJson_ofJson {j : Json} (h : shape.IsWritten j) : (ofJson j).toJson = j := by
  have hparts := (h.parts isPlain_shape).2
  refine h.eq_table isPlain_shape fun f hf => ?_
  by_cases henv : f.1 = "env"
  · rw [henv]
    exact Shape.map_arr_toJson EnvVar.toJson_ofJson (hparts _ mem_env)
  by_cases hname : f.1 = "name"
  · rw [hname]
    exact Shape.some_str (hparts _ mem_name)
  by_cases hmounts : f.1 = "volumeMounts"
  · rw [hmounts]
    exact Shape.map_arr_toJson VolumeMount.toJson_ofJson (hparts _ mem_volumeMounts)
  · have hrest : f.1 ∈ restNames := mem_restNames.2 ⟨⟨f, hf, rfl⟩, henv, hname, hmounts⟩
    rw [part_of_mem hrest]
    exact Rest.get?_ofJson hrest j

/-- A container that was written is read as it was. -/
theorem ofJson_toJson (c : Container) : ofJson c.toJson = c := by
  have henv : c.toJson.get? "env" = c.part "env" := Shape.get?_table isPlain_shape mem_env
  have hname : c.toJson.get? "name" = c.part "name" := Shape.get?_table isPlain_shape mem_name
  have hmounts : c.toJson.get? "volumeMounts" = c.part "volumeMounts" :=
    Shape.get?_table isPlain_shape mem_volumeMounts
  have hrest : Rest.ofJson restNames c.toJson = c.rest :=
    Shape.ofJson_table isPlain_shape (fun _ h => (mem_restNames.1 h).1) fun _ h => part_of_mem h c
  rw [ofJson, henv, hname, hmounts, hrest]
  simp only [part, reduceIte, String.reduceEq, Option.bind_some, Json.str?, Option.getD_some,
    Shape.map_items_ofJson EnvVar.ofJson_toJson, Shape.map_items_ofJson VolumeMount.ofJson_toJson]

end Container

namespace PodSpec

theorem isPlain_shape : shape.isPlain = true := by decide +kernel

theorem mem_containers : items "containers" Container.shape ∈ fields := by
  unfold fields
  repeat first | exact List.mem_cons_self | apply List.mem_cons_of_mem

theorem mem_initContainers : maybe "initContainers" (.list Container.shape) ∈ fields := by
  unfold fields
  repeat first | exact List.mem_cons_self | apply List.mem_cons_of_mem

theorem mem_volumes : maybe "volumes" (.list Volume.shape) ∈ fields := by
  unfold fields
  repeat first | exact List.mem_cons_self | apply List.mem_cons_of_mem

/-- What is carried along are all members but those that bindings act on. -/
theorem mem_restNames {name : String} :
    name ∈ restNames ↔ (∃ f ∈ fields, f.1 = name) ∧
      name ≠ "containers" ∧ name ≠ "initContainers" ∧ name ≠ "volumes" := by
  simp only [restNames, List.mem_filter, List.mem_map, decide_eq_true_eq, List.mem_cons,
    List.not_mem_nil, or_false, not_or]

/-- What is carried along is found by its names. -/
theorem part_of_mem {name : String} (h : name ∈ restNames) (p : PodSpec) :
    p.part name = p.rest.get? name := by
  obtain ⟨-, hcontainers, hinit, hvolumes⟩ := mem_restNames.1 h
  rw [part, if_neg hcontainers, if_neg hinit, if_neg hvolumes]

/-- A specification that was read is written as it was. -/
theorem toJson_ofJson {j : Json} (h : shape.IsWritten j) : (ofJson j).toJson = j := by
  have hparts := (h.parts isPlain_shape).2
  refine h.eq_table isPlain_shape fun f hf => ?_
  by_cases hcontainers : f.1 = "containers"
  · rw [hcontainers]
    exact Shape.some_arr_toJson Container.toJson_ofJson (hparts _ mem_containers)
  by_cases hinit : f.1 = "initContainers"
  · rw [hinit]
    exact Shape.map_arr_toJson Container.toJson_ofJson (hparts _ mem_initContainers)
  by_cases hvolumes : f.1 = "volumes"
  · rw [hvolumes]
    exact Shape.map_arr_toJson Volume.toJson_ofJson (hparts _ mem_volumes)
  · have hrest : f.1 ∈ restNames :=
      mem_restNames.2 ⟨⟨f, hf, rfl⟩, hcontainers, hinit, hvolumes⟩
    rw [part_of_mem hrest]
    exact Rest.get?_ofJson hrest j

/-- A specification that was written is read as it was. -/
theorem ofJson_toJson (p : PodSpec) : ofJson p.toJson = p := by
  have hcontainers : p.toJson.get? "containers" = p.part "containers" :=
    Shape.get?_table isPlain_shape mem_containers
  have hinit : p.toJson.get? "initContainers" = p.part "initContainers" :=
    Shape.get?_table isPlain_shape mem_initContainers
  have hvolumes : p.toJson.get? "volumes" = p.part "volumes" :=
    Shape.get?_table isPlain_shape mem_volumes
  have hrest : Rest.ofJson restNames p.toJson = p.rest :=
    Shape.ofJson_table isPlain_shape (fun _ h => (mem_restNames.1 h).1) fun _ h => part_of_mem h p
  rw [ofJson, hcontainers, hinit, hvolumes, hrest]
  simp only [part, reduceIte, String.reduceEq, Option.map_some, Option.getD_some,
    Shape.map_items_ofJson Container.ofJson_toJson, Shape.map_items_ofJson Volume.ofJson_toJson,
    Shape.items_map_ofJson Container.ofJson_toJson]

end PodSpec

/-! ## Metadata and workloads -/

/-- Labels that were written are read as they were. -/
theorem Labels.ofJson_toJson (l : Labels) : Labels.ofJson l.toJson = l := by
  have hentries : (l.toJson.members.filterMap fun m => m.2.str?.map (m.1, ·)) = l.entries := by
    simp [Labels.toJson, Json.texts, Json.members, List.filterMap_map, Json.str?]
  unfold Labels.ofJson SortedMap.ofList
  simp only [hentries, l.sorted.ofList_eq]

namespace OwnerReference

theorem isPlain_shape : shape.isPlain = true := by decide +kernel

/-- An owner that was written is read as it was. -/
theorem ofJson_toJson (r : OwnerReference) : ofJson r.toJson = r := by
  have hparts := Shape.get?_of_eq_record isPlain_shape (rfl : r.toJson = .record _) rfl
  simp only [List.forall_mem_cons] at hparts
  obtain ⟨hversion, hblock, hcontroller, hkind, hname, huid, -⟩ := hparts
  rw [ofJson, hversion, hblock, hcontroller, hkind, hname, huid, Shape.bind_bool?,
    Shape.bind_bool?]
  rfl

end OwnerReference

/-- An owner is written with its names in order. -/
theorem OwnerReference.isOrdered_toJson (r : OwnerReference) : r.toJson.isOrdered = true := by
  refine Json.isOrdered_record (Shape.ascending_of_isPlain isPlain_shape rfl) ?_
  have htext : ∀ (s : String) (x : Json), some (Json.str s) = some x → x.isOrdered = true :=
    fun _ _ h => Option.some.inj h ▸ rfl
  simp only [List.forall_mem_cons]
  exact ⟨htext _, Json.isOrdered_of_map (fun _ => rfl) _, Json.isOrdered_of_map (fun _ => rfl) _,
    htext _, htext _, htext _, nofun⟩

namespace ManagedFieldsEntry

/-- The names in the written form of an entry ascend. -/
theorem ascending : ["apiVersion", "fieldsType", "fieldsV1", "manager", "operation", "subresource",
    "time"].Pairwise fun a b => compare a b = .lt := by decide

/-- An entry that was written is read as it was. -/
theorem ofJson_toJson (e : ManagedFieldsEntry) : ofJson e.toJson = e := by
  have hparts := Json.get?_of_eq_record (rfl : e.toJson = .record _) ascending rfl
  simp only [List.forall_mem_cons] at hparts
  obtain ⟨hversion, htype, hfields, hmanager, hoperation, hsubresource, htime, -⟩ := hparts
  rw [ofJson, hversion, htype, hfields, hmanager, hoperation, hsubresource, htime]
  simp only [Shape.bind_str?, Shape.map_ofJson Verbatim.ofJson_value]

/-- An entry is written with its names in order. -/
theorem isOrdered_toJson (e : ManagedFieldsEntry) : e.toJson.isOrdered = true := by
  have htext := Json.isOrdered_of_map (fun s => (rfl : (Json.str s).isOrdered = true))
  refine Json.isOrdered_record (Json.ascending_of_names ascending rfl) ?_
  simp only [List.forall_mem_cons]
  exact ⟨htext _, htext _, Json.isOrdered_of_map Verbatim.ordered _, htext _, htext _, htext _,
    htext _, nofun⟩

end ManagedFieldsEntry

/-- The names in the written form of metadata ascend. -/
theorem Metadata.ascending : ["annotations", "creationTimestamp", "deletionGracePeriodSeconds",
    "deletionTimestamp", "finalizers", "generateName", "generation", "labels", "managedFields",
    "name", "namespace", "ownerReferences", "resourceVersion", "selfLink",
    "uid"].Pairwise fun a b => compare a b = .lt := by decide

/-- Metadata that was written is read as it was. -/
theorem Metadata.ofJson_toJson (m : Metadata) : ofJson m.toJson = m := by
  have hparts := Json.get?_of_eq_record (rfl : m.toJson = .record _) ascending rfl
  simp only [List.forall_mem_cons] at hparts
  obtain ⟨hannotations, hcreation, hgrace, hdeletion, hfinalizers, hgenerate, hgeneration, hlabels,
    hmanaged, hname, hnamespace, howners, hversion, hlink, huid, -⟩ := hparts
  have hstrings : ∀ x : Option (List String),
      (x.map Json.strings).map (fun xs => xs.items.filterMap Json.str?) = x := by
    intro x
    cases x with
    | none => rfl
    | some xs => exact congrArg some (Shape.filterMap_strings xs)
  rw [ofJson, hannotations, hcreation, hgrace, hdeletion, hfinalizers, hgenerate, hgeneration,
    hlabels, hmanaged, hname, hnamespace, howners, hversion, hlink, huid]
  simp only [Shape.map_ofJson Labels.ofJson_toJson, Shape.bind_str?, Shape.bind_int?, hstrings,
    Shape.map_items_ofJson ManagedFieldsEntry.ofJson_toJson,
    Shape.map_items_ofJson OwnerReference.ofJson_toJson]

/-- Metadata is written with its names in order. -/
theorem Metadata.isOrdered_toJson (m : Metadata) : m.toJson.isOrdered = true := by
  have htext := Json.isOrdered_of_map (fun s => (rfl : (Json.str s).isOrdered = true))
  have hint := Json.isOrdered_of_map (fun n => (rfl : (Json.int n).isOrdered = true))
  have hlabels := Json.isOrdered_of_map (fun l : Labels => Json.isOrdered_texts l.sorted)
  refine Json.isOrdered_record (Json.ascending_of_names ascending rfl) ?_
  simp only [List.forall_mem_cons]
  exact ⟨hlabels _, htext _, hint _, htext _, Json.isOrdered_of_map Json.isOrdered_strings _,
    htext _, hint _, hlabels _,
    Json.isOrdered_of_map (Json.isOrdered_arr_map ManagedFieldsEntry.isOrdered_toJson) _, htext _,
    htext _, Json.isOrdered_of_map (Json.isOrdered_arr_map OwnerReference.isOrdered_toJson) _,
    htext _, htext _, htext _, nofun⟩

/-- A template is written with its names in order when its specification is. -/
theorem PodTemplate.isOrdered_toJson {t : PodTemplate}
    (h : ∀ p, t.spec = some p → p.toJson.isOrdered = true) : t.toJson.isOrdered = true := by
  have hnames : ["metadata", "spec"].Pairwise fun a b => compare a b = .lt := by decide
  refine Json.isOrdered_record (Json.ascending_of_names hnames rfl) ?_
  simp only [List.forall_mem_cons]
  refine ⟨Json.isOrdered_of_map Metadata.isOrdered_toJson _, fun x hx => ?_, nofun⟩
  obtain ⟨p, hp, rfl⟩ := Option.map_eq_some_iff.1 hx
  exact h p hp

/-- A workload is written with its names in order when the specification of its pods is. -/
theorem Workload.isOrdered_toJson {w : Workload}
    (h : ∀ p, w.template.spec = some p → p.toJson.isOrdered = true) : w.toJson.isOrdered = true := by
  have hnames : ["metadata", "spec"].Pairwise fun a b => compare a b = .lt := by decide
  refine (Json.isOrdered_obj_iff _).2 ⟨Json.ascending_of_names hnames rfl, ?_⟩
  simp only [List.forall_mem_cons]
  refine ⟨Metadata.isOrdered_toJson w.metadata, (Json.isOrdered_obj_iff _).2 ⟨?_, ?_⟩, nofun⟩
  · exact List.pairwise_singleton _ _
  · exact List.forall_mem_singleton.2 (PodTemplate.isOrdered_toJson h)

/-- A template that was written is read as it was. -/
theorem PodTemplate.ofJson_toJson (t : PodTemplate) : ofJson t.toJson = t := by
  have hnames : ["metadata", "spec"].Pairwise fun a b => compare a b = .lt := by decide
  have hparts := Json.get?_of_eq_record (rfl : t.toJson = .record _) hnames rfl
  simp only [List.forall_mem_cons] at hparts
  obtain ⟨hmetadata, hspec, -⟩ := hparts
  rw [ofJson, hmetadata, hspec, Shape.map_ofJson Metadata.ofJson_toJson,
    Shape.map_ofJson PodSpec.ofJson_toJson]

namespace Workload

/-- A workload is in written form when the specification of its pods is. -/
def IsWritten (w : Workload) : Prop :=
  ∀ p, w.template.spec = some p → PodSpec.shape.IsWritten p.toJson

/-- A workload in written form is written with its names in order. -/
theorem IsWritten.ordered {w : Workload} (h : w.IsWritten) : w.toJson.isOrdered = true :=
  isOrdered_toJson fun p hp => (h p hp).ordered

/-- A workload that was written is read as it was. -/
theorem ofJson_toJson (w : Workload) : ofJson w.toJson = w := by
  have hmetadata : w.toJson.get? "metadata" = some w.metadata.toJson := rfl
  have hspec : (w.toJson.get? "spec").bind (·.get? "template") = some w.template.toJson := rfl
  rw [ofJson, hmetadata, hspec, Option.getD_some, Option.getD_some, Metadata.ofJson_toJson,
    PodTemplate.ofJson_toJson]

/-- Workloads that are written alike are the same. -/
theorem toJson_injective {w v : Workload} (h : w.toJson = v.toJson) : w = v := by
  rw [← ofJson_toJson w, h, ofJson_toJson]

end Workload

end WorkloadBindings
