import WorkloadBindings.Mutation
import WorkloadBindings.Proofs.Workload.Written

/-!
# Mutations keep the written form

A specification that is written in written form still is after a mutation was carried out on it or
undone (`Mutation.isWritten_apply`, `Mutation.isWritten_undo`): a mutation takes items out of lists,
leaves no empty list behind, and puts in items that are in written form themselves. Carrying out the
bindings of a workload only changes its specification, and to one that is in written form
(`Binding.carryOut_eq`).
-/

namespace WorkloadBindings

open Shape (ItemsWritten RestWritten)

/-! ## Parts that change -/

namespace Volume

/-- The members of volumes have one name each. -/
theorem ascending : fields.Pairwise fun a b => compare a.1 b.1 = .lt :=
  (Shape.plainFields_of_isPlain isPlain_shape).ascending

/-- A volume is in written form when its secret and what is carried along are. -/
theorem isWritten_iff {v : Volume} : shape.IsWritten v.toJson ↔
    (∀ s, v.secret = some s → SecretSource.shape.IsWritten s.toJson) ∧
      RestWritten fields v.rest := by
  refine (Shape.isWritten_table_iff isPlain_shape).trans ⟨fun h => ⟨fun s hs => ?_, ?_⟩, ?_⟩
  · have hsecret : v.part "secret" = some s.toJson := congrArg (Option.map SecretSource.toJson) hs
    exact (Shape.isWrittenPart_nullable.1 (h _ mem_secret) _ hsecret).2
  · exact fun f hf hrest => part_of_mem hrest v ▸ h f hf
  · rintro ⟨hsecret, hrest⟩ f hf
    by_cases hname : f.1 = "name"
    · obtain rfl := Shape.eq_of_fst_eq ascending hf mem_name hname
      exact (Shape.isWritten_text v.name).part nofun
    by_cases hsource : f.1 = "secret"
    · obtain rfl := Shape.eq_of_fst_eq ascending hf mem_secret hsource
      refine Shape.isWrittenPart_nullable.2 fun y hy => ?_
      obtain ⟨s, hs, rfl⟩ := Option.map_eq_some_iff.1 hy
      exact ⟨nofun, hsecret s hs⟩
    · have hmem : f.1 ∈ restNames := mem_restNames.2 ⟨⟨f, hf, rfl⟩, hname, hsource⟩
      rw [part_of_mem hmem]
      exact hrest f hf hmem

end Volume

namespace Container

/-- The members of containers have one name each. -/
theorem ascending : fields.Pairwise fun a b => compare a.1 b.1 = .lt :=
  (Shape.plainFields_of_isPlain isPlain_shape).ascending

/-- A container is in written form when its variables, its mounts and what is carried along are. -/
theorem isWritten_iff {c : Container} : shape.IsWritten c.toJson ↔
    ItemsWritten EnvVar.shape EnvVar.toJson c.env ∧
      ItemsWritten VolumeMount.shape VolumeMount.toJson c.volumeMounts ∧
      RestWritten fields c.rest := by
  refine (Shape.isWritten_table_iff isPlain_shape).trans ⟨fun h => ⟨?_, ?_, ?_⟩, ?_⟩
  · exact Shape.isWrittenPart_items_iff.1 (h _ mem_env)
  · exact Shape.isWrittenPart_items_iff.1 (h _ mem_volumeMounts)
  · exact fun f hf hrest => part_of_mem hrest c ▸ h f hf
  · rintro ⟨henv, hmounts, hrest⟩ f hf
    by_cases hname : f.1 = "name"
    · obtain rfl := Shape.eq_of_fst_eq ascending hf mem_name hname
      exact (Shape.isWritten_text c.name).part nofun
    by_cases hvars : f.1 = "env"
    · obtain rfl := Shape.eq_of_fst_eq ascending hf mem_env hvars
      exact Shape.isWrittenPart_items_iff.2 henv
    by_cases hplaces : f.1 = "volumeMounts"
    · obtain rfl := Shape.eq_of_fst_eq ascending hf mem_volumeMounts hplaces
      exact Shape.isWrittenPart_items_iff.2 hmounts
    · have hmem : f.1 ∈ restNames := mem_restNames.2 ⟨⟨f, hf, rfl⟩, hvars, hname, hplaces⟩
      rw [part_of_mem hmem]
      exact hrest f hf hmem

end Container

namespace PodSpec

/-- The members of specifications have one name each. -/
theorem ascending : fields.Pairwise fun a b => compare a.1 b.1 = .lt :=
  (Shape.plainFields_of_isPlain isPlain_shape).ascending

/-- A specification is in written form when its containers, its volumes and what is carried along
are. -/
theorem isWritten_iff {p : PodSpec} : shape.IsWritten p.toJson ↔
    (∀ c ∈ p.containers, Container.shape.IsWritten c.toJson) ∧
      ItemsWritten Container.shape Container.toJson p.initContainers ∧
      ItemsWritten Volume.shape Volume.toJson p.volumes ∧ RestWritten fields p.rest := by
  refine (Shape.isWritten_table_iff isPlain_shape).trans ⟨fun h => ⟨?_, ?_, ?_, ?_⟩, ?_⟩
  · obtain ⟨_, hlist, -, hwritten⟩ := Shape.isWrittenPart_filled.1 (h _ mem_containers)
    obtain rfl := Option.some.inj hlist
    exact Shape.isWritten_arr_map_iff.1 hwritten
  · exact Shape.isWrittenPart_items_iff.1 (h _ mem_initContainers)
  · exact Shape.isWrittenPart_items_iff.1 (h _ mem_volumes)
  · exact fun f hf hrest => part_of_mem hrest p ▸ h f hf
  · rintro ⟨hcontainers, hinit, hvolumes, hrest⟩ f hf
    by_cases hregular : f.1 = "containers"
    · obtain rfl := Shape.eq_of_fst_eq ascending hf mem_containers hregular
      exact (Shape.isWritten_arr_map_iff.2 hcontainers).part nofun
    by_cases hinitial : f.1 = "initContainers"
    · obtain rfl := Shape.eq_of_fst_eq ascending hf mem_initContainers hinitial
      exact Shape.isWrittenPart_items_iff.2 hinit
    by_cases hplaces : f.1 = "volumes"
    · obtain rfl := Shape.eq_of_fst_eq ascending hf mem_volumes hplaces
      exact Shape.isWrittenPart_items_iff.2 hvolumes
    · have hmem : f.1 ∈ restNames :=
        mem_restNames.2 ⟨⟨f, hf, rfl⟩, hregular, hinitial, hplaces⟩
      rw [part_of_mem hmem]
      exact hrest f hf hmem

end PodSpec

namespace Mutation

/-! ## Taking out and putting in -/

section

variable {τ : Type} {shape : Shape} {toJson : τ → Json} {items : Option (List τ)}

/-- Taking items out leaves the others in written form. -/
theorem itemsWritten_retain (h : ItemsWritten shape toJson items) (keep : τ → Bool) :
    ItemsWritten shape toJson (retain keep items) := by
  intro ts hts t ht
  cases items with
  | none => cases hts
  | some xs =>
    simp only [retain] at hts
    split at hts
    · cases hts
    · obtain rfl := Option.some.inj hts
      exact h xs rfl t (List.mem_of_mem_filter ht)

/-- Items that are put in are in written form beside the others when they are themselves. -/
theorem itemsWritten_append (h : ItemsWritten shape toJson items) {more : List τ}
    (hmore : ∀ t ∈ more, shape.IsWritten (toJson t)) :
    ItemsWritten shape toJson (append items more) := by
  intro ts hts t ht
  obtain rfl := Option.some.inj hts
  rcases List.mem_append.1 ht with ht | ht
  · cases items with
    | none => cases ht
    | some xs => exact h xs rfl t ht
  · exact hmore t ht

end

/-- The mount that a mutation puts in is in written form. -/
theorem isWritten_volumeMountOf (m : SecretMount) :
    VolumeMount.shape.IsWritten (volumeMountOf m).toJson := by
  refine (Shape.isWritten_record_iff VolumeMount.isPlain_shape rfl).2 ?_
  exact .cons ((Shape.isWritten_text m.mountPath).part nofun) (.cons (.inl ⟨rfl, rfl⟩)
    (.cons ((Shape.isWritten_text m.volume).part nofun)
      (.cons ((Shape.isWritten_flag true).part nofun) (.cons (.inl ⟨rfl, rfl⟩)
        (.cons (.inl ⟨rfl, rfl⟩) (.cons (.inl ⟨rfl, rfl⟩) .nil))))))

/-- The volume that a mutation puts in is in written form. -/
theorem isWritten_volumeOf (m : SecretMount) : Volume.shape.IsWritten (volumeOf m).toJson := by
  have hsource : SecretSource.shape.IsWritten
      ({ secretName := some m.secret } : SecretSource).toJson := by
    refine (Shape.isWritten_record_iff SecretSource.isPlain_shape rfl).2 ?_
    exact .cons (.inl ⟨rfl, rfl⟩) (.cons (.inl ⟨rfl, rfl⟩) (.cons (.inl ⟨rfl, rfl⟩)
      (.cons ((Shape.isWritten_text m.secret).part nofun) .nil)))
  have hnullable : ∀ f ∈ Volume.fields, f.2.1 = .nullable ∨ f.1 = "name" := by decide +kernel
  refine Volume.isWritten_iff.2 ⟨fun s hs => ?_, Shape.restWritten_empty fun f hf hrest => ?_⟩
  · obtain rfl := Option.some.inj hs
    exact hsource
  · refine (hnullable f hf).resolve_right fun hname => ?_
    rw [hname] at hrest
    exact absurd (List.mem_filter.1 hrest).2 (by decide)

/-- The variables that a mutation puts in are in written form. -/
theorem isWritten_envVarsOf (vars : List (String × String)) :
    ∀ v ∈ envVarsOf vars, EnvVar.shape.IsWritten v.toJson := by
  unfold envVarsOf
  rw [List.forall_mem_map]
  intro v _
  refine (Shape.isWritten_record_iff EnvVar.isPlain_shape rfl).2 ?_
  exact .cons ((Shape.isWritten_text v.1).part nofun)
    (.cons ((Shape.isWritten_text v.2).part nofun) (.cons (.inl ⟨rfl, rfl⟩) .nil))

/-! ## Containers and pods -/

/-- A container in written form still is when a mutation was undone on it. -/
theorem isWritten_undoContainer (m : Mutation) {c : Container}
    (h : Container.shape.IsWritten c.toJson) :
    Container.shape.IsWritten (m.undoContainer c).toJson := by
  obtain ⟨henv, hmounts, hrest⟩ := Container.isWritten_iff.1 h
  cases m with
  | secret mount => exact Container.isWritten_iff.2 ⟨henv, itemsWritten_retain hmounts _, hrest⟩
  | env vars => exact Container.isWritten_iff.2 ⟨itemsWritten_retain henv _, hmounts, hrest⟩

/-- A container in written form still is with what a mutation puts in. -/
theorem isWritten_injectContainer (m : Mutation) {c : Container}
    (h : Container.shape.IsWritten c.toJson) :
    Container.shape.IsWritten (m.injectContainer c).toJson := by
  obtain ⟨henv, hmounts, hrest⟩ := Container.isWritten_iff.1 h
  cases m with
  | secret mount =>
    have hmount : ∀ v ∈ [volumeMountOf mount], VolumeMount.shape.IsWritten v.toJson :=
      List.forall_mem_singleton.2 (isWritten_volumeMountOf mount)
    exact Container.isWritten_iff.2 ⟨henv, itemsWritten_append hmounts hmount, hrest⟩
  | env vars =>
    have hvars := itemsWritten_append henv (isWritten_envVarsOf vars)
    exact Container.isWritten_iff.2 ⟨hvars, hmounts, hrest⟩

/-- A specification in written form still is when its containers were changed to ones that are, and
its volumes. -/
theorem isWritten_mapContainers {f : Container → Container}
    (hf : ∀ {c : Container}, Container.shape.IsWritten c.toJson →
      Container.shape.IsWritten (f c).toJson)
    {p : PodSpec} (h : PodSpec.shape.IsWritten p.toJson) {volumes : Option (List Volume)}
    (hvolumes : ItemsWritten Volume.shape Volume.toJson volumes) :
    PodSpec.shape.IsWritten ({ mapContainers f p with volumes } : PodSpec).toJson := by
  obtain ⟨hcontainers, hinit, -, hrest⟩ := PodSpec.isWritten_iff.1 h
  refine PodSpec.isWritten_iff.2 ⟨?_, ?_, hvolumes, hrest⟩
  · exact List.forall_mem_map.2 fun c hc => hf (hcontainers c hc)
  · intro cs hcs c hc
    obtain ⟨cs', hcs', rfl⟩ := Option.map_eq_some_iff.1 hcs
    obtain ⟨c', hc', rfl⟩ := List.mem_map.1 hc
    exact hf (hinit cs' hcs' c' hc')

/-- A specification in written form still is when a mutation was undone on it. -/
theorem isWritten_undoPod (m : Mutation) {p : PodSpec} (h : PodSpec.shape.IsWritten p.toJson) :
    PodSpec.shape.IsWritten (m.undoPod p).toJson := by
  have hvolumes := (PodSpec.isWritten_iff.1 h).2.2.1
  cases m with
  | secret mount =>
    exact isWritten_mapContainers (isWritten_undoContainer _) h (itemsWritten_retain hvolumes _)
  | env vars => exact isWritten_mapContainers (isWritten_undoContainer _) h hvolumes

/-- A specification in written form still is with what a mutation puts in. -/
theorem isWritten_injectPod (m : Mutation) {p : PodSpec} (h : PodSpec.shape.IsWritten p.toJson) :
    PodSpec.shape.IsWritten (m.injectPod p).toJson := by
  have hvolumes := (PodSpec.isWritten_iff.1 h).2.2.1
  cases m with
  | secret mount =>
    refine isWritten_mapContainers (isWritten_injectContainer _) h
      (itemsWritten_append hvolumes ?_)
    exact List.forall_mem_singleton.2 (isWritten_volumeOf mount)
  | env vars => exact isWritten_mapContainers (isWritten_injectContainer _) h hvolumes

/-! ## Workloads -/

/-- Nothing is changed when the specification is not. -/
theorem onPod_self (w : Workload) : onPod (fun p => p) w = w := by
  obtain ⟨metadata, template⟩ := w
  obtain ⟨tmetadata, spec⟩ := template
  cases spec <;> rfl

/-- Changing the specification twice is one change. -/
theorem onPod_onPod (f g : PodSpec → PodSpec) (w : Workload) :
    onPod f (onPod g w) = onPod (fun p => f (g p)) w := by
  simp only [onPod, Option.map_map]
  rfl

/-- Without a specification there is nothing to change. -/
theorem onPod_of_none (f : PodSpec → PodSpec) {w : Workload} (h : w.template.spec = none) :
    onPod f w = w := by
  obtain ⟨metadata, template⟩ := w
  obtain ⟨tmetadata, spec⟩ := template
  obtain rfl : spec = none := h
  rfl

/-- A workload in written form still is with its specification changed to one that is. -/
theorem isWritten_onPod {f : PodSpec → PodSpec}
    (hf : ∀ p, PodSpec.shape.IsWritten p.toJson → PodSpec.shape.IsWritten (f p).toJson)
    {w : Workload} (h : w.IsWritten) : (onPod f w).IsWritten := by
  intro p hp
  obtain ⟨q, hq, rfl⟩ := Option.map_eq_some_iff.1 hp
  exact hf q (h q hq)

/-- A workload in written form still is when a mutation was undone on it. -/
theorem isWritten_undo (m : Mutation) {w : Workload} (h : w.IsWritten) : (m.undo w).IsWritten :=
  isWritten_onPod (fun _ hp => isWritten_undoPod m hp) h

/-- A workload in written form still is when a mutation was carried out on it. -/
theorem isWritten_apply (m : Mutation) {w : Workload} (h : w.IsWritten) : (m.apply w).IsWritten :=
  isWritten_onPod (fun _ hp => isWritten_injectPod m (isWritten_undoPod m hp)) h

/-- The place of the specification of the pods in the object of a workload: the objects on the way
to it, and what the object becomes with another specification. -/
theorem toJson_onPod (f : PodSpec → PodSpec) {w : Workload} {p : PodSpec}
    (hp : w.template.spec = some p) :
    ∃ ms sms tms, w.toJson = .obj ms ∧ Assoc.get? "spec" ms = some (.obj sms) ∧
      Assoc.get? "template" sms = some (.obj tms) ∧ Assoc.get? "spec" tms = some p.toJson ∧
      (onPod f w).toJson = .obj (Assoc.insert "spec" (.obj (Assoc.insert "template"
        (.obj (Assoc.insert "spec" (f p).toJson tms)) sms)) ms) := by
  obtain ⟨metadata, template⟩ := w
  obtain ⟨tmetadata, spec⟩ := template
  obtain rfl : spec = some p := hp
  have habove : compare "spec" "metadata" = .gt := by decide
  refine ⟨_, _, _, rfl, rfl, rfl, ?_, ?_⟩
  · cases tmetadata <;> simp [Assoc.get?]
  · cases tmetadata <;>
      simp [onPod, Workload.toJson, PodTemplate.toJson, Json.record, Assoc.insert, habove]

end Mutation

end WorkloadBindings
