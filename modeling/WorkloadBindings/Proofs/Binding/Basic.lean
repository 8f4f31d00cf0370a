import WorkloadBindings.Binding.Basic
import WorkloadBindings.Proofs.Except

/-!
# Identities and versions of bindings

A binding has an identity, a subject and a mutation, each of them of the binding's kind
(`Binding.of_ofResource`), and keeps them as long as its specification stays
(`BindingResource.IsVersionOf`).
-/

namespace WorkloadBindings

/-- The kind of the bindings that have a mutation. -/
def Mutation.kind : Mutation → BindingKind
  | .secret _ => .secret
  | .env _ => .env

/-! ## Kinds -/

namespace BindingResource

variable {r : BindingResource}

/-- An identity tells the kind of its binding. -/
theorem kind_of_id {id : BindingId} (h : r.id = .ok id) : id.kind = r.kind := by
  unfold BindingResource.id at h
  split at h
  · obtain rfl := Except.ok.inj h
    rfl
  · cases h

/-- The subject of a binding is what its reference means in the namespace of its identity. -/
theorem subject_of_id {id : BindingId} (hid : r.id = .ok id) :
    r.subject = Subject.ofRef r.spec.subject id.namespace := by
  unfold BindingResource.id at hid
  split at hid
  · obtain rfl := Except.ok.inj hid
    rfl
  · cases hid

/-- A binding has a mutation of its kind. -/
theorem kind_of_mutation {m : Mutation} (h : r.mutation = .ok m) : m.kind = r.kind := by
  unfold BindingResource.mutation at h
  unfold BindingResource.kind
  split at h
  · rename_i spec hspec
    rw [hspec]
    split at h
    · cases h
    · split at h
      · rename_i hsecret
        obtain rfl := Except.ok.inj h
        unfold Mutation.ofSecret? at hsecret
        obtain ⟨volume, -, rfl⟩ := Option.map_eq_some_iff.1 hsecret
        rfl
      · cases h
  · rename_i spec hspec
    rw [hspec]
    obtain rfl := Except.ok.inj h
    rfl

/-- The controller can go on with the binding: it has an identity and a mutation. -/
def IsResolvable (r : BindingResource) : Prop := (∃ id, r.id = .ok id) ∧ ∃ m, r.mutation = .ok m

/-- The controller can go on with a binding that has a name, unless the name is too long for a volume
and the cut falls inside a character. -/
theorem isResolvable_of_name {name volume : String} (hname : r.metadata.name = some name)
    (hvolume : Mutation.volumeName? name = some volume) : r.IsResolvable := by
  unfold IsResolvable BindingResource.id BindingResource.mutation
  rw [hname]
  refine ⟨⟨_, rfl⟩, ?_⟩
  cases r.spec with
  | secret spec =>
    simp only [Mutation.ofSecret?, hvolume, Option.map_some]
    exact ⟨_, rfl⟩
  | env spec => exact ⟨_, rfl⟩

/-- Nothing else keeps a binding with an identity from having a mutation. -/
theorem eq_indivisibleName {id : BindingId} {abort : Abort} (hid : r.id = .ok id)
    (h : r.mutation = .error abort) : abort = .indivisibleName := by
  unfold BindingResource.mutation at h
  split at h
  · split at h
    · -- A binding without a name has no identity.
      rename_i hname
      unfold BindingResource.id at hid
      rw [hname] at hid
      cases hid
    · split at h
      · cases h
      · exact (Except.error.inj h).symm
  · cases h

end BindingResource

/-- Resolving a binding gives its identity, its subject and its mutation. -/
theorem Binding.ofResource_eq_ok_iff {r : BindingResource} {b : Binding} :
    Binding.ofResource r = .ok (.ok b) ↔
      r.id = .ok b.id ∧ r.subject = .ok b.subject ∧ r.mutation = .ok b.mutation := by
  unfold Binding.ofResource
  constructor
  · intro h
    obtain ⟨id, hid, h⟩ := exists_of_bind_eq_ok h
    split at h
    · cases h
    · rename_i subject hsubject
      obtain ⟨m, hm, h⟩ := exists_of_bind_eq_ok h
      obtain rfl := Except.ok.inj (Except.ok.inj h)
      exact ⟨hid, hsubject, hm⟩
  · rintro ⟨hid, hsubject, hm⟩
    rw [hid, hsubject, hm]
    rfl

/-- A binding that is resolved has the identity of its resource, and a mutation of its kind. -/
theorem Binding.of_ofResource {r : BindingResource} {id : BindingId} {b : Binding}
    (hid : r.id = .ok id) (h : Binding.ofResource r = .ok (.ok b)) :
    b.id = id ∧ b.mutation.kind = id.kind := by
  obtain ⟨hid', -, hm⟩ := Binding.ofResource_eq_ok_iff.1 h
  obtain rfl := Except.ok.inj (hid.symm.trans hid')
  exact ⟨rfl, (BindingResource.kind_of_mutation hm).trans (BindingResource.kind_of_id hid).symm⟩

/-! ## Versions of a binding -/

/-- The binding is the other one at another time: with the same specification, name and namespace. -/
structure BindingResource.IsVersionOf (r r₀ : BindingResource) : Prop where
  spec : r.spec = r₀.spec
  name : r.metadata.name = r₀.metadata.name
  «namespace» : r.metadata.namespace = r₀.metadata.namespace

namespace BindingResource

variable {r r' r₀ : BindingResource}

theorem IsVersionOf.refl (r : BindingResource) : r.IsVersionOf r := ⟨rfl, rfl, rfl⟩

theorem IsVersionOf.symm (h : r.IsVersionOf r₀) : r₀.IsVersionOf r :=
  ⟨h.spec.symm, h.name.symm, h.namespace.symm⟩

theorem IsVersionOf.trans (h : r.IsVersionOf r') (h' : r'.IsVersionOf r₀) : r.IsVersionOf r₀ :=
  ⟨h.spec.trans h'.spec, h.name.trans h'.name, h.namespace.trans h'.namespace⟩

/-- A binding keeps its kind. -/
theorem IsVersionOf.kind (h : r.IsVersionOf r₀) : r.kind = r₀.kind := by
  unfold BindingResource.kind
  rw [h.spec]

/-- A binding keeps its identity. -/
theorem IsVersionOf.id (h : r.IsVersionOf r₀) : r.id = r₀.id := by
  unfold BindingResource.id namespaceOrEmpty Metadata.namespaceOrEmpty
  rw [h.name, h.kind, h.namespace]

/-- A binding keeps its subject. -/
theorem IsVersionOf.subject (h : r.IsVersionOf r₀) : r.subject = r₀.subject := by
  unfold BindingResource.subject namespaceOrEmpty Metadata.namespaceOrEmpty
  rw [h.spec, h.namespace]

/-- A binding keeps its mutation. -/
theorem IsVersionOf.mutation (h : r.IsVersionOf r₀) : r.mutation = r₀.mutation := by
  unfold BindingResource.mutation
  rw [h.spec, h.name]

end BindingResource

/-- A binding that resolves is resolved at any time. -/
theorem Binding.ofResource_of_isVersionOf {r r' : BindingResource} {b : Binding}
    (hversion : r'.IsVersionOf r) (h : Binding.ofResource r = .ok (.ok b)) :
    Binding.ofResource r' = .ok (.ok b) := by
  obtain ⟨hid, hsubject, hm⟩ := Binding.ofResource_eq_ok_iff.1 h
  refine Binding.ofResource_eq_ok_iff.2 ⟨?_, ?_, ?_⟩
  · rw [hversion.id, hid]
  · rw [hversion.subject, hsubject]
  · rw [hversion.mutation, hm]

end WorkloadBindings
