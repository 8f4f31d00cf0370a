import Mathlib.Data.List.Perm.Basic
import WorkloadBindings.Proofs.Admission.Patch
import WorkloadBindings.Proofs.Index.Dispatch
import WorkloadBindings.Proofs.Index.History
import WorkloadBindings.Proofs.Workload.Edit

/-!
# Admission is stable

At most one binding of each kind applies to a workload, and its mutation is of the kind. So the
bindings that apply may be carried out in any order, and once they have been, each of them finds the
workload as it wants it (`Binding.IsHarmonious`). Whether a binding applies depends on the metadata of
the workload, which no mutation touches; the webhook has nothing to add to what it made of a
workload, and neither has the pass of any of the bindings (`AdmissionRequest.stable_of_handleAll`).
-/

namespace WorkloadBindings

/-! ## Bindings that do not get in each other's way -/

/-- What is to be done with the bindings of a workload. -/
def Workload.dueChange (w : Workload) : Change := if w.isDeleting then .unbind else .bind

namespace Binding

variable {bindings bindings' : List Binding} {b : Binding}

/-- Carrying bindings out is changing the workload by one after the other. -/
theorem carryOut_eq_foldl (bindings : List Binding) (w : Workload) :
    carryOut bindings w = bindings.foldl (fun v b => w.dueChange.apply b.mutation v) w := by
  unfold carryOut Workload.dueChange
  cases w.isDeleting <;> rfl

/-- Of some bindings, those of one kind are the same, and each has a mutation of its kind. -/
structure IsHarmonious (bindings : List Binding) : Prop where
  unique : ∀ b ∈ bindings, ∀ b' ∈ bindings, b.id.kind = b'.id.kind → b = b'
  kind : ∀ b ∈ bindings, b.mutation.kind = b.id.kind

/-- Two of the bindings may be carried out in any order. -/
theorem IsHarmonious.comm (h : IsHarmonious bindings) (c : Change) :
    ∀ b ∈ bindings, ∀ b' ∈ bindings, ∀ w,
      c.apply b'.mutation (c.apply b.mutation w) = c.apply b.mutation (c.apply b'.mutation w) := by
  intro b hb b' hb' w
  by_cases hk : b.id.kind = b'.id.kind
  · rw [h.unique b hb b' hb' hk]
  · rw [← h.kind b hb, ← h.kind b' hb'] at hk
    cases hm : b.mutation with
    | secret mount =>
      cases hm' : b'.mutation with
      | secret mount' => exact absurd (by rw [hm, hm']; rfl) hk
      | env vars' => exact (c.apply_comm c mount vars' w).symm
    | env vars =>
      cases hm' : b'.mutation with
      | secret mount' => exact c.apply_comm c mount' vars w
      | env vars' => exact absurd (by rw [hm, hm']; rfl) hk

/-- The bindings may be carried out in any order. -/
theorem IsHarmonious.carryOut_eq_of_perm (h : IsHarmonious bindings) (hperm : bindings.Perm bindings')
    (w : Workload) : carryOut bindings w = carryOut bindings' w := by
  rw [carryOut_eq_foldl, carryOut_eq_foldl]
  exact hperm.foldl_eq' (fun b hb b' hb' v => h.comm w.dueChange b hb b' hb' v) w

/-- Carrying bindings out leaves open whether the workload is being deleted. -/
theorem dueChange_carryOut (bindings : List Binding) (w : Workload) :
    (carryOut bindings w).dueChange = w.dueChange := by
  obtain ⟨f, hf, -⟩ := carryOut_eq bindings w
  rw [hf]
  rfl

/-- Once the bindings were carried out, each of them finds the workload as it wants it. -/
theorem IsHarmonious.apply_carryOut (h : IsHarmonious bindings) (hb : b ∈ bindings) (w : Workload) :
    w.dueChange.apply b.mutation (carryOut bindings w) = carryOut bindings w := by
  -- The binding may be taken as the last one.
  have hlast : bindings.Perm (bindings.erase b ++ [b]) :=
    (List.perm_cons_erase hb).trans (List.perm_append_singleton b _).symm
  rw [h.carryOut_eq_of_perm hlast, carryOut_eq_foldl, List.foldl_append, List.foldl_cons,
    List.foldl_nil]
  exact w.dueChange.apply_apply_of_covers _ (.refl b.mutation) _

/-- Once the bindings were carried out, carrying them out changes nothing. -/
theorem IsHarmonious.carryOut_carryOut (h : IsHarmonious bindings) (w : Workload) :
    carryOut bindings (carryOut bindings w) = carryOut bindings w := by
  have hfixed : ∀ rest : List Binding, (∀ b ∈ rest, b ∈ bindings) →
      rest.foldl (fun v b => w.dueChange.apply b.mutation v) (carryOut bindings w) =
        carryOut bindings w := by
    intro rest hrest
    induction rest with
    | nil => rfl
    | cons b rest ih =>
      rw [List.foldl_cons, h.apply_carryOut (hrest b List.mem_cons_self)]
      exact ih fun b hb => hrest b (List.mem_cons_of_mem _ hb)
  rw [carryOut_eq_foldl, dueChange_carryOut]
  exact hfixed bindings fun _ hb => hb

end Binding

/-! ## The bindings that apply to a workload -/

/-- The bindings that a store shows to apply to a workload do not get in each other's way. -/
theorem Store.isHarmonious_lookup {reports : List Store.Report} {s : Store}
    (hs : ({} : Store).handleAll reports = .ok s) (t : Target) :
    Binding.IsHarmonious (s.snapshot.lookup t) := by
  have hpublished := isPublished_empty.handleAll hs
  rw [hpublished.snapshot]
  constructor
  · intro b hb b' hb' hk
    rw [Snapshot.mem_lookup_iff] at hb hb'
    rw [← hk, hb] at hb'
    exact Option.some.inj hb'
  · intro b hb
    obtain ⟨hmem, -, -⟩ := Snapshot.of_scan (Snapshot.mem_lookup_iff.1 hb)
    obtain ⟨e, he, rfl⟩ := List.mem_map.1 hmem
    have hget : s.bindings.get? e.1 = some e.2 := s.bindings.sorted.get?_eq_some_iff.2 he
    obtain ⟨hid, hkind⟩ := hpublished.keyed _ _ hget
    rw [hid, hkind]

namespace AdmissionRequest

variable {r : AdmissionRequest} {w : Workload}

/-- The bindings that apply to a workload apply to it as they want it, too. -/
theorem target_desired (s : Snapshot) (r : AdmissionRequest) (w : Workload) :
    r.target (r.desired s w) = r.target w := by
  obtain ⟨f, hf, -⟩ := Binding.carryOut_eq (s.lookup (r.target w)) w
  rw [desired, hf]
  rfl

/-- The workload that the bindings want of one in written form is written with its names in order. -/
theorem isOrdered_desired (s : Snapshot) (r : AdmissionRequest) (hw : w.IsWritten) :
    (r.desired s w).toJson.isOrdered = true := by
  obtain ⟨f, hf, hwritten⟩ := Binding.carryOut_eq (s.lookup (r.target w)) w
  rw [desired, hf]
  exact (Mutation.isWritten_onPod hwritten hw).ordered

/-- What the bindings want of a workload that is as they want it is that workload. -/
theorem desired_desired {s : Snapshot}
    (h : Binding.IsHarmonious (s.lookup (r.target w))) :
    r.desired s (r.desired s w) = r.desired s w := by
  rw [desired, target_desired]
  exact h.carryOut_carryOut w

/-- A request to store a workload that needs no patch is allowed. -/
theorem mutate_eq_allowed {s : Snapshot} {object : Json} (hobject : r.object = some object)
    (hw : Workload.decode object = .ok w) (hpatch : r.patchFor s w = []) : r.mutate s = .allowed := by
  by_cases hwrite : r.operation.isWrite = true
  · rw [mutate_eq s hwrite hobject hw, hpatch]
    rfl
  · rw [mutate, if_neg hwrite]

/-- Admission is stable at every store that reports lead to. The bindings that apply to a workload
may be carried out, or undone while it is being deleted, in any order. When the workload that comes
out is written once more under the same request, it is left as it is. And as long as the workload is
not being deleted, the pass of none of these bindings patches what comes out. -/
theorem stable_of_handleAll {reports : List Store.Report} {s : Store}
    (hs : ({} : Store).handleAll reports = .ok s) (r : AdmissionRequest) (hw : w.IsWritten) :
    (∀ bindings, bindings.Perm (s.snapshot.lookup (r.target w)) →
      Binding.carryOut bindings w = r.desired s.snapshot w) ∧
    (∀ object, Workload.decode object = .ok (r.desired s.snapshot w) →
      { r with object := some object }.mutate s.snapshot = .allowed) ∧
    (w.isDeleting = false → ∀ b ∈ s.snapshot.lookup (r.target w), ∀ type,
      WorkloadPatch.forChange? .bind b.mutation type (r.desired s.snapshot w) = none) := by
  have hharmonious := Store.isHarmonious_lookup hs (r.target w)
  have hsame : Json.diff (r.desired s.snapshot w).toJson (r.desired s.snapshot w).toJson = [] :=
    Json.diff_self (isOrdered_desired s.snapshot r hw)
  refine ⟨fun bindings hperm => ?_, fun object hobject => ?_, fun hliving b hb type => ?_⟩
  · exact (hharmonious.carryOut_eq_of_perm hperm.symm w).symm
  · -- The request with another object selects by the same type, namespace and name.
    have hagain : { r with object := some object }.desired s.snapshot (r.desired s.snapshot w) =
        r.desired s.snapshot w := desired_desired hharmonious
    exact mutate_eq_allowed rfl hobject (by rw [patchFor, hagain, hsame])
  · have hdue : w.dueChange = .bind := by
      rw [Workload.dueChange, hliving]
      rfl
    have hfixed : Change.bind.apply b.mutation (r.desired s.snapshot w) = r.desired s.snapshot w := by
      rw [← hdue]
      exact hharmonious.apply_carryOut hb w
    unfold WorkloadPatch.forChange?
    rw [hfixed, hsame]
    rfl

/-- The store after listings of a binding of each kind, both for the deployment. -/
def boundStore : Store :=
  (({} : Store).handleAll
    [.listed .env [Store.modeBinding] [], .listed .secret [Store.vaultBinding] []]).toOption.getD {}

/-- A binding of each kind applies to the deployment. In the other order they make the same of it, it
is allowed as it comes out, and neither binding's pass patches it then. -/
theorem stable_of_handleAll_boundStore :
    ({} : Store).handleAll
        [.listed .env [Store.modeBinding] [], .listed .secret [Store.vaultBinding] []] =
      .ok boundStore ∧
    (boundStore.snapshot.lookup (deploymentRequest.target deploymentWorkload)).length = 2 ∧
    Binding.carryOut
        (boundStore.snapshot.lookup (deploymentRequest.target deploymentWorkload)).reverse
        deploymentWorkload =
      deploymentRequest.desired boundStore.snapshot deploymentWorkload ∧
    { deploymentRequest with
        object := some (deploymentRequest.desired boundStore.snapshot deploymentWorkload).toJson
      }.mutate boundStore.snapshot = .allowed ∧
    ∀ b ∈ boundStore.snapshot.lookup (deploymentRequest.target deploymentWorkload), ∀ type,
      WorkloadPatch.forChange? .bind b.mutation type
        (deploymentRequest.desired boundStore.snapshot deploymentWorkload) = none := by
  have hread : Workload.decode readDeployment = .ok deploymentWorkload := by decide +kernel
  have hwritten : deploymentWorkload.IsWritten := Workload.isWritten_of_decode (by decide) hread
  have hs : ({} : Store).handleAll
      [.listed .env [Store.modeBinding] [], .listed .secret [Store.vaultBinding] []] =
        .ok boundStore := by decide +kernel
  have hdecode : Workload.decode
      (deploymentRequest.desired boundStore.snapshot deploymentWorkload).toJson =
        .ok (deploymentRequest.desired boundStore.snapshot deploymentWorkload) := by
    decide +kernel
  obtain ⟨horders, hagain, hpasses⟩ := stable_of_handleAll hs deploymentRequest hwritten
  exact ⟨hs, by decide, horders _ (List.reverse_perm _), hagain _ hdecode, hpasses rfl⟩

end AdmissionRequest

end WorkloadBindings
