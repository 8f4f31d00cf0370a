import WorkloadBindings.Proofs.Json.Transfer
import WorkloadBindings.Proofs.Reconcile.Fanout
import WorkloadBindings.Proofs.Workload.Edit
import WorkloadBindings.Proofs.Workload.Stored

/-!
# Bindings of both kinds at work on one workload

Two passes read a workload before either of them patches it, so that the second patch is carried out
on a workload that it was not computed from. When the one pass mounts a secret and the other one sets
variables, nothing is lost: they edit different lists, in whichever order the patches arrive
(`WorkloadPatch.applyPatch_concurrent`).
-/

namespace WorkloadBindings

open Json (Transfers PartTransfer)

/-! ## Edits of different lists -/

namespace Edit

/-- No list is changed by both edits. -/
structure Disjoint (e f : Edit) : Prop where
  volumes : e.volumes = id ∨ f.volumes = id
  volumeMounts : e.volumeMounts = id ∨ f.volumeMounts = id
  env : e.env = id ∨ f.env = id

theorem Disjoint.symm {e f : Edit} (h : e.Disjoint f) : f.Disjoint e :=
  ⟨h.volumes.symm, h.volumeMounts.symm, h.env.symm⟩

/-- The two sides of a list that at most one of them changes. -/
theorem holds_items {α : Type} (toJson : α → Json) {g h : Option (List α) → Option (List α)}
    (hdisjoint : g = id ∨ h = id) (items : Option (List α)) :
    PartTransfer.Holds
      ⟨items.map fun xs => .arr (xs.map toJson), (g items).map fun xs => .arr (xs.map toJson),
        (h items).map fun xs => .arr (xs.map toJson),
        (g (h items)).map fun xs => .arr (xs.map toJson)⟩ := by
  rcases hdisjoint with rfl | rfl
  · exact Or.inl ⟨rfl, rfl⟩
  · exact Or.inr (Or.inl ⟨rfl, rfl⟩)

variable {e f : Edit}

/-- A container becomes what both edits make of it. -/
theorem Disjoint.transfers_container (h : e.Disjoint f) (c : Container) :
    Transfers c.toJson (e.onContainer c).toJson (f.onContainer c).toJson
      ((e.comp f).onContainer c).toJson := by
  refine Json.transfers_table Container.ascending fun m _ => ?_
  by_cases hvars : m.1 = "env"
  · rw [hvars]
    exact holds_items EnvVar.toJson h.env c.env
  by_cases hplaces : m.1 = "volumeMounts"
  · rw [hplaces]
    exact holds_items VolumeMount.toJson h.volumeMounts c.volumeMounts
  · rw [e.part_onContainer c hvars hplaces, f.part_onContainer c hvars hplaces,
      (e.comp f).part_onContainer c hvars hplaces]
    exact PartTransfer.holds_same _

/-- Containers become what both edits make of them. -/
theorem Disjoint.transfers_containers (h : e.Disjoint f) (cs : List Container) :
    Transfers (.arr (cs.map Container.toJson)) (.arr ((cs.map e.onContainer).map Container.toJson))
      (.arr ((cs.map f.onContainer).map Container.toJson))
      (.arr ((cs.map (e.comp f).onContainer).map Container.toJson)) := by
  rw [List.map_map, List.map_map, List.map_map]
  exact Json.transfers_map _ _ _ _ fun c _ => h.transfers_container c

/-- The specification of a pod becomes what both edits make of it. -/
theorem Disjoint.transfers_pod (h : e.Disjoint f) (p : PodSpec) :
    Transfers p.toJson (e.onPod p).toJson (f.onPod p).toJson ((e.comp f).onPod p).toJson := by
  have hcontainers := PartTransfer.holds_of_transfers (h.transfers_containers p.containers)
  have hinit : PartTransfer.Holds
      ⟨p.initContainers.map fun cs => .arr (cs.map Container.toJson),
        (e.onPod p).initContainers.map fun cs => .arr (cs.map Container.toJson),
        (f.onPod p).initContainers.map fun cs => .arr (cs.map Container.toJson),
        ((e.comp f).onPod p).initContainers.map fun cs => .arr (cs.map Container.toJson)⟩ := by
    unfold onPod Mutation.mapContainers
    cases p.initContainers with
    | none => exact PartTransfer.holds_same none
    | some cs => exact PartTransfer.holds_of_transfers (h.transfers_containers cs)
  refine Json.transfers_table PodSpec.ascending fun m _ => ?_
  by_cases hregular : m.1 = "containers"
  · rw [hregular]
    exact hcontainers
  by_cases hinitial : m.1 = "initContainers"
  · rw [hinitial]
    exact hinit
  by_cases hplaces : m.1 = "volumes"
  · rw [hplaces]
    exact holds_items Volume.toJson h.volumes p.volumes
  · rw [e.part_onPod p hregular hinitial hplaces, f.part_onPod p hregular hinitial hplaces,
      (e.comp f).part_onPod p hregular hinitial hplaces]
    exact PartTransfer.holds_same _

/-- A workload becomes what both edits make of it. -/
theorem Disjoint.transfers (h : e.Disjoint f) (w : Workload) :
    Transfers w.toJson (Mutation.onPod e.onPod w).toJson (Mutation.onPod f.onPod w).toJson
      (Mutation.onPod (e.comp f).onPod w).toJson := by
  have hnames : ["metadata", "spec"].Pairwise fun a b => compare a b = .lt := by decide
  have hpod : PartTransfer.Holds
      ⟨w.template.spec.map PodSpec.toJson, (w.template.spec.map e.onPod).map PodSpec.toJson,
        (w.template.spec.map f.onPod).map PodSpec.toJson,
        (w.template.spec.map (e.comp f).onPod).map PodSpec.toJson⟩ := by
    cases w.template.spec with
    | none => exact PartTransfer.holds_same none
    | some p => exact PartTransfer.holds_of_transfers (h.transfers_pod p)
  have hsame := PartTransfer.holds_same
  -- From the inside out: the template, the specification of the workload, the workload.
  have htemplate := Json.transfers_record
    [("metadata", .same (w.template.metadata.map Metadata.toJson)), ("spec", ⟨_, _, _, _⟩)] hnames
    (by simpa only [List.forall_mem_cons] using ⟨hsame _, hpod, nofun⟩)
  have hspec := Json.transfers_record [("template", ⟨_, _, _, _⟩)] (List.pairwise_singleton _ _)
    (List.forall_mem_singleton.2 (PartTransfer.holds_of_transfers htemplate))
  exact Json.transfers_record
    [("metadata", .same (some w.metadata.toJson)), ("spec", ⟨_, _, _, _⟩)] hnames
    (by simpa only [List.forall_mem_cons] using
      ⟨hsame _, PartTransfer.holds_of_transfers hspec, nofun⟩)

end Edit

/-- Changes of mutations of different kinds edit different lists. -/
theorem Change.disjoint_edit (c d : Change) (mount : SecretMount) (vars : List (String × String)) :
    (c.edit (.secret mount)).Disjoint (d.edit (.env vars)) :=
  ⟨Or.inr rfl, Or.inr rfl, Or.inl rfl⟩

/-! ## Patches computed from one reading -/

namespace WorkloadPatch

/-- What is carried out on a workload for a change: the operations of its patch, if there is one. -/
def operations (c : Change) (m : Mutation) (type : ResourceType) (w : Workload) : Patch :=
  ((forChange? c m type w).map patch).getD []

/-- What is carried out for a change is the difference that it makes. -/
theorem operations_eq (c : Change) (m : Mutation) (type : ResourceType) (w : Workload) :
    operations c m type w = Json.diff w.toJson (c.apply m w).toJson := by
  unfold operations forChange?
  simp only
  split
  · exact (List.isEmpty_iff.1 ‹_›).symm
  · rfl

/-- A patch that was computed from a workload is carried out on what another change of a different
kind made of it. -/
theorem applyPatch_operations {c d : Change} {m m' : Mutation} (type : ResourceType) {w : Workload}
    (hw : w.IsWritten) (h : (c.edit m).Disjoint (d.edit m')) :
    (d.apply m' w).toJson.applyPatch (operations c m type w) =
      some (c.apply m (d.apply m' w)).toJson := by
  have htransfers := h.transfers w hw.ordered (by
    rw [← Change.apply_eq]
    exact (c.isWritten_apply m hw).ordered)
  have hboth : c.apply m (d.apply m' w) = Mutation.onPod ((c.edit m).comp (d.edit m')).onPod w := by
    rw [Change.apply_eq, Change.apply_eq d, Mutation.onPod_onPod]
    exact congrArg (fun f => Mutation.onPod f w) (funext fun p => (Edit.onPod_comp _ _ p).symm)
  rw [operations_eq, hboth, Change.apply_eq c, Change.apply_eq d]
  exact htransfers

/-- A binding that mounts a secret and one that sets variables, each of them carried out or undone,
do not lose what the other one does when their patches are computed from the same reading of a
workload: in either order the patches can be carried out, and both changes are made. -/
theorem applyPatch_concurrent (c d : Change) (mount : SecretMount) (vars : List (String × String))
    (type type' : ResourceType) {w : Workload} (hw : w.IsWritten) :
    ((w.toJson.applyPatch (operations c (.secret mount) type w)).bind
      (·.applyPatch (operations d (.env vars) type' w))) =
        some (c.apply (.secret mount) (d.apply (.env vars) w)).toJson ∧
    ((w.toJson.applyPatch (operations d (.env vars) type' w)).bind
      (·.applyPatch (operations c (.secret mount) type w))) =
        some (c.apply (.secret mount) (d.apply (.env vars) w)).toJson := by
  have hdisjoint := c.disjoint_edit d mount vars
  have hfirst : ∀ (c : Change) (m : Mutation) (type : ResourceType),
      w.toJson.applyPatch (operations c m type w) = some (c.apply m w).toJson := by
    intro c m type
    rw [operations_eq]
    exact Json.applyPatch_diff_self hw.ordered (c.isWritten_apply m hw).ordered
  constructor
  · rw [hfirst, Option.bind_some, applyPatch_operations type' hw hdisjoint.symm, Change.apply_comm]
  · rw [hfirst, Option.bind_some, applyPatch_operations type hw hdisjoint]

/-- A secret that is mounted into the deployment. -/
def tlsMount : SecretMount := ⟨"secretbinding-tls", "cert", "/etc/tls"⟩

/-- A deployment with the secret mounted into it, and with a variable of its own. -/
def mountedDeployment : Workload where
  metadata := { name := some "web", «namespace» := some "shop" }
  template :=
    { spec := some
        { containers :=
            [{ name := "web"
               env := some [{ name := "MODE", value := some "slow" }]
               volumeMounts := some [Mutation.volumeMountOf tlsMount] }]
          initContainers := some [{ name := "fill" }]
          volumes := some [Mutation.volumeOf tlsMount] } }

/-- The secret is taken out of the deployment while the variable is set to something else: both have
patches, and neither gets lost. -/
theorem applyPatch_concurrent_mountedDeployment :
    operations .unbind (.secret tlsMount) ⟨"apps", "v1", "Deployment"⟩ mountedDeployment ≠ [] ∧
    operations .bind (.env [("MODE", "fast")]) ⟨"apps", "v1", "Deployment"⟩ mountedDeployment ≠ [] ∧
    ((mountedDeployment.toJson.applyPatch
        (operations .unbind (.secret tlsMount) ⟨"apps", "v1", "Deployment"⟩ mountedDeployment)).bind
      (·.applyPatch
        (operations .bind (.env [("MODE", "fast")]) ⟨"apps", "v1", "Deployment"⟩
          mountedDeployment))) =
      some (Change.unbind.apply (.secret tlsMount)
        (Change.bind.apply (.env [("MODE", "fast")]) mountedDeployment)).toJson := by
  have hread : Workload.decode mountedDeployment.toJson = .ok mountedDeployment := by decide
  have hwritten : mountedDeployment.IsWritten := Workload.isWritten_of_decode (by decide) hread
  obtain ⟨hfirst, -⟩ := applyPatch_concurrent .unbind .bind tlsMount [("MODE", "fast")]
    ⟨"apps", "v1", "Deployment"⟩ ⟨"apps", "v1", "Deployment"⟩ hwritten
  exact ⟨by decide, by decide, hfirst⟩

end WorkloadPatch

end WorkloadBindings
