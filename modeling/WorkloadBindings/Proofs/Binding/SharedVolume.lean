import WorkloadBindings.Proofs.Binding.VolumeName
import WorkloadBindings.Proofs.Workload.Edit

/-!
# Volumes that two bindings share

Taking out the secret of one binding leaves everything of another one in place as long as their
volumes have different names (`SecretMount.itemsIn_undo_of_ne`). Names that fit are kept as they are,
and names that do not fit end in their digests, so that two names of one kind have different volumes.
But what is kept of a name that does not fit is a name that fits: the binding that has it shares the
volume (`Mutation.keptName?_eq_iff`), and taking out the secret of either binding takes out that of
the other as well.
-/

namespace WorkloadBindings

/-! ## The items of a mount -/

namespace SecretMount

/-- The volumes in a pod that have the name of the mount's volume. -/
def volumesIn (m : SecretMount) (p : PodSpec) : List Volume :=
  (p.volumes.getD []).filter fun v => v.name == m.volume

/-- The mounts in a container of volumes with the name of the mount's volume. -/
def mountsIn (m : SecretMount) (c : Container) : List VolumeMount :=
  (c.volumeMounts.getD []).filter fun v => v.name == m.volume

/-- The volumes of a workload that have the name of the mount's volume, and, for each container, the
mounts of them; a workload without a pod has none. -/
def itemsIn (m : SecretMount) (w : Workload) : Option (List Volume × List (List VolumeMount)) :=
  w.template.spec.map fun p => (m.volumesIn p, p.allContainers.map m.mountsIn)

variable {m m' : SecretMount}

/-- What has one name is left when all that has another name is taken out. -/
theorem filter_retain_of_ne {α : Type} (name : α → String) (h : m.volume ≠ m'.volume)
    (items : Option (List α)) :
    ((Mutation.retain (fun x => name x != m.volume) items).getD []).filter
        (fun x => name x == m'.volume) =
      (items.getD []).filter fun x => name x == m'.volume := by
  rw [Mutation.getD_retain]
  refine Mutation.filter_filter_of_imp (fun x hx => ?_) _
  rw [beq_iff_eq] at hx
  rw [hx, bne_iff_ne]
  exact h.symm

/-- The volumes of a mount are left when a mount of another volume is undone. -/
theorem volumesIn_undoPod_of_ne (h : m.volume ≠ m'.volume) (p : PodSpec) :
    m'.volumesIn ((Mutation.secret m).undoPod p) = m'.volumesIn p :=
  filter_retain_of_ne Volume.name h p.volumes

/-- The mounts of a volume are left when a mount of another volume is undone. -/
theorem mountsIn_undoContainer_of_ne (h : m.volume ≠ m'.volume) (c : Container) :
    m'.mountsIn ((Mutation.secret m).undoContainer c) = m'.mountsIn c :=
  filter_retain_of_ne VolumeMount.name h c.volumeMounts

/-- The items of a mount are left in a workload when a mount of another volume is undone. -/
theorem itemsIn_undo_of_ne (h : m.volume ≠ m'.volume) (w : Workload) :
    m'.itemsIn ((Mutation.secret m).undo w) = m'.itemsIn w := by
  unfold itemsIn Mutation.undo Mutation.onPod
  rw [Option.map_map]
  congr 1
  funext p
  rw [Function.comp_apply, volumesIn_undoPod_of_ne h, Mutation.allContainers_undoPod, List.map_map]
  congr 2
  funext c
  exact mountsIn_undoContainer_of_ne h c

end SecretMount

/-! ## Names of shared volumes -/

namespace Mutation

variable {a b secretA secretB : String} {pathA pathB : Option String} {m m' : SecretMount}

/-- The same is kept of two names with different digests just when what is kept of one of them, which
does not fit, is the other one. -/
theorem keptName?_eq_iff (hne : a ≠ b) (hdigest : digest a ≠ digest b) {kept : String}
    (hkept : keptName? a = some kept) :
    keptName? a = keptName? b ↔
      ¬Fits b ∧ shortName? b = some a ∨ ¬Fits a ∧ shortName? a = some b := by
  by_cases ha : Fits a
  · rw [keptName?_of_fits ha, or_iff_left fun h => h.1 ha]
    by_cases hb : Fits b
    · rw [keptName?_of_fits hb, Option.some_inj]
      exact iff_of_false hne fun h => h.1 hb
    · rw [keptName?_of_not_fits hb, and_iff_right hb]
      exact eq_comm
  · rw [keptName?_of_not_fits ha] at hkept ⊢
    by_cases hb : Fits b
    · rw [keptName?_of_fits hb, or_iff_right fun h => h.1 hb, and_iff_right ha]
    · rw [keptName?_of_not_fits hb]
      refine iff_of_false (fun h => hdigest (digest_eq_of_shortName? hkept (h ▸ hkept))) ?_
      -- What is kept of either name fits, and the other name does not.
      rintro (⟨-, hshort⟩ | ⟨-, hshort⟩)
      · exact ha (fits_of_shortName? hshort)
      · exact hb (fits_of_shortName? hshort)

/-- Undoing one of two mounts that share a volume takes out the items of both. -/
theorem isIn_undo_of_volume_eq (h : m.volume = m'.volume) (w : Workload) :
    (secret m').isIn ((secret m).undo w) = false := by
  obtain ⟨volume, _, _⟩ := m
  obtain ⟨volume', _, _⟩ := m'
  obtain rfl : volume = volume' := h
  exact isIn_undo (.secret _) w

/-- Two bindings whose names differ, and have different digests, share a volume just when one name
does not fit and what is kept of it is the other name. Undoing one of two bindings leaves all items
of the other one in every workload when they do not share a volume, and none when they do. -/
theorem volume_shared_iff (hne : a ≠ b) (hdigest : digest a ≠ digest b)
    (hm : ofSecret? a secretA pathA = some (.secret m))
    (hm' : ofSecret? b secretB pathB = some (.secret m')) :
    (m.volume = m'.volume ↔
      ¬Fits b ∧ shortName? b = some a ∨ ¬Fits a ∧ shortName? a = some b) ∧
    (m.volume ≠ m'.volume → ∀ w, m'.itemsIn ((secret m).undo w) = m'.itemsIn w) ∧
    (m.volume = m'.volume → ∀ w, (secret m').isIn ((secret m).undo w) = false) := by
  have ha := volumeName?_of_ofSecret? hm
  have hb := volumeName?_of_ofSecret? hm'
  obtain ⟨kept, hkept, -⟩ := Option.map_eq_some_iff.1 ((volumeName?_eq a).symm.trans ha)
  refine ⟨?_, fun h w => SecretMount.itemsIn_undo_of_ne h w, fun h w => isIn_undo_of_volume_eq h w⟩
  rw [volumeName?_inj ha hb]
  exact keptName?_eq_iff hne hdigest hkept

/-- A name of a binding that does not fit. -/
def replicaName : String := "payments-database-credentials-primary-region-us-east-replica-a"

/-- A name that fits, and that a volume name keeps of the longer one. -/
def keptReplicaName : String := "payments-database-credentials-primary-re-c0661ee3"

set_option maxRecDepth 10000 in
/-- What is kept of the longer name is the shorter one, which has another digest. -/
theorem shortName?_replicaName :
    ¬Fits replicaName ∧ Fits keptReplicaName ∧ shortName? replicaName = some keptReplicaName ∧
      digest keptReplicaName ≠ digest replicaName := by
  decide +kernel

/-- The mount for a binding with the longer name. -/
def replicaMount : SecretMount where
  volume := "secretbinding-payments-database-credentials-primary-re-c0661ee3"
  secret := "payments"
  mountPath := "/var/bindings/payments-database-credentials-primary-region-us-east-replica-a"

/-- The mount for a binding with the shorter name. -/
def keptReplicaMount : SecretMount where
  volume := "secretbinding-payments-database-credentials-primary-re-c0661ee3"
  secret := "cache"
  mountPath := "/cache"

/-- Two bindings with one volume, of which neither keeps anything when the other one is undone. -/
theorem volume_shared_iff_replicaName :
    keptReplicaName ≠ replicaName ∧ digest keptReplicaName ≠ digest replicaName ∧
      ofSecret? keptReplicaName "cache" (some "/cache") = some (.secret keptReplicaMount) ∧
      ofSecret? replicaName "payments" none = some (.secret replicaMount) ∧
      keptReplicaMount.volume = replicaMount.volume ∧
      (∀ w, (secret replicaMount).isIn ((secret keptReplicaMount).undo w) = false) ∧
      ∀ w, (secret keptReplicaMount).isIn ((secret replicaMount).undo w) = false := by
  obtain ⟨hlong, hfits, hshort, hdigest⟩ := shortName?_replicaName
  have hne : keptReplicaName ≠ replicaName := by decide
  have hkept : ofSecret? keptReplicaName "cache" (some "/cache") = some (.secret keptReplicaMount) := by
    rw [ofSecret?, volumeName?_eq, keptName?_of_fits hfits]
    decide
  have hcut : ofSecret? replicaName "payments" none = some (.secret replicaMount) := by
    rw [ofSecret?, volumeName?_eq, keptName?_of_not_fits hlong, hshort]
    decide
  have hfirst := volume_shared_iff hne hdigest hkept hcut
  have hsecond := volume_shared_iff hne.symm hdigest.symm hcut hkept
  have hvolume : keptReplicaMount.volume = replicaMount.volume :=
    hfirst.1.2 (.inl ⟨hlong, hshort⟩)
  exact ⟨hne, hdigest, hkept, hcut, hvolume, hfirst.2.2 hvolume, hsecond.2.2 hvolume.symm⟩

end Mutation

end WorkloadBindings
