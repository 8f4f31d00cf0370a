import WorkloadBindings.Proofs.Workload.Edit

/-!
# Undoing what was carried out

Carrying a mutation out is taking its items out of some lists and then appending them, and undoing it
is the first half of that. So either operation makes up for what was done of the same mutation before,
which is the case of one mutation of `Change.apply_apply_of_covers`. What is left open is when undoing
gives back the workload that the mutation was carried out on: just when undoing would have left that
workload alone, that is when none of its lists has an item of the mutation and none is there without
items, since such a list is dropped (`Mutation.retain_eq_self_iff`). An edit leaves a workload alone
when it leaves each list alone (`Edit.onPod_eq_self_iff`), so that this is settled list by list
(`Mutation.undo_apply_laws`).
-/

namespace WorkloadBindings

/-! ## Edits that change nothing -/

namespace Edit

variable (e : Edit)

/-- An edit leaves a container alone when it leaves its mounts and its variables alone. -/
theorem onContainer_eq_self_iff {c : Container} :
    e.onContainer c = c ↔ e.volumeMounts c.volumeMounts = c.volumeMounts ∧ e.env c.env = c.env := by
  obtain ⟨env, name, volumeMounts, rest⟩ := c
  unfold onContainer
  rw [Container.mk.injEq]
  tauto

/-- An edit leaves a pod alone when it leaves its volumes and each of its containers alone. -/
theorem onPod_eq_self_iff {p : PodSpec} :
    e.onPod p = p ↔ e.volumes p.volumes = p.volumes ∧ ∀ c ∈ p.allContainers, e.onContainer c = c := by
  constructor
  · intro h
    have hcontainers := congrArg PodSpec.allContainers h
    rw [allContainers_onPod] at hcontainers
    have hsame : p.allContainers.map e.onContainer = p.allContainers.map id := by
      rw [hcontainers, List.map_id]
    exact ⟨congrArg PodSpec.volumes h, List.map_inj_left.1 hsame⟩
  · rintro ⟨hvolumes, hcontainers⟩
    unfold onPod
    rw [hvolumes, Mutation.mapContainers_of_forall hcontainers]

end Edit

namespace Mutation

/-- A change of the specification leaves a workload alone when it leaves the specification alone. -/
theorem onPod_eq_self_iff {f : PodSpec → PodSpec} {w : Workload} {p : PodSpec}
    (hp : w.template.spec = some p) : onPod f w = w ↔ f p = p := by
  obtain ⟨metadata, template⟩ := w
  obtain ⟨tmetadata, spec⟩ := template
  obtain rfl : spec = some p := hp
  unfold onPod
  simp

/-! ## Lists that undoing leaves alone -/

/-- A list stays as it is when no item is taken out of it, unless it is there without items. -/
theorem retain_eq_self_iff {α : Type} {gone : α → Bool} {items : Option (List α)} :
    retain (fun x => !gone x) items = items ↔
      (items.getD []).any gone = false ∧ items ≠ some [] := by
  cases items with
  | none => simp [retain]
  | some xs =>
    have hkept : (xs.filter fun x => !gone x) = xs ↔ xs.any gone = false := by
      rw [List.filter_eq_self, List.any_eq_false]
      exact forall₂_congr fun x _ => by rw [Bool.not_eq_true', Bool.not_eq_true]
    rw [retain_eq, Option.getD_some]
    split
    · -- Nothing is left of the list. It is absent then, and so it stays only if it was.
      have hnil : (xs.filter fun x => !gone x) = [] := List.isEmpty_iff.1 ‹_›
      refine iff_of_false (Option.some_ne_none xs).symm ?_
      rintro ⟨hnone, hne⟩
      exact hne (congrArg some ((hkept.2 hnone).symm.trans hnil))
    · rename_i hleft
      rw [Option.some_inj, hkept]
      refine (and_iff_left ?_).symm
      intro hempty
      obtain rfl := Option.some.inj hempty
      exact hleft rfl

/-- The volumes of the pod are there without items, if the mutation is about volumes. -/
def HasEmptyVolumes (m : Mutation) (p : PodSpec) : Prop :=
  match m with
  | .secret _ => p.volumes = some []
  | .env _ => False

/-- The list of the container that the mutation is about, its mounts or its variables, is there
without items. -/
def HasEmptyListIn (m : Mutation) (c : Container) : Prop :=
  match m with
  | .secret _ => c.volumeMounts = some []
  | .env _ => c.env = some []

/-- Of the lists of a pod that the mutation is about, one is there without items: the volumes or the
mounts of a container when it mounts a secret, and the variables of a container when it sets
variables. -/
def HasEmptyList (m : Mutation) (p : PodSpec) : Prop :=
  m.HasEmptyVolumes p ∨ ∃ c ∈ p.allContainers, m.HasEmptyListIn c

instance (m : Mutation) (p : PodSpec) : Decidable (m.HasEmptyVolumes p) :=
  match m with
  | .secret _ => inferInstanceAs (Decidable (p.volumes = some []))
  | .env _ => inferInstanceAs (Decidable False)

instance (m : Mutation) (c : Container) : Decidable (m.HasEmptyListIn c) :=
  match m with
  | .secret _ => inferInstanceAs (Decidable (c.volumeMounts = some []))
  | .env _ => inferInstanceAs (Decidable (c.env = some []))

instance (m : Mutation) (p : PodSpec) : Decidable (m.HasEmptyList p) :=
  inferInstanceAs (Decidable (m.HasEmptyVolumes p ∨ ∃ c ∈ p.allContainers, m.HasEmptyListIn c))

/-- Undoing a mutation leaves a container alone when it has none of its items and the list that they
would be in is not there without items. -/
theorem onContainer_unbind_eq_self_iff (m : Mutation) (c : Container) :
    (Change.unbind.edit m).onContainer c = c ↔ m.isInContainer c = false ∧ ¬m.HasEmptyListIn c := by
  rw [Edit.onContainer_eq_self_iff]
  cases m with
  | secret mount => exact (and_iff_left rfl).trans retain_eq_self_iff
  | env vars => exact (and_iff_right rfl).trans retain_eq_self_iff

/-- Undoing a mutation leaves the volumes of a pod alone when its volume is not among them and they are
not there without items, if it is about volumes at all. -/
theorem volumes_unbind_eq_self_iff (m : Mutation) (p : PodSpec) :
    (Change.unbind.edit m).volumes p.volumes = p.volumes ↔
      m.isInVolumes p = false ∧ ¬m.HasEmptyVolumes p := by
  cases m with
  | secret mount => exact retain_eq_self_iff
  | env vars => exact iff_of_true rfl ⟨rfl, not_false⟩

/-- Undoing a mutation leaves a workload with pods alone when it carries none of the mutation's items
and none of the lists that the mutation is about is there without items. -/
theorem undo_eq_self_iff (m : Mutation) {w : Workload} {p : PodSpec}
    (hp : w.template.spec = some p) :
    m.undo w = w ↔ m.isIn w = false ∧ ¬m.HasEmptyList p := by
  have hundo : m.undo w = onPod (Change.unbind.edit m).onPod w := Change.unbind.apply_eq m w
  have hcarried : m.isIn w = false ↔
      m.isInVolumes p = false ∧ ∀ c ∈ p.allContainers, m.isInContainer c = false := by
    rw [isIn, hp, Option.any_some, Bool.or_eq_false_iff, List.any_eq_false]
    refine and_congr_right' (forall₂_congr fun c _ => ?_)
    rw [Bool.not_eq_true]
  have hempty : ¬m.HasEmptyList p ↔
      ¬m.HasEmptyVolumes p ∧ ∀ c ∈ p.allContainers, ¬m.HasEmptyListIn c := by
    unfold HasEmptyList
    rw [not_or, not_exists]
    exact and_congr_right' (forall_congr' fun c => not_and)
  rw [hundo, onPod_eq_self_iff hp, Edit.onPod_eq_self_iff, volumes_unbind_eq_self_iff, hcarried,
    hempty, forall₂_congr fun c _ => m.onContainer_unbind_eq_self_iff c]
  -- Both sides say the same two things of the volumes and of each container.
  constructor
  · rintro ⟨⟨hvolumes, hfull⟩, hcontainers⟩
    exact ⟨⟨hvolumes, fun c hc => (hcontainers c hc).1⟩, hfull, fun c hc => (hcontainers c hc).2⟩
  · rintro ⟨⟨hvolumes, hcontainers⟩, hfull, hlists⟩
    exact ⟨⟨hvolumes, hfull⟩, fun c hc => ⟨hcontainers c hc, hlists c hc⟩⟩

/-! ## The laws -/

/-- Of carrying a mutation out and undoing it, the operation that comes last decides. So undoing what
was carried out gives the workload back just when undoing leaves it alone in the first place, which is
the case, for a workload with pods, just when it carries none of the mutation's items and none of the
lists that the mutation is about is there without items. The variables of a mutation may be none, and
names may be repeated among them. -/
theorem undo_apply_laws (m : Mutation) (w : Workload) :
    m.undo (m.apply w) = m.undo w ∧ m.apply (m.undo w) = m.apply w ∧
      m.apply (m.apply w) = m.apply w ∧ m.undo (m.undo w) = m.undo w ∧
      (m.undo (m.apply w) = w ↔ m.undo w = w) ∧
      ∀ p, w.template.spec = some p →
        (m.undo w = w ↔ m.isIn w = false ∧ ¬m.HasEmptyList p) := by
  have hlast : ∀ c d : Change, c.apply m (d.apply m w) = c.apply m w := fun c d =>
    c.apply_apply_of_covers d (.refl m) w
  have hundo : m.undo (m.apply w) = m.undo w := hlast .unbind .bind
  refine ⟨hundo, hlast .bind .unbind, hlast .bind .bind, hlast .unbind .unbind, ?_, ?_⟩
  · rw [hundo]
  · exact fun p hp => m.undo_eq_self_iff hp

/-- A deployment with a volume and a variable of its own, and with lists that are absent. -/
def cachedDeployment : Workload where
  metadata := { name := some "web", «namespace» := some "shop" }
  template :=
    { spec := some
        { containers :=
            [{ name := "web", env := some [{ name := "MODE", value := some "slow" }] }]
          initContainers := some [{ name := "fill" }]
          volumes := some
            [{ name := "cache", rest := .ofJson _ (.obj [("emptyDir", .obj [])]) }] } }

/-- A secret that is mounted into the deployment changes it, and undoing that gives the deployment
back. -/
theorem undo_apply_laws_cachedDeployment :
    (Mutation.secret ⟨"secretbinding-tls", "cert", "/etc/tls"⟩).apply cachedDeployment ≠
        cachedDeployment ∧
      (Mutation.secret ⟨"secretbinding-tls", "cert", "/etc/tls"⟩).undo
          ((Mutation.secret ⟨"secretbinding-tls", "cert", "/etc/tls"⟩).apply cachedDeployment) =
        cachedDeployment := by
  obtain ⟨-, -, -, -, hback, hself⟩ :=
    undo_apply_laws (.secret ⟨"secretbinding-tls", "cert", "/etc/tls"⟩) cachedDeployment
  exact ⟨by decide, hback.2 ((hself _ rfl).2 (by decide))⟩

end Mutation

end WorkloadBindings
