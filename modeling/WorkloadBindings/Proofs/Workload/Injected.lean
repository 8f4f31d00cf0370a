import WorkloadBindings.Proofs.Workload.Edit

/-!
# What a mutation puts in, and what it leaves

After a mutation was carried out, each of its items is in the lists that it belongs to exactly once,
at the end, and nothing else has changed. `Mutation.Injected` says so of two workloads, from the
outside in: of the workload, of the specification of its pods, of each regular and each initialising
container, and, by `Renewed`, of each list. It does not say how the one workload is made from the other.
The proof goes from the inside out. A renewed list is as it should be when no two of the new items have
one name (`Mutation.renewed_renew`), a mutation renews the lists that its kind is about
(`Change.edit`), and an edit leaves all else alone (`Mutation.apply_injected`).
-/

namespace WorkloadBindings

/-! ## Renewed lists -/

/-- A list that may be absent was renewed with some items: it ends in them, each of them is the only
one of its name, and the items with other names are those from before, in their order. -/
structure Renewed {α : Type} (name : α → String) (added : List α) (before after : Option (List α)) :
    Prop where
  tail : ∃ kept, after = some (kept ++ added)
  once : ∀ x ∈ added, ((after.getD []).filter fun y => name y == name x) = [x]
  others : ((after.getD []).filter fun y => name y ∉ added.map name) =
    (before.getD []).filter fun y => name y ∉ added.map name

namespace Mutation

section

variable {α : Type} {name : α → String} {added : List α}

/-- When no two items have one name, each is the only one of its name. -/
theorem filter_name_of_nodup (h : (added.map name).Nodup) :
    ∀ x ∈ added, (added.filter fun y => name y == name x) = [x] := by
  induction added with
  | nil => exact fun _ hx => nomatch hx
  | cons a rest ih =>
    obtain ⟨hfirst, hrest⟩ := List.nodup_cons.1 h
    intro x hx
    rcases List.mem_cons.1 hx with rfl | hx
    · have hnone : (rest.filter fun y => name y == name x) = [] := by
        refine List.filter_eq_nil_iff.2 fun y hy hsame => hfirst ?_
        rw [← eq_of_beq hsame]
        exact List.mem_map_of_mem hy
      rw [List.filter_cons, if_pos (beq_self_eq_true _), hnone]
    · have hne : ¬(name a == name x) = true := by
        refine fun hsame => hfirst ?_
        rw [eq_of_beq hsame]
        exact List.mem_map_of_mem hx
      rw [List.filter_cons, if_neg hne, ih hrest x hx]

/-- A list from which all items with the names of the new ones were taken out before these were put in
is renewed with them. -/
theorem renewed_renew (h : (added.map name).Nodup) {keep : α → Bool}
    (hkeep : ∀ x, keep x = decide (name x ∉ added.map name)) (items : Option (List α)) :
    Renewed name added items (renew keep added items) := by
  have hkept : ∀ y ∈ (items.getD []).filter keep, name y ∉ added.map name := by
    intro y hy
    have hy' := (List.mem_filter.1 hy).2
    rw [hkeep] at hy'
    exact of_decide_eq_true hy'
  refine ⟨⟨_, renew_eq keep added items⟩, fun x hx => ?_, ?_⟩
  · have hnone : (((items.getD []).filter keep).filter fun y => name y == name x) = [] := by
      refine List.filter_eq_nil_iff.2 fun y hy hsame => hkept y hy ?_
      rw [eq_of_beq hsame]
      exact List.mem_map_of_mem hx
    rw [renew_eq, Option.getD_some, List.filter_append, hnone, List.nil_append]
    exact filter_name_of_nodup h x hx
  · rw [← funext hkeep]
    exact filter_getD_renew (fun _ hx => hx)
      (fun x hx => (hkeep x).trans (decide_eq_false (not_not.2 (List.mem_map_of_mem hx)))) items

end

/-! ## Workloads with the items of a mutation -/

/-- The container has what the mutation brings into one, exactly once and at the end, and is as it was
before but for that: its last mount is the one of the mutation's volume, read-only and at the path of
the mutation, or its last variables are those of the mutation, in their order and with their values. -/
structure InjectedContainer (m : Mutation) (c c' : Container) : Prop where
  lists : match m with
    | .secret mount =>
      Renewed VolumeMount.name
        [{ mountPath := mount.mountPath, mountPropagation := none, name := mount.volume
           readOnly := some true, recursiveReadOnly := none, subPath := none, subPathExpr := none }]
        c.volumeMounts c'.volumeMounts ∧ c'.env = c.env
    | .env vars =>
      Renewed EnvVar.name
        (vars.map fun v => { name := v.1, value := some v.2, valueFrom := none }) c.env c'.env ∧
        c'.volumeMounts = c.volumeMounts
  frame : { c' with env := c.env, volumeMounts := c.volumeMounts } = c

/-- The pod has what the mutation brings into one, exactly once and at the end, in each of its regular
and initialising containers, and is as it was before but for that: its last volume is the one of the
mutation, made from the secret, if the mutation mounts one. -/
structure InjectedPod (m : Mutation) (p p' : PodSpec) : Prop where
  volumes : match m with
    | .secret mount =>
      Renewed Volume.name
        [{ name := mount.volume
           secret := some
             { defaultMode := none, items := none, «optional» := none
               secretName := some mount.secret }
           rest := ∅ }]
        p.volumes p'.volumes
    | .env _ => p'.volumes = p.volumes
  containers : List.Forall₂ m.InjectedContainer p.containers p'.containers
  initContainers :
    Option.Rel (List.Forall₂ m.InjectedContainer) p.initContainers p'.initContainers
  frame : { p' with
    containers := p.containers, initContainers := p.initContainers, volumes := p.volumes } = p

/-- The workload has what the mutation brings into its pods, if it has any, and is as it was before but
for that. -/
structure Injected (m : Mutation) (w w' : Workload) : Prop where
  spec : Option.Rel m.InjectedPod w.template.spec w'.template.spec
  frame : { w' with template := { w'.template with spec := w.template.spec } } = w

/-- No two items of the mutation have one name. -/
def HasDistinctNames : Mutation → Prop
  | .secret _ => True
  | .env vars => (vars.map Prod.fst).Nodup

instance (m : Mutation) : Decidable m.HasDistinctNames :=
  match m with
  | .secret _ => inferInstanceAs (Decidable True)
  | .env vars => inferInstanceAs (Decidable (vars.map Prod.fst).Nodup)

/-! ## Carrying a mutation out -/

/-- The mounts or the volumes are renewed with the one item of a mutation that mounts a secret. -/
theorem renewed_isOther {α : Type} (name : α → String) (item : α) {mount : SecretMount}
    (hname : name item = mount.volume) (items : Option (List α)) :
    Renewed name [item] items (renew (fun x => isOther mount (name x)) [item] items) := by
  have hnames : ([item].map name).Nodup := List.pairwise_singleton _ (name item)
  refine renewed_renew hnames (fun x => ?_) items
  rw [List.map_singleton, hname, isOther, bne, Bool.beq_eq_decide_eq, ← decide_not]
  simp only [List.mem_singleton]

/-- The variables are renewed with those of a mutation that sets variables, when no two of these have
one name. -/
theorem renewed_isUnset {vars : List (String × String)} (h : (vars.map Prod.fst).Nodup)
    (items : Option (List EnvVar)) :
    Renewed EnvVar.name (envVarsOf vars) items
      (renew (fun e => isUnset vars e.name) (envVarsOf vars) items) := by
  have hnames : (envVarsOf vars).map EnvVar.name = vars.map Prod.fst := by
    rw [envVarsOf, List.map_map]
    rfl
  refine renewed_renew (hnames ▸ h) (fun x => ?_) items
  rw [hnames, Bool.eq_iff_iff, decide_eq_true_iff, ← isUnset_eq_false_iff, Bool.not_eq_false]

variable {m : Mutation}

/-- A container has what a mutation brings into it when the mutation was carried out. -/
theorem injectedContainer_onContainer (h : m.HasDistinctNames) (c : Container) :
    m.InjectedContainer c ((Change.bind.edit m).onContainer c) := by
  cases m with
  | secret mount =>
    exact ⟨⟨renewed_isOther VolumeMount.name (volumeMountOf mount) rfl c.volumeMounts, rfl⟩, rfl⟩
  | env vars => exact ⟨⟨renewed_isUnset h c.env, rfl⟩, rfl⟩

/-- Containers have what a mutation brings into them when the mutation was carried out. -/
theorem forall₂_injectedContainer (h : m.HasDistinctNames) (cs : List Container) :
    List.Forall₂ m.InjectedContainer cs (cs.map (Change.bind.edit m).onContainer) := by
  rw [List.forall₂_map_right_iff, List.forall₂_same]
  exact fun c _ => injectedContainer_onContainer h c

/-- A pod has what a mutation brings into it when the mutation was carried out. -/
theorem injectedPod_onPod (h : m.HasDistinctNames) (p : PodSpec) :
    m.InjectedPod p ((Change.bind.edit m).onPod p) where
  volumes := by
    cases m with
    | secret mount => exact renewed_isOther Volume.name (volumeOf mount) rfl p.volumes
    | env vars => exact rfl
  containers := forall₂_injectedContainer h p.containers
  initContainers := by
    unfold Edit.onPod mapContainers
    cases p.initContainers with
    | none => exact .none
    | some cs => exact .some (forall₂_injectedContainer h cs)
  frame := rfl

/-- Carrying a mutation out, no two items of which have one name, puts each of its items into a workload
exactly once and changes nothing else. A workload without pods it leaves alone, whatever the names. -/
theorem apply_injected (m : Mutation) (w : Workload) :
    (m.HasDistinctNames → m.Injected w (m.apply w)) ∧
      (w.template.spec = none → m.apply w = w) := by
  have hedit : m.apply w = onPod (Change.bind.edit m).onPod w := Change.bind.apply_eq m w
  constructor
  · intro h
    rw [hedit]
    refine ⟨?_, rfl⟩
    unfold onPod
    cases w.template.spec with
    | none => exact .none
    | some p => exact .some (injectedPod_onPod h p)
  · intro hnone
    exact onPod_of_none _ hnone

/-- A deployment with a variable that is set twice around another one, and with a container that has no
variables. -/
def crowdedDeployment : Workload where
  metadata := { name := some "web", «namespace» := some "shop" }
  template :=
    { spec := some
        { containers :=
            [{ name := "web"
               env := some
                 [{ name := "MODE", value := some "slow" }, { name := "HOME", value := some "/" },
                  { name := "MODE", valueFrom := some (.obj []) }] }]
          initContainers := some [{ name := "fill" }] } }

/-- Of the variable that was set twice one is left, behind the other one and with the new value. -/
theorem apply_injected_crowdedDeployment :
    (Mutation.env [("MODE", "fast"), ("TIER", "gold")]).HasDistinctNames ∧
      (Mutation.env [("MODE", "fast"), ("TIER", "gold")]).Injected crowdedDeployment
        ((Mutation.env [("MODE", "fast"), ("TIER", "gold")]).apply crowdedDeployment) ∧
      (((Mutation.env [("MODE", "fast"), ("TIER", "gold")]).apply crowdedDeployment
        ).template.spec.map fun p => p.containers.map fun c => c.env) =
        some [some
          [{ name := "HOME", value := some "/" }, { name := "MODE", value := some "fast" },
           { name := "TIER", value := some "gold" }]] := by
  have hnames : (Mutation.env [("MODE", "fast"), ("TIER", "gold")]).HasDistinctNames := by decide
  have hinjected := (apply_injected (.env [("MODE", "fast"), ("TIER", "gold")]) crowdedDeployment).1
  exact ⟨hnames, hinjected hnames, by decide⟩

end Mutation

end WorkloadBindings
