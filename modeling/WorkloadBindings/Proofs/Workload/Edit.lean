import WorkloadBindings.Proofs.Workload.Carried
import WorkloadBindings.Reconcile.Call

/-!
# Mutations as edits of three lists

Whatever a mutation does to a pod it does to three lists: the volumes of the pod, and the mounts and
the variables of each container. So a change is an `Edit`, one function for each of the lists
(`Change.apply_eq`), and changes are compared list by list. A change of a mutation makes up for every
earlier change of a mutation that it covers (`Change.edit_comp_of_covers`), and mutations of
different kinds, which edit different lists, do not get in each other's way (`Change.edit_comp_comm`).
Of variables that are not covered something is left (`Mutation.covers_of_template_eq`).
-/

namespace WorkloadBindings

/-! ## Edits -/

/-- A change of the lists of a pod that mutations are about. -/
structure Edit where
  /-- What becomes of the volumes of the pod. -/
  volumes : Option (List Volume) → Option (List Volume) := id
  /-- What becomes of the mounts of each container. -/
  volumeMounts : Option (List VolumeMount) → Option (List VolumeMount) := id
  /-- What becomes of the variables of each container. -/
  env : Option (List EnvVar) → Option (List EnvVar) := id

namespace Edit

/-- The container after an edit. -/
def onContainer (e : Edit) (c : Container) : Container :=
  { c with volumeMounts := e.volumeMounts c.volumeMounts, env := e.env c.env }

/-- The pod after an edit. -/
def onPod (e : Edit) (p : PodSpec) : PodSpec :=
  { Mutation.mapContainers e.onContainer p with volumes := e.volumes p.volumes }

/-- An edit leaves the other members of a container as they are. -/
theorem part_onContainer (e : Edit) (c : Container) {name : String} (henv : name ≠ "env")
    (hmounts : name ≠ "volumeMounts") : (e.onContainer c).part name = c.part name := by
  unfold Container.part
  rw [if_neg henv, if_neg henv, if_neg hmounts, if_neg hmounts]
  rfl

/-- An edit leaves the other members of a pod as they are. -/
theorem part_onPod (e : Edit) (p : PodSpec) {name : String} (hcontainers : name ≠ "containers")
    (hinit : name ≠ "initContainers") (hvolumes : name ≠ "volumes") :
    (e.onPod p).part name = p.part name := by
  unfold PodSpec.part
  rw [if_neg hcontainers, if_neg hcontainers, if_neg hinit, if_neg hinit, if_neg hvolumes,
    if_neg hvolumes]
  rfl

/-- One edit after another. -/
def comp (e f : Edit) : Edit where
  volumes := e.volumes ∘ f.volumes
  volumeMounts := e.volumeMounts ∘ f.volumeMounts
  env := e.env ∘ f.env

/-- An edit after another is made list by list. -/
theorem onPod_comp (e f : Edit) (p : PodSpec) : (e.comp f).onPod p = e.onPod (f.onPod p) := by
  have hcontainer : e.onContainer ∘ f.onContainer = (e.comp f).onContainer := rfl
  unfold onPod Mutation.mapContainers
  simp only [List.map_map, Option.map_map, hcontainer]
  cases p.initContainers with
  | none => rfl
  | some cs => simp only [Option.map_some, Function.comp_apply, List.map_map, hcontainer, comp]

end Edit

/-! ## Lists that may be absent -/

namespace Mutation

section

variable {α : Type} {keep keep' : α → Bool} {more more' : List α}

/-- A list that may be absent, with the items that fail a test replaced by new ones at its end. -/
def renew (keep : α → Bool) (more : List α) (items : Option (List α)) : Option (List α) :=
  append (retain keep items) more

/-- What is left of a list depends on its items only, and is absent when it has none. -/
theorem retain_eq (keep : α → Bool) (items : Option (List α)) :
    retain keep items =
      if ((items.getD []).filter keep).isEmpty then none else some ((items.getD []).filter keep) := by
  cases items <;> rfl

/-- The items that are left of a list. -/
theorem getD_retain (keep : α → Bool) (items : Option (List α)) :
    (retain keep items).getD [] = (items.getD []).filter keep := by
  rw [retain_eq]
  split
  · exact (List.isEmpty_iff.1 ‹_›).symm
  · rfl

/-- A renewed list is there, with what was left of it before the new items. -/
theorem renew_eq (keep : α → Bool) (more : List α) (items : Option (List α)) :
    renew keep more items = some ((items.getD []).filter keep ++ more) := by
  rw [renew, append, getD_retain]

/-- What one test leaves of what a weaker one left. -/
theorem filter_filter_of_imp (h : ∀ x, keep x = true → keep' x = true) (xs : List α) :
    (xs.filter keep').filter keep = xs.filter keep := by
  rw [List.filter_filter]
  refine List.filter_congr fun x _ => ?_
  cases hx : keep x with
  | false => rfl
  | true => rw [h x hx, Bool.true_and]

/-- What a test leaves of what a weaker one left does not depend on the items put in between, when
they all fail it. -/
theorem filter_getD_renew (h : ∀ x, keep x = true → keep' x = true)
    (hmore : ∀ x ∈ more', keep x = false) (items : Option (List α)) :
    ((renew keep' more' items).getD []).filter keep = (items.getD []).filter keep := by
  have hnone : more'.filter keep = [] := List.filter_eq_nil_iff.2 fun x hx => by simp [hmore x hx]
  rw [renew_eq, Option.getD_some, List.filter_append, filter_filter_of_imp h, hnone, List.append_nil]

end

/-! ## The edits of a mutation -/

/-- The volume is not that of a mount, or the mount is not of it. -/
def isOther (mount : SecretMount) (name : String) : Bool := name != mount.volume

/-- The name is not that of one of some variables. -/
def isUnset (vars : List (String × String)) (name : String) : Bool := !vars.any fun v => v.1 == name

/-- A name is that of one of some variables when it is among their names. -/
theorem isUnset_eq_false_iff {vars : List (String × String)} {name : String} :
    isUnset vars name = false ↔ name ∈ vars.map Prod.fst := by
  rw [isUnset, Bool.not_eq_false', List.any_eq_true, List.mem_map]
  exact exists_congr fun v => and_congr_right' beq_iff_eq

/-- A mutation covers another one when it takes out everything that the other one puts in or takes
out. -/
def Covers : Mutation → Mutation → Prop
  | .secret mount, .secret mount' => mount.volume = mount'.volume
  | .env vars, .env vars' => ∀ v ∈ vars', v.1 ∈ vars.map Prod.fst
  | _, _ => False

theorem Covers.refl (m : Mutation) : m.Covers m := by
  cases m with
  | secret mount => exact rfl
  | env vars => exact fun v hv => List.mem_map_of_mem hv

end Mutation

namespace Change

open Mutation

/-- The change of a list: it loses the items that fail a test, and, while the binding lives, gets new
ones. -/
def editList {α : Type} (c : Change) (keep : α → Bool) (more : List α) :
    Option (List α) → Option (List α) :=
  match c with
  | .bind => renew keep more
  | .unbind => retain keep

/-- The edit that a change of a mutation makes. -/
def edit (c : Change) : Mutation → Edit
  | .secret mount =>
    { volumes := c.editList (fun v => isOther mount v.name) [volumeOf mount]
      volumeMounts := c.editList (fun v => isOther mount v.name) [volumeMountOf mount] }
  | .env vars => { env := c.editList (fun e => isUnset vars e.name) (envVarsOf vars) }

/-- The edit that puts in what a mutation brings into a pod. -/
def injection : Mutation → Edit
  | .secret mount =>
    { volumes := fun items => append items [volumeOf mount]
      volumeMounts := fun items => append items [volumeMountOf mount] }
  | .env vars => { env := fun items => append items (envVarsOf vars) }

/-- Carrying a mutation out is undoing it and putting it in. -/
theorem edit_bind (m : Mutation) : Change.bind.edit m = (injection m).comp (Change.unbind.edit m) := by
  cases m <;> rfl

/-- A change of a mutation is its edit. -/
theorem apply_eq (c : Change) (m : Mutation) (w : Workload) :
    c.apply m w = onPod (c.edit m).onPod w := by
  have hundo : ∀ p, m.undoPod p = (Change.unbind.edit m).onPod p := by
    intro p
    cases m <;> rfl
  have hinject : ∀ p, m.injectPod p = (injection m).onPod p := by
    intro p
    cases m <;> rfl
  cases c with
  | unbind => exact congrArg (fun f => onPod f w) (funext hundo)
  | bind =>
    refine congrArg (fun f => onPod f w) (funext fun p => ?_)
    rw [hinject, hundo, edit_bind, Edit.onPod_comp]

/-! ## One change after another -/

variable (c d : Change)

/-- A later change of a list makes up for an earlier one that leaves no less and puts in no more than
what the later one takes out. -/
theorem editList_editList {α : Type} {keep keep' : α → Bool} {more more' : List α}
    (h : ∀ x, keep x = true → keep' x = true) (hmore : ∀ x ∈ more', keep x = false)
    (items : Option (List α)) :
    c.editList keep more (d.editList keep' more' items) = c.editList keep more items := by
  have hleft : ((d.editList keep' more' items).getD []).filter keep = (items.getD []).filter keep := by
    cases d with
    | bind => exact filter_getD_renew h hmore items
    | unbind => rw [editList, getD_retain, filter_filter_of_imp h]
  cases c with
  | bind => rw [editList, renew_eq, renew_eq, hleft]
  | unbind => rw [editList, retain_eq, retain_eq keep items, hleft]

/-- Of a list whose items have names, a later change for a volume makes up for an earlier one for it.
-/
theorem editList_isOther {α : Type} {mount mount' : SecretMount} (h : mount.volume = mount'.volume)
    (name : α → String) (item : α) {item' : α} (hname : name item' = mount'.volume)
    (items : Option (List α)) :
    c.editList (fun v => isOther mount (name v)) [item]
        (d.editList (fun v => isOther mount' (name v)) [item'] items) =
      c.editList (fun v => isOther mount (name v)) [item] items := by
  have hkeep : ∀ v, isOther mount (name v) = isOther mount' (name v) := by
    intro v
    rw [isOther, isOther, h]
  have hitem : isOther mount (name item') = false := by
    rw [hname, isOther, h, bne_self_eq_false]
  refine editList_editList c d (fun v hv => ?_) (List.forall_mem_singleton.2 ?_) items
  · exact (hkeep v).symm.trans hv
  · exact hitem

/-- Of the variables of a container, a later change of some of them makes up for an earlier change of
no others. -/
theorem editList_isUnset {vars vars' : List (String × String)}
    (h : ∀ v ∈ vars', v.1 ∈ vars.map Prod.fst) (items : Option (List EnvVar)) :
    c.editList (fun e => isUnset vars e.name) (envVarsOf vars)
        (d.editList (fun e => isUnset vars' e.name) (envVarsOf vars') items) =
      c.editList (fun e => isUnset vars e.name) (envVarsOf vars) items := by
  have hset : ∀ v ∈ vars', isUnset vars v.1 = false := fun v hv => isUnset_eq_false_iff.2 (h v hv)
  have hkeep : ∀ name, isUnset vars name = true → isUnset vars' name = true := by
    intro name hname
    by_contra hname'
    obtain ⟨v, hv, rfl⟩ := List.mem_map.1 (isUnset_eq_false_iff.1 (Bool.eq_false_iff.2 hname'))
    rw [hset v hv] at hname
    cases hname
  refine editList_editList c d (fun e he => hkeep e.name he) ?_ items
  unfold envVarsOf
  exact List.forall_mem_map.2 hset

/-- A change of a mutation makes up for an earlier change of a mutation that it covers. -/
theorem edit_comp_of_covers {m m' : Mutation} (h : m.Covers m') :
    (c.edit m).comp (d.edit m') = c.edit m := by
  match m, m', h with
  | .secret mount, .secret mount', hvolume =>
    unfold edit Edit.comp
    congr 1
    · exact funext (editList_isOther c d hvolume Volume.name (volumeOf mount) rfl)
    · exact funext (editList_isOther c d hvolume VolumeMount.name (volumeMountOf mount) rfl)
  | .env vars, .env vars', hnames =>
    unfold edit Edit.comp
    congr 1
    exact funext (editList_isUnset c d hnames)

/-- Changes of mutations of different kinds may be made in any order. -/
theorem edit_comp_comm (mount : SecretMount) (vars : List (String × String)) :
    (c.edit (.secret mount)).comp (d.edit (.env vars)) =
      (d.edit (.env vars)).comp (c.edit (.secret mount)) := rfl

/-- A change of a mutation makes up for an earlier change of a mutation that it covers. -/
theorem apply_apply_of_covers {m m' : Mutation} (h : m.Covers m') (w : Workload) :
    c.apply m (d.apply m' w) = c.apply m w := by
  rw [apply_eq, apply_eq d, onPod_onPod, apply_eq c m w]
  simp only [← Edit.onPod_comp, edit_comp_of_covers c d h]

/-- Changes of mutations of different kinds may be made in any order. -/
theorem apply_comm (mount : SecretMount) (vars : List (String × String)) (w : Workload) :
    c.apply (.secret mount) (d.apply (.env vars) w) =
      d.apply (.env vars) (c.apply (.secret mount) w) := by
  rw [apply_eq, apply_eq d, apply_eq d, apply_eq c, onPod_onPod, onPod_onPod]
  simp only [← Edit.onPod_comp, edit_comp_comm]

end Change

/-! ## What is left of an earlier mutation -/

/-- An edit changes every regular and initialising container. -/
theorem Edit.allContainers_onPod (e : Edit) (p : PodSpec) :
    (e.onPod p).allContainers = p.allContainers.map e.onContainer := by
  unfold Edit.onPod Mutation.mapContainers PodSpec.allContainers
  cases p.initContainers <;> simp

/-- The workload has a container that mutations are about. -/
def Workload.HasContainers (w : Workload) : Prop :=
  ∃ p c, w.template.spec = some p ∧ c ∈ p.allContainers

namespace Mutation

variable {vars vars' : List (String × String)} {w : Workload}

/-- Some variables cover other ones when none of the others is left without them. -/
theorem covers_env_iff : Covers (.env vars) (.env vars') ↔
    (envVarsOf vars').filter (fun e => isUnset vars e.name) = [] := by
  unfold envVarsOf Covers
  rw [List.filter_map, List.map_eq_nil_iff, List.filter_eq_nil_iff]
  refine forall₂_congr fun v _ => ?_
  rw [← isUnset_eq_false_iff, Bool.not_eq_true]
  rfl

/-- A container that has none of some variables has all of its own without them. -/
theorem filter_isUnset {c : Container} (h : (Mutation.env vars).isInContainer c = false) :
    (c.env.getD []).filter (fun e => isUnset vars e.name) = c.env.getD [] := by
  refine List.filter_eq_self.2 fun e he => ?_
  have hnone := List.any_eq_false.1 h e he
  rw [isUnset, Bool.not_eq_true', ← Bool.not_eq_true]
  exact hnone

/-- Some variables cover those that a container was given before when nothing is left of them. -/
theorem covers_of_onContainer {c : Container} (hclear : (Mutation.env vars').isInContainer c = false)
    (h : (Change.bind.edit (.env vars)).onContainer ((Change.bind.edit (.env vars')).onContainer c) =
      (Change.bind.edit (.env vars)).onContainer c) :
    Covers (.env vars) (.env vars') := by
  have henv := congrArg Container.env h
  change renew _ _ (renew _ _ c.env) = renew _ _ c.env at henv
  rw [renew_eq, renew_eq, renew_eq, Option.getD_some, filter_isUnset hclear, List.filter_append]
    at henv
  have hleft := List.append_cancel_right (Option.some.inj henv)
  exact covers_env_iff.2 (List.append_right_eq_self.1 hleft)

/-- Some variables cover those that a workload was given before when nothing is left of them in a
container. -/
theorem covers_of_template_eq (hclear : (Mutation.env vars').isIn w = false) (hw : w.HasContainers)
    (h : (Change.bind.apply (.env vars) (Change.bind.apply (.env vars') w)).template =
      (Change.bind.apply (.env vars) w).template) :
    Covers (.env vars) (.env vars') := by
  obtain ⟨p, c, hp, hc⟩ := hw
  have hclearc : (Mutation.env vars').isInContainer c = false := by
    rw [isIn, hp, Option.any_some, Bool.or_eq_false_iff] at hclear
    exact Bool.eq_false_iff.2 (List.any_eq_false.1 hclear.2 c hc)
  rw [Change.apply_eq, Change.apply_eq .bind (.env vars'), Change.apply_eq, onPod_onPod] at h
  have hspec := congrArg PodTemplate.spec h
  simp only [onPod, hp, Option.map_some, Option.some.injEq] at hspec
  have hcontainers := congrArg PodSpec.allContainers hspec
  simp only [Edit.allContainers_onPod, List.map_map] at hcontainers
  exact covers_of_onContainer hclearc (List.map_inj_left.1 hcontainers c hc)

end Mutation

/-- A pod stays as it is when its containers do. -/
theorem Mutation.mapContainers_of_forall {f : Container → Container} {p : PodSpec}
    (h : ∀ c ∈ p.allContainers, f c = c) : mapContainers f p = p := by
  have hsame : ∀ cs : List Container, (∀ c ∈ cs, c ∈ p.allContainers) → cs.map f = cs :=
    fun cs hcs => (List.map_congr_left fun c hc => h c (hcs c hc)).trans (List.map_id cs)
  have hcontainers := hsame p.containers fun c hc => List.mem_append_left _ hc
  have hinit : p.initContainers.map (·.map f) = p.initContainers := by
    cases hp : p.initContainers with
    | none => rfl
    | some cs =>
      refine congrArg some (hsame cs fun c hc => List.mem_append_right _ ?_)
      rwa [hp]
  unfold mapContainers
  rw [hcontainers, hinit]

/-- A change of variables leaves a workload that has no containers for them. -/
theorem Change.apply_env_of_bare (c : Change) (vars : List (String × String)) {w : Workload}
    (h : ¬w.HasContainers) : c.apply (.env vars) w = w := by
  rw [apply_eq]
  cases hp : w.template.spec with
  | none => exact Mutation.onPod_of_none _ hp
  | some p =>
    have hpod : (c.edit (.env vars)).onPod p = p :=
      Mutation.mapContainers_of_forall fun container hmem => absurd ⟨p, container, hp, hmem⟩ h
    obtain ⟨metadata, template⟩ := w
    obtain ⟨tmetadata, spec⟩ := template
    obtain rfl : spec = some p := hp
    simp only [Mutation.onPod, Option.map_some, hpod]

end WorkloadBindings
