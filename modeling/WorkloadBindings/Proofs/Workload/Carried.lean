import WorkloadBindings.Proofs.Workload.Mutation

/-!
# What a workload carries of a mutation

A workload carries an item of a mutation when it has the volume of the mutation, a mount of that
volume in one of its regular or initialising containers, or one of the mutation's variables in one
of them. Undoing the mutation takes every such item out (`Mutation.isIn_undo`).
-/

namespace WorkloadBindings

/-- The regular and the initialising containers of a pod. -/
def PodSpec.allContainers (p : PodSpec) : List Container :=
  p.containers ++ p.initContainers.getD []

namespace Mutation

/-- The container has a mount or a variable of the mutation. -/
def isInContainer (m : Mutation) (c : Container) : Bool :=
  match m with
  | .secret mount => (c.volumeMounts.getD []).any fun v => v.name == mount.volume
  | .env vars => (c.env.getD []).any fun e => vars.any fun v => v.1 == e.name

/-- The pod has the volume of the mutation. -/
def isInVolumes (m : Mutation) (p : PodSpec) : Bool :=
  match m with
  | .secret mount => (p.volumes.getD []).any fun v => v.name == mount.volume
  | .env _ => false

/-- The workload carries an item of the mutation. -/
def isIn (m : Mutation) (w : Workload) : Bool :=
  w.template.spec.any fun p => m.isInVolumes p || p.allContainers.any m.isInContainer

/-- Nothing that fails a test is left when it was taken out. -/
theorem any_retain {α : Type} (gone : α → Bool) (items : Option (List α)) :
    ((retain (fun x => !gone x) items).getD []).any gone = false := by
  refine List.any_eq_false.2 fun x hx => ?_
  cases items with
  | none => cases hx
  | some xs =>
    -- A list that would be left empty is left out.
    simp only [retain] at hx
    split at hx
    · cases hx
    · have hkept := List.of_mem_filter hx
      simpa using hkept

/-- A container on which a mutation was undone has none of its items. -/
theorem isInContainer_undoContainer (m : Mutation) (c : Container) :
    m.isInContainer (m.undoContainer c) = false := by
  cases m with
  | secret mount => exact any_retain (fun v => v.name == mount.volume) c.volumeMounts
  | env vars => exact any_retain (fun e => vars.any fun v => v.1 == e.name) c.env

/-- A pod on which a mutation was undone does not have its volume. -/
theorem isInVolumes_undoPod (m : Mutation) (p : PodSpec) : m.isInVolumes (m.undoPod p) = false := by
  cases m with
  | secret mount => exact any_retain (fun v => v.name == mount.volume) p.volumes
  | env vars => rfl

/-- The containers of a pod on which a mutation was undone. -/
theorem allContainers_undoPod (m : Mutation) (p : PodSpec) :
    (m.undoPod p).allContainers = p.allContainers.map m.undoContainer := by
  cases m <;> cases hinit : p.initContainers <;>
    simp [undoPod, mapContainers, PodSpec.allContainers, hinit]

/-- A workload on which a mutation was undone carries none of its items. -/
theorem isIn_undo (m : Mutation) (w : Workload) : m.isIn (m.undo w) = false := by
  unfold isIn undo onPod
  cases w.template.spec with
  | none => rfl
  | some p =>
    have hcontainers : (m.undoPod p).allContainers.any m.isInContainer = false := by
      rw [allContainers_undoPod, List.any_map]
      exact List.any_eq_false.2 fun c _ => by
        rw [Function.comp_apply, isInContainer_undoContainer]
        exact Bool.false_ne_true
    simp only [Option.map_some, Option.any_some, isInVolumes_undoPod, hcontainers, Bool.or_false]

end Mutation

end WorkloadBindings
