import WorkloadBindings.Text.Basic
import WorkloadBindings.Text.Sha256
import WorkloadBindings.Workload.Basic

/-!
# Mutations of workloads

A binding changes the pod template of its workloads: one kind mounts a secret into every container,
the other sets environment variables in every container. `Mutation.undo` takes everything out again
that the mutation puts in, and `Mutation.apply` first takes it out and then appends it, so that
carrying it out once more changes nothing. Containers added for debugging are left alone.
-/

namespace WorkloadBindings

/-- A secret mounted as a volume. -/
structure SecretMount where
  volume : String
  secret : String
  mountPath : String
  deriving DecidableEq

/-- What a binding does to the pod template of a workload. -/
inductive Mutation where
  /-- Mounts a secret, read-only, into every container. -/
  | secret (mount : SecretMount)
  /-- Sets variables, in order, in every container. -/
  | env (vars : List (String × String))
  deriving DecidableEq

namespace Mutation

/-! ## Names -/

/-- The most bytes that the name of a volume may have. -/
def maxVolumeName : Nat := 63

/-- The digits of the digest that end a shortened volume name. -/
def digestDigits : Nat := 8

/-- What every volume name of a binding begins with. -/
def volumeHead : String := "secretbinding-"

/-- The name of the volume for a binding: the binding's own name behind a fixed head, or, when that
is too long, as much of it as fits, without trailing dashes and dots, and a digest of the binding's
name. There is none when the cut falls inside a character. -/
def volumeName? (binding : String) : Option String :=
  let whole := (volumeHead ++ binding).toList
  if Text.byteWidth whole ≤ maxVolumeName then some (volumeHead ++ binding)
  else
    (Text.takeBytes? (maxVolumeName - digestDigits - 1) whole).map fun kept =>
      String.ofList (Text.trimEnd (fun c => c == '-' || c == '.') kept) ++ "-" ++
        String.ofList ((Sha256.hexDigest binding.toUTF8.toList).toList.take digestDigits)

/-- Where the secret of a binding is mounted when the binding does not say it. -/
def defaultMountPath (binding : String) : String := "/var/bindings/" ++ binding

/-- The mutation of a binding that mounts a secret; an empty path counts as none. -/
def ofSecret? (binding secret : String) (mountPath : Option String) : Option Mutation :=
  (volumeName? binding).map fun volume =>
    let given := mountPath.getD ""
    .secret ⟨volume, secret, if given = "" then defaultMountPath binding else given⟩

/-! ## Taking out and putting in -/

/-- A list that may be absent, without the items that fail a test; when none is left it is absent.
-/
def retain {α : Type} (keep : α → Bool) (items : Option (List α)) : Option (List α) :=
  match items with
  | none => none
  | some xs => if (xs.filter keep).isEmpty then none else some (xs.filter keep)

/-- A list that may be absent, with items appended; it is there afterwards. -/
def append {α : Type} (items : Option (List α)) (more : List α) : Option (List α) :=
  some (items.getD [] ++ more)

/-- A pod with every regular and initialising container changed. -/
def mapContainers (f : Container → Container) (p : PodSpec) : PodSpec :=
  { p with containers := p.containers.map f, initContainers := p.initContainers.map (·.map f) }

/-- The volume that a mount brings into a pod. -/
def volumeOf (m : SecretMount) : Volume :=
  { name := m.volume, secret := some { secretName := some m.secret } }

/-- The mount that a mount brings into a container. -/
def volumeMountOf (m : SecretMount) : VolumeMount :=
  { mountPath := m.mountPath, name := m.volume, readOnly := some true }

/-- The variables that a list of names and values brings into a container. -/
def envVarsOf (vars : List (String × String)) : List EnvVar :=
  vars.map fun v => { name := v.1, value := some v.2 }

/-- The container without the mutation's mounts or variables. -/
def undoContainer (m : Mutation) (c : Container) : Container :=
  match m with
  | .secret mount =>
    { c with volumeMounts := retain (fun v => v.name != mount.volume) c.volumeMounts }
  | .env vars => { c with env := retain (fun e => !vars.any fun v => v.1 == e.name) c.env }

/-- The pod without what the mutation brings into it. -/
def undoPod (m : Mutation) (p : PodSpec) : PodSpec :=
  let bare := mapContainers m.undoContainer p
  match m with
  | .secret mount => { bare with volumes := retain (fun v => v.name != mount.volume) p.volumes }
  | .env _ => bare

/-- The container with the mutation's mount or variables after its own. -/
def injectContainer (m : Mutation) (c : Container) : Container :=
  match m with
  | .secret mount => { c with volumeMounts := append c.volumeMounts [volumeMountOf mount] }
  | .env vars => { c with env := append c.env (envVarsOf vars) }

/-- The pod with what the mutation brings into it. -/
def injectPod (m : Mutation) (p : PodSpec) : PodSpec :=
  let filled := mapContainers m.injectContainer p
  match m with
  | .secret mount => { filled with volumes := append p.volumes [volumeOf mount] }
  | .env _ => filled

/-- The workload with its pod specification changed, if it has one. -/
def onPod (f : PodSpec → PodSpec) (w : Workload) : Workload :=
  { w with template := { w.template with spec := w.template.spec.map f } }

/-- The workload without what the mutation brings into it. -/
def undo (m : Mutation) (w : Workload) : Workload := onPod m.undoPod w

/-- The workload with what the mutation brings into it, and with nothing of it twice. -/
def apply (m : Mutation) (w : Workload) : Workload := onPod (fun p => m.injectPod (m.undoPod p)) w

end Mutation

end WorkloadBindings
