import Mathlib.Logic.Relation
import WorkloadBindings.Index.Dispatch
import WorkloadBindings.Proofs.Workload.Carried
import WorkloadBindings.Reconcile.Pass

/-!
# Runs of reconcile passes

The surroundings of the passes over one binding: a `World` holds the binding, as long as the API has
it, and the workloads. `World.Outside` is what others do to it at any time, `World.Answers` what the
API may answer to a call and what the call changes, and `PatchStep` one step of several patches that
are under way together. `Situation.Step` puts them together with the passes: between two passes a
workload may be stored, a pass begins with the binding as it is stored then, and while a pass is on,
its calls are answered one after the other. Any request may fail, and a pass may be given up.
-/

namespace WorkloadBindings

/-! ## Names of workloads -/

/-- The claim that names the workload of a type with a namespace and a name. -/
def ResourceType.claim (type : ResourceType) («namespace» name : String) : Claim :=
  ⟨⟨⟨type.group, type.kind⟩, «namespace»⟩, name⟩

/-- The workload that a patch is for. -/
def WorkloadPatch.claim (p : WorkloadPatch) : Claim := p.type.claim p.namespace p.name

/-- The claim that names a workload of a kind. -/
def Workload.claim (w : Workload) (gk : GroupKind) : Claim :=
  ⟨⟨gk, w.metadata.namespaceOrEmpty⟩, w.metadata.name.getD ""⟩

/-- What the selection of the workload under a claim depends on. -/
def Claim.target (k : Claim) (w : Workload) : Target :=
  ⟨k.place.groupKind, k.place.namespace, k.name, w.metadata.labelSet⟩

/-! ## Writing a binding -/

namespace BindingResource

/-- The binding with other finalizers. -/
def withFinalizers (r : BindingResource) (finalizers : List String) : BindingResource :=
  { r with metadata := { r.metadata with finalizers := some finalizers } }

/-- The binding with another status. -/
def withStatus (r : BindingResource) (status : BindingStatus) : BindingResource :=
  { r with status := some status }

/-- The binding when its deletion was asked for. -/
def withDeletion (r : BindingResource) (time : String) : BindingResource :=
  { r with metadata := { r.metadata with deletionTimestamp := some time } }

/-- The binding with the version and the generation that the API gives it in a write. -/
def stamped (r : BindingResource) (version : Option String) (generation : Option Int) :
    BindingResource :=
  { r with metadata := { r.metadata with resourceVersion := version, generation := generation } }

/-- What the API keeps of a binding: nothing when it is being deleted and no finalizer is left. -/
def kept (r : BindingResource) : Option BindingResource :=
  if r.isDeleting && r.finalizers.isEmpty then none else some r

end BindingResource

/-! ## Worlds -/

/-- A binding, as long as it is there, and the workloads. -/
structure World where
  binding : Option BindingResource
  workloads : SortedMap Claim Workload

namespace World

/-- The world after a binding was written. -/
def write (s : World) (r : BindingResource) : World := { s with binding := r.kept }

/-- The world with a workload under a claim. -/
def put (s : World) (k : Claim) (w : Workload) : World :=
  { s with workloads := s.workloads.insert k w }

/-- The world without the workload under a claim. -/
def remove (s : World) (k : Claim) : World := { s with workloads := s.workloads.erase k }

/-- The workloads of a place that a selector picks. -/
def picked (s : World) (place : Place) (selector : Selector) : List Workload :=
  (s.workloads.entries.filter fun e =>
    e.1.place == place && selector.accepts e.2.metadata.labelSet).map Prod.snd

/-- What may happen at any time: a workload is removed, or the deletion of the binding is asked for.
-/
inductive Outside (s : World) : World → Prop where
  | removed (k : Claim) : Outside s (s.remove k)
  | deletion {r : BindingResource} (h : s.binding = some r) (time : String)
      (version : Option String) (generation : Option Int) :
      Outside s (s.write ((r.withDeletion time).stamped version generation))

/-- What happens while nobody waits for the end of it. -/
abbrev Drifts : World → World → Prop := Relation.ReflTransGen Outside

/-- The answers to the request for the workload under a claim. The API says that there is none only
when there is none. -/
def Gets (s : World) (k : Claim) : Except ApiFailure (Option Workload) → Prop
  | .ok found => found = s.workloads.get? k
  | .error e => e.isNotFound = true → s.workloads.get? k = none

/-- The answers to the request for the workloads of a place that a selector picks, which come in any
order. -/
def Lists (s : World) (place : Place) (selector : Selector) :
    Except ApiFailure (List Workload) → Prop
  | .ok found => found.Perm (s.picked place selector)
  | .error e => e.isNotFound = true → s.picked place selector = []

/-- The answers to the request to change the binding, and the world after it. Whether the API
insists on a version is left open. A request that fails changes nothing. -/
def Writes (s : World) (id : BindingId) (f : BindingResource → BindingResource) :
    Except ApiFailure Unit → World → Prop
  | .ok (), t => ∃ r version generation, s.binding = some r ∧ r.id = .ok id ∧
      t = s.write ((f r).stamped version generation)
  | .error e, t => t = s ∧ (e.isNotFound = true → ∀ r, s.binding = some r → r.id ≠ .ok id)

/-- The answers to a call other than one for patches, and the world after it. A status may be merged
with the one before. -/
def Answers (s : World) : (c : Call) → c.Answer → World → Prop
  | .get type ns name, answer, t => s.Gets (type.claim ns name) answer ∧ t = s
  | .list type ns selector, answer, t => s.Lists (type.claim ns "").place selector answer ∧ t = s
  | .patchAll _, _, _ => False
  | .finalizers id _ finalizers, answer, t => s.Writes id (·.withFinalizers finalizers) answer t
  | .status id _, answer, t => ∃ merged, s.Writes id (·.withStatus merged) answer t
  | .event _, _, t => t = s
  | .note _, _, t => t = s

/-- The answers to one patch, and the world after it: the patch is carried out on the workload as it
is written, and one that fails changes nothing. The API says that there is no such workload only
when there is none. -/
inductive Patches (s : World) (p : WorkloadPatch) : Except ApiFailure Unit → World → Prop where
  | patched {w : Workload} {j : Json} (hw : s.workloads.get? p.claim = some w)
      (hj : w.toJson.applyPatch p.patch = some j) :
      Patches s p (.ok ()) (s.put p.claim (.ofJson j))
  | failed {e : ApiFailure} (h : e.isNotFound = true → s.workloads.get? p.claim = none) :
      Patches s p (.error e) s

end World

/-! ## Several patches -/

/-- Some patches that are under way together, each with its answer once it has one. -/
abbrev PatchProgress : Type := List (WorkloadPatch × Option (Except ApiFailure Unit))

namespace PatchProgress

/-- No patch has an answer yet. -/
def start (patches : List WorkloadPatch) : PatchProgress := patches.map fun p => (p, none)

/-- Every patch has its answer. -/
def finish (patches : List WorkloadPatch) (answers : PatchResults patches) : PatchProgress :=
  patches.zip (answers.val.map some)

end PatchProgress

/-- A step while patches are under way: others change the world, or one of the patches that have no
answer yet gets one. -/
inductive PatchStep : PatchProgress × World → PatchProgress × World → Prop where
  | outside {progress : PatchProgress} {s t : World} (h : s.Outside t) :
      PatchStep (progress, s) (progress, t)
  | answered {before after : PatchProgress} {p : WorkloadPatch} {answer : Except ApiFailure Unit}
      {s t : World} (h : s.Patches p answer t) :
      PatchStep (before ++ (p, none) :: after, s) (before ++ (p, some answer) :: after, t)

namespace World

/-- Worlds that may be there while a call waits for its answer. -/
def During : Call → World → World → Prop
  | .patchAll patches, s, t =>
    ∃ progress, Relation.ReflTransGen PatchStep (PatchProgress.start patches, s) (progress, t)
  | _, s, t => s.Drifts t

/-- A call that is made in one world has its answer in another. -/
def Completes : (c : Call) → World → c.Answer → World → Prop
  | .patchAll patches, s, answers, t =>
    Relation.ReflTransGen PatchStep (PatchProgress.start patches, s)
      (PatchProgress.finish patches answers, t)
  | c, s, answer, t => ∃ s', s.Drifts s' ∧ s'.Answers c answer t

end World

/-! ## Situations -/

/-- What is going on with the binding. -/
inductive Activity where
  /-- No pass is on. -/
  | idle
  /-- A pass is on, and this is what is left of it. -/
  | talking (rest : Reconcile.Talk (Except Abort (Except ReconcileError Action)))
  /-- A pass has patches under way, and goes on with their answers. -/
  | patching (patches : List WorkloadPatch) (progress : PatchProgress)
      (next : PatchResults patches → Reconcile.Talk (Except Abort (Except ReconcileError Action)))

/-- A pass is about to make patches, or has some under way. -/
def Activity.isPatching : Activity → Prop
  | .talking (.ask (.patchAll _) _) => True
  | .patching _ _ _ => True
  | _ => False

/-- What is going on, in a world. -/
structure Situation where
  activity : Activity
  world : World

/-- A workload that may be stored under a claim between two passes: it is read from some object, has
the name it is stored under and, if it takes the place of another one, the labels of that one. It
carries nothing of the mutation that the one before does not carry. -/
structure World.MayStore (m : Mutation) (s : World) (k : Claim) (w : Workload) : Prop where
  keyed : k = w.claim k.place.groupKind
  readable : ∃ object : Json, object.isOrdered = true ∧ Workload.decode object = .ok w
  labels : ∀ v, s.workloads.get? k = some v → w.metadata.labelSet = v.metadata.labelSet
  carries : m.isIn w = true → ∃ v, s.workloads.get? k = some v ∧ m.isIn v = true

/-- A step of a run of passes over a binding with a mutation. -/
inductive Situation.Step (m : Mutation) : Situation → Situation → Prop where
  /-- A workload is stored between two passes. -/
  | stored {s : World} {k : Claim} {w : Workload} (h : s.MayStore m k w) :
      Step m ⟨.idle, s⟩ ⟨.idle, s.put k w⟩
  /-- A pass begins with the binding as it is stored. -/
  | began {s : World} {r : BindingResource} (h : s.binding = some r) (leads : Bool) (resync : Nat)
      (now : Timestamp) : Step m ⟨.idle, s⟩ ⟨.talking (Reconcile.pass leads resync now r), s⟩
  /-- Others change the world. -/
  | outside {activity : Activity} {s t : World} (h : s.Outside t) :
      Step m ⟨activity, s⟩ ⟨activity, t⟩
  /-- A call is answered. -/
  | answered {c : Call} {next : c.Answer → Reconcile.Talk (Except Abort (Except ReconcileError Action))}
      {answer : c.Answer} {s t : World} (h : s.Answers c answer t) :
      Step m ⟨.talking (.ask c next), s⟩ ⟨.talking (next answer), t⟩
  /-- Patches are sent. -/
  | sent {patches : List WorkloadPatch}
      {next : PatchResults patches → Reconcile.Talk (Except Abort (Except ReconcileError Action))}
      {s : World} :
      Step m ⟨.talking (.ask (.patchAll patches) next), s⟩
        ⟨.patching patches (PatchProgress.start patches) next, s⟩
  /-- One of the patches is answered, or others change the world. -/
  | patching {patches : List WorkloadPatch} {progress progress' : PatchProgress}
      {next : PatchResults patches → Reconcile.Talk (Except Abort (Except ReconcileError Action))}
      {s t : World} (h : PatchStep (progress, s) (progress', t)) :
      Step m ⟨.patching patches progress next, s⟩ ⟨.patching patches progress' next, t⟩
  /-- The pass goes on when all patches are answered. -/
  | patched {patches : List WorkloadPatch} {answers : PatchResults patches}
      {next : PatchResults patches → Reconcile.Talk (Except Abort (Except ReconcileError Action))}
      {s : World} :
      Step m ⟨.patching patches (PatchProgress.finish patches answers) next, s⟩
        ⟨.talking (next answers), s⟩
  /-- The pass is over, or is given up. -/
  | ended {activity : Activity} {s : World} : Step m ⟨activity, s⟩ ⟨.idle, s⟩

end WorkloadBindings
