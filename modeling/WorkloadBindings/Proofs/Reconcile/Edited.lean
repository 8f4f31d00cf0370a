import WorkloadBindings.Proofs.Reconcile.Bound
import WorkloadBindings.Proofs.Reconcile.Ending
import WorkloadBindings.Proofs.Reconcile.Obligation
import WorkloadBindings.Proofs.Workload.Edit

/-!
# Bindings whose specification is edited

What is left of a specification when its binding was edited and bound again. A pass takes out only
what the new specification names: a secret binding, whose volume has the name of the binding, leaves
a workload as if the old specification had never been, but an environment binding does so only when
the new variables have all the names of the old ones (`Reconcile.template_eq_iff_of_edited`).
Variables that were dropped from the list stay in the containers.
-/

namespace WorkloadBindings

/-! ## Editing a binding -/

/-- The binding is the other one with another specification of what to put into the workloads of the
subject. -/
structure BindingResource.IsEditOf (r r₀ : BindingResource) : Prop where
  kind : r.kind = r₀.kind
  name : r.metadata.name = r₀.metadata.name
  «namespace» : r.metadata.namespace = r₀.metadata.namespace
  subject : r.spec.subject = r₀.spec.subject

namespace BindingResource

variable {r r₀ : BindingResource} {m m₀ : Mutation}

/-- An edit keeps the subject of a binding. -/
theorem IsEditOf.subject_eq (h : r.IsEditOf r₀) : r.subject = r₀.subject := by
  unfold BindingResource.subject namespaceOrEmpty Metadata.namespaceOrEmpty
  rw [h.subject, h.namespace]

/-- The volume of a mutation has the name that is made from the name of its binding. -/
theorem volumeName?_of_mutation {mount : SecretMount} (h : r.mutation = .ok (.secret mount)) :
    r.metadata.name.bind Mutation.volumeName? = some mount.volume := by
  unfold BindingResource.mutation at h
  split at h
  · split at h
    · cases h
    · rename_i name hname
      split at h
      · rename_i m hsecret
        obtain rfl := Except.ok.inj h
        unfold Mutation.ofSecret? at hsecret
        obtain ⟨volume, hvolume, hmount⟩ := Option.map_eq_some_iff.1 hsecret
        obtain rfl := Mutation.secret.inj hmount
        rw [hname, Option.bind_some, hvolume]
      · cases h
  · cases h

/-- The mutations of a binding before and after an edit are for one volume, or both set variables.
-/
theorem IsEditOf.mutation_cases (h : r.IsEditOf r₀) (hm : r.mutation = .ok m)
    (hm₀ : r₀.mutation = .ok m₀) :
    (r.kind = .secret ∧ m.Covers m₀) ∨
      (r.kind = .env ∧ ∃ vars vars₀, m = .env vars ∧ m₀ = .env vars₀) := by
  have hkind := kind_of_mutation hm
  have hkind₀ := (kind_of_mutation hm₀).trans h.kind.symm
  match m, m₀ with
  | .secret mount, .secret mount₀ =>
    have hvolume := volumeName?_of_mutation hm
    rw [h.name, volumeName?_of_mutation hm₀] at hvolume
    exact Or.inl ⟨hkind.symm, (Option.some.inj hvolume).symm⟩
  | .env vars, .env vars₀ => exact Or.inr ⟨hkind.symm, vars, vars₀, rfl, rfl⟩
  | .secret mount, .env vars₀ => cases hkind.trans hkind₀.symm
  | .env vars, .secret mount₀ => cases hkind.trans hkind₀.symm

/-- Carrying out the mutation of an edited binding makes up for the one before exactly when it covers
it, or when the workload has no containers. -/
theorem IsEditOf.template_apply_iff (h : r.IsEditOf r₀) (hm : r.mutation = .ok m)
    (hm₀ : r₀.mutation = .ok m₀) {w : Workload} (hclear : m₀.isIn w = false) :
    (Change.bind.apply m (Change.bind.apply m₀ w)).template = (Change.bind.apply m w).template ↔
      (w.HasContainers → m.Covers m₀) := by
  rcases h.mutation_cases hm hm₀ with ⟨-, hcovers⟩ | ⟨-, vars, vars₀, rfl, rfl⟩
  · rw [Change.apply_apply_of_covers _ _ hcovers]
    exact iff_of_true rfl fun _ => hcovers
  · refine ⟨fun heq hw => Mutation.covers_of_template_eq hclear hw heq, fun himp => ?_⟩
    by_cases hw : w.HasContainers
    · rw [Change.apply_apply_of_covers _ _ (himp hw)]
    · rw [Change.apply_env_of_bare _ _ hw]

end BindingResource

/-- Two changes of the workloads of a subject, one after the other. -/
theorem World.Changed.trans {c d : Change} {m m' : Mutation} {subject : Subject} {s t u v : World}
    (h : Changed c m subject s t) (htu : t.Shrinks u) (h' : Changed d m' subject u v) {k : Claim}
    {w₀ w : Workload} (hw₀ : s.workloads.get? k = some w₀) (hw : v.workloads.get? k = some w) :
    w = if subject.selects (k.target w₀) then d.apply m' (c.apply m w₀) else w₀ := by
  obtain ⟨w₁, hw₁, rfl⟩ := h' k w hw
  obtain ⟨w₂, hw₂, rfl⟩ := h k w₁ (htu k w₁ hw₁)
  obtain rfl := Option.some.inj (hw₀.symm.trans hw₂)
  by_cases hselects : subject.selects (k.target w₀) = true
  · -- The subject selects the changed workload as it selects the one before.
    simp only [if_pos hselects, c.target_apply]
  · simp only [if_neg hselects]

namespace Reconcile

open World

/-- A pass of a living binding, by the replica that holds the lease, may begin in one world and end
with success in another one. -/
def Binds (r : BindingResource) (s t : World) : Prop :=
  r.isDeleting = false ∧ ∃ resync now action, Ends (pass true resync now r) s (.ok (.ok action)) t

/-- When a pass succeeds, the workloads of its subject are changed. -/
theorem Binds.changed {r : BindingResource} {subject : Subject} {m : Mutation} {s t : World}
    (h : Binds r s t) (hs : s.IsTidy) (hsubject : r.subject = .ok subject)
    (hm : r.mutation = .ok m) : Changed .bind m subject s t := by
  obtain ⟨hliving, resync, now, action, hends⟩ := h
  exact (pass_changes hs hliving hsubject hm resync now).of_ends hends action rfl

/-- A binding is bound, edited and bound again, while others may remove workloads, and a workload is
still there that carried nothing of the old mutation. For a secret binding its template is what
binding the edited one alone leaves. For either kind it is so exactly when the edited mutation covers
the old one, unless the workload is none of the subject's or has no containers. -/
theorem template_eq_iff_of_edited {r r' : BindingResource} (hedit : r'.IsEditOf r)
    {subject : Subject} (hsubject : r.subject = .ok subject) {m m' : Mutation}
    (hm : r.mutation = .ok m) (hm' : r'.mutation = .ok m') {s t u v s' t' : World} (hs : s.IsTidy)
    (hold : Binds r s t) (htu : t.Shrinks u) (hnew : Binds r' u v) (hss' : s.Shrinks s')
    (halone : Binds r' s' t') {k : Claim} {w₀ w w' : Workload}
    (hw₀ : s.workloads.get? k = some w₀) (hclear : m.isIn w₀ = false)
    (hw : v.workloads.get? k = some w) (hw' : t'.workloads.get? k = some w') :
    (r'.kind = .secret → w.template = w'.template) ∧
      (w.template = w'.template ↔
        (subject.selects (k.target w₀) = true → w₀.HasContainers → m'.Covers m)) := by
  have hsubject' : r'.subject = .ok subject := hedit.subject_eq.trans hsubject
  -- What the two passes make of the workload, one after the other, and what the one pass does.
  have hbound := hold.changed hs hsubject hm
  have hrebound := hnew.changed ((hs.changed hbound).shrinks htu) hsubject' hm'
  have hwbound := hbound.trans htu hrebound hw₀ hw
  have hboundAlone := (halone.changed (hs.shrinks hss') hsubject' hm').of_shrinks hss'
  obtain ⟨w₁, hw₁, hwalone⟩ := hboundAlone k w' hw'
  obtain rfl := Option.some.inj (hw₀.symm.trans hw₁)
  have hcarried := hedit.template_apply_iff hm' hm hclear
  rw [hwbound, hwalone]
  by_cases hselects : subject.selects (k.target w₀) = true
  · rw [if_pos hselects, if_pos hselects, hcarried]
    refine ⟨fun hsecret _ => ?_, fun h _ => h, fun h => h hselects⟩
    rcases hedit.mutation_cases hm' hm with ⟨-, hcovers⟩ | ⟨henv, -⟩
    · exact hcovers
    · cases hsecret.symm.trans henv
  · rw [if_neg hselects, if_neg hselects]
    exact ⟨fun _ => rfl, iff_of_true rfl fun h => absurd h hselects⟩

/-! ## A variable that is dropped -/

open Situation (modeBinding modeMutation webWorkload webSubject webClaim freshShop isFresh_freshShop)

/-- The binding after an edit: it has its finalizer, and sets another variable. -/
def tierBinding : BindingResource :=
  { modeBinding.withFinalizers [BindingKind.env.finalizer] with
    spec := .env { subject := modeBinding.spec.subject, env := [⟨"TIER", "gold"⟩] } }

/-- The mutation of the binding after the edit. -/
def tierMutation : Mutation := .env [("TIER", "gold")]

/-- The world after a pass to which the server answers. -/
def served (r : BindingResource) (s : World) : World :=
  ((pass true 0 ⟨0, 0⟩ r).run World.serve s).2

/-- The world after the edit of the binding. -/
def edited (s : World) : World := { s with binding := some tierBinding }

/-- A living binding may be bound as it is with the server, when that is a success. -/
theorem binds_served {r : BindingResource} {s : World} {action : Action}
    (hliving : r.isDeleting = false)
    (h : ((pass true 0 ⟨0, 0⟩ r).run World.serve s).1 = .ok (.ok action)) :
    Binds r s (served r s) := by
  have hends := ends_run (pass true 0 ⟨0, 0⟩ r) s
  rw [h] at hends
  exact ⟨hliving, 0, ⟨0, 0⟩, action, hends⟩

/-- A binding that sets one variable is edited to set another one. The template that its two passes
leave is not the one that the pass of the edited binding alone leaves. -/
theorem template_eq_iff_of_edited_tierBinding : ∃ t v t' : World, ∃ w w' : Workload,
    Binds modeBinding freshShop t ∧ Binds tierBinding (edited t) v ∧
      Binds tierBinding (edited freshShop) t' ∧ v.workloads.get? webClaim = some w ∧
      t'.workloads.get? webClaim = some w' ∧ w.template ≠ w'.template := by
  have htidy : freshShop.IsTidy := by
    refine ⟨isFresh_freshShop.keyed, fun k w hw => ?_⟩
    obtain ⟨object, hordered, hdecode⟩ := isFresh_freshShop.readable k w hw
    exact Workload.isWritten_of_decode hordered hdecode
  have hedit : tierBinding.IsEditOf modeBinding := ⟨rfl, rfl, rfl, rfl⟩
  have hold : Binds modeBinding freshShop (served modeBinding freshShop) := binds_served rfl rfl
  have hnew : Binds tierBinding (edited (served modeBinding freshShop))
      (served tierBinding (edited (served modeBinding freshShop))) := binds_served rfl rfl
  have halone : Binds tierBinding (edited freshShop) (served tierBinding (edited freshShop)) :=
    binds_served rfl rfl
  have hrest : ∀ s : World, s.Shrinks (edited s) := fun s => .of_eq rfl
  have hresult := template_eq_iff_of_edited (k := webClaim) hedit rfl rfl rfl htidy hold (hrest _)
    hnew (hrest _) halone rfl (by decide) rfl rfl
  refine ⟨_, _, _, _, _, hold, hnew, halone, rfl, rfl, fun heq => ?_⟩
  have hcovers : tierMutation.Covers modeMutation :=
    hresult.2.1 heq rfl ⟨_, _, rfl, List.mem_singleton.2 rfl⟩
  have hmem : "MODE" ∈ ["TIER"] := hcovers ("MODE", "fast") List.mem_cons_self
  exact absurd hmem (by decide)

end Reconcile

end WorkloadBindings
