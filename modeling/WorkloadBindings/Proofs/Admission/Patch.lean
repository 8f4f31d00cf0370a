import WorkloadBindings.Admission.Decision
import WorkloadBindings.Proofs.Workload.Patched

/-!
# The patch of an admission

The webhook that changes workloads computes its patch from the workload it has read, but the patch is
carried out on the object that the API stores, which may hold more. The patch is right for that
object, too: each of its operations can be carried out, and the workload that is read from the result
is the one that the bindings want (`AdmissionRequest.mutate_patches`).
-/

namespace WorkloadBindings

/-! ## What the bindings want -/

/-- Carrying bindings out changes nothing but the specification of the pods, and keeps it in written
form. -/
theorem Binding.carryOut_eq (bindings : List Binding) (w : Workload) :
    ∃ f : PodSpec → PodSpec, Binding.carryOut bindings w = Mutation.onPod f w ∧
      ∀ p, PodSpec.shape.IsWritten p.toJson → PodSpec.shape.IsWritten (f p).toJson := by
  -- Whether the workload is being deleted is asked of the one before all bindings.
  have hstep : ∀ (b : Binding) (v : Workload), ∃ g : PodSpec → PodSpec,
      (if w.isDeleting then b.mutation.undo v else b.mutation.apply v) = Mutation.onPod g v ∧
        ∀ p, PodSpec.shape.IsWritten p.toJson → PodSpec.shape.IsWritten (g p).toJson := by
    intro b v
    split
    · exact ⟨b.mutation.undoPod, rfl, fun p hp => Mutation.isWritten_undoPod b.mutation hp⟩
    · exact ⟨fun p => b.mutation.injectPod (b.mutation.undoPod p), rfl, fun p hp =>
        Mutation.isWritten_injectPod b.mutation (Mutation.isWritten_undoPod b.mutation hp)⟩
  have hfold : ∀ v : Workload, ∃ f : PodSpec → PodSpec,
      bindings.foldl (fun desired b =>
        if w.isDeleting then b.mutation.undo desired else b.mutation.apply desired) v =
          Mutation.onPod f v ∧
        ∀ p, PodSpec.shape.IsWritten p.toJson → PodSpec.shape.IsWritten (f p).toJson := by
    induction bindings with
    | nil => exact fun v => ⟨fun p => p, (Mutation.onPod_self v).symm, fun _ h => h⟩
    | cons b rest ih =>
      intro v
      obtain ⟨g, hg, hgwritten⟩ := hstep b v
      obtain ⟨f, hf, hfwritten⟩ := ih (Mutation.onPod g v)
      refine ⟨fun p => f (g p), ?_, fun p hp => hfwritten _ (hgwritten p hp)⟩
      rw [List.foldl_cons, hg, hf, Mutation.onPod_onPod]
  exact hfold w

/-! ## The patch -/

namespace AdmissionRequest

variable {r : AdmissionRequest} {raw object : Json} {w : Workload}

/-- The webhook answers a request to store a workload that it can read with the difference between
the workload and what the bindings want, if there is one. -/
theorem mutate_eq (s : Snapshot) (hwrite : r.operation.isWrite = true)
    (hobject : r.object = some object) (hw : Workload.decode object = .ok w) :
    r.mutate s = if (r.patchFor s w).isEmpty then .allowed else .patched (r.patchFor s w) := by
  have hworkload : r.workload = .ok w := by
    rw [workload, hobject]
    simp only [hw]
  rw [mutate, if_pos hwrite, hworkload]

/-- The answer to a request to store a workload is right for the object that the API holds. The
object may hold more than the workload that is read from it, as long as it holds all of the
specification of the pods as it was read. If the answer has a patch, the patch can be carried out on
the object, and the workload that the bindings want is read from the result; if it has none, the
workload is written as the one that they want. -/
theorem mutate_patches (s : Snapshot) (hwrite : r.operation.isWrite = true)
    (hraw : raw.isOrdered = true) (hread : Dynamic.shape.conform raw = .ok object)
    (hobject : r.object = some object) (hw : Workload.decode object = .ok w)
    (hcovers : ∀ p, w.template.spec = some p →
      ∃ x, raw.at? ["spec", "template", "spec"] = some x ∧ x.covers p.toJson = true) :
    match r.mutate s with
    | .allowed => w.toJson = (r.desired s w).toJson
    | .patched patch => ∃ raw' object', raw.applyPatch patch = some raw' ∧
        Dynamic.shape.conform raw' = .ok object' ∧ Workload.decode object' = .ok (r.desired s w)
    | .denied _ => False := by
  obtain ⟨f, hdesired, hf⟩ := Binding.carryOut_eq (s.lookup (r.target w)) w
  rw [mutate_eq s hwrite hobject hw, patchFor, desired, hdesired]
  cases hspec : w.template.spec with
  | none =>
    -- Without pods there is nothing to change, and no difference.
    have hordered : w.toJson.isOrdered = true := Workload.isOrdered_toJson (by simp [hspec])
    rw [Mutation.onPod_of_none f hspec, Json.diff_self hordered]
    exact rfl
  | some p =>
    obtain ⟨x, hx, hc⟩ := hcovers p hspec
    obtain ⟨hp, hpatched⟩ := Workload.exists_patched hraw hread hw hspec hx hc
    have hdiff := Workload.diff_onPod f hspec hp.ordered
    have hchanged : (Mutation.onPod f w).template.spec = some (f p) := by
      rw [Mutation.onPod, hspec, Option.map_some]
    have hold : w.toJson.isOrdered = true := Workload.isOrdered_toJson fun q hq => by
      obtain rfl := Option.some.inj (hspec.symm.trans hq)
      exact hp.ordered
    have hnew : (Mutation.onPod f w).toJson.isOrdered = true :=
      Workload.isOrdered_toJson fun q hq => by
        obtain rfl := Option.some.inj (hchanged.symm.trans hq)
        exact (hf p hp).ordered
    by_cases hempty : (Json.diff w.toJson (Mutation.onPod f w).toJson).isEmpty = true
    · rw [if_pos hempty]
      exact (Json.diff_eq_nil_iff hold hnew).1 (List.isEmpty_iff.1 hempty)
    · rw [if_neg hempty, hdiff]
      obtain ⟨raw', object', hpatch, hread', hdecode⟩ := hpatched (f p) (hf p hp)
      refine ⟨raw', object', hpatch, hread', ?_⟩
      rw [hdecode, Mutation.onPod, hspec, Option.map_some]

/-! ## An object that holds more than its workload -/

/-- A deployment as the API holds it, with members that nothing here knows, and with nulls. It was
bound before, in front of a volume that somebody added. -/
def storedDeployment : Json :=
  .obj
    [("apiVersion", .str "apps/v1"),
     ("kind", .str "Deployment"),
     ("metadata", .obj
       [("labels", .null), ("name", .str "web"), ("namespace", .str "shop"),
        ("owner", .str "nobody")]),
     ("spec", .obj
       [("replicas", .int 2),
        ("template", .obj
          [("metadata", .obj [("creationTimestamp", .null)]),
           ("spec", .obj
             [("containers", .arr
               [.obj
                 [("image", .str "web"), ("name", .str "web"), ("volumeMounts", .null)]]),
              ("dnsPolicy", .str "ClusterFirst"),
              ("volumes", .arr
                [.obj
                  [("name", .str "secretbinding-tls"),
                   ("secret", .obj [("secretName", .str "old")])],
                 .obj
                  [("name", .str "data"),
                   ("persistentVolumeClaim", .obj [("claimName", .str "web-data")])]])])])])]

/-- The deployment as it is read, with its metadata in written form. -/
def readDeployment : Json :=
  storedDeployment.set "metadata" (.obj [("name", .str "web"), ("namespace", .str "shop")])

/-- The volume that somebody added, on storage that was claimed. -/
def claimedVolume : Volume where
  name := "data"
  rest := .ofJson _ (.obj [("persistentVolumeClaim", .obj [("claimName", .str "web-data")])])

/-- The workload that is read from the deployment. -/
def deploymentWorkload : Workload where
  metadata := { name := some "web", «namespace» := some "shop" }
  template :=
    { metadata := some {}
      spec := some
        { containers := [{ name := "web", rest := .ofJson _ (.obj [("image", .str "web")]) }]
          volumes := some
            [{ name := "secretbinding-tls", secret := some { secretName := some "old" } },
             claimedVolume]
          rest := .ofJson _ (.obj [("dnsPolicy", .str "ClusterFirst")]) } }

/-- The request to store the deployment. -/
def deploymentRequest : AdmissionRequest where
  review := ⟨"admission.k8s.io/v1", "AdmissionReview"⟩
  uid := "1"
  type := ⟨"apps", "v1", "Deployment"⟩
  name := "web"
  «namespace» := some "shop"
  operation := .update
  object := some readDeployment

/-- The bindings of the moment: one that mounts a secret into the deployment. -/
def mountingSnapshot : Snapshot :=
  .rebuild
    [{ id := ⟨.secret, "shop", "tls"⟩
       subject := ⟨⟨"apps", "Deployment"⟩, "v1", "shop", .name "web"⟩
       mutation := .secret ⟨"secretbinding-tls", "cert", "/etc/tls"⟩ }]

/-- The deployment gets a patch, and with it the workload that the binding wants is read from it: the
volume of the binding comes last now, and the other one keeps its claim. -/
theorem mutate_patches_deployment :
    ∃ patch raw' object', deploymentRequest.mutate mountingSnapshot = .patched patch ∧
      storedDeployment.applyPatch patch = some raw' ∧ Dynamic.shape.conform raw' = .ok object' ∧
      Workload.decode object' =
        .ok (deploymentRequest.desired mountingSnapshot deploymentWorkload) ∧
      (deploymentRequest.desired mountingSnapshot deploymentWorkload).template.spec.bind
        (·.volumes) = some
          [claimedVolume,
           { name := "secretbinding-tls", secret := some { secretName := some "cert" } }] := by
  have hcovers : ∀ p, deploymentWorkload.template.spec = some p → ∃ x,
      storedDeployment.at? ["spec", "template", "spec"] = some x ∧ x.covers p.toJson = true := by
    intro p hp
    obtain rfl := Option.some.inj hp
    exact ⟨_, rfl, by decide +kernel⟩
  have hread : Dynamic.shape.conform storedDeployment = .ok readDeployment := by decide +kernel
  have hw : Workload.decode readDeployment = .ok deploymentWorkload := by decide +kernel
  have hpatched : (deploymentRequest.mutate mountingSnapshot).patch?.isSome = true := by
    decide +kernel
  have hwrite : deploymentRequest.operation.isWrite = true := rfl
  have h := mutate_patches mountingSnapshot hwrite (by decide) hread rfl hw hcovers
  cases hverdict : deploymentRequest.mutate mountingSnapshot with
  | patched patch =>
    rw [hverdict] at h
    obtain ⟨raw', object', happly, hconform, hdecode⟩ := h
    exact ⟨patch, raw', object', rfl, happly, hconform, hdecode, by decide +kernel⟩
  | _ => simp [hverdict, Verdict.patch?] at hpatched

end AdmissionRequest

end WorkloadBindings
