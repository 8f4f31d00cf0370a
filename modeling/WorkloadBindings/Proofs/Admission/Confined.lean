import WorkloadBindings.Proofs.Admission.Stable
import WorkloadBindings.Proofs.Api.Client
import WorkloadBindings.Proofs.Reconcile.Sent
import WorkloadBindings.Proofs.Workload.Within

/-!
# Patches that keep to the lists of their mutations

Whatever a mutation is carried out on, the patch that comes of it acts on the lists that the mutation is
about, in the workload as it was read, and nowhere else (`Patch.StaysIn`). That is so of the patches of
the webhook, where the mutations of several bindings come together, and of those that a pass sends for
one binding (`Reconcile.Sent.exists_staysIn`). The webhook denies nothing on account of a binding:
whether a request is denied is a matter of its operation and of its object alone
(`AdmissionWebhook.mutate_confined`).
-/

namespace WorkloadBindings

/-! ## Patches of mutations -/

/-- The patch of a workload keeps to the lists that some mutations are about: each of its operations acts
at the place of such a list or below it, and none does so at the place of another list. -/
structure Patch.StaysIn (patch : Patch) (w : Workload) (ms : List Mutation) : Prop where
  within : ∀ op ∈ patch, ∃ m ∈ ms, ∃ l ∈ m.lists, ∃ place ∈ l.places w, place <+: op.path
  apart : ∀ op ∈ patch, ∀ l, (∀ m ∈ ms, l ∉ m.lists) → ∀ place ∈ l.places w, ¬ place <+: op.path

namespace Patch

variable {patch : Patch} {w : Workload} {ms : List Mutation}

/-- What acts in the lists that some mutations are about acts in no others. -/
theorem StaysIn.of_within
    (h : ∀ op ∈ patch, ∃ m ∈ ms, ∃ l ∈ m.lists, ∃ place ∈ l.places w, place <+: op.path) :
    patch.StaysIn w ms := by
  refine ⟨h, fun op hop l hl place hplace hbelow => ?_⟩
  obtain ⟨m, hm, l', hl', place', hplace', hbelow'⟩ := h op hop
  obtain rfl := PodList.eq_of_below hplace hbelow hplace' hbelow'
  exact hl m hm hl'

/-- The difference that an edit makes keeps to the lists that some mutations are about, when the edit
changes no others. -/
theorem staysIn_of_changes {e : Edit} (hw : w.toJson.isOrdered = true)
    (he : ∀ l, e.Changes l → ∃ m ∈ ms, l ∈ m.lists) :
    (Json.diff w.toJson (Mutation.onPod e.onPod w).toJson).StaysIn w ms := by
  refine StaysIn.of_within fun op hop => ?_
  obtain ⟨place, ⟨l, hchanges, hplace⟩, hbelow⟩ := e.isWithin_diff hw op hop
  obtain ⟨m, hm, hl⟩ := he l hchanges
  exact ⟨m, hm, l, hl, place, hplace, hbelow⟩

end Patch

/-- The patch of a change keeps to the lists that its mutation is about. -/
theorem WorkloadPatch.staysIn_of_forChange? {c : Change} {m : Mutation} {type : ResourceType}
    {w : Workload} {sent : WorkloadPatch} (hw : w.toJson.isOrdered = true)
    (h : forChange? c m type w = some sent) : sent.patch.StaysIn w [m] := by
  have hdiff : sent.patch = Json.diff w.toJson (Mutation.onPod (c.edit m).onPod w).toJson := by
    unfold forChange? at h
    simp only [c.apply_eq] at h
    split at h
    · cases h
    · exact Option.some.inj h ▸ rfl
  rw [hdiff]
  exact Patch.staysIn_of_changes hw fun l hl => ⟨m, List.mem_singleton_self m, hl.mem_lists⟩

/-- Carrying bindings out is an edit, which changes lists that their mutations are about. -/
theorem Binding.exists_edit (bindings : List Binding) (w : Workload) :
    ∃ e : Edit, carryOut bindings w = Mutation.onPod e.onPod w ∧
      ∀ l, e.Changes l → ∃ m ∈ bindings.map mutation, l ∈ m.lists := by
  rw [carryOut_eq_foldl]
  generalize w.dueChange = c
  induction bindings generalizing w with
  | nil =>
    refine ⟨{}, ?_, fun l hl => ?_⟩
    · have hsame : ({} : Edit).onPod = fun p => p := funext Edit.onPod_empty
      rw [hsame, Mutation.onPod_self]
      rfl
    · cases l <;> exact absurd rfl hl
  | cons b rest ih =>
    obtain ⟨e, he, hlists⟩ := ih (c.apply b.mutation w)
    refine ⟨e.comp (c.edit b.mutation), ?_, fun l hl => ?_⟩
    · rw [List.foldl_cons, he, c.apply_eq, Mutation.onPod_onPod]
      exact congrArg (fun f => Mutation.onPod f w) (funext fun p => (Edit.onPod_comp _ _ p).symm)
    · rcases hl.of_comp with hrest | hb
      · obtain ⟨m, hm, hl⟩ := hlists l hrest
        exact ⟨m, List.mem_cons_of_mem _ hm, hl⟩
      · exact ⟨b.mutation, List.mem_cons_self, hb.mem_lists⟩

/-! ## Passes -/

namespace Reconcile

/-- A patch that was sent for workloads that the client has read keeps to the lists that the binding's
mutation is about, in one of them. -/
theorem Sent.exists_staysIn {r : BindingResource} {readings : List Reading} {sent : WorkloadPatch}
    (hreads : ∀ found, .ok (some found) ∈ readings → ∀ w ∈ found, Client.Reads w)
    (h : Sent r readings sent) :
    ∃ m found w, r.mutation = .ok m ∧ .ok (some found) ∈ readings ∧ w ∈ found ∧
      sent.patch.StaysIn w [m] := by
  obtain ⟨c, m, subject, found, w, -, hm, hfound, hw, hpatch⟩ := h
  have hordered := (hreads found hfound w hw).isOrdered
  exact ⟨m, found, w, hm, hfound, hw, WorkloadPatch.staysIn_of_forChange? hordered hpatch⟩

end Reconcile

/-! ## Requests -/

namespace Operation

/-- Objects are stored when they are created and when they are updated. -/
theorem isWrite_iff {o : Operation} : o.isWrite = true ↔ o = .create ∨ o = .update := by
  cases o <;> decide

end Operation

namespace AdmissionRequest

variable {s : Snapshot} {r : AdmissionRequest}

/-- The wire shape of a review is written in order. -/
theorem isAscending_reviewShape : reviewShape.isAscending = true := by decide +kernel

/-- How a review is read whose text is given by its characters. -/
theorem read_ofList (cs : List Char) : read (String.ofList cs) =
    match (do
      let (j, rest) ← reviewShape.read (Json.Reader.fuelFor cs) Json.Reader.depthLimit cs
      Shape.lexical (Json.Reader.atEnd rest)
      .ok j) with
    | .error cause => .error (.undecodable cause)
    | .ok j =>
      match ofReview? j with
      | none => .error .noRequest
      | some r => .ok r := by
  unfold read
  exact Shape.parse_ofList reviewShape cs ▸ rfl

/-- The object of a request that was read is ordered. -/
theorem isOrdered_of_read {body : String} (h : read body = .ok r) {object : Json}
    (hobject : r.object = some object) : object.isOrdered = true := by
  unfold read at h
  split at h
  · cases h
  · rename_i j hj
    have hordered := Shape.isOrdered_of_parse isAscending_reviewShape hj
    split at h
    · cases h
    · rename_i r' hr
      obtain rfl := Except.ok.inj h
      obtain ⟨request, hrequest, rfl⟩ := Option.map_eq_some_iff.1 hr
      exact Json.isOrdered_of_member (Json.isOrdered_of_member hordered hrequest) hobject

/-- A request is denied when it is to store something that is no workload. -/
theorem isAllowed_mutate_eq_false_iff :
    (r.mutate s).isAllowed = false ↔ r.operation.isWrite = true ∧
      (r.object = none ∨
        ∃ object cause, r.object = some object ∧ Workload.decode object = .error cause) := by
  unfold mutate
  by_cases hwrite : r.operation.isWrite = true
  · rw [if_pos hwrite, and_iff_right hwrite]
    unfold workload
    cases r.object with
    | none => exact iff_of_true rfl (Or.inl rfl)
    | some object =>
      simp only [reduceCtorEq, Option.some.injEq, false_or]
      cases hw : Workload.decode object with
      | error cause => exact iff_of_true rfl ⟨object, cause, rfl, hw⟩
      | ok w =>
        refine iff_of_false (fun h => ?_) ?_
        · simp only at h
          split at h <;> cases h
        · rintro ⟨_, cause, rfl, hcause⟩
          cases hw.symm.trans hcause
  · rw [if_neg hwrite]
    exact iff_of_false Bool.noConfusion fun h => hwrite h.1

/-- A container with a text for its probe, or with a number for its pull policy, is refused. -/
example : ∀ member ∈ [("livenessProbe", Json.str "oops"), ("imagePullPolicy", .int 5)],
    ({ deploymentRequest with
        object := some (.obj [("spec", .obj [("template", .obj [("spec", .obj
          [("containers", .arr [.obj [member, ("name", .str "web")]])])])])]) }.mutate
      (.rebuild [])).isAllowed = false := by
  decide +kernel

/-- A request that stores nothing is allowed. -/
theorem mutate_of_not_isWrite (s : Snapshot) (h : ¬ r.operation.isWrite = true) :
    r.mutate s = .allowed := if_neg h

/-- A patch is that of the workload of the request. -/
theorem exists_of_patch? {patch : Patch} (h : (r.mutate s).patch? = some patch) :
    ∃ object w, r.object = some object ∧ Workload.decode object = .ok w ∧ patch = r.patchFor s w := by
  by_cases hwrite : r.operation.isWrite = true
  · cases hobject : r.object with
    | none =>
      rw [mutate, if_pos hwrite, workload, hobject] at h
      cases h
    | some object =>
      cases hw : Workload.decode object with
      | error cause =>
        rw [mutate, if_pos hwrite, workload, hobject] at h
        simp only [hw] at h
        cases h
      | ok w =>
        rw [mutate_eq s hwrite hobject hw] at h
        split at h
        · cases h
        · exact ⟨object, w, rfl, hw, (Option.some.inj h).symm⟩
  · rw [mutate_of_not_isWrite s hwrite] at h
    cases h

end AdmissionRequest

/-! ## The webhook -/

namespace AdmissionWebhook

open AdmissionRequest

/-- No binding keeps a workload from being stored, and what the bindings do to it is confined to their
lists. Whatever the bindings of the moment, the webhook denies a request just when it is to store
something and has no object or one that is no workload; it has nothing to add to another operation or to
a workload that no binding applies to; and a workload that is to be stored gets a patch when it is
written otherwise than what the bindings want of it. The patch acts in the lists that the mutations of
these bindings are about, in the workload that was read. So does each patch that a pass sends for the
mutation of its binding, however the calls of the pass are answered. -/
theorem mutate_confined (s : Snapshot) {body : String} {r : AdmissionRequest}
    (hr : AdmissionRequest.read body = .ok r) :
    ((mutate.respond s r).isAllowed = false ↔
      (r.operation = .create ∨ r.operation = .update) ∧
        (r.object = none ∨
          ∃ object cause, r.object = some object ∧ Workload.decode object = .error cause)) ∧
    (¬(r.operation = .create ∨ r.operation = .update) →
      (mutate.respond s r).isAllowed = true ∧ (mutate.respond s r).patch? = none) ∧
    (∀ object w, r.object = some object → Workload.decode object = .ok w →
      (s.lookup (r.target w) = [] →
        (mutate.respond s r).isAllowed = true ∧ (mutate.respond s r).patch? = none) ∧
      (r.operation = .create ∨ r.operation = .update →
        (mutate.respond s r).isAllowed = true ∧
          ((mutate.respond s r).patch?.isSome = true ↔ w.toJson ≠ (r.desired s w).toJson))) ∧
    (∀ patch, (mutate.respond s r).patch? = some patch →
      ∃ object w, r.object = some object ∧ Workload.decode object = .ok w ∧
        patch.StaysIn w ((s.lookup (r.target w)).map Binding.mutation)) ∧
    ∀ leads resync now (b : BindingResource) (said : Transcript) ended,
      (Reconcile.pass leads resync now b).Leaves said (.done ended) →
      (∀ found, .ok (some found) ∈ said.deeds.readings → ∀ w ∈ found, Client.Reads w) →
      ∀ q ∈ said.deeds.patches, ∃ m found w, b.mutation = .ok m ∧
        .ok (some found) ∈ said.deeds.readings ∧ w ∈ found ∧ q.1.patch.StaysIn w [m] := by
  have hread := fun object (hobject : r.object = some object) => isOrdered_of_read hr hobject
  refine ⟨?denied, ?other, ?stored, ?patched, ?sent⟩
  case denied =>
    exact isAllowed_mutate_eq_false_iff.trans (and_congr_left' Operation.isWrite_iff)
  case other =>
    intro hother
    have hallowed : r.mutate s = .allowed :=
      mutate_of_not_isWrite s fun hwrite => hother (Operation.isWrite_iff.1 hwrite)
    unfold respond
    rw [hallowed]
    exact ⟨rfl, rfl⟩
  case stored =>
    intro object w hobject hw
    have hwritten := Workload.isWritten_of_decode (hread object hobject) hw
    constructor
    · intro hnone
      have hsame : r.patchFor s w = [] := by
        rw [patchFor, desired, hnone]
        exact Json.diff_self hwritten.ordered
      unfold respond
      rw [mutate_eq_allowed hobject hw hsame]
      exact ⟨rfl, rfl⟩
    · intro hwrite
      have hempty : r.patchFor s w = [] ↔ w.toJson = (r.desired s w).toJson :=
        Json.diff_eq_nil_iff hwritten.ordered (isOrdered_desired s r hwritten)
      unfold respond
      rw [mutate_eq s (Operation.isWrite_iff.2 hwrite) hobject hw]
      by_cases hsame : r.patchFor s w = []
      · rw [if_pos (List.isEmpty_iff.2 hsame)]
        exact ⟨rfl, iff_of_false Bool.noConfusion fun hne => hne (hempty.1 hsame)⟩
      · rw [if_neg (fun hnil => hsame (List.isEmpty_iff.1 hnil))]
        exact ⟨rfl, iff_of_true rfl fun heq => hsame (hempty.2 heq)⟩
  case patched =>
    intro patch hpatch
    obtain ⟨object, w, hobject, hw, rfl⟩ := exists_of_patch? hpatch
    have hordered := (Workload.isWritten_of_decode (hread object hobject) hw).ordered
    obtain ⟨e, he, hlists⟩ := Binding.exists_edit (s.lookup (r.target w)) w
    refine ⟨object, w, hobject, hw, ?_⟩
    rw [patchFor, desired, he]
    exact Patch.staysIn_of_changes hordered hlists
  case sent =>
    intro leads resync now b said ended hleaves hreads q hq
    exact (Reconcile.sent_of_leaves hleaves q hq).exists_staysIn hreads

/-- The text of a deployment with one container. -/
def createdText : List Char :=
  ["\x7b\"metadata\":\x7b\"name\":\"web\",",
   "\"namespace\":\"shop\"\x7d,",
   "\"spec\":\x7b\"template\":",
   "\x7b\"spec\":\x7b\"containers\":",
   "[\x7b\"name\":\"web\"\x7d]\x7d\x7d\x7d\x7d"].flatMap
    String.toList

/-- The text of a review: the deployment is to be created. -/
def createText : List Char :=
  ["\x7b\"apiVersion\":\"v1\",",
   "\"kind\":\"AdmissionReview\",",
   "\"request\":\x7b\"uid\":\"1\",",
   "\"kind\":\x7b\"group\":\"apps\",",
   "\"version\":\"v1\",",
   "\"kind\":\"Deployment\"\x7d,",
   "\"resource\":\x7b\"group\":\"apps\",",
   "\"version\":\"v1\",",
   "\"resource\":\"deployments\"\x7d,",
   "\"name\":\"web\",",
   "\"namespace\":\"shop\",",
   "\"operation\":\"CREATE\",",
   "\"userInfo\":\x7b\x7d,\"object\":"].flatMap
    String.toList ++ createdText ++ ['\x7d', '\x7d']

/-- The workload that is read from the deployment. -/
def createdWorkload : Workload where
  metadata := { name := some "web", «namespace» := some "shop" }
  template := { spec := some { containers := [{ name := "web" }] } }

/-- The request of the review. -/
def createRequest : AdmissionRequest :=
  { deploymentRequest with
    review := ⟨"v1", "AdmissionReview"⟩
    operation := .create
    object := some createdWorkload.toJson }

/-- The request is read from the text of the review. -/
theorem read_createText : AdmissionRequest.read (String.ofList createText) = .ok createRequest :=
  (read_ofList createText).trans (by decide +kernel)

/-- The deployments' type. -/
def createdType : ResourceType := ⟨"apps", "v1", "Deployment"⟩

/-- The deployment is read from a reply with its text. -/
theorem reads_createdWorkload : Client.Reads createdWorkload := by
  let reply : Reply := ⟨200, String.ofList createdText⟩
  obtain ⟨request, hrequest⟩ :
      ∃ request, Request.get (createdType.namespacedPath "shop") "web" = .ok request :=
    ⟨⟨.get, "/apis/apps/v1/namespaces/shop/deployments/web", "", none, none⟩, by decide +kernel⟩
  have hreply : reply.read Dynamic.shape = .ok createdWorkload.toJson := by
    unfold Reply.read
    rw [Shape.parse_ofList]
    decide +kernel
  exact .of_reply hrequest hreply (by decide)

/-- A binding that sets a variable of the deployment. -/
def modeResource : BindingResource where
  metadata :=
    { name := some "mode", «namespace» := some "shop"
      finalizers := some [BindingKind.env.finalizer] }
  spec := .env
    { subject :=
        { apiVersion := "apps/v1", kind := "Deployment", «namespace» := none, name := some "web"
          selector := none }
      env := [⟨"MODE", "fast"⟩] }

/-- The patch that a pass sends for the binding. -/
def modePatch : WorkloadPatch where
  type := createdType
  «namespace» := "shop"
  name := "web"
  patch := Json.diff createdWorkload.toJson
    (Mutation.apply (.env [("MODE", "fast")]) createdWorkload).toJson

/-- What is said in the pass. -/
def modeSaid : Transcript :=
  [⟨.note (.tracked ⟨.env, "shop", "mode"⟩
      ⟨⟨"apps", "Deployment"⟩, "v1", "shop", .name "web"⟩), ()⟩,
   ⟨.get createdType "shop" "web",
     (Except.ok (some createdWorkload) : Except ApiFailure (Option Workload))⟩,
   ⟨.patchAll [modePatch], ⟨[.ok ()], rfl⟩⟩,
   ⟨.note (.patched .env .bind 1), ()⟩,
   ⟨.status ⟨.env, "shop", "mode"⟩ ((({} : BindingStatus).prepare ⟨0, 0⟩).markTrue ⟨0, 0⟩),
     (Except.ok () : Except ApiFailure Unit)⟩,
   ⟨.note (.succeeded ⟨.env, "shop", "mode"⟩), ()⟩]

/-- The deployment is allowed with a patch of its mounts and of its volumes, and the patch that a pass sends
for a binding that sets a variable stays in its variables. -/
theorem mutate_confined_createText :
    AdmissionRequest.read (String.ofList createText) = .ok createRequest ∧
    (mutate.respond mountingSnapshot createRequest).isAllowed = true ∧
    (∃ patch, (mutate.respond mountingSnapshot createRequest).patch? = some patch ∧
      patch.map PatchOp.path =
        [["spec", "template", "spec", "containers", "0", "volumeMounts"],
          ["spec", "template", "spec", "volumes"]] ∧
      patch.StaysIn createdWorkload [.secret ⟨"secretbinding-tls", "cert", "/etc/tls"⟩]) ∧
    (Reconcile.pass true 0 ⟨0, 0⟩ modeResource).Leaves modeSaid (.done (.ok (.ok (.requeue 0)))) ∧
    modeSaid.deeds.patches.map Prod.fst = [modePatch] ∧
    modePatch.patch.StaysIn createdWorkload [.env [("MODE", "fast")]] := by
  have hdecode : Workload.decode createdWorkload.toJson = .ok createdWorkload := by decide +kernel
  have hmutations : (mountingSnapshot.lookup (createRequest.target createdWorkload)).map
      Binding.mutation = [.secret ⟨"secretbinding-tls", "cert", "/etc/tls"⟩] := by decide
  have hpaths : (mutate.respond mountingSnapshot createRequest).patch?.map (·.map PatchOp.path) =
      some [["spec", "template", "spec", "containers", "0", "volumeMounts"],
        ["spec", "template", "spec", "volumes"]] := by
    decide +kernel
  have hpass : (Reconcile.pass true 0 ⟨0, 0⟩ modeResource).Leaves modeSaid
      (.done (.ok (.ok (.requeue 0)))) :=
    ⟨_, rfl, _, rfl, _, rfl, _, rfl, _, rfl, _, rfl, rfl⟩
  have hreads : ∀ found, .ok (some found) ∈ modeSaid.deeds.readings →
      ∀ w ∈ found, Client.Reads w := by
    intro found hfound w hw
    obtain rfl := Option.some.inj (Except.ok.inj (List.mem_singleton.1 hfound))
    obtain rfl := List.mem_singleton.1 hw
    exact reads_createdWorkload
  obtain ⟨patch, hpatch, hplaces⟩ := Option.map_eq_some_iff.1 hpaths
  obtain ⟨-, -, -, hpatches, hsends⟩ := mutate_confined mountingSnapshot read_createText
  obtain ⟨object, w, hobject, hw, hstays⟩ := hpatches patch hpatch
  obtain rfl := Option.some.inj hobject
  obtain rfl := Except.ok.inj (hdecode.symm.trans hw)
  rw [hmutations] at hstays
  obtain ⟨m, found, w, hm, hfound, hw, hsent⟩ :=
    hsends _ _ _ _ _ _ hpass hreads (modePatch, .ok ()) List.mem_cons_self
  obtain rfl : .env [("MODE", "fast")] = m := Except.ok.inj hm
  obtain rfl := Option.some.inj (Except.ok.inj (List.mem_singleton.1 hfound))
  obtain rfl := List.mem_singleton.1 hw
  exact ⟨read_createText, by decide, ⟨patch, hpatch, hplaces, hstays⟩, hpass, rfl, hsent⟩

end AdmissionWebhook

end WorkloadBindings
