import WorkloadBindings.Admission.Decision
import WorkloadBindings.Proofs.Binding.Merged
import WorkloadBindings.Proofs.Binding.VolumeName
import WorkloadBindings.Proofs.Index.Store
import WorkloadBindings.Proofs.Reconcile.Deeds
import WorkloadBindings.Proofs.Workload.Stored

/-!
# Bindings that are let in

The webhook that validates bindings reads no more of an object than its specification and where it is,
while the controller reads the whole binding. Of an object that is a binding both read the same
(`AdmissionRequest.binding_of_decode`), so that the controller can act on what is let in: it resolves the
binding to the identity and the subject that were validated, and carries out what the specification
permits (`AdmissionRequest.isActionable_of_isAllowed`).
-/

namespace WorkloadBindings

/-! ## Specifications -/

/-- The segments of a path are its parts between slashes. -/
theorem pathSegments_eq_splitOn (path : String) : pathSegments path = path.toList.splitOn '/' := by
  unfold pathSegments List.splitOn
  induction path.toList with
  | nil => rfl
  | cons c cs ih =>
    rw [List.foldr_cons, ih, List.splitOnP_cons_eq_if_modifyHead]
    -- A slash begins a segment, and every other character is put before the first one.
    by_cases hc : c = '/'
    · subst hc
      rfl
    · obtain ⟨segment, rest, hsegments⟩ := List.exists_cons_of_ne_nil (cs.splitOnP_ne_nil (· == '/'))
      rw [hsegments]
      simp [hc]

/-- A path that is accepted is absolute and leads nowhere upwards. -/
theorem SecretBindingSpec.of_validateMountPath {path : String} (h : validateMountPath path = .ok ()) :
    path.toList.head? = some '/' ∧ ['.', '.'] ∉ path.toList.splitOn '/' := by
  unfold validateMountPath at h
  split at h
  · cases h
  · rename_i hroot
    split at h
    · cases h
    · rename_i hup
      refine ⟨not_not.1 hroot, fun hmem => hup ?_⟩
      rw [pathSegments_eq_splitOn]
      exact List.contains_iff_mem.2 hmem

/-- The names of variables that are accepted are distinct, none empty, and none was seen before. -/
theorem EnvBindingSpec.of_validateNames {seen : List String} {env : List EnvEntry}
    (h : validateNames seen env = .ok ()) :
    (∀ v ∈ env, v.name ≠ "" ∧ v.name ∉ seen) ∧ (env.map EnvEntry.name).Nodup := by
  induction env generalizing seen with
  | nil => exact ⟨nofun, .nil⟩
  | cons v rest ih =>
    unfold validateNames at h
    split at h
    · cases h
    · rename_i hempty
      split at h
      · cases h
      · rename_i hseen
        obtain ⟨hrest, hnodup⟩ := ih h
        have hfresh : v.name ∉ seen := fun hmem => hseen (List.contains_iff_mem.2 hmem)
        refine ⟨List.forall_mem_cons.2 ⟨⟨hempty, hfresh⟩, fun w hw => ?_⟩, ?_⟩
        · exact ⟨(hrest w hw).1, fun hmem => (hrest w hw).2 (List.mem_cons_of_mem _ hmem)⟩
        · refine List.nodup_cons.2 ⟨fun hmem => ?_, hnodup⟩
          obtain ⟨w, hw, hname⟩ := List.mem_map.1 hmem
          exact (hrest w hw).2 (hname ▸ List.mem_cons_self)

/-- The mutation is one that can be carried out for a specification: its secret has a name, and the path,
when one is given, is that path, absolute and without a segment that leads upwards; there are variables,
and their names are distinct and not empty. -/
def BindingSpec.Permits : BindingSpec → Mutation → Prop
  | .secret spec, .secret mount =>
    mount.secret = spec.secret ∧ mount.secret ≠ "" ∧
      ∀ path, spec.mountPath = some path →
        mount.mountPath = path ∧ path.toList.head? = some '/' ∧ ['.', '.'] ∉ path.toList.splitOn '/'
  | .env spec, .env vars =>
    vars = spec.env.map (fun e => (e.name, e.value)) ∧ vars ≠ [] ∧ (∀ v ∈ vars, v.1 ≠ "") ∧
      (vars.map Prod.fst).Nodup
  | _, _ => False

/-- A specification that is accepted permits its mutation. -/
theorem BindingSpec.permits_of_validate {r : BindingResource} {m : Mutation}
    (h : r.spec.validate = .ok ()) (hm : r.mutation = .ok m) : r.spec.Permits m := by
  unfold BindingResource.mutation at hm
  cases hspec : r.spec with
  | secret spec =>
    rw [hspec] at h hm
    have haccepted : spec.validate = .ok () := h
    unfold SecretBindingSpec.validate at haccepted
    split at haccepted
    · cases haccepted
    · rename_i hsecret
      simp only at hm
      split at hm
      · cases hm
      · rename_i name hname
        split at hm
        · rename_i mutation hmount
          obtain rfl := Except.ok.inj hm
          obtain ⟨volume, -, rfl⟩ := Option.map_eq_some_iff.1 hmount
          refine ⟨rfl, hsecret, fun path hpath => ?_⟩
          rw [hpath] at haccepted
          obtain ⟨habsolute, hstays⟩ := SecretBindingSpec.of_validateMountPath haccepted
          have hgiven : path ≠ "" := by
            rintro rfl
            cases habsolute
          refine ⟨?_, habsolute, hstays⟩
          simp [hpath, hgiven]
        · cases hm
  | env spec =>
    rw [hspec] at h hm
    have haccepted : spec.validate = .ok () := h
    unfold EnvBindingSpec.validate at haccepted
    obtain rfl := Except.ok.inj hm
    split at haccepted
    · cases haccepted
    · rename_i hsome
      obtain ⟨hnames, hnodup⟩ := EnvBindingSpec.of_validateNames haccepted
      refine ⟨rfl, fun hnil => hsome ?_, fun v hv => ?_, ?_⟩
      · exact List.isEmpty_iff.2 (List.map_eq_nil_iff.1 hnil)
      · obtain ⟨e, he, rfl⟩ := List.mem_map.1 hv
        exact (hnames e he).1
      · rw [List.map_map]
        exact hnodup

/-! ## The object that is asked about -/

/-- What is validated of an object that is a binding is the identity and the specification of that
binding. -/
theorem AdmissionRequest.binding_of_decode {k : BindingKind} {raw object : Json}
    {request : AdmissionRequest} {r : BindingResource} {id : BindingId}
    (hraw : Dynamic.shape.conform raw = .ok object) (hobject : request.object = some object)
    (hdecode : BindingResource.decode k raw = .ok r) (hid : r.id = .ok id) :
    request.binding k = .ok (id, r.spec) := by
  have hkind := BindingResource.kind_of_decode hdecode
  cases raw with
  | obj ms =>
    obtain ⟨metadata, hmetadata, rfl⟩ := (Dynamic.conform_iff ms object).1 hraw
    obtain ⟨mms, e, hfound, he, hread⟩ := BindingResource.exists_metadata hdecode
    obtain ⟨x, hx, hspec⟩ := BindingResource.exists_spec hdecode
    -- Both read the same metadata.
    rw [hfound] at hmetadata
    obtain ⟨e', he', hsame⟩ := Shape.writes_lenient_iff.1 hmetadata
    obtain rfl := Option.some.inj hsame
    obtain rfl := Except.ok.inj (he.symm.trans he')
    have hstored : (Json.obj (Dynamic.stored e ms)).get? "metadata" = some e := by
      rw [Json.get?, Dynamic.get?_stored, if_pos rfl]
    have hpassed : (Json.obj (Dynamic.stored e ms)).get? "spec" = some x := by
      rw [Json.get?, Dynamic.get?_stored, if_neg (by decide), hx]
    unfold BindingResource.id at hid
    unfold AdmissionRequest.binding
    rw [hobject]
    simp only [hpassed, hstored, hspec, Option.getD_some, hread]
    cases hname : r.metadata.name with
    | none =>
      rw [hname] at hid
      cases hid
    | some name =>
      rw [hname] at hid
      obtain rfl := Except.ok.inj hid
      rw [hkind, Metadata.nameAny, hname]
      rfl
  | _ => cases hraw

/-- A binding that is validated is let in when its subject resolves, it asks for what can be carried out,
and no other binding of its kind names the subject. -/
theorem Snapshot.of_validate {s : Snapshot} {id : BindingId} {spec : BindingSpec} {subject : Subject}
    (h : s.validate id spec = .ok subject) :
    Subject.ofRef spec.subject id.namespace = .ok subject ∧ spec.validate = .ok () ∧
      s.checkClaim id subject = .ok () := by
  unfold validate at h
  split at h
  · cases h
  · rename_i subject' hsubject
    obtain ⟨_, hspec, h⟩ := exists_of_bind_eq_ok h
    obtain ⟨_, hclaim, h⟩ := exists_of_bind_eq_ok h
    obtain rfl := Except.ok.inj h
    exact ⟨hsubject, hspec, hclaim⟩

/-- A binding that is not valid is denied as it is written. -/
theorem AdmissionWebhook.respond_denied {s : Snapshot} {k : BindingKind} {request : AdmissionRequest}
    {id : BindingId} {spec : BindingSpec} {reason : Denial} (hkind : request.bindingKind? = some k)
    (hwrite : request.operation.isWrite = true) (hbinding : request.binding k = .ok (id, spec))
    (h : s.validate id spec = .error reason) :
    AdmissionWebhook.validate.respond s request =
      .decided request.review request.uid (.denied reason) := by
  have hverdict : request.validate s k = .denied reason := by
    unfold AdmissionRequest.validate
    simp only [if_pos hwrite, hbinding, h]
  unfold AdmissionWebhook.respond
  simp only [hkind, hverdict]

/-- A binding that is let in as it is written is valid. -/
theorem AdmissionWebhook.exists_of_isAllowed {s : Snapshot} {k : BindingKind}
    {request : AdmissionRequest} {id : BindingId} {spec : BindingSpec}
    (hkind : request.bindingKind? = some k) (hwrite : request.operation.isWrite = true)
    (hbinding : request.binding k = .ok (id, spec))
    (h : (AdmissionWebhook.validate.respond s request).isAllowed = true) :
    ∃ subject, s.validate id spec = .ok subject := by
  cases hvalid : s.validate id spec with
  | ok subject => exact ⟨subject, rfl⟩
  | error reason =>
    rw [respond_denied hkind hwrite hbinding hvalid] at h
    cases h

/-! ## What the controller makes of them -/

/-- The controller can act on a binding: it resolves it, what it does for it is what the specification
permits, and neither the store nor a pass takes the reference for malformed, whatever else becomes of the
binding. -/
structure BindingResource.IsActionable (r : BindingResource) (b : Binding) : Prop where
  resolved : Binding.ofResource r = .ok (.ok b)
  permitted : r.spec.Permits b.mutation
  /-- A store records the binding and does not count it. -/
  recorded : ∀ (store : Store) (r' : BindingResource), r'.IsVersionOf r → ∃ changed store',
    store.record r' = .ok (changed, store') ∧
      store'.metrics.malformed = store.metrics.malformed
  /-- No pass over the living binding fails for the reference, whatever is answered. -/
  passed : ∀ r' : BindingResource, r'.IsVersionOf r → r'.isDeleting = false →
    ∀ (leads : Bool) (resync : Nat) (now : Timestamp) (said : Transcript) (fault : SubjectFault),
      ¬ (Reconcile.pass leads resync now r').Leaves said
        (.done (.ok (.error (.malformedSubject fault))))

/-- The controller can act on a binding that resolves to what is permitted. -/
theorem BindingResource.IsActionable.of_resolved {r : BindingResource} {b : Binding}
    (hresolved : Binding.ofResource r = .ok (.ok b)) (hpermitted : r.spec.Permits b.mutation) :
    r.IsActionable b where
  resolved := hresolved
  permitted := hpermitted
  recorded store r' hversion := by
    obtain ⟨changed, store', hrecord, hmetrics⟩ :=
      store.record_of_ofResource (Binding.ofResource_of_isVersionOf hversion hresolved)
    exact ⟨changed, store', hrecord, congrArg IndexMetrics.malformed hmetrics⟩
  passed r' hversion hliving leads resync now said fault hpass := by
    obtain ⟨hid, hsubject, -⟩ :=
      Binding.ofResource_eq_ok_iff.1 (Binding.ofResource_of_isVersionOf hversion hresolved)
    cases leads with
    | true =>
      have hfault := Reconcile.subject_of_malformedSubject hid hliving hpass
      rw [hsubject] at hfault
      cases hfault
    | false =>
      -- Without the lease the pass ends well.
      obtain ⟨-, heq⟩ := Dialogue.leaves_done_iff.1 hpass
      cases heq

/-- The request is to store a binding of a kind: the object is read as this binding. -/
structure AdmissionRequest.Writes (request : AdmissionRequest) (k : BindingKind) (r : BindingResource) :
    Prop where
  write : request.operation.isWrite = true
  kind : request.bindingKind? = some k
  /-- The webhook is given the object with its metadata in written form. -/
  read : ∃ raw object, Dynamic.shape.conform raw = .ok object ∧ request.object = some object ∧
    BindingResource.decode k raw = .ok r

/-- A binding with an ASCII name is let in only if the controller can act on it, with the identity and the
subject that were validated, and it is denied when its reference resolves to no subject. -/
theorem AdmissionRequest.isActionable_of_isAllowed {request : AdmissionRequest} {k : BindingKind}
    {r : BindingResource} {name : String} (s : Snapshot) (h : request.Writes k r)
    (hname : r.metadata.name = some name) (hascii : Text.IsAscii name.toList) :
    ((AdmissionWebhook.validate.respond s request).isAllowed = true →
      ∃ b : Binding, request.binding k = .ok (b.id, r.spec) ∧
        s.validate b.id r.spec = .ok b.subject ∧ r.IsActionable b) ∧
    ∀ fault, r.subject = .error fault →
      AdmissionWebhook.validate.respond s request =
        .decided request.review request.uid (.denied (.subject fault)) := by
  obtain ⟨hwrite, hkind, raw, object, hraw, hobject, hdecode⟩ := h
  obtain ⟨⟨id, hid⟩, m, hm⟩ := BindingResource.isResolvable_of_isAscii hname hascii
  have hbinding : request.binding k = .ok (id, r.spec) :=
    binding_of_decode hraw hobject hdecode hid
  have hsubject := BindingResource.subject_of_id hid
  constructor
  · intro hallowed
    obtain ⟨subject, hvalid⟩ := AdmissionWebhook.exists_of_isAllowed hkind hwrite hbinding hallowed
    obtain ⟨hresolves, haccepted, -⟩ := Snapshot.of_validate hvalid
    have hresolved : Binding.ofResource r = .ok (.ok ⟨id, subject, m⟩) :=
      Binding.ofResource_eq_ok_iff.2 ⟨hid, hsubject.trans hresolves, hm⟩
    exact ⟨⟨id, subject, m⟩, hbinding, hvalid,
      .of_resolved hresolved (BindingSpec.permits_of_validate haccepted hm)⟩
  · intro fault hfault
    rw [hsubject] at hfault
    have hinvalid : s.validate id r.spec = .error (.subject fault) := by
      unfold Snapshot.validate
      rw [hfault]
    exact AdmissionWebhook.respond_denied hkind hwrite hbinding hinvalid

/-! ## A secret that is mounted -/

/-- A binding in the shop as the API holds it, with members that nothing here knows, and with a null. -/
def heldBinding (k : BindingKind) (name : String) (spec : Members) : Json :=
  .obj
    [("apiVersion", .str BindingKind.apiVersion),
     ("kind", .str k.name),
     ("metadata", .obj
       [("clusterName", .str "east"), ("labels", .null), ("name", .str name),
        ("namespace", .str "shop")]),
     ("spec", .obj spec)]

/-- The object as it is given to the webhook, with its metadata in written form. -/
def givenBinding (k : BindingKind) (name : String) (spec : Members) : Json :=
  (heldBinding k name spec).set "metadata" (.obj [("name", .str name), ("namespace", .str "shop")])

/-- The request to store such a binding. -/
def heldRequest (k : BindingKind) (name : String) (spec : Members) : AdmissionRequest where
  review := ⟨"admission.k8s.io/v1", "AdmissionReview"⟩
  uid := "1"
  type := ⟨BindingKind.group, BindingKind.version, k.name⟩
  name := name
  «namespace» := some "shop"
  operation := .create
  object := some (givenBinding k name spec)

theorem AdmissionRequest.writes_held {k : BindingKind} {name : String} {spec : Members}
    {r : BindingResource}
    (hread : Dynamic.shape.conform (heldBinding k name spec) = .ok (givenBinding k name spec))
    (hdecode : BindingResource.decode k (heldBinding k name spec) = .ok r) :
    (heldRequest k name spec).Writes k r where
  write := rfl
  kind := by
    have hfound : BindingKind.all.find? (fun k' => sameWord BindingKind.group BindingKind.group &&
        sameWord k.name k'.name) = some k := by cases k <;> decide
    exact hfound
  read := ⟨heldBinding k name spec, givenBinding k name spec, hread, rfl, hdecode⟩

/-- The specification of a binding that mounts a secret in a deployment. -/
def mountSpec : Members :=
  [("mountPath", .str "/etc/tls"),
   ("secret", .obj [("name", .str "cert")]),
   ("subject", .obj
     [("apiVersion", .str "apps/v1beta2"), ("kind", .str "Deployment"), ("name", .str "web")])]

/-- The binding with this specification. -/
def mountBinding : BindingResource where
  metadata := { name := some "tls", «namespace» := some "shop" }
  spec := .secret
    { subject :=
        { apiVersion := "apps/v1beta2", kind := "Deployment", «namespace» := none, name := some "web"
          selector := none }
      secret := "cert"
      mountPath := some "/etc/tls" }

theorem AdmissionRequest.writes_mount :
    (heldRequest .secret "tls" mountSpec).Writes .secret mountBinding :=
  writes_held (by decide) (by decide)

/-- The bindings of the moment: one that sets a variable in the same deployment. -/
def modeSnapshot : Snapshot :=
  .rebuild
    [{ id := ⟨.env, "shop", "mode"⟩
       subject := ⟨⟨"apps", "Deployment"⟩, "v1", "shop", .name "web"⟩
       mutation := .env [("MODE", "fast")] }]

/-- The binding is let in beside one of the other kind, and the controller can act on it. -/
theorem AdmissionRequest.isActionable_of_isAllowed_mount :
    (AdmissionWebhook.validate.respond modeSnapshot
        (heldRequest .secret "tls" mountSpec)).isAllowed = true ∧
      ∃ b : Binding, b.id = ⟨.secret, "shop", "tls"⟩ ∧
        (heldRequest .secret "tls" mountSpec).binding .secret = .ok (b.id, mountBinding.spec) ∧
        modeSnapshot.validate b.id mountBinding.spec = .ok b.subject ∧
        mountBinding.IsActionable b := by
  have hallowed : (AdmissionWebhook.validate.respond modeSnapshot
      (heldRequest .secret "tls" mountSpec)).isAllowed = true := by decide
  obtain ⟨b, hbinding, hvalid, hactionable⟩ :=
    (isActionable_of_isAllowed modeSnapshot writes_mount rfl (by decide)).1 hallowed
  obtain ⟨hid, -, -⟩ := Binding.ofResource_eq_ok_iff.1 hactionable.resolved
  exact ⟨hallowed, b, (Except.ok.inj hid).symm, hbinding, hvalid, hactionable⟩

end WorkloadBindings
