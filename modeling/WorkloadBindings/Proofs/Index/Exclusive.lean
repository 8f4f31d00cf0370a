import Mathlib.Logic.Relation
import WorkloadBindings.Proofs.Admission.Validation
import WorkloadBindings.Proofs.Index.Dispatch
import WorkloadBindings.Proofs.Index.History

/-!
# No workload is claimed twice

The webhook asks what was published who holds a claim, and that is only one binding, whatever the store
holds. When every binding is let in and stored before the next one is looked at, that is enough: no two
bindings of a kind ever name the same workload (`Store.isExclusive_of_admits`). What carries the induction
is that what was published is what the store holds, so that the holder of a claim is the only one that
names the workload (`Store.IsPublished.exactClaim_eq_some_iff`).
-/

namespace WorkloadBindings

/-- A binding that names its workload claims it. -/
theorem Binding.claims_iff {b : Binding} {c : Claim} : b.claims c = true ↔ b.claim? = some c := beq_iff_eq

/-- When a claim is checked, nobody else holds it. -/
theorem Snapshot.of_checkClaim {s : Snapshot} {b : Binding} {c : Claim}
    (h : s.checkClaim b.id b.subject = .ok ()) (hc : b.claim? = some c) {holder : BindingId}
    (hholder : s.exactClaim b.id.kind c = some holder) : holder = b.id := by
  obtain ⟨name, hname, rfl⟩ := Option.map_eq_some_iff.1 hc
  unfold checkClaim at h
  simp only [hname, hholder] at h
  split at h
  · assumption
  · cases h

namespace Store

variable {s t : Store} {bindings new : SortedMap BindingId Binding} {k : BindingKind} {c : Claim}
  {id : BindingId}

/-! ## Bindings of which no two name the same workload -/

/-- No two bindings of a kind name the same workload. -/
def IsExclusive (bindings : SortedMap BindingId Binding) : Prop :=
  ∀ id id' b b' c, bindings.get? id = some b → bindings.get? id' = some b' → id.kind = id'.kind →
    b.claim? = some c → b'.claim? = some c → id = id'

/-- Taking bindings out makes no two of them name the same workload. -/
theorem IsExclusive.of_get? (hx : IsExclusive bindings)
    (h : ∀ id b, new.get? id = some b → bindings.get? id = some b) : IsExclusive new :=
  fun id id' b b' c hb hb' => hx id id' b b' c (h id b hb) (h id' b' hb')

/-- Putting a binding in makes no two of them name the same workload when no other one of its kind names
its workload. -/
theorem IsExclusive.of_insert (hx : IsExclusive bindings) {b : Binding}
    (hfree : ∀ id' b' c, bindings.get? id' = some b' → id'.kind = b.id.kind → b.claim? = some c →
      b'.claim? = some c → id' = b.id)
    (h : ∀ id' b', new.get? id' = some b' → bindings.get? id' = some b' ∨ id' = b.id ∧ b' = b) :
    IsExclusive new := by
  intro id₁ id₂ b₁ b₂ c h₁ h₂ hkind hc₁ hc₂
  rcases h id₁ b₁ h₁ with hold₁ | ⟨rfl, rfl⟩ <;> rcases h id₂ b₂ h₂ with hold₂ | ⟨rfl, rfl⟩
  · exact hx id₁ id₂ b₁ b₂ c hold₁ hold₂ hkind hc₁ hc₂
  · exact hfree id₁ b₁ c hold₁ hkind hc₂ hc₁
  · exact (hfree id₂ b₂ c hold₂ hkind.symm hc₁ hc₂).symm
  · rfl

/-! ## What is published of them -/

/-- The stored bindings are those that are found under their identities. -/
theorem IsKeyed.mem_values_iff (h : IsKeyed bindings) {b : Binding} :
    b ∈ bindings.values ↔ bindings.get? b.id = some b := by
  unfold SortedMap.values
  rw [List.mem_map]
  constructor
  · rintro ⟨⟨id, b⟩, hmem, rfl⟩
    have hget : bindings.get? id = some b := bindings.sorted.get?_eq_some_iff.2 hmem
    rwa [(h id b hget).1]
  · intro hget
    exact ⟨(b.id, b), bindings.sorted.get?_eq_some_iff.1 hget, rfl⟩

/-- No binding is stored twice. -/
theorem IsKeyed.nodup_values (h : IsKeyed bindings) : bindings.values.Nodup := by
  have hids : bindings.values.map Binding.id = bindings.keys := by
    unfold SortedMap.values SortedMap.keys
    rw [List.map_map]
    refine List.map_congr_left fun e he => ?_
    exact (h e.1 e.2 (bindings.sorted.get?_eq_some_iff.2 he)).1
  exact List.Nodup.of_map Binding.id (hids ▸ bindings.nodup_keys)

/-- The holder of a claim is the only binding of the kind that names the workload. -/
theorem IsPublished.exactClaim_eq_some_iff (hs : s.IsPublished) (hx : IsExclusive s.bindings) :
    s.snapshot.exactClaim k c = some id ↔
      id.kind = k ∧ ∃ b, s.bindings.get? id = some b ∧ b.claim? = some c := by
  have hclaimant : ∀ b, b ∈ (s.bindings.values.filter fun b => b.id.kind == k).filter (·.claims c) ↔
      s.bindings.get? b.id = some b ∧ b.id.kind = k ∧ b.claim? = some c := by
    intro b
    rw [List.mem_filter, List.mem_filter, hs.keyed.mem_values_iff, beq_iff_eq, Binding.claims_iff,
      and_assoc]
  rw [hs.snapshot, Snapshot.exactClaim_rebuild, Option.map_eq_some_iff]
  constructor
  · rintro ⟨b, hlast, rfl⟩
    obtain ⟨hb, hk, hc⟩ := (hclaimant b).1 (List.mem_of_getLast? hlast)
    exact ⟨hk, b, hb, hc⟩
  · rintro ⟨hk, b, hb, hc⟩
    obtain rfl := (hs.keyed id b hb).1
    -- Whichever comes last is the same one.
    have hmem := (hclaimant b).2 ⟨hb, hk, hc⟩
    refine ⟨_, List.getLast?_eq_some_getLast (List.ne_nil_of_mem hmem), ?_⟩
    obtain ⟨hlast, hklast, hclast⟩ := (hclaimant _).1 (List.getLast_mem (List.ne_nil_of_mem hmem))
    exact hx _ _ _ _ c hlast hb (hklast.trans hk.symm) hclast hc

/-- As many workloads are claimed as bindings name one. -/
theorem IsPublished.exactCount_eq (hs : s.IsPublished) (hx : IsExclusive s.bindings) :
    s.snapshot.exactCount = s.bindings.values.countP fun b => b.claim?.isSome := by
  have hnodup : (s.bindings.values.filterMap Snapshot.claimOf?).Nodup := by
    refine List.pairwise_filterMap.2 (hs.keyed.nodup_values.imp_of_mem ?_)
    intro b b' hb hb' hne x hx' y hy heq
    subst heq
    obtain ⟨c, hc, rfl⟩ := Option.map_eq_some_iff.1 hx'
    obtain ⟨c', hc', hsame⟩ := Option.map_eq_some_iff.1 hy
    obtain ⟨hkind, rfl⟩ := Prod.mk.inj hsame
    have hget := hs.keyed.mem_values_iff.1 hb
    have hget' := hs.keyed.mem_values_iff.1 hb'
    have hid : b.id = b'.id := hx _ _ _ _ _ hget hget' hkind.symm hc hc'
    rw [hid, hget'] at hget
    exact hne (Option.some.inj hget).symm
  rw [hs.snapshot, Snapshot.exactCount_rebuild, hnodup.dedup, List.length_filterMap_eq_countP]
  unfold Snapshot.claimOf?
  simp only [Option.isSome_map]

/-! ## One binding after the other -/

/-- What happens when every binding is let in and stored before the next one is looked at. -/
inductive Admits (s t : Store) : Prop where
  /-- A binding is let in beside what was published, and reported as the API holds it. -/
  | stored {request : AdmissionRequest} {k : BindingKind} {r r' : BindingResource}
      (hwrites : request.Writes k r)
      (hallowed : (AdmissionWebhook.validate.respond s.snapshot request).isAllowed = true)
      (hversion : r'.IsVersionOf r) (h : s.handle (.applied r') = .ok t)
  /-- Bindings are reported that are gone, or are being deleted. -/
  | released {report : Report} (hdeleted : ∀ r ∈ report.resources, r.isDeleting = true)
      (h : s.handle report = .ok t)

/-- Every step is a report. -/
theorem Admits.exists_handle (h : s.Admits t) : ∃ report, s.handle report = .ok t := by
  cases h with
  | stored _ _ _ h => exact ⟨_, h⟩
  | released _ h => exact ⟨_, h⟩

/-- A report of bindings that are gone or being deleted leaves no more than was there. -/
theorem get?_of_released {report : Report} (hdeleted : ∀ r ∈ report.resources, r.isDeleting = true)
    (h : s.handle report = .ok t) {b : Binding} (hb : t.bindings.get? id = some b) :
    s.bindings.get? id = some b := by
  have hnone : ∀ statement ∈ report.statements, statement.binding? = none := by
    intro statement hmem
    cases statement with
    | gone id => rfl
    | present r =>
      have hr : r ∈ report.resources := by
        cases report with
        | applied r' =>
          obtain rfl := Statement.present.inj (List.mem_singleton.1 hmem)
          exact List.mem_cons_self
        | deleted id => cases List.mem_singleton.1 hmem
        | listed k listing removed =>
          rcases List.mem_append.1 hmem with hlisted | hgone
          · obtain ⟨r', hr', heq⟩ := List.mem_map.1 hlisted
            exact Statement.present.inj heq ▸ hr'
          · obtain ⟨e, -, heq⟩ := List.mem_map.1 hgone
            cases heq
      exact if_pos (hdeleted r hr)
  rw [get?_of_foldlM_heed (foldlM_heed_of_handle h)] at hb
  cases hlast : (report.statements.filter (·.isAbout id)).getLast? with
  | none =>
    rw [hlast] at hb
    exact hb
  | some statement =>
    have hmem := (List.mem_filter.1 (List.mem_of_getLast? hlast)).1
    rw [hlast, Option.elim_some, hnone statement hmem] at hb
    cases hb

/-- A binding that is reported is stored as what it resolves to, and the others stay. -/
theorem get?_of_applied {r : BindingResource} (h : s.handle (.applied r) = .ok t) {b : Binding}
    (hb : t.bindings.get? id = some b) :
    s.bindings.get? id = some b ∨ r.id = .ok id ∧ Binding.ofResource r = .ok (.ok b) := by
  have hheed : heed s.bindings (.present r) = .ok t.bindings := by
    obtain ⟨_, hnew, hrest⟩ := exists_of_bind_eq_ok (foldlM_heed_of_handle h)
    obtain rfl := Except.ok.inj hrest
    exact hnew
  rw [get?_heed hheed] at hb
  split at hb
  · rename_i habout
    obtain ⟨r', heq, -, hfound⟩ := binding?_eq_some_iff.1 hb
    obtain rfl := Statement.present.inj heq
    exact Or.inr ⟨of_decide_eq_true habout, hfound⟩
  · exact Or.inl hb

/-- A binding that is let in beside what was published names no workload that another one of its kind
names. -/
theorem IsPublished.free_of_isAllowed (hs : s.IsPublished) (hx : IsExclusive s.bindings)
    {request : AdmissionRequest} {r : BindingResource} {b : Binding} (hwrites : request.Writes k r)
    (hallowed : (AdmissionWebhook.validate.respond s.snapshot request).isAllowed = true)
    (hfound : Binding.ofResource r = .ok (.ok b)) {id' : BindingId} {b' : Binding}
    (hb' : s.bindings.get? id' = some b') (hkind : id'.kind = b.id.kind) (hc : b.claim? = some c)
    (hc' : b'.claim? = some c) : id' = b.id := by
  obtain ⟨hid, hsubject, -⟩ := Binding.ofResource_eq_ok_iff.1 hfound
  obtain ⟨hwrite, hrequested, raw, object, hraw, hobject, hdecode⟩ := hwrites
  have hbinding := AdmissionRequest.binding_of_decode hraw hobject hdecode hid
  obtain ⟨subject, hvalid⟩ := AdmissionWebhook.exists_of_isAllowed hrequested hwrite hbinding hallowed
  obtain ⟨hresolves, -, hcheck⟩ := Snapshot.of_validate hvalid
  -- What was validated is the subject of the binding.
  rw [← BindingResource.subject_of_id hid, hsubject] at hresolves
  obtain rfl := Except.ok.inj hresolves
  refine Snapshot.of_checkClaim hcheck hc ?_
  exact (hs.exactClaim_eq_some_iff hx).2 ⟨hkind, b', hb', hc'⟩

/-- No step makes two bindings of a kind name the same workload. -/
theorem IsExclusive.admits (hx : IsExclusive s.bindings) (hs : s.IsPublished) (h : s.Admits t) :
    IsExclusive t.bindings := by
  cases h with
  | released hdeleted h => exact hx.of_get? fun _ _ => get?_of_released hdeleted h
  | @stored request k r r' hwrites hallowed hversion h =>
    match hfound : Binding.ofResource r' with
    | .ok (.ok b) =>
      have hb := Binding.ofResource_of_isVersionOf hversion.symm hfound
      refine hx.of_insert (b := b) (fun id' b' c hget hkind hc hc' => ?_) fun id' b' hb' => ?_
      · exact hs.free_of_isAllowed hx hwrites hallowed hb hget hkind hc hc'
      · refine (get?_of_applied h hb').imp_right ?_
        rintro ⟨hid, heq⟩
        obtain rfl := Except.ok.inj (Except.ok.inj (hfound.symm.trans heq))
        exact ⟨Except.ok.inj (hid.symm.trans (Binding.ofResource_eq_ok_iff.1 hfound).1), rfl⟩
    | .ok (.error fault) =>
      refine hx.of_get? fun id' b' hb' => (get?_of_applied h hb').resolve_right ?_
      rintro ⟨-, heq⟩
      cases hfound.symm.trans heq
    | .error cause =>
      refine hx.of_get? fun id' b' hb' => (get?_of_applied h hb').resolve_right ?_
      rintro ⟨-, heq⟩
      cases hfound.symm.trans heq

/-- A store without bindings holds no two of them. -/
theorem isExclusive_empty : IsExclusive ({} : Store).bindings := by
  intro id id' b b' c hb
  cases hb

/-- When every binding is let in and stored before the next one is looked at, no two bindings of a kind
ever name the same workload, so that a claim is held by the one that names it, and as many workloads are
claimed as bindings name one. -/
theorem isExclusive_of_admits (h : Relation.ReflTransGen Admits {} s) :
    IsExclusive s.bindings ∧
    (∀ k c id, s.snapshot.exactClaim k c = some id ↔
      id.kind = k ∧ ∃ b, s.bindings.get? id = some b ∧ b.claim? = some c) ∧
    s.snapshot.exactCount = s.bindings.values.countP fun b => b.claim?.isSome := by
  have hinvariant : IsExclusive s.bindings ∧ s.IsPublished := by
    induction h with
    | refl => exact ⟨isExclusive_empty, isPublished_empty⟩
    | tail _ hstep ih =>
      obtain ⟨hx, hs⟩ := ih
      obtain ⟨report, hreport⟩ := hstep.exists_handle
      exact ⟨hx.admits hs hstep, hs.handle hreport⟩
  obtain ⟨hx, hs⟩ := hinvariant
  exact ⟨hx, fun _ _ _ => hs.exactClaim_eq_some_iff hx, hs.exactCount_eq hx⟩

/-! ## A workload that is claimed again -/

/-- The store after a report that can be handled. -/
def next (s : Store) (report : Report) : Store := (s.handle report).toOption.getD s

/-- A report is handled when its bindings have identities and mutations. -/
theorem handle_next (s : Store) {report : Report} (h : ∀ r ∈ report.resources, r.IsResolvable) :
    s.handle report = .ok (s.next report) := by
  obtain ⟨t, ht⟩ := exists_handle s h
  rw [next, ht]
  rfl

/-- The reference to the deployment that all of them name. -/
def webReference : Json :=
  .obj [("apiVersion", .str "apps/v1"), ("kind", .str "Deployment"), ("name", .str "web")]

/-- The request to store the binding that sets a variable. -/
def modeRequest : AdmissionRequest :=
  heldRequest .env "mode"
    [("env", .arr [.obj [("name", .str "MODE"), ("value", .str "fast")]]), ("subject", webReference)]

/-- The request to store the binding that mounts a secret. -/
def vaultRequest : AdmissionRequest :=
  heldRequest .secret "vault"
    [("mountPath", .str "/vault"), ("secret", .obj [("name", .str "credentials")]),
     ("subject", webReference)]

theorem writes_mode : modeRequest.Writes .env modeBinding :=
  AdmissionRequest.writes_held (by decide) (by decide)

theorem writes_vault : vaultRequest.Writes .secret vaultBinding :=
  AdmissionRequest.writes_held (by decide) (by decide)

/-- The binding that mounts another secret, while it is being deleted. -/
def partingMount : BindingResource :=
  { mountBinding with
    metadata := { mountBinding.metadata with deletionTimestamp := some "2024-05-01T00:00:00Z" } }

/-- The store that holds a binding of each kind. -/
def mountedStore : Store := (({} : Store).next (.applied modeBinding)).next (.applied mountBinding)

/-- The store in which another binding has taken the claim over. -/
def vaultStore : Store := (mountedStore.next (.applied partingMount)).next (.applied vaultBinding)

theorem admits_vaultStore : Relation.ReflTransGen Admits {} vaultStore := by
  have hmode : modeBinding.IsResolvable := ⟨⟨_, rfl⟩, _, rfl⟩
  have hmount : mountBinding.IsResolvable := BindingResource.isResolvable_of_name rfl rfl
  have hparting : partingMount.IsResolvable := BindingResource.isResolvable_of_name rfl rfl
  have hvault : vaultBinding.IsResolvable := BindingResource.isResolvable_of_name rfl rfl
  have hfirst : ({} : Store).Admits (({} : Store).next (.applied modeBinding)) :=
    .stored writes_mode (by decide) (.refl _) (handle_next _ (List.forall_mem_singleton.2 hmode))
  have hsecond : (({} : Store).next (.applied modeBinding)).Admits mountedStore :=
    .stored AdmissionRequest.writes_mount (by decide) (.refl _)
      (handle_next _ (List.forall_mem_singleton.2 hmount))
  have hdeleting : ∀ r ∈ (Report.applied partingMount).resources, r.isDeleting = true :=
    List.forall_mem_singleton.2 rfl
  have hthird : mountedStore.Admits (mountedStore.next (.applied partingMount)) :=
    .released hdeleting (handle_next _ (List.forall_mem_singleton.2 hparting))
  have hfourth : (mountedStore.next (.applied partingMount)).Admits vaultStore :=
    .stored writes_vault (by decide) (.refl _) (handle_next _ (List.forall_mem_singleton.2 hvault))
  exact (((Relation.ReflTransGen.single hfirst).tail hsecond).tail hthird).tail hfourth

/-- The secret of the vault is not mounted while another one is, which names the deployment by another
version. When that binding goes, the claim is free again, and a binding of the other kind never stood in
the way. -/
theorem isExclusive_of_admits_vault :
    (AdmissionWebhook.validate.respond mountedStore.snapshot vaultRequest).isAllowed = false ∧
      Relation.ReflTransGen Admits {} vaultStore ∧ IsExclusive vaultStore.bindings ∧
      vaultStore.snapshot.exactClaim .secret ⟨⟨⟨"apps", "Deployment"⟩, "shop"⟩, "web"⟩ =
        some ⟨.secret, "shop", "vault"⟩ ∧
      vaultStore.snapshot.exactClaim .env ⟨⟨⟨"apps", "Deployment"⟩, "shop"⟩, "web"⟩ =
        some ⟨.env, "shop", "mode"⟩ ∧
      vaultStore.snapshot.exactCount = 2 := by
  obtain ⟨hexclusive, hclaim, hcount⟩ := isExclusive_of_admits admits_vaultStore
  have hcounted : (vaultStore.bindings.values.countP fun b => b.claim?.isSome) = 2 := by decide
  exact ⟨by decide, admits_vaultStore, hexclusive, (hclaim _ _ _).2 ⟨rfl, _, rfl, rfl⟩,
    (hclaim _ _ _).2 ⟨rfl, _, rfl, rfl⟩, hcount.trans hcounted⟩

end Store

end WorkloadBindings
