import Mathlib.Data.List.Forall2
import WorkloadBindings.Proofs.Except
import WorkloadBindings.Webhook.Configuration

/-!
# What a webhook configuration is held at

An entry of a configuration has two parts: what is set in a managed one (`WebhookEntry.managed`), and
the rest of it (`WebhookEntry.unmanaged`). Together they are the entry. An entry is held at the one
that has the same rest and, if it is managed, the parts of the target (`WebhookEntry.IsHeldAs`), and
a configuration is held entry by entry (`WebhookConfiguration.hold_eq_ok_iff`). So the configuration
to hold is pinned down by what is kept and what is set, and whatever happens to the parts that are
not managed leaves nothing to write (`WebhookConfiguration.held_of_desired`).
-/

namespace WorkloadBindings

/-! ## Entries -/

/-- The reference to a service, without the path at which it answers. -/
def ServiceReference.withoutPath (s : ServiceReference) : ServiceReference := { s with path := none }

/-- A service is what it is without its path, and the path. -/
theorem ServiceReference.eq_of_parts {a b : Option ServiceReference}
    (hrest : a.map withoutPath = b.map withoutPath) (hpath : a.map path = b.map path) : a = b := by
  cases a with
  | none =>
    cases b with
    | none => rfl
    | some b => cases hpath
  | some a =>
    cases b with
    | none => cases hpath
    | some b =>
      obtain ⟨name, space, path, port⟩ := a
      obtain ⟨name', space', path', port'⟩ := b
      obtain rfl : path = path' := Option.some.inj hpath
      have hsame := Option.some.inj hrest
      simp only [withoutPath, ServiceReference.mk.injEq] at hsame
      obtain ⟨rfl, rfl, -, rfl⟩ := hsame
      rfl

/-- What is set in a managed entry. -/
structure ManagedParts where
  /-- The path of the service, if there is a service. -/
  path : Option (Option String)
  caBundle : Option String
  matchPolicy : Option String
  rules : Option Json
  namespaceSelector : Option Json
  objectSelector : Option Json
  deriving DecidableEq

/-- The selector of what does not have the value `true` at a label. -/
def notTrueAt (label : String) : Json :=
  .obj
    [("matchExpressions",
       .arr
         [.obj
           [("key", .str label), ("operator", .str "NotIn"), ("values", .arr [.str "true"])]])]

/-- A rule as an entry holds it: what is created and updated of some versions of the resources and of
everything below them, in any scope. -/
def ruleFor (group : String) (versions : List String) (resource : String) : Json :=
  .obj
    [("apiGroups", .arr [.str group]),
     ("apiVersions", .arr (versions.map .str)),
     ("operations", .arr [.str "CREATE", .str "UPDATE"]),
     ("resources", .arr [.str resource, .str (resource ++ "/*")]),
     ("scope", .str "*")]

/-- What the managed entries are set to: all requests of the rules are shown, in every version, unless
their object or its namespace is excluded. -/
def WebhookTarget.parts (t : WebhookTarget) : ManagedParts where
  path := some (some t.path)
  caBundle := some t.ca
  matchPolicy := some "Equivalent"
  rules := some (.arr (t.rules.map fun r => ruleFor r.group r.versions r.resource))
  namespaceSelector := some (notTrueAt "bindings.podspec.dev/exclude")
  objectSelector := some (notTrueAt "bindings.podspec.dev/exclude")

namespace WebhookEntry

/-- What would be set in the entry if it is managed. -/
def managed (w : WebhookEntry) : ManagedParts where
  path := w.client.service.map ServiceReference.path
  caBundle := w.client.caBundle
  matchPolicy := w.matchPolicy
  rules := w.rules
  namespaceSelector := w.namespaceSelector
  objectSelector := w.objectSelector

/-- The entry without what would be set in it if it is managed. -/
def unmanaged (w : WebhookEntry) : WebhookEntry :=
  { w with
    client :=
      { w.client with
        caBundle := none
        service := w.client.service.map ServiceReference.withoutPath }
    matchPolicy := none
    rules := none
    namespaceSelector := none
    objectSelector := none }

/-- An entry is held at another one that has the parts of the target if it is managed, its own
otherwise, and the same rest. -/
structure IsHeldAs (t : WebhookTarget) (w held : WebhookEntry) : Prop where
  unmanaged : held.unmanaged = w.unmanaged
  managed : held.managed = if w.name = t.name then t.parts else w.managed

/-- The entry has the parts of the target if it is managed. -/
def IsInStep (t : WebhookTarget) (w : WebhookEntry) : Prop := w.name = t.name → w.managed = t.parts

/-- What is managed of an entry is the same in another one of its name. -/
structure Keeps (t : WebhookTarget) (w w' : WebhookEntry) : Prop where
  name : w'.name = w.name
  managed : w.name = t.name → w'.managed = w.managed

variable {t : WebhookTarget} {v w held : WebhookEntry}

/-- An entry is its two parts. -/
theorem eq_of_parts (hrest : v.unmanaged = w.unmanaged) (hmanaged : v.managed = w.managed) :
    v = w := by
  have hservice : v.client.service = w.client.service :=
    ServiceReference.eq_of_parts (congrArg (fun e => e.client.service) hrest)
      (congrArg ManagedParts.path hmanaged)
  obtain ⟨reviewVersions, ⟨ca, service, url⟩, failure, conditions, policy, name, namespaces, objects,
    reinvocation, rules, sideEffects, timeout⟩ := v
  obtain ⟨reviewVersions', ⟨ca', service', url'⟩, failure', conditions', policy', name', namespaces',
    objects', reinvocation', rules', sideEffects', timeout'⟩ := w
  simp only [managed, unmanaged, ManagedParts.mk.injEq, WebhookEntry.mk.injEq,
    WebhookClient.mk.injEq] at hservice hrest hmanaged ⊢
  tauto

/-- An entry that another one is held at has its name. -/
theorem IsHeldAs.name_eq (h : w.IsHeldAs t held) : held.name = w.name := by
  have hname := congrArg WebhookEntry.name h.unmanaged
  exact hname

/-- An entry that another one is held at is in step. -/
theorem IsHeldAs.isInStep (h : w.IsHeldAs t held) : held.IsInStep t := by
  intro hname
  rw [h.managed, if_pos (h.name_eq.symm.trans hname)]

/-- An entry that is in step, and only such a one, is held at itself. -/
theorem isHeldAs_self_iff : w.IsHeldAs t w ↔ w.IsInStep t := by
  constructor
  · exact IsHeldAs.isInStep
  · intro hstep
    refine ⟨rfl, ?_⟩
    split
    · exact hstep ‹_›
    · rfl

/-- Whatever is changed in the rest of an entry, it stays in step. -/
theorem Keeps.isInStep (hkeeps : v.Keeps t w) (h : v.IsInStep t) : w.IsInStep t := by
  intro hname
  have hmanaged : v.name = t.name := hkeeps.name.symm.trans hname
  rw [hkeeps.managed hmanaged, h hmanaged]

/-- Holding an entry gives what it is held at. -/
theorem hold_eq_ok_iff : w.hold t = .ok held ↔ w.IsHeldAs t held := by
  unfold hold
  by_cases hname : w.name = t.name
  · rw [if_pos hname]
    cases hservice : w.client.service with
    | none =>
      -- Nothing with a path is the same but for the path as an entry without a service.
      refine iff_of_false nofun fun h => ?_
      have hpath : held.client.service.map ServiceReference.path = some (some t.path) := by
        have hmanaged := h.managed
        rw [if_pos hname] at hmanaged
        exact congrArg ManagedParts.path hmanaged
      have hnone : held.client.service.map ServiceReference.withoutPath = none := by
        have hrest := congrArg (fun e => e.client.service) h.unmanaged
        simp only [unmanaged, hservice, Option.map_none] at hrest
        exact hrest
      rw [Option.map_eq_none_iff.1 hnone] at hpath
      cases hpath
    | some service =>
      dsimp only
      rw [Except.ok.injEq]
      constructor
      · rintro rfl
        refine ⟨?_, (if_pos hname).symm⟩
        simp only [unmanaged, hservice, Option.map_some]
        rfl
      · intro h
        have hmanaged := h.managed
        rw [if_pos hname] at hmanaged
        refine (eq_of_parts ?_ hmanaged).symm
        rw [h.unmanaged]
        simp only [unmanaged, hservice, Option.map_some]
        rfl
  · rw [if_neg hname, Except.ok.injEq]
    constructor
    · rintro rfl
      exact ⟨rfl, (if_neg hname).symm⟩
    · intro h
      have hmanaged := h.managed
      rw [if_neg hname] at hmanaged
      exact (eq_of_parts h.unmanaged hmanaged).symm

/-- An entry cannot be held when it is managed and is not served by a service. -/
theorem hold_eq_error_iff {fault : WebhookFault} :
    w.hold t = .error fault ↔
      (w.name = t.name ∧ w.client.service = none) ∧ fault = .missingService t.name := by
  unfold hold
  by_cases hname : w.name = t.name
  · rw [if_pos hname, hname]
    cases hservice : w.client.service with
    | none => simp [eq_comm]
    | some service => simp
  · simp [hname]

end WebhookEntry

/-! ## Configurations -/

namespace WebhookConfiguration

/-- A configuration is held at another one that has no owners and whose entries are what its own
entries are held at, one by one. -/
structure IsHeldAs (t : WebhookTarget) (c held : WebhookConfiguration) : Prop where
  metadata : held.metadata = { c.metadata with ownerReferences := none }
  webhooks : Option.Rel (List.Forall₂ (WebhookEntry.IsHeldAs t)) c.webhooks held.webhooks

/-- What is managed of a configuration, its owners and the managed parts of its managed entries, is the
same in another one with entries of the same names. -/
structure Keeps (t : WebhookTarget) (c c' : WebhookConfiguration) : Prop where
  ownerReferences : c'.metadata.ownerReferences = c.metadata.ownerReferences
  webhooks : List.Forall₂ (WebhookEntry.Keeps t) (c.webhooks.getD []) (c'.webhooks.getD [])

variable {t : WebhookTarget} {c c' held : WebhookConfiguration} {ws ws' : List WebhookEntry}

/-- Entries are held one by one. -/
theorem holdAll_eq_ok_iff : holdAll t ws = .ok ws' ↔ List.Forall₂ (WebhookEntry.IsHeldAs t) ws ws' := by
  induction ws generalizing ws' with
  | nil =>
    rw [List.forall₂_nil_left_iff, holdAll, Except.ok.injEq]
    exact eq_comm
  | cons w ws ih =>
    rw [List.forall₂_cons_left_iff]
    constructor
    · intro h
      obtain ⟨entry, hentry, hrest⟩ := exists_of_bind_eq_ok h
      obtain ⟨others, hothers, hcons⟩ := exists_of_bind_eq_ok hrest
      exact ⟨entry, others, WebhookEntry.hold_eq_ok_iff.1 hentry, ih.1 hothers,
        (Except.ok.inj hcons).symm⟩
    · rintro ⟨entry, others, hentry, hothers, rfl⟩
      rw [holdAll, WebhookEntry.hold_eq_ok_iff.2 hentry, ih.2 hothers]
      rfl

/-- Entries cannot be held when one of them cannot, and the fault is that of any such entry. -/
theorem holdAll_eq_error_iff {fault : WebhookFault} :
    holdAll t ws = .error fault ↔
      (∃ w ∈ ws, w.name = t.name ∧ w.client.service = none) ∧ fault = .missingService t.name := by
  induction ws with
  | nil =>
    refine iff_of_false nofun ?_
    rintro ⟨⟨w, hw, -⟩, -⟩
    cases hw
  | cons w ws ih =>
    rw [List.exists_mem_cons_iff]
    cases hentry : w.hold t with
    | error e =>
      -- The first fault is the one that counts.
      obtain ⟨hmissing, rfl⟩ := WebhookEntry.hold_eq_error_iff.1 hentry
      have hall : holdAll t (w :: ws) = .error (.missingService t.name) := by
        rw [holdAll, hentry]
        rfl
      rw [hall, Except.error.injEq, and_iff_right (Or.inl hmissing)]
      exact eq_comm
    | ok entry =>
      have hserved : ¬(w.name = t.name ∧ w.client.service = none) := by
        intro hmissing
        have herror := WebhookEntry.hold_eq_error_iff.2 ⟨hmissing, rfl⟩
        cases hentry.symm.trans herror
      rw [or_iff_right hserved, ← ih, holdAll, hentry]
      cases holdAll t ws with
      | error e => exact Iff.rfl
      | ok others => exact iff_of_false nofun nofun

/-- A configuration without a list of entries is held. -/
theorem hold_none (metadata : Metadata) :
    hold t ⟨metadata, none⟩ = .ok ⟨{ metadata with ownerReferences := none }, none⟩ := rfl

/-- A configuration is held when its entries are. -/
theorem hold_some (metadata : Metadata) :
    hold t ⟨metadata, some ws⟩ =
      (holdAll t ws).map fun held => ⟨{ metadata with ownerReferences := none }, some held⟩ := by
  unfold hold
  dsimp only
  cases holdAll t ws <;> rfl

/-- Holding a configuration gives what it is held at. -/
theorem hold_eq_ok_iff : c.hold t = .ok held ↔ c.IsHeldAs t held := by
  obtain ⟨metadata, webhooks⟩ := c
  obtain ⟨metadata', webhooks'⟩ := held
  cases webhooks with
  | none =>
    rw [hold_none, Except.ok.injEq, WebhookConfiguration.mk.injEq]
    constructor
    · rintro ⟨rfl, rfl⟩
      exact ⟨rfl, .none⟩
    · rintro ⟨hmetadata, hwebhooks⟩
      cases hwebhooks
      exact ⟨hmetadata.symm, rfl⟩
  | some ws =>
    rw [hold_some]
    constructor
    · intro h
      obtain ⟨ws', hall, hheld⟩ := exists_of_map_eq_ok h
      obtain ⟨rfl, rfl⟩ := WebhookConfiguration.mk.inj hheld
      exact ⟨rfl, .some (holdAll_eq_ok_iff.1 hall)⟩
    · rintro ⟨hmetadata, hwebhooks⟩
      cases hwebhooks with
      | some hall =>
        rw [holdAll_eq_ok_iff.2 hall, Except.map, Except.ok.injEq, WebhookConfiguration.mk.injEq]
        exact ⟨hmetadata.symm, rfl⟩

/-- A configuration cannot be held when one of its entries cannot. -/
theorem hold_eq_error_iff {fault : WebhookFault} :
    c.hold t = .error fault ↔
      (∃ w ∈ c.webhooks.getD [], w.name = t.name ∧ w.client.service = none) ∧
        fault = .missingService t.name := by
  obtain ⟨metadata, webhooks⟩ := c
  cases webhooks with
  | none =>
    refine iff_of_false nofun ?_
    rintro ⟨⟨w, hw, -⟩, -⟩
    cases hw
  | some ws =>
    rw [hold_some, map_eq_error_iff, holdAll_eq_error_iff, Option.getD_some]

/-- A configuration without owners whose entries are in step is held at itself. -/
theorem isHeldAs_self (howners : c.metadata.ownerReferences = none)
    (hentries : ∀ w ∈ c.webhooks.getD [], w.IsInStep t) : c.IsHeldAs t c := by
  obtain ⟨metadata, webhooks⟩ := c
  constructor
  · dsimp only at howners ⊢
    rw [← howners]
  · cases webhooks with
    | none => exact .none
    | some ws =>
      exact .some (List.forall₂_same.2 fun w hw => WebhookEntry.isHeldAs_self_iff.2 (hentries w hw))

/-- Whatever is changed in the rest of entries that others are held at, they stay in step. -/
theorem forall_isInStep {held : List WebhookEntry}
    (h : List.Forall₂ (WebhookEntry.IsHeldAs t) ws held)
    (hkeeps : List.Forall₂ (WebhookEntry.Keeps t) held ws') : ∀ w ∈ ws', w.IsInStep t := by
  induction h generalizing ws' with
  | nil =>
    cases hkeeps
    exact List.forall_mem_nil _
  | cons hentry _ ih =>
    cases hkeeps with
    | cons hkept hrest => exact List.forall_mem_cons.2 ⟨hkept.isInStep hentry.isInStep, ih hrest⟩

/-- Whatever is changed in the rest of a configuration that another one is held at, it is held at
itself. -/
theorem IsHeldAs.of_keeps (h : c.IsHeldAs t held) (hkeeps : held.Keeps t c') : c'.IsHeldAs t c' := by
  refine isHeldAs_self ?_ ?_
  · rw [hkeeps.ownerReferences, h.metadata]
  · have hentries : List.Forall₂ (WebhookEntry.IsHeldAs t) (c.webhooks.getD [])
        (held.webhooks.getD []) := by
      have hwebhooks := h.webhooks
      generalize c.webhooks = ws, held.webhooks = ws' at hwebhooks ⊢
      cases hwebhooks with
      | none => exact .nil
      | some hall => exact hall
    exact forall_isInStep hentries hkeeps.webhooks

/-- There is nothing to write when the configuration is held at itself. -/
theorem desired_eq_none_iff : c.desired t = .ok none ↔ c.IsHeldAs t c := by
  rw [← hold_eq_ok_iff, desired]
  cases hheld : c.hold t with
  | error fault => exact iff_of_false nofun nofun
  | ok held =>
    rw [Except.map, Except.ok.injEq, Except.ok.injEq]
    split
    · exact iff_of_true rfl ‹_›
    · exact iff_of_false nofun ‹_›

/-- What is written, or what is there when there is nothing to write, is what the configuration is held
at. -/
theorem hold_of_desired {answer : Option WebhookConfiguration} (h : c.desired t = .ok answer) :
    c.hold t = .ok (answer.getD c) := by
  obtain ⟨held, hheld, hanswer⟩ := exists_of_map_eq_ok h
  rw [hheld]
  split at hanswer
  · rename_i hsame
    rw [← hanswer, Option.getD_none, hsame]
  · rw [← hanswer, Option.getD_some]

/-- The configuration cannot be kept in step just when a managed entry has no service, which is also
what the fault says. Otherwise what is written, or what is there when nothing is written, is the one
configuration without owners and with the same entries in the same order, in which only the managed
parts of the managed entries differ, and these are what they are set to; nothing is written just when
this configuration is there already; and nothing is written either when it is there with any other
changes that leave the names of its entries and what is managed alone. -/
theorem held_of_desired (t : WebhookTarget) (c : WebhookConfiguration) :
    (∀ fault, c.desired t = .error fault ↔
      (∃ w ∈ c.webhooks.getD [], w.name = t.name ∧ w.client.service = none) ∧
        fault = .missingService t.name) ∧
      ∀ answer, c.desired t = .ok answer →
        (∀ held, c.IsHeldAs t held ↔ held = answer.getD c) ∧
          (answer = none ↔ c.IsHeldAs t c) ∧
          ∀ c', (answer.getD c).Keeps t c' → c'.desired t = .ok none := by
  constructor
  · intro fault
    rw [desired, map_eq_error_iff, hold_eq_error_iff]
  · intro answer hanswer
    have hhold := hold_of_desired hanswer
    refine ⟨fun held => ?_, ?_, fun c' hkeeps => ?_⟩
    · rw [← hold_eq_ok_iff, hhold, Except.ok.injEq]
      exact eq_comm
    · rw [← desired_eq_none_iff, hanswer, Except.ok.injEq]
    · exact desired_eq_none_iff.2 ((hold_eq_ok_iff.1 hhold).of_keeps hkeeps)

/-- The configuration with what the API fills in when it stores entries. -/
def defaulted (c : WebhookConfiguration) : WebhookConfiguration :=
  { c with
    webhooks := c.webhooks.map fun ws => ws.map fun w =>
      { w with
        failurePolicy := some (w.failurePolicy.getD "Fail")
        reinvocationPolicy := some (w.reinvocationPolicy.getD "Never")
        timeoutSeconds := some (w.timeoutSeconds.getD 10) } }

/-- What the API fills in is not managed. -/
theorem keeps_defaulted (t : WebhookTarget) (c : WebhookConfiguration) : c.Keeps t c.defaulted := by
  refine ⟨rfl, ?_⟩
  unfold defaulted
  cases c.webhooks with
  | none => exact .nil
  | some ws =>
    dsimp only [Option.map_some, Option.getD_some]
    rw [List.forall₂_map_right_iff, List.forall₂_same]
    exact fun w _ => ⟨rfl, fun _ => rfl⟩

/-- What the entries of a cluster are set to. -/
def shopTarget : WebhookTarget where
  name := "bindings.podspec.dev"
  path := "/mutate"
  ca := "AAAA"
  rules := [⟨"apps", ["v1"], "deployments"⟩]

/-- A configuration that belongs to a pod, with two managed entries, of which one is in step but for its
path, around one of somebody else. -/
def shopConfiguration : WebhookConfiguration where
  metadata :=
    { name := some "bindings.podspec.dev"
      ownerReferences := some [⟨"v1", none, none, "Pod", "old", "1"⟩]
      resourceVersion := some "12" }
  webhooks := some
    [{ admissionReviewVersions := ["v1"]
       client := { service := some { name := "webhook", «namespace» := "system" } }
       name := "bindings.podspec.dev"
       sideEffects := "None" },
     { admissionReviewVersions := ["v1"]
       client := { url := some "https://other.example.com" }
       matchPolicy := some "Exact"
       name := "other.example.com"
       sideEffects := "Some" },
     { admissionReviewVersions := ["v1"]
       client :=
         { caBundle := some "AAAA"
           service := some
             { name := "webhook", «namespace» := "system", path := some "/old", port := some 8443 } }
       failurePolicy := some "Ignore"
       matchPolicy := some "Equivalent"
       name := "bindings.podspec.dev"
       namespaceSelector := some (notTrueAt "bindings.podspec.dev/exclude")
       objectSelector := some (notTrueAt "bindings.podspec.dev/exclude")
       rules := some (.arr [ruleFor "apps" ["v1"] "deployments"])
       sideEffects := "None" }]

/-- The configuration that this one is held at is written, and it is not written again when the API has
filled in what is missing from it. -/
theorem held_of_desired_shopConfiguration :
    ∃ held, shopConfiguration.desired shopTarget = .ok (some held) ∧
      held.metadata.ownerReferences = none ∧
      shopConfiguration.IsHeldAs shopTarget held ∧
      held.defaulted ≠ held ∧
      held.defaulted.desired shopTarget = .ok none := by
  have hdesired : ∃ held, shopConfiguration.desired shopTarget = .ok (some held) ∧
      held.metadata.ownerReferences = none ∧ held.defaulted ≠ held := ⟨_, rfl, rfl, by decide⟩
  obtain ⟨held, hanswer, howners, hfilled⟩ := hdesired
  obtain ⟨hheld, -, hkeeps⟩ := (held_of_desired shopTarget shopConfiguration).2 _ hanswer
  exact ⟨held, hanswer, howners, (hheld held).2 rfl, hfilled, hkeeps _ (keeps_defaulted _ held)⟩

end WebhookConfiguration

end WorkloadBindings
