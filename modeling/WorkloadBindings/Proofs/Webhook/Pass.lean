import WorkloadBindings.Proofs.Api.Client
import WorkloadBindings.Proofs.Webhook.Held
import WorkloadBindings.Webhook.Loop

/-!
# What a pass of the webhook loop says

A pass sends at most three requests, and only the third one may write: it replaces the configuration
that was just read by what it should be for the authority that was just read and the rules of the
pass (`Webhook.Replaces`). A pass has updated the configuration when such a request succeeded, and
only then. `Webhook.pass_obeys` says this of all answers at once.
-/

namespace WorkloadBindings

/-! ## Entries with a service -/

namespace WebhookConfiguration

/-- A configuration that is to be written differs from the one that is there, whose managed entries
have a service. -/
theorem of_desired {t : WebhookTarget} {c desired : WebhookConfiguration}
    (h : c.desired t = .ok (some desired)) :
    desired ≠ c ∧ ∀ w ∈ c.webhooks.getD [], w.name = t.name → w.client.service ≠ none := by
  have hheld : c.hold t = .ok desired := hold_of_desired h
  constructor
  · rintro rfl
    have hnone := desired_eq_none_iff.2 (hold_eq_ok_iff.1 hheld)
    cases h.symm.trans hnone
  · intro w hw hname hservice
    cases hheld.symm.trans (hold_eq_error_iff.2 ⟨⟨w, hw, hname, hservice⟩, rfl⟩)

end WebhookConfiguration

/-! ## Requests -/

namespace Request

variable {r : Request}

/-- What stands before a query and a fragment. -/
def beforeQuery (target : List Char) : List Char := target.takeWhile fun c => c != '?' && c != '#'

/-- The request has a method and goes to a target: its path is the target, up to a query or a fragment
that stands in it. -/
structure GoesTo (r : Request) (method : Method) (target : String) : Prop where
  method : r.method = method
  path : r.path.toList = beforeQuery target.toList

/-- The path of a request to a target without a query and a fragment is the target. -/
theorem GoesTo.path_eq {method : Method} {target : String} (h : r.GoesTo method target)
    (hplain : beforeQuery target.toList = target.toList) : r.path = target := by
  rw [← String.toList_inj, h.path, hplain]

/-- Before a query there is nothing of it. -/
theorem beforeQuery_append (path query : List Char) :
    beforeQuery (path ++ '?' :: query) = beforeQuery path := by
  unfold beforeQuery
  rw [List.takeWhile_append]
  split
  · rename_i hlength
    rw [List.takeWhile_cons_of_neg (by decide), List.append_nil]
    have hbefore := List.takeWhile_prefix (fun c => c != '?' && c != '#') (l := path)
    exact (hbefore.eq_of_length hlength).symm
  · rfl

/-- The path that is parsed stands before the query. -/
theorem path_of_parse? {target path query : String} (h : Target.parse? target = some (path, query)) :
    path.toList = beforeQuery target.toList := by
  unfold Target.parse? at h
  obtain ⟨-, hparts⟩ := Option.ite_none_right_eq_some.1 h
  obtain ⟨rfl, -⟩ := Prod.mk.inj (Option.some.inj hparts)
  exact String.toList_ofList

/-- A request goes with its method to the path that it is made with, and carries its content. -/
theorem of_make {method : Method} {path : String} {parameters : Option (List (String × String))}
    {content : Option (String × Json)} (h : make method path parameters content = .ok r) :
    r.GoesTo method path ∧ r.body = content.map Prod.snd := by
  unfold make at h
  dsimp only at h
  split at h
  case h_2 => cases h
  rename_i parsed query hparse
  obtain rfl := Except.ok.inj h
  refine ⟨⟨rfl, (path_of_parse? hparse).trans ?_⟩, rfl⟩
  cases parameters with
  | none => rw [String.append_empty]
  | some parameters =>
    dsimp only
    rw [String.toList_append, String.toList_append]
    exact beforeQuery_append _ _

/-- A resource stands under its name in the collection. -/
theorem of_named {collection name path : String} (h : named collection name = .ok path) :
    name ≠ "" ∧ path = collection ++ "/" ++ name := by
  unfold named at h
  split at h
  · cases h
  · exact ⟨‹_›, (Except.ok.inj h).symm⟩

/-- A request that reads a resource goes to its place in the collection. -/
theorem goesTo_of_get {collection name : String} (h : get collection name = .ok r) :
    r.GoesTo .get (collection ++ "/" ++ name) := by
  obtain ⟨path, hpath, hmake⟩ := exists_of_bind_eq_ok h
  obtain ⟨-, rfl⟩ := of_named hpath
  exact (of_make hmake).1

/-- A request that replaces a resource goes to its place in the collection, with the new one. -/
theorem goesTo_of_replace {collection name : String} {body : Json}
    (h : replace collection name body = .ok r) :
    r.GoesTo .put (collection ++ "/" ++ name) ∧ r.body = some body := by
  obtain ⟨path, hpath, hmake⟩ := exists_of_bind_eq_ok h
  obtain ⟨-, rfl⟩ := of_named hpath
  exact of_make hmake

variable {α : Type} {request : Except ApiFailure Request} {shape : Shape} {ofJson : Json → α}
  {calls : Dialogue.Said (fun _ : Request => Reply) → Request → Prop}
  {ends : Dialogue.Said (fun _ : Request => Reply) → Except ApiFailure α → Prop}
  {said : Dialogue.Said fun _ : Request => Reply}

/-- A request that can be sent is the one call, and what its reply brings is the result. -/
theorem obeys_send (hfailed : ∀ cause, request = .error cause → ends said (.error cause))
    (hsent : ∀ r, request = .ok r → calls said r ∧
      ∀ reply : Reply, ends (said ++ [⟨r, reply⟩]) ((reply.read shape).map ofJson)) :
    (send request shape ofJson).Obeys calls ends said := by
  cases request with
  | error cause => exact hfailed cause rfl
  | ok r => exact hsent r rfl

end Request

/-! ## Authorities -/

/-- What is found in the data of a secret that was read stands there in the value that was read. -/
theorem Secret.get?_data_of_ofJson {j : Json} (hj : j.isOrdered = true) {key value : String}
    (h : (Secret.ofJson j).data.bind (·.get? key) = some value) :
    (j.get? "data").bind (·.get? key) = some (.str value) := by
  unfold ofJson at h
  cases hdata : j.get? "data" with
  | none =>
    rw [hdata] at h
    cases h
  | some data =>
    rw [hdata] at h
    have hordered := Json.isOrdered_of_member hj hdata
    cases data with
    | obj ms =>
      have hsorted : Assoc.Sorted ms := Json.sorted_of_isOrdered hordered
      have hentries : Assoc.Sorted (ms.filterMap fun m => m.2.str?.map (m.1, ·)) := by
        refine List.Pairwise.filterMap _ (fun a b hab x hx y hy => ?_) hsorted
        obtain ⟨_, -, rfl⟩ := Option.map_eq_some_iff.1 hx
        obtain ⟨_, -, rfl⟩ := Option.map_eq_some_iff.1 hy
        exact hab
      have hmem : (key, value) ∈ ms.filterMap fun m => m.2.str?.map (m.1, ·) := by
        rw [← hentries.get?_eq_some_iff, ← hentries.ofList_eq]
        exact h
      obtain ⟨⟨name, x⟩, hm, hx⟩ := List.mem_filterMap.1 hmem
      obtain ⟨text, htext, hpair⟩ := Option.map_eq_some_iff.1 hx
      obtain ⟨rfl, rfl⟩ := Prod.mk.inj hpair
      have hstr : x = .str text := by
        cases x <;> cases htext
        rfl
      exact hsorted.get?_eq_some_iff.2 (hstr ▸ hm)
    | _ => cases h

/-! ## Passes -/

namespace Webhook

/-- Requests of the loop with their replies. -/
abbrev Said : Type := Dialogue.Said fun _ : Request => Reply

/-- The configuration that a reply brings, if there is one. -/
def configurationIn (reply : Reply) : Except ApiFailure (Option WebhookConfiguration) :=
  foundOrNone ((reply.read WebhookConfiguration.shape).map WebhookConfiguration.ofJson)

/-- The request was a write, and its reply brings the configuration as it is then. -/
def hasWritten (x : (_ : Request) × Reply) : Bool :=
  x.1.method == .put && (x.2.read WebhookConfiguration.shape).isOk

/-- Where the API has the configuration with a name. -/
def configurationTarget (name : String) : String :=
  "/apis/admissionregistration.k8s.io/v1/mutatingwebhookconfigurations/" ++ name

/-- Where the API has the secret with a name in a namespace. -/
def secretTarget (ns name : String) : String :=
  "/api/v1/namespaces/" ++ ns ++ "/secrets/" ++ name

/-- The request replaces the configuration that was just read by what it should be for the rules and the
authority that was just read, at its key in the data of the secret. -/
inductive Replaces (s : WebhookSettings) (rules : List Rule) (said : Said) (r : Request) : Prop where
  | intro {first second : Request} {reply answer : Reply} {current desired : WebhookConfiguration}
      {secret : Json} {ca : String}
      (hsaid : said = [⟨first, reply⟩, ⟨second, answer⟩])
      (hfirst : first.GoesTo .get (configurationTarget s.name))
      (hsecond : second.GoesTo .get (secretTarget s.secretNamespace s.secretName))
      (hcurrent : configurationIn reply = .ok (some current))
      (hsecret : answer.read Secret.shape = .ok secret)
      (hca : (secret.get? "data").bind (·.get? "ca-cert.pem") = some (.str ca))
      (hservice : ∀ w ∈ current.webhooks.getD [], w.name = s.name → w.client.service ≠ none)
      (hdesired : current.desired ⟨s.name, s.path, ca, rules⟩ = .ok (some desired))
      (hne : desired ≠ current)
      (hr : r.GoesTo .put (configurationTarget s.name))
      (hbody : r.body = some desired.toJson)

/-- What may be sent in a pass after something was said. -/
structure MaySend (s : WebhookSettings) (rules : List Rule) (said : Said) (r : Request) : Prop where
  short : said.length < 3
  replaces : r.method = .put → Replaces s rules said r

/-- How a pass may end after something was said. -/
structure MayEnd (said : Said) (result : Except WebhookError WebhookOutcome) : Prop where
  short : said.length ≤ 3
  updated_iff : result = .ok .updated ↔ said.any hasWritten = true

variable {s : WebhookSettings} {rules : List Rule} {said : Said}

/-- A request that only reads may be one of the first three. -/
theorem MaySend.of_get {r : Request} (hget : r.method = .get) (hshort : said.length < 3) :
    MaySend s rules said r := by
  refine ⟨hshort, fun hput => ?_⟩
  cases hput.symm.trans hget

/-- A pass may end without an update when nothing was written. -/
theorem MayEnd.of_unwritten {result : Except WebhookError WebhookOutcome}
    (hresult : result ≠ .ok .updated) (hshort : said.length ≤ 3)
    (hsaid : said.any hasWritten = false) : MayEnd said result := by
  refine ⟨hshort, iff_of_false hresult ?_⟩
  rw [hsaid]
  decide

/-- What was found is nothing when there was a failure. -/
theorem foundOrNone_error {α : Type} (cause : ApiFailure) :
    foundOrNone (.error cause : Except ApiFailure α) = .ok none ∨
      ∃ e, foundOrNone (.error cause : Except ApiFailure α) = .error e := by
  unfold foundOrNone
  split
  · rename_i h
    cases h
  · split
    · exact Or.inl rfl
    · exact Or.inr ⟨_, rfl⟩
  · exact Or.inr ⟨_, rfl⟩

/-- A write of the configuration that should be there replaces the one that was read. -/
theorem Replaces.of_desired? {first second r : Request} {reply answer : Reply}
    {current desired : WebhookConfiguration} {secret : Json}
    (hfirst : Request.get configurationsPath s.name = .ok first)
    (hsecond : Request.get (namespacedPath "" "v1" s.secretNamespace "secrets") s.secretName =
      .ok second)
    (hcurrent : configurationIn reply = .ok (some current))
    (hsecret : answer.read Secret.shape = .ok secret)
    (hdesired : desired? s rules current (Secret.ofJson secret) = .ok (some desired))
    (hr : Request.replace configurationsPath s.name desired.toJson = .ok r) :
    Replaces s rules [⟨first, reply⟩, ⟨second, answer⟩] r := by
  have hconfigurations : configurationsPath ++ "/" ++ s.name = configurationTarget s.name := by
    have hpath : configurationsPath ++ "/" =
        "/apis/admissionregistration.k8s.io/v1/mutatingwebhookconfigurations/" := by
      simp [configurationsPath, groupPath]
    exact congrArg (· ++ s.name) hpath
  have hsecrets : namespacedPath "" "v1" s.secretNamespace "secrets" ++ "/" ++ s.secretName =
      secretTarget s.secretNamespace s.secretName := by
    have hpath : "/" ++ "secrets" ++ "/" = "/secrets/" := by decide
    have hgroup : groupPath "" "v1" ++ "/namespaces/" = "/api/v1/namespaces/" := by decide
    unfold namespacedPath secretTarget
    rw [← hpath, ← hgroup]
    simp only [String.append_assoc]
  have hordered : secret.isOrdered = true := Reply.isOrdered_of_read (by decide) hsecret
  unfold desired? at hdesired
  cases hca : (Secret.ofJson secret).ca? with
  | none =>
    rw [hca] at hdesired
    cases hdesired
  | some ca =>
    rw [hca] at hdesired
    obtain ⟨hne, hservice⟩ := WebhookConfiguration.of_desired hdesired
    obtain ⟨hgoes, hbody⟩ := Request.goesTo_of_replace hr
    exact .intro rfl (hconfigurations ▸ Request.goesTo_of_get hfirst)
      (hsecrets ▸ Request.goesTo_of_get hsecond) hcurrent hsecret
      (Secret.get?_data_of_ofJson hordered hca) hservice hdesired hne (hconfigurations ▸ hgoes) hbody

/-- Nothing was written by a request that only reads. -/
theorem hasWritten_of_get {r : Request} (h : r.method = .get) (reply : Reply) :
    hasWritten ⟨r, reply⟩ = false := by
  unfold hasWritten
  rw [h]
  rfl

/-- A write is carried out when its reply can be read. -/
theorem hasWritten_of_put {r : Request} (h : r.method = .put) (reply : Reply) :
    hasWritten ⟨r, reply⟩ = (reply.read WebhookConfiguration.shape).isOk := by
  unfold hasWritten
  rw [h]
  rfl

/-- Whatever it is answered, a pass sends and ends as it may. -/
theorem pass_obeys (s : WebhookSettings) (rules : List Rule) :
    (pass s rules).Obeys (MaySend s rules) MayEnd [] := by
  unfold pass
  -- The configuration is read first.
  refine .bind (.map (Request.obeys_send (fun cause _ => ?_) fun first hfirst => ?_))
  · rcases foundOrNone_error cause with hnone | ⟨e, herror⟩
    · rw [hnone]
      exact .of_unwritten nofun (by simp) rfl
    · rw [herror]
      exact .of_unwritten nofun (by simp) rfl
  have hget := (Request.goesTo_of_get hfirst).method
  refine ⟨.of_get hget (by simp), fun reply => ?_⟩
  have hsilent := hasWritten_of_get hget reply
  cases hcurrent : configurationIn reply with
  | error cause =>
    unfold configurationIn at hcurrent
    rw [hcurrent]
    exact .of_unwritten nofun (by simp) (by simp [hsilent])
  | ok found =>
    have hfound := hcurrent
    unfold configurationIn at hfound
    rw [hfound]
    cases found with
    | none => exact .of_unwritten nofun (by simp) (by simp [hsilent])
    | some current =>
      -- The secret is read when there is a configuration.
      refine .bind (Request.obeys_send (fun cause _ => ?_) fun second hsecond => ?_)
      · exact .of_unwritten nofun (by simp) (by simp [hsilent])
      have hget' := (Request.goesTo_of_get hsecond).method
      refine ⟨.of_get hget' (by simp), fun answer => ?_⟩
      have hsilent' := hasWritten_of_get hget' answer
      cases hsecret : answer.read Secret.shape with
      | error cause => exact .of_unwritten nofun (by simp) (by simp [hsilent, hsilent'])
      | ok secret =>
        dsimp only [Except.map]
        cases hdesired : desired? s rules current (Secret.ofJson secret) with
        | error fault => exact .of_unwritten nofun (by simp) (by simp [hsilent, hsilent'])
        | ok desired =>
          cases desired with
          | none => exact .of_unwritten nofun (by simp) (by simp [hsilent, hsilent'])
          | some desired =>
            -- The configuration is written when it is not what it should be.
            refine .bind (Request.obeys_send (fun cause _ => ?_) fun third hthird => ?_)
            · exact .of_unwritten nofun (by simp) (by simp [hsilent, hsilent'])
            have hreplaces := Replaces.of_desired? hfirst hsecond hcurrent hsecret hdesired hthird
            refine ⟨⟨by simp, fun _ => hreplaces⟩, fun last => ?_⟩
            have hlast := hasWritten_of_put (Request.goesTo_of_replace hthird).1.method last
            cases hread : last.read WebhookConfiguration.shape with
            | error cause =>
              have hrefused : hasWritten ⟨third, last⟩ = false := hlast.trans (by rw [hread]; rfl)
              exact .of_unwritten nofun (by simp) (by simp [hsilent, hsilent', hrefused])
            | ok j =>
              have hwritten : hasWritten ⟨third, last⟩ = true := hlast.trans (by rw [hread]; rfl)
              exact ⟨by simp, iff_of_true rfl (by simp [hwritten])⟩

end Webhook

end WorkloadBindings
