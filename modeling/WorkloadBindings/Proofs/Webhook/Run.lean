import Mathlib.Logic.Relation
import WorkloadBindings.Proofs.Index.History
import WorkloadBindings.Proofs.Webhook.Pass

/-!
# Runs of the webhook loop

A `WebhookRun` is the loop with what surrounds it: reports change the store and the lease comes and
goes at any time, a step of the loop (`WebhookTurn`) begins when the store has notified or a tick is
due, its requests are answered one after the other in any way, and when it is over the loop waits
again. Every turn is one of the loop's own steps, followed as far as it was answered
(`WebhookTurn.IsFrom`); this is kept by each step of a run (`WebhookRun.IsSound.step`), and what a
run writes and counts follows from it (`WebhookRun.writes_of_reachable`).
-/

namespace WorkloadBindings

/-- The result of a conversation with the API in which certain requests were answered. -/
def Exchange.resultAfter? {α : Type} : Exchange α → Webhook.Said → Option α
  | .done a, [] => some a
  | .ask r next, x :: said => if x.1 = r then Exchange.resultAfter? (next x.2) said else none
  | _, _ => none

/-- A conversation that is over has its result. -/
theorem Exchange.resultAfter?_of_leaves {α : Type} {d : Exchange α} {said : Webhook.Said} {a : α}
    (h : d.Leaves said (.done a)) : Exchange.resultAfter? d said = some a := by
  induction said generalizing d with
  | nil =>
    obtain rfl : d = .done a := h
    rfl
  | cons x said ih =>
    obtain ⟨next, rfl, hnext⟩ := h
    rw [Exchange.resultAfter?, if_pos rfl, ih hnext]

/-! ## Turns -/

/-- A step of the loop that was begun: who led then, the reports that the store had handled, and the
store; what was said in it, and what is left. -/
structure WebhookTurn where
  leads : Bool
  reports : List Store.Report
  store : Store
  said : Webhook.Said
  rest : Exchange WebhookLoop

namespace WebhookTurn

/-- The turn sent a request, or waits for its answer, after something was said. -/
def Sends (turn : WebhookTurn) (before : Webhook.Said) (r : Request) : Prop :=
  (∃ reply after, turn.said = before ++ ⟨r, reply⟩ :: after) ∨
    turn.said = before ∧ ∃ next, turn.rest = .ask r next

/-- The turn wrote the configuration. -/
def hasWritten (turn : WebhookTurn) : Bool := turn.said.any Webhook.hasWritten

/-- The pass of the turn, if it made one, failed. -/
def hasFailed (s : WebhookSettings) (turn : WebhookTurn) : Bool :=
  turn.leads && turn.store.isSynced &&
    match Exchange.resultAfter? (Webhook.pass s turn.store.rules) turn.said with
    | some (.error _) => true
    | _ => false

/-- The turn with an answer to the request that it waits for. -/
def answered (turn : WebhookTurn) (r : Request) (next : Reply → Exchange WebhookLoop)
    (reply : Reply) : WebhookTurn :=
  { turn with said := turn.said ++ [⟨r, reply⟩], rest := next reply }

/-- The turn is a step of the loop, begun with some counts and a store after the reports. -/
structure IsFrom (s : WebhookSettings) (metrics : WebhookMetrics) (turn : WebhookTurn) : Prop where
  handled : ({} : Store).handleAll turn.reports = .ok turn.store
  begun : ∃ l : WebhookLoop, l.settings = s ∧ l.metrics = metrics ∧
    (l.step turn.leads turn.store).Leaves turn.said turn.rest

variable {s : WebhookSettings} {metrics : WebhookMetrics} {turn : WebhookTurn}

/-- A turn in which nothing is to be done is over at once; any other one is at some point of a pass,
whose result it counts. -/
theorem IsFrom.cases (h : turn.IsFrom s metrics) :
    ∃ l : WebhookLoop, l.settings = s ∧ l.metrics = metrics ∧
      ((turn.leads && turn.store.isSynced) = false ∧ turn.said = [] ∧ turn.rest = .done l ∨
        (turn.leads && turn.store.isSynced) = true ∧
          ∃ m, (Webhook.pass s turn.store.rules).Leaves turn.said m ∧
            turn.rest = (fun counted => { l with metrics := counted }) <$> metrics.count <$> m) := by
  obtain ⟨l, rfl, rfl, hleaves⟩ := h.begun
  refine ⟨l, rfl, rfl, ?_⟩
  unfold WebhookLoop.step Webhook.step at hleaves
  cases hdue : turn.leads && turn.store.isSynced with
  | false =>
    rw [hdue, if_neg Bool.false_ne_true] at hleaves
    have hdone := Dialogue.leaves_done_iff.1 hleaves
    exact Or.inl ⟨rfl, hdone⟩
  | true =>
    rw [hdue, if_pos rfl] at hleaves
    obtain ⟨counting, hcounting, hrest⟩ := Dialogue.leaves_map_iff.1 hleaves
    obtain ⟨m, hm, rfl⟩ := Dialogue.leaves_map_iff.1 hcounting
    exact Or.inr ⟨rfl, m, hm, hrest⟩

/-- A request is sent by a turn of the leader with a complete store, where a pass may send it. -/
theorem IsFrom.of_sends (h : turn.IsFrom s metrics) {before : Webhook.Said} {r : Request}
    (hsends : turn.Sends before r) :
    (turn.leads && turn.store.isSynced) = true ∧
      Webhook.MaySend s turn.store.rules before r := by
  obtain ⟨l, -, -, ⟨-, hsaid, hrest⟩ | ⟨hdue, m, hm, hrest⟩⟩ := h.cases
  · -- Nothing is sent by a turn in which nothing is to be done.
    rcases hsends with ⟨reply, after, hsent⟩ | ⟨-, next, hwaits⟩
    · rw [hsaid] at hsent
      cases List.append_ne_nil_of_right_ne_nil before (List.cons_ne_nil _ _) hsent.symm
    · cases hrest.symm.trans hwaits
  · refine ⟨hdue, ?_⟩
    have hobeys := Webhook.pass_obeys s turn.store.rules
    rcases hsends with ⟨reply, after, hsent⟩ | ⟨rfl, next, hwaits⟩
    · rw [hsent] at hm
      exact hobeys.call_of_leaves hm
    · cases m with
      | done result => cases hrest.symm.trans hwaits
      | ask c next' =>
        obtain ⟨rfl, -⟩ := Dialogue.ask.inj (hrest.symm.trans hwaits)
        exact (hobeys.of_leaves hm).1

/-- A turn that is over has counted what it wrote and whether its pass failed, and nothing else. -/
theorem IsFrom.of_ended (h : turn.IsFrom s metrics) {l : WebhookLoop} (hrest : turn.rest = .done l) :
    l.settings = s ∧
      l.metrics.updates = metrics.updates + (if turn.hasWritten then 1 else 0) ∧
      l.metrics.errors = metrics.errors + if turn.hasFailed s then 1 else 0 := by
  obtain ⟨l', rfl, rfl, ⟨hdue, hsaid, hdone⟩ | ⟨hdue, m, hm, hdone⟩⟩ := h.cases
  · obtain rfl := Dialogue.done.inj (hdone.symm.trans hrest)
    have hwritten : turn.hasWritten = false := by
      unfold hasWritten
      rw [hsaid]
      rfl
    have hfailed : turn.hasFailed l'.settings = false := by
      unfold hasFailed
      rw [hdue, Bool.false_and]
    rw [hwritten, hfailed]
    exact ⟨rfl, rfl, rfl⟩
  · cases m with
    | ask c next => cases hdone.symm.trans hrest
    | done result =>
      obtain rfl := Dialogue.done.inj (hdone.symm.trans hrest)
      have hend : Webhook.MayEnd turn.said result :=
        (Webhook.pass_obeys _ _).of_leaves hm
      have hresult := Exchange.resultAfter?_of_leaves hm
      unfold hasFailed
      rw [hdue, hresult, Bool.true_and]
      refine ⟨rfl, ?_⟩
      -- Of the results, only an update and a failure are counted.
      have hwritten : result = .ok .updated ↔ turn.hasWritten = true := hend.updated_iff
      have hunwritten : result ≠ .ok .updated → turn.hasWritten = false :=
        fun hne => Bool.eq_false_iff.2 fun h => hne (hwritten.2 h)
      cases result with
      | error e =>
        rw [hunwritten nofun]
        exact ⟨rfl, rfl⟩
      | ok outcome =>
        cases outcome with
        | updated =>
          rw [hwritten.1 rfl]
          exact ⟨rfl, rfl⟩
        | missing =>
          rw [hunwritten nofun]
          exact ⟨rfl, rfl⟩
        | current =>
          rw [hunwritten nofun]
          exact ⟨rfl, rfl⟩

/-- A turn that is answered is still a step of the loop. -/
theorem IsFrom.answered (h : turn.IsFrom s metrics) {r : Request} {next : Reply → Exchange WebhookLoop}
    (hrest : turn.rest = .ask r next) (reply : Reply) :
    (turn.answered r next reply).IsFrom s metrics := by
  obtain ⟨l, hsettings, hmetrics, hleaves⟩ := h.begun
  rw [hrest] at hleaves
  exact ⟨h.handled, l, hsettings, hmetrics, hleaves.answered reply⟩

end WebhookTurn

/-! ## Runs -/

/-- The loop, the turn that is on, if any, and those that are over, the last one first; with the store
and the reports that it handled, and who leads. -/
structure WebhookRun where
  reports : List Store.Report := []
  store : Store := {}
  leads : Bool := false
  loop : WebhookLoop
  turn : Option WebhookTurn := none
  past : List WebhookTurn := []

namespace WebhookRun

/-- The loop at its beginning. -/
def start (settings : WebhookSettings) (resync : Nat) : WebhookRun := { loop := { settings, resync } }

/-- All turns that were begun. -/
def turns (c : WebhookRun) : List WebhookTurn := c.turn.toList ++ c.past

/-- The run with a turn that begins. -/
def begun (c : WebhookRun) (rest : Exchange WebhookLoop) : WebhookRun :=
  { c with turn := some ⟨c.leads, c.reports, c.store, [], rest⟩ }

/-- A step of a run. -/
inductive Step : WebhookRun → WebhookRun → Prop where
  /-- The store handles a report. -/
  | reported {c : WebhookRun} {report : Store.Report} {store : Store}
      (h : c.store.handle report = .ok store) :
      Step c { c with store := store, reports := c.reports ++ [report] }
  /-- The lease comes or goes. -/
  | elected {c : WebhookRun} (leads : Bool) : Step c { c with leads := leads }
  /-- The loop finds that the store has notified. -/
  | noticed {c : WebhookRun} (hidle : c.turn = none) (h : c.loop.seen < c.store.notifications) :
      Step c (c.begun (c.loop.notice c.leads c.store))
  /-- A tick is due. -/
  | ticked {c : WebhookRun} (hidle : c.turn = none) :
      Step c (c.begun (WebhookLoop.tick c.leads c.store 1 c.loop))
  /-- A request is answered in some way. -/
  | answered {c : WebhookRun} {turn : WebhookTurn} {r : Request}
      {next : Reply → Exchange WebhookLoop} (hturn : c.turn = some turn)
      (hrest : turn.rest = .ask r next) (reply : Reply) :
      Step c { c with turn := some (turn.answered r next reply) }
  /-- A turn is over, and the loop waits again. -/
  | finished {c : WebhookRun} {turn : WebhookTurn} {l : WebhookLoop} (hturn : c.turn = some turn)
      (hrest : turn.rest = .done l) :
      Step c { c with turn := none, loop := l, past := turn :: c.past }

/-- Every turn is a step of the loop, and the counts are those of the turns that are over. -/
structure IsSound (s : WebhookSettings) (c : WebhookRun) : Prop where
  handled : ({} : Store).handleAll c.reports = .ok c.store
  settings : c.loop.settings = s
  turn : ∀ turn, c.turn = some turn → turn.IsFrom s c.loop.metrics
  past : ∀ turn ∈ c.past, ∃ metrics, turn.IsFrom s metrics
  updates : c.loop.metrics.updates = c.past.countP fun turn => turn.hasWritten
  errors : c.loop.metrics.errors = c.past.countP fun turn => turn.hasFailed s

variable {s : WebhookSettings} {c c' : WebhookRun}

/-- A turn that begins is a step of the loop. -/
theorem IsSound.begun (h : c.IsSound s) {rest : Exchange WebhookLoop} {l : WebhookLoop}
    (hsettings : l.settings = s) (hmetrics : l.metrics = c.loop.metrics)
    (hrest : l.step c.leads c.store = rest) : (c.begun rest).IsSound s where
  handled := h.handled
  settings := h.settings
  turn turn hturn := by
    obtain rfl := Option.some.inj hturn
    exact ⟨h.handled, l, hsettings, hmetrics, hrest⟩
  past := h.past
  updates := h.updates
  errors := h.errors

/-- A step of a run keeps it sound. -/
theorem IsSound.step (h : c.IsSound s) (hstep : Step c c') : c'.IsSound s := by
  cases hstep with
  | reported hreport =>
    refine ⟨?_, h.settings, h.turn, h.past, h.updates, h.errors⟩
    have hhandled := h.handled
    unfold Store.handleAll at hhandled ⊢
    rw [List.foldlM_append, hhandled]
    show (c.store.handle _ >>= fun s => List.foldlM Store.handle s []) = _
    rw [hreport]
    rfl
  | elected leads => exact ⟨h.handled, h.settings, h.turn, h.past, h.updates, h.errors⟩
  | noticed hidle hnew =>
    refine h.begun (l := { c.loop with seen := c.store.notifications }) h.settings rfl ?_
    unfold WebhookLoop.notice
    rw [if_pos hnew]
  | ticked hidle =>
    refine h.begun (l := { c.loop with nextTick := c.loop.nextTick + c.loop.resync }) h.settings rfl ?_
    exact (Dialogue.bind_done _).symm
  | answered hturn hrest reply =>
    refine ⟨h.handled, h.settings, fun turn heq => ?_, h.past, h.updates, h.errors⟩
    obtain rfl := Option.some.inj heq
    exact (h.turn _ hturn).answered hrest reply
  | finished hturn hrest =>
    obtain ⟨hsettings, hupdates, herrors⟩ := (h.turn _ hturn).of_ended hrest
    refine ⟨h.handled, hsettings, nofun, ?_, ?_, ?_⟩
    · exact List.forall_mem_cons.2 ⟨⟨_, h.turn _ hturn⟩, h.past⟩
    · rw [List.countP_cons, ← h.updates]
      exact hupdates
    · rw [List.countP_cons, ← h.errors]
      exact herrors

/-- The loop is sound at its beginning. -/
theorem isSound_start (settings : WebhookSettings) (resync : Nat) :
    (start settings resync).IsSound settings :=
  ⟨rfl, rfl, nofun, List.forall_mem_nil _, rfl, rfl⟩

/-- A run from the beginning is sound. -/
theorem isSound_of_reachable {resync : Nat}
    (h : Relation.ReflTransGen Step (start s resync) c) : c.IsSound s := by
  induction h with
  | refl => exact isSound_start s resync
  | tail _ hstep ih => exact ih.step hstep

/-- Every turn of a sound run is a step of the loop. -/
theorem IsSound.isFrom (h : c.IsSound s) {turn : WebhookTurn} (hturn : turn ∈ c.turns) :
    ∃ metrics, turn.IsFrom s metrics := by
  rcases List.mem_append.1 hturn with hon | hover
  · exact ⟨_, h.turn turn (Option.mem_toList.1 hon)⟩
  · exact h.past turn hover

end WebhookRun

/-- Both kinds were listed when a store that handled some reports is complete. -/
theorem Store.exists_listed_of_isSynced {reports : List Store.Report} {store : Store}
    (h : ({} : Store).handleAll reports = .ok store) (hsynced : store.isSynced = true)
    (k : BindingKind) : ∃ report ∈ reports, report.listedKind? = some k := by
  have hlisted : store.listed.get k = true := by
    refine List.all_eq_true.1 hsynced k ?_
    cases k <;> decide
  have hnone : ({} : Store).listed.get k = false := by cases k <;> rfl
  rw [Store.get_listed_handleAll h, hnone, Bool.false_or, List.any_eq_true] at hlisted
  obtain ⟨report, hreport, hkind⟩ := hlisted
  exact ⟨report, hreport, beq_iff_eq.1 hkind⟩

namespace WebhookRun

variable {s : WebhookSettings} {c : WebhookRun}

/-- However the store changes, the lease comes and goes and the API answers, the loop writes the
configuration only in a turn that began as the leader and with a store in which both kinds have been
listed. It writes once at most in a turn, after it read the configuration and the secret, and what it
writes is what the configuration should be for the authority in the secret and the rules of the
store, in place of another configuration whose managed entries all have a service. The counts are
those of the turns that wrote and of the turns whose pass failed. A turn waits for an answer, of which
there are three at most, or is over, and then the loop waits again and takes the next tick. -/
theorem writes_of_reachable {resync : Nat} (h : Relation.ReflTransGen Step (start s resync) c) :
    (∀ turn ∈ c.turns, ∀ before r, turn.Sends before r → r.method = .put →
      turn.leads = true ∧
      ({} : Store).handleAll turn.reports = .ok turn.store ∧
      (∀ k, ∃ report ∈ turn.reports, report.listedKind? = some k) ∧
      Webhook.Replaces s turn.store.rules before r ∧
      ∀ before' r', turn.Sends before' r' → r'.method = .put → before'.length = before.length) ∧
    c.loop.metrics.updates = c.past.countP (fun turn => turn.hasWritten) ∧
    c.loop.metrics.errors = c.past.countP (fun turn => turn.hasFailed s) ∧
    (∀ turn, c.turn = some turn →
      (turn.said.length < 3 ∧ ∃ r next, turn.rest = .ask r next) ∨
        ∃ l, turn.rest = .done l ∧ l.settings = s ∧
          Step c { c with turn := none, loop := l, past := turn :: c.past }) ∧
    (c.turn = none → Step c (c.begun (WebhookLoop.tick c.leads c.store 1 c.loop))) := by
  have hsound := isSound_of_reachable h
  refine ⟨fun turn hturn before r hsends hput => ?_, hsound.updates, hsound.errors,
    fun turn hturn => ?_, Step.ticked⟩
  · obtain ⟨metrics, hfrom⟩ := hsound.isFrom hturn
    obtain ⟨hdue, hmay⟩ := hfrom.of_sends hsends
    obtain ⟨hleads, hsynced⟩ := Bool.and_eq_true_iff.1 hdue
    -- A write comes after two reads, so there is no room for another one.
    have hlength : ∀ before r, turn.Sends before r → r.method = .put → before.length = 2 := by
      intro before r hsends hput
      obtain ⟨rfl, -⟩ := (hfrom.of_sends hsends).2.replaces hput
      rfl
    refine ⟨hleads, hfrom.handled, Store.exists_listed_of_isSynced hfrom.handled hsynced,
      hmay.replaces hput, fun before' r' hsends' hput' => ?_⟩
    rw [hlength before' r' hsends' hput', hlength before r hsends hput]
  · have hfrom := hsound.turn turn hturn
    cases hrest : turn.rest with
    | ask r next =>
      have hmay := (hfrom.of_sends (Or.inr ⟨rfl, next, hrest⟩)).2
      exact Or.inl ⟨hmay.short, r, next, rfl⟩
    | done l =>
      exact Or.inr ⟨l, rfl, (hfrom.of_ended hrest).1, .finished hturn hrest⟩

/-! ## A run that writes -/

/-- Reports that the store handles may come one after the other. -/
theorem reaches_handled {reports : List Store.Report} {store : Store}
    (h : c.store.handleAll reports = .ok store) :
    Relation.ReflTransGen Step c { c with store := store, reports := c.reports ++ reports } := by
  induction reports generalizing c with
  | nil =>
    obtain rfl := Except.ok.inj h
    rw [List.append_nil]
  | cons report reports ih =>
    unfold Store.handleAll at h
    rw [List.foldlM_cons] at h
    obtain ⟨u, hfirst, hrest⟩ := exists_of_bind_eq_ok h
    have hreach := ih (c := { c with store := u, reports := c.reports ++ [report] }) hrest
    rw [List.append_assoc, List.singleton_append] at hreach
    exact .head (.reported hfirst) hreach

end WebhookRun

/-- The turn with its requests answered, as far as there are replies. -/
def WebhookTurn.served : List Reply → WebhookTurn → WebhookTurn
  | [], turn => turn
  | reply :: replies, turn =>
    match turn.rest with
    | .ask r next => WebhookTurn.served replies (turn.answered r next reply)
    | .done _ => turn

namespace WebhookRun

/-- Requests of a turn may be answered by certain replies. -/
theorem reaches_served {turn : WebhookTurn} (hturn : c.turn = some turn) (replies : List Reply) :
    Relation.ReflTransGen Step c { c with turn := some (turn.served replies) } := by
  induction replies generalizing c turn with
  | nil =>
    obtain ⟨reports, store, leads, loop, _, past⟩ := c
    obtain rfl := hturn
    exact .refl
  | cons reply replies ih =>
    unfold WebhookTurn.served
    split
    · rename_i r next hrest
      have hreach := ih (c := { c with turn := some (turn.answered r next reply) }) rfl
      exact .head (.answered hturn hrest reply) hreach
    · obtain ⟨reports, store, leads, loop, _, past⟩ := c
      obtain rfl := hturn
      exact .refl

/-- The loop of a controller. -/
def loopSettings : WebhookSettings := ⟨"bindings", "/mutate", "system", "bindings-webhook"⟩

/-- A configuration that belongs to a pod, with a managed entry, and a secret with an authority. -/
def ownedReplies : List Reply :=
  [⟨200, "\x7b\"metadata\":\x7b\"ownerReferences\":[\x7b\"apiVersion\":\"v1\",\"kind\":\"Pod\"," ++
      "\"name\":\"old\",\"uid\":\"1\"\x7d]\x7d,\"webhooks\":[\x7b\"name\":\"bindings\"," ++
      "\"clientConfig\":\x7b\"service\":\x7b\"name\":\"webhook\",\"namespace\":\"system\"\x7d\x7d\x7d]\x7d"⟩,
   ⟨200, "\x7b\"data\":\x7b\"ca-cert.pem\":\"AAAA\",\"ca-key.pem\":\"BBBB\"\x7d\x7d"⟩]

/-- Listings without bindings. -/
def emptyListings : List Store.Report := [.listed .env [] [], .listed .secret [] []]

/-- The store after these listings. -/
def listedEmpty : Store := (({} : Store).handleAll emptyListings).toOption.getD {}

/-- The turn of the leader on the first tick after the listings, when its two reads are answered. -/
def ownedTurn : WebhookTurn :=
  WebhookTurn.served ownedReplies
    ⟨true, emptyListings, listedEmpty, [],
      WebhookLoop.tick true listedEmpty 1 { settings := loopSettings, resync := 60 }⟩

/-- The run with this turn. -/
def ownedRun : WebhookRun where
  reports := emptyListings
  store := listedEmpty
  leads := true
  loop := { settings := loopSettings, resync := 60 }
  turn := some ownedTurn

/-- The authorities in the entries of a request's configuration. -/
def authorities (r : Request) : List (Option String) :=
  match r.body with
  | some body => ((WebhookConfiguration.ofJson body).webhooks.getD []).map fun w => w.client.caBundle
  | none => []

/-- The leader sends a write when the configuration has an owner that it should not have, with the
authority from the secret in the managed entry. -/
theorem writes_of_reachable_ownedRun :
    Relation.ReflTransGen Step (start loopSettings 60) ownedRun ∧
      ∃ before r, ownedTurn.Sends before r ∧ r.method = .put ∧
        r.path = "/apis/admissionregistration.k8s.io/v1/mutatingwebhookconfigurations/bindings" ∧
        authorities r = [some "AAAA"] ∧
        Webhook.Replaces loopSettings ownedTurn.store.rules before r := by
  have hstore : ({} : Store).handleAll emptyListings = .ok listedEmpty := by rfl
  have hlisted : Relation.ReflTransGen Step (start loopSettings 60)
      { start loopSettings 60 with store := listedEmpty, reports := emptyListings } :=
    reaches_handled hstore
  have hreach : Relation.ReflTransGen Step (start loopSettings 60) ownedRun := by
    refine (hlisted.tail (.elected true)).trans (.head (.ticked rfl) ?_)
    exact reaches_served rfl ownedReplies
  obtain ⟨hwrites, -⟩ := writes_of_reachable hreach
  have hput : (match ownedTurn.rest with
      | .ask r _ => r.method == .put && authorities r == [some "AAAA"]
      | .done _ => false) = true := by decide +kernel
  cases hrest : ownedTurn.rest with
  | done l =>
    rw [hrest] at hput
    cases hput
  | ask r next =>
    rw [hrest] at hput
    obtain ⟨hmethod, hauthorities⟩ := Bool.and_eq_true_iff.1 hput
    have hmethod : r.method = .put := beq_iff_eq.1 hmethod
    have hsends : ownedTurn.Sends ownedTurn.said r := Or.inr ⟨rfl, next, hrest⟩
    obtain ⟨-, -, -, hreplaces, -⟩ := hwrites ownedTurn List.mem_cons_self _ r hsends hmethod
    have hpath : r.path =
        "/apis/admissionregistration.k8s.io/v1/mutatingwebhookconfigurations/bindings" := by
      obtain ⟨-, -, -, -, -, -, -, -, -, hgoes, -⟩ := hreplaces
      exact hgoes.path_eq (by decide +kernel)
    exact ⟨hreach, _, r, hsends, hmethod, hpath, beq_iff_eq.1 hauthorities, hreplaces⟩

end WebhookRun

end WorkloadBindings
