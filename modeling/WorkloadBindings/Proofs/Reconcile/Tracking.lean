import WorkloadBindings.Cluster.Simulation
import WorkloadBindings.Proofs.Label.Selection
import WorkloadBindings.Proofs.Reconcile.Controllers
import WorkloadBindings.Proofs.Reconcile.Partial

/-!
# What the tracker remembers over a run

A pass tells the tracker one thing at most: the subject of a living binding when the finalizer is on it,
or that the binding is gone when the finalizer is off (`ControllerTurn.Tells`). So after a run the tracker
holds of each binding what the last of its passes told that came to tell something
(`ControllerRun.get?_tracker`), and an event about a workload leads from there to the bindings whose
subject selects it (`Tracker.LeadsBack`).
-/

namespace WorkloadBindings

open Reconcile

/-! ## Telling the tracker -/

/-- What the tracker remembers of a binding whose pass told it: the subject of a living one. -/
def BindingResource.remembered? (r : BindingResource) : Option Subject :=
  if r.isDeleting then none else r.subject.toOption

/-- What is remembered of a binding is the subject that it resolves to while it lives. -/
theorem BindingResource.remembered?_eq_some_iff {r : BindingResource} {s : Subject} :
    r.remembered? = some s ↔ r.isDeleting = false ∧ r.subject = .ok s := by
  unfold remembered?
  cases r.isDeleting <;> cases r.subject <;> simp [Except.toOption]

/-- The call tells the tracker something. -/
def Call.tellsTracker : Call → Bool
  | .note (.tracked _ _) | .note (.untracked _) => true
  | _ => false

/-- A call that tells the tracker nothing lets nothing be remembered of a subject. -/
theorem Call.tracking_of_not {c : Call} (h : c.tellsTracker = false) (answer : c.Answer) :
    (c.deeds answer).tracking = [] := by
  cases c with
  | note n => cases n <;> first | rfl | cases h
  | _ => rfl

/-- A call that tells the tracker something is a note that is to be remembered. -/
theorem Call.exists_note_of_tellsTracker {c : Call} (h : c.tellsTracker = true) :
    ∃ n, c = .note n ∧ ∀ answer, ((Call.note n).deeds answer).tracking = [n] := by
  cases c with
  | note n => cases n <;> first | exact ⟨_, rfl, fun _ => rfl⟩ | cases h
  | _ => cases h

/-- What may be told is all that is due, and nothing was told before. -/
theorem Reconcile.MaySay.of_tellsTracker {r : BindingResource} {id : BindingId} {said : Transcript}
    {n : Note} (h : MaySay r id said.pivots (.note n))
    (htells : (Call.note n).tellsTracker = true) :
    said.deeds.tracking = [] ∧ r.tracking id said.secured = [n] := by
  obtain ⟨htracking, hsecured, -⟩ := said.of_pivots
  rw [← htracking, ← hsecured]
  cases n with
  | tracked => exact h.2
  | untracked => exact h.2
  | _ => cases htells

/-- The pass of a binding that notes a subject is that of a living binding with this subject, and the
finalizer is on it. -/
theorem BindingResource.of_tracked {r : BindingResource} {id id' : BindingId} {secured : Bool}
    {s : Subject} (h : r.tracking id secured = [.tracked id' s]) :
    id' = id ∧ r.isDeleting = false ∧ r.subject = .ok s ∧
      (secured || r.finalizers.contains id.kind.finalizer) = true := by
  unfold tracking at h
  split at h
  · split at h <;> simp at h
  · rename_i hliving
    split at h
    · rename_i subject hsubject
      split at h
      · rename_i hsecured
        simp only [List.cons.injEq, Note.tracked.injEq, and_true] at h
        obtain ⟨rfl, rfl⟩ := h
        exact ⟨rfl, Bool.eq_false_iff.2 hliving, hsubject, hsecured⟩
      · cases h
    · cases h

/-- The pass of a binding that notes that the binding is gone is that of a binding that is being
deleted, and the finalizer is off. -/
theorem BindingResource.of_untracked {r : BindingResource} {id id' : BindingId} {secured : Bool}
    (h : r.tracking id secured = [.untracked id']) :
    id' = id ∧ r.isDeleting = true ∧
      (secured || !r.finalizers.contains id.kind.finalizer) = true := by
  unfold tracking at h
  split at h
  · rename_i hdeleting
    split at h
    · rename_i hsecured
      simp only [List.cons.injEq, Note.untracked.injEq, and_true] at h
      exact ⟨h.symm, hdeleting, hsecured⟩
    · cases h
  · split at h
    · split at h <;> simp at h
    · cases h

/-- As long as a pass of the leader says only what it may, either nothing was told or all that is due. -/
theorem Reconcile.tracking_of_maySay {r : BindingResource} {id : BindingId} {said : Transcript}
    (h : ∀ (before : Transcript) c answer after, said = before ++ ⟨c, answer⟩ :: after →
      MaySay r id before.pivots c) :
    said.deeds.tracking = [] ∨ said.deeds.tracking = r.tracking id said.secured := by
  induction said using List.reverseRecOn with
  | nil => exact Or.inl rfl
  | append_singleton said x ih =>
    obtain ⟨c, answer⟩ := x
    -- What was said before the last call could be said then.
    have hbefore := ih fun before c' answer' after heq =>
      h before c' answer' (after ++ [⟨c, answer⟩]) (by rw [heq, List.append_assoc, List.cons_append])
    have hmay := h said c answer [] rfl
    rw [Transcript.deeds_append, Deeds.tracking_append]
    cases htells : c.tellsTracker with
    | true =>
      obtain ⟨n, rfl, htold⟩ := Call.exists_note_of_tellsTracker htells
      obtain ⟨hnone, hdue⟩ := hmay.of_tellsTracker htells
      rw [Transcript.secured_append_note, hnone, hdue, List.nil_append, Transcript.deeds_cons,
        Deeds.tracking_append, htold answer]
      exact Or.inr rfl
    | false =>
      have hquiet : (Transcript.deeds [⟨c, answer⟩]).tracking = [] :=
        (List.append_nil _).trans (Call.tracking_of_not htells answer)
      rw [hquiet, List.append_nil]
      cases c with
      | finalizers =>
        -- Nothing was said before that bears on what is remembered.
        obtain ⟨-, hfirst, -⟩ := hmay
        left
        rw [← (Transcript.of_pivots said).1, hfirst]
        rfl
      | note n => rwa [Transcript.secured_append_note]
      | _ =>
        rw [Transcript.secured_append]
        exact (Bool.or_false _).symm ▸ hbefore

/-- Finalizers that are sent are sent in a call. -/
theorem Transcript.exists_of_mem_finalizers {said : Transcript}
    {x : FinalizersPatch × Except ApiFailure Unit} (h : x ∈ said.deeds.finalizers) :
    ∃ before after, said =
      before ++ ⟨.finalizers x.1.id x.1.resourceVersion x.1.finalizers, x.2⟩ :: after := by
  induction said with
  | nil => cases h
  | cons y said ih =>
    rw [Transcript.deeds_cons, Deeds.finalizers_append, List.mem_append] at h
    rcases h with h | h
    · obtain ⟨c, answer⟩ := y
      cases c with
      | finalizers id version names =>
        obtain rfl := List.mem_singleton.1 h
        exact ⟨[], said, rfl⟩
      | note n => cases n <;> cases h
      | _ => cases h
    · obtain ⟨before, after, rfl⟩ := ih h
      exact ⟨y :: before, after, rfl⟩

/-! ## Turns -/

namespace ControllerTurn

/-- The last thing said in the pass tells the tracker something. -/
def tellsTracker (turn : ControllerTurn) : Bool := turn.said.getLast?.any fun x => x.1.tellsTracker

variable {p : ReconcileParams} {turn : ControllerTurn} {id : BindingId}

/-- A pass that goes on with an answer tells what its call tells. -/
theorem tellsTracker_answered (c : Call) (next : c.Answer → Talk PassEnd) (answer : c.Answer) :
    (turn.answered c next answer).tellsTracker = c.tellsTracker := by
  unfold tellsTracker answered
  rw [List.getLast?_concat]
  rfl

/-- A pass of a binding that tells the tracker something lets it remember of this binding what is to be
remembered, and nothing else of others. -/
theorem IsFrom.get?_afterCall (h : turn.IsFrom p) {c : Call} {next : c.Answer → Talk PassEnd}
    (hrest : turn.rest = .ask c next) (hc : c.tellsTracker = true) (memory : Memory)
    (id : BindingId) :
    (memory.afterCall c).tracker.subjects.get? id =
      if turn.isOf id then turn.binding.remembered? else memory.tracker.subjects.get? id := by
  obtain ⟨hleads, own, hown⟩ := h.exists_id hrest
  have hisOf : turn.isOf id = true ↔ compare id own = .eq := by
    rw [isOf_iff, hown, Std.compare_eq_iff_eq, Except.ok.injEq, eq_comm]
  obtain ⟨n, rfl, -⟩ := Call.exists_note_of_tellsTracker hc
  obtain ⟨-, hdue⟩ := (h.maySay_next hleads hown hrest).of_tellsTracker hc
  cases n with
  | tracked id' s =>
    obtain ⟨rfl, hliving, hsubject, -⟩ := BindingResource.of_tracked hdue
    have hremembered := BindingResource.remembered?_eq_some_iff.2 ⟨hliving, hsubject⟩
    change (memory.tracker.subjects.insert id' s).get? id = _
    rw [SortedMap.get?_insert, hremembered, if_congr hisOf rfl rfl]
  | untracked id' =>
    obtain ⟨rfl, hdeleting, -⟩ := BindingResource.of_untracked hdue
    have hremembered : turn.binding.remembered? = none := if_pos hdeleting
    change (memory.tracker.subjects.erase id').get? id = _
    rw [SortedMap.get?_erase, hremembered, if_congr hisOf rfl rfl]
  | _ => cases hc

/-- What a pass of a binding tells the tracker. -/
structure Tells (turn : ControllerTurn) (id : BindingId) : Prop where
  /-- Without the lease nothing is said. -/
  follower : turn.leads = false → turn.said = []
  /-- Either nothing was told so far, or all that is due. -/
  due : turn.said.deeds.tracking = [] ∨
    turn.said.deeds.tracking = turn.binding.tracking id turn.said.secured
  /-- The leader told all that is due when the pass is over. -/
  finished : turn.leads = true → ∀ ended, turn.rest = .done ended →
    turn.said.deeds.tracking = turn.binding.tracking id turn.said.secured
  /-- The finalizers that are sent are those of this binding, with its own one or without it. -/
  sent : ∀ x ∈ turn.said.deeds.finalizers,
    x.1.id = id ∧ x.1.finalizers = turn.binding.sentFinalizers id
  /-- The pass told something when it came to a living binding's subject with the finalizer on the
  binding, or to a binding that is being deleted with the finalizer off. -/
  told : turn.tellsTracker = true → turn.leads = true ∧
    ((turn.binding.isDeleting = false ∧ (∃ s, turn.binding.subject = .ok s) ∧
        (turn.said.secured || turn.binding.finalizers.contains id.kind.finalizer) = true) ∨
      (turn.binding.isDeleting = true ∧
        (turn.said.secured || !turn.binding.finalizers.contains id.kind.finalizer) = true))

/-- A pass of a binding, as far as it was answered, tells what it may and has to. -/
theorem IsFrom.tells (h : turn.IsFrom p) (hid : turn.binding.id = .ok id) : turn.Tells id := by
  cases hleads : turn.leads with
  | false =>
    obtain ⟨hsaid, -⟩ := h.of_follower hleads
    constructor
    · exact fun _ => hsaid
    · exact Or.inl (by rw [hsaid]; rfl)
    · exact fun hlead => absurd (hlead.symm.trans hleads) (by decide)
    · rw [hsaid]
      exact fun _ hx => nomatch hx
    · rw [tellsTracker, hsaid]
      exact fun htold => nomatch htold
  | true =>
    have hmay : ∀ (before : Transcript) c answer after,
        turn.said = before ++ ⟨c, answer⟩ :: after → MaySay turn.binding id before.pivots c :=
      fun _ _ _ _ hsaid => h.maySay hleads hid hsaid
    constructor
    · exact fun hfollows => absurd (hleads.symm.trans hfollows) (by decide)
    · exact tracking_of_maySay hmay
    · intro _ ended hrest
      obtain ⟨htracking, hsecured, -⟩ := turn.said.of_pivots
      rw [← htracking, ← hsecured]
      exact (h.mayEnd hleads hid hrest).1
    · intro x hx
      obtain ⟨before, after, hsaid⟩ := Transcript.exists_of_mem_finalizers hx
      obtain ⟨-, -, hown, hnames⟩ := hmay _ _ _ _ hsaid
      exact ⟨hown, hnames⟩
    · intro htold
      refine ⟨hleads, ?_⟩
      obtain ⟨⟨c, answer⟩, hlast, hc⟩ := (Option.any_eq_true _ _).1 htold
      obtain ⟨before, hsaid⟩ := List.getLast?_eq_some_iff.1 hlast
      -- What was told last was due, so it tells which pass this is and where it stands.
      obtain ⟨n, rfl, -⟩ := Call.exists_note_of_tellsTracker hc
      have hdue := (hmay before _ answer [] hsaid).of_tellsTracker hc
      rw [hsaid, Transcript.secured_append_note]
      cases n with
      | tracked id' s =>
        obtain ⟨-, hliving, hsubject, hfinalizer⟩ := BindingResource.of_tracked hdue.2
        exact Or.inl ⟨hliving, ⟨s, hsubject⟩, hfinalizer⟩
      | untracked id' =>
        obtain ⟨-, hdeleting, hfinalizer⟩ := BindingResource.of_untracked hdue.2
        exact Or.inr ⟨hdeleting, hfinalizer⟩
      | _ => cases hc

end ControllerTurn

/-! ## Runs -/

/-- The last pass of a binding that told the tracker something, as it was when it did. -/
def lastTold? (id : BindingId) : List Occurrence → Option ControllerTurn
  | [] => none
  | .went turn :: past =>
    if turn.isOf id && turn.tellsTracker then some turn else lastTold? id past
  | .delayed _ _ :: past => lastTold? id past

namespace ControllerRun

variable {p : ReconcileParams} {c : ControllerRun}

/-- The tracker holds what is to be remembered of each binding after its last pass that told it. -/
theorem get?_tracker (h : Relation.ReflTransGen (Step p) {} c) (id : BindingId) :
    c.memory.tracker.subjects.get? id =
      (lastTold? id c.past).bind fun turn => turn.binding.remembered? := by
  refine of_reachable (P := fun c => c.memory.tracker.subjects.get? id =
    (lastTold? id c.past).bind fun turn => turn.binding.remembered?) rfl ?_ h
  intro c c' hsound ih hstep
  cases hstep with
  | began leads now r =>
    -- A pass that begins has said nothing.
    have hquiet : (ControllerTurn.begun p leads now r).tellsTracker = false := rfl
    change _ = (lastTold? id (.went _ :: c.past)).bind _
    rw [lastTold?, hquiet, Bool.and_false]
    exact ih
  | delayed id' => exact ih
  | @answered before after turn call next hturns hrest answer =>
    -- Only a call that tells the tracker changes what it holds, and only of the binding of the pass.
    have hturn : turn.IsFrom p := hsound.turns turn (by simp [hturns])
    have hisOf : (turn.answered call next answer).isOf id = turn.isOf id := rfl
    change (c.memory.afterCall call).tracker.subjects.get? id =
      (lastTold? id (.went _ :: c.past)).bind _
    rw [lastTold?, ControllerTurn.tellsTracker_answered, hisOf]
    cases htells : call.tellsTracker with
    | false =>
      rw [c.memory.tracker_afterCall call answer, Call.tracking_of_not htells, Bool.and_false]
      exact ih
    | true =>
      rw [hturn.get?_afterCall hrest htells, Bool.and_true]
      split
      · rfl
      · exact ih

end ControllerRun

/-! ## Events about workloads -/

/-- An identity before another one is of the same kind, or of one before. -/
theorem BindingId.rank_le_of_lt {a b : BindingId} (h : compare a b = .lt) :
    a.kind.rank ≤ b.kind.rank := by
  rcases Ordering.then_eq_lt.1 h with hlt | ⟨heq, -⟩
  · exact Nat.le_of_lt (Nat.compare_eq_lt.1 hlt)
  · exact Nat.le_of_eq (Nat.compare_eq_eq.1 heq)

/-- Identities in order stand kind by kind. -/
theorem BindingId.flatMap_filter_kind {ids : List BindingId}
    (h : ids.Pairwise fun a b => compare a b = .lt) :
    (BindingKind.all.flatMap fun k => ids.filter fun id => id.kind == k) = ids := by
  change ids.filter (·.kind == .secret) ++ (ids.filter (·.kind == .env) ++ []) = ids
  rw [List.append_nil]
  induction ids with
  | nil => rfl
  | cons id ids ih =>
    obtain ⟨hfirst, hrest⟩ := List.pairwise_cons.1 h
    cases hkind : id.kind with
    | secret =>
      rw [List.filter_cons_of_pos (by simp [hkind]), List.filter_cons_of_neg (by simp [hkind]),
        List.cons_append, ih hrest]
    | env =>
      -- After an identity of the last kind there are no others.
      have henv : ∀ id' ∈ ids, id'.kind = .env := by
        intro id' hmem
        have hrank := rank_le_of_lt (hfirst id' hmem)
        rw [hkind] at hrank
        cases hkind' : id'.kind with
        | env => rfl
        | secret =>
          rw [hkind'] at hrank
          exact absurd hrank (by decide)
      have hnone : ids.filter (·.kind == .secret) = [] :=
        List.filter_eq_nil_iff.2 fun id' hmem => by simp [henv id' hmem]
      have hall : ids.filter (·.kind == .env) = ids :=
        List.filter_eq_self.2 fun id' hmem => by simp [henv id' hmem]
      rw [List.filter_cons_of_neg (by simp [hkind]), List.filter_cons_of_pos (by simp [hkind]),
        hnone, hall, List.nil_append]

namespace Tracker

/-- The bindings that a workload leads back to are the tracked ones whose subject selects it. -/
theorem mem_bindingsFor {t : Tracker} {workload : Target} {id : BindingId} :
    id ∈ t.bindingsFor workload ↔
      ∃ s, t.subjects.get? id = some s ∧ s.selects workload = true := by
  cases hsubject : t.subjects.get? id with
  | some s => simpa using mem_bindingsFor_iff hsubject workload
  | none =>
    refine iff_of_false (fun hmem => ?_) (by simp)
    obtain ⟨e, he, rfl⟩ := List.mem_map.1 hmem
    have hsome := t.subjects.sorted.get?_eq_some_iff.2 (List.mem_of_mem_filter he)
    exact absurd (hsubject.symm.trans hsome) nofun

/-- They stand in the order of their identities, and none is there twice. -/
theorem pairwise_bindingsFor (t : Tracker) (workload : Target) :
    (t.bindingsFor workload).Pairwise fun a b => compare a b = .lt :=
  List.pairwise_map.2 (List.Pairwise.filter _ t.subjects.sorted)

/-- An event about an object of a type leads back to bindings: those of a subject that selects it, each
once and in the order of their identities, and each controller looks at the ones of its own kind. -/
structure LeadsBack (t : Tracker) (type : ResourceType) (m : Metadata) : Prop where
  mem_iff : ∀ id, id ∈ t.bindingsFor (Controller.targetOf type m) ↔
    ∃ s, t.subjects.get? id = some s ∧ s.selects (Controller.targetOf type m) = true
  ascending : (t.bindingsFor (Controller.targetOf type m)).Pairwise fun a b => compare a b = .lt
  nodup : (t.bindingsFor (Controller.targetOf type m)).Nodup
  /-- Each controller looks at the ones of its own kind. -/
  own : ∀ k id, id ∈ Controller.triggered k t type m ↔
    id ∈ t.bindingsFor (Controller.targetOf type m) ∧ id.kind = k
  /-- The controllers together look at all of them, first the one of the first kind. -/
  together : (BindingKind.all.flatMap fun k => Controller.triggered k t type m) =
    t.bindingsFor (Controller.targetOf type m)

/-- Events lead back to bindings as they should. -/
theorem leadsBack (t : Tracker) (type : ResourceType) (m : Metadata) : t.LeadsBack type m where
  mem_iff _ := mem_bindingsFor
  ascending := t.pairwise_bindingsFor _
  nodup := (t.pairwise_bindingsFor _).imp fun hlt heq => by simp [heq] at hlt
  own k id := by simp [Controller.triggered, List.mem_filter]
  together := BindingId.flatMap_filter_kind (t.pairwise_bindingsFor _)

end Tracker

namespace Simulation

variable {s : Simulation}

/-- A binding that is triggered is in the queue, with those that were. -/
theorem mem_queue_trigger {id id' : BindingId} :
    id' ∈ (s.trigger id).queue ↔ id' ∈ s.queue ∨ id' = id := by
  unfold trigger
  dsimp only
  split
  · rename_i hmem
    have hmem : id ∈ s.queue := List.contains_iff_mem.1 hmem
    exact ⟨Or.inl, fun h => h.elim (·) fun heq => heq ▸ hmem⟩
  · rw [List.mem_append, List.mem_singleton]

/-- Bindings that are triggered one after the other are in the queue, with those that were. -/
theorem mem_queue_foldl_trigger {ids : List BindingId} {id' : BindingId} :
    id' ∈ (ids.foldl trigger s).queue ↔ id' ∈ s.queue ∨ id' ∈ ids := by
  induction ids generalizing s with
  | nil => simp
  | cons id ids ih => rw [List.foldl_cons, ih, mem_queue_trigger, List.mem_cons, or_assoc]

/-- An event about a workload of a watched type puts into the queue the bindings it leads back to. -/
theorem mem_queue_seeWorkload {type : ResourceType} (htype : type ∈ Controller.watched) (w : Workload)
    {id : BindingId} : id ∈ (s.seeWorkload type.plural w).queue ↔
      id ∈ s.queue ∨
        id ∈ s.cluster.memory.tracker.bindingsFor (Controller.targetOf type w.metadata) := by
  -- No two watched types have the same plural.
  have hplurals : ∀ type ∈ Controller.watched,
      (Controller.watched.filter fun type' => type'.plural == type.plural) = [type] := by
    decide +kernel
  have htriggered : s.triggeredBy type.plural w =
      s.cluster.memory.tracker.bindingsFor (Controller.targetOf type w.metadata) := by
    unfold triggeredBy
    rw [hplurals type htype, List.flatMap_singleton]
    exact (s.cluster.memory.tracker.leadsBack type w.metadata).together
  rw [seeWorkload, mem_queue_foldl_trigger, htriggered]

end Simulation

namespace ControllerRun

variable {p : ReconcileParams} {c : ControllerRun}

/-- A step changes what the tracker holds of a binding only when a pass of this binding tells it. -/
theorem Step.get?_tracker {c' : ControllerRun} (h : Relation.ReflTransGen (Step p) {} c)
    (hstep : Step p c c') (id : BindingId) :
    c'.memory.tracker.subjects.get? id = c.memory.tracker.subjects.get? id ∨
      ∃ turn, c'.past = .went turn :: c.past ∧ turn.isOf id = true ∧ turn.tellsTracker = true ∧
        c'.memory.tracker.subjects.get? id = turn.binding.remembered? := by
  obtain ⟨o, hpast⟩ : ∃ o, c'.past = o :: c.past := by cases hstep <;> exact ⟨_, rfl⟩
  rw [ControllerRun.get?_tracker (h.tail hstep), ControllerRun.get?_tracker h, hpast]
  cases o with
  | delayed id' delay => exact Or.inl rfl
  | went turn =>
    rw [lastTold?]
    split
    · rename_i htold
      obtain ⟨hisOf, htells⟩ := Bool.and_eq_true_iff.1 htold
      exact Or.inr ⟨turn, rfl, hisOf, htells, rfl⟩
    · exact Or.inl rfl

/-- However the passes of bindings of both kinds begin, are led and are answered, side by side or one
after the other, a binding is tracked with a subject just when the last of its passes that told the
tracker something was the pass of a living binding whose subject resolved to this one. Each pass tells
what it may and has to (`ControllerTurn.Tells`), and every step leaves what is tracked of a binding as it
was unless a pass of this binding tells the tracker then. So for every event about a workload of a
watched type, both controllers together look at the tracked bindings whose subject selects it, each
controller at those of its own kind, and these come into the queue. -/
theorem tracked_of_reachable (h : Relation.ReflTransGen (Step p) {} c) :
    (∀ id s, c.memory.tracker.subjects.get? id = some s ↔
      ∃ turn, lastTold? id c.past = some turn ∧ turn.binding.isDeleting = false ∧
        turn.binding.subject = .ok s) ∧
    (∀ id turn, .went turn ∈ c.past → turn.isOf id = true → turn.Tells id) ∧
    (∀ id c', Step p c c' →
      c'.memory.tracker.subjects.get? id = c.memory.tracker.subjects.get? id ∨
        ∃ turn, c'.past = .went turn :: c.past ∧ turn.isOf id = true ∧
          turn.tellsTracker = true ∧ turn.Tells id ∧
          c'.memory.tracker.subjects.get? id = turn.binding.remembered?) ∧
    ∀ type ∈ Controller.watched,
      (∀ m : Metadata, c.memory.tracker.LeadsBack type m) ∧
      ∀ (s : Simulation) (w : Workload), s.cluster.memory.tracker = c.memory.tracker → ∀ id,
        id ∈ (s.seeWorkload type.plural w).queue ↔ id ∈ s.queue ∨
          id ∈ c.memory.tracker.bindingsFor (Controller.targetOf type w.metadata) := by
  refine ⟨fun id s => ?_, fun id turn hmem hisOf => ?_, fun id c' hstep => ?_, fun type htype => ?_⟩
  · rw [get?_tracker h, Option.bind_eq_some_iff]
    exact exists_congr fun turn => and_congr_right' BindingResource.remembered?_eq_some_iff
  · exact ((isSound_of_reachable h).past turn hmem).tells (ControllerTurn.isOf_iff.1 hisOf)
  · refine (hstep.get?_tracker h id).imp_right fun ⟨turn, hpast, hisOf, htells, hget⟩ => ?_
    have hfrom := (isSound_of_reachable (h.tail hstep)).past turn (hpast ▸ List.mem_cons_self)
    exact ⟨turn, hpast, hisOf, htells, hfrom.tells (ControllerTurn.isOf_iff.1 hisOf), hget⟩
  · refine ⟨c.memory.tracker.leadsBack type, fun s w htracker id => ?_⟩
    rw [Simulation.mem_queue_seeWorkload htype, htracker]

/-! ## A run of two bindings -/

/-- A binding that mounts a secret in the deployments with a label. -/
def vaultTier : BindingResource where
  metadata := { name := some "vault", «namespace» := some "shop" }
  spec := .secret
    { subject := closingTier.spec.subject
      secret := "credentials"
      mountPath := some "/vault" }

/-- The identity of the binding. -/
def vaultId : BindingId := ⟨.secret, "shop", "vault"⟩

/-- A pass of one binding notes its subject. A pass of the other one cannot put the finalizer on it, the
next one can and notes the subject, and a replica without the lease leaves the first binding alone, that
is being deleted by then. -/
def tierRun : ControllerRun :=
  let bound := ({} : ControllerRun).carried usualDelays true livingTier (Call.uniform (.ok ())) 1
  let refused := bound.carried usualDelays true vaultTier (Call.uniform (.error (refusal 409))) 3
  let noted := refused.carried usualDelays true vaultTier (Call.uniform (.ok ())) 2
  noted.carried usualDelays false closingTier (Call.uniform (.ok ())) 4

/-- Both bindings are tracked in the run, and a deployment with the label leads back to both, the one that
mounts a secret first. -/
theorem tracked_of_reachable_tierRun :
    Relation.ReflTransGen (Step usualDelays) {} tierRun ∧
      tierRun.memory.tracker.subjects.get? tierId = some tierSubject ∧
      tierRun.memory.tracker.subjects.get? vaultId = some tierSubject ∧
      (BindingKind.all.flatMap fun k =>
        Controller.triggered k tierRun.memory.tracker tierType (bareTier "web").metadata) =
          [vaultId, tierId] := by
  have hreach : Relation.ReflTransGen (Step usualDelays) {} tierRun :=
    (((reaches_carried _ _ _ _ _).trans (reaches_carried _ _ _ _ _)).trans
      (reaches_carried _ _ _ _ _)).trans (reaches_carried _ _ _ _ _)
  obtain ⟨htracked, -, -, hevents⟩ := tracked_of_reachable hreach
  have htier := (htracked tierId tierSubject).2 ⟨_, rfl, rfl, rfl⟩
  have hvault := (htracked vaultId tierSubject).2 ⟨_, rfl, rfl, rfl⟩
  have htogether := ((hevents tierType (by decide)).1 (bareTier "web").metadata).together
  exact ⟨hreach, htier, hvault, htogether.trans (by decide +kernel)⟩

end ControllerRun

end WorkloadBindings
