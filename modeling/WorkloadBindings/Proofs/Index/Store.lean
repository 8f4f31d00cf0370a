import WorkloadBindings.Index.Store
import WorkloadBindings.Proofs.Binding.Basic
import WorkloadBindings.Proofs.Except

/-!
# What the store publishes is never stale

Calls report bindings to the store, and after each of them what was published last is what the
bindings of the moment give (`Store.isPublished_of_handleAll`): the snapshot is theirs, and the
gauges, once there are any, count them. A call that changes the bindings or the listed kinds
publishes once, and one that changes nothing publishes nothing. All hangs on the flag that
`Store.record` and `Store.take` return, which tells whether the bindings changed
(`Store.changes_of_record`, `Store.changes_take`).
-/

namespace WorkloadBindings

namespace Store

/-! ## Calls -/

/-- What the API reports to the store. -/
inductive Report where
  /-- A binding, as it is now. -/
  | applied (r : BindingResource)
  /-- A binding is gone. -/
  | deleted (id : BindingId)
  /-- All bindings of a kind, and those of it that are gone by namespace and name. -/
  | listed (k : BindingKind) (listing : List BindingResource) (removed : List (String × String))

/-- The bindings in a report. -/
def Report.resources : Report → List BindingResource
  | .applied r => [r]
  | .deleted _ => []
  | .listed _ listing _ => listing

/-- The store after a report. -/
def handle (s : Store) : Report → Except Abort Store
  | .applied r => s.apply r
  | .deleted id => .ok (s.delete id)
  | .listed k listing removed => s.reset k listing removed

/-- The store after some reports. -/
def handleAll (s : Store) (reports : List Report) : Except Abort Store := reports.foldlM handle s

/-! ## Recording and taking out -/

/-- The bindings after one was reported. -/
def recorded (bindings : SortedMap BindingId Binding) (r : BindingResource) :
    Except Abort (SortedMap BindingId Binding) := do
  let id ← r.id
  if r.isDeleting then .ok (bindings.erase id)
  else
    match ← Binding.ofResource r with
    | .ok b => .ok (bindings.insert id b)
    | .error _ => .ok (bindings.erase id)

/-- What was published is the same of two stores. -/
structure SamePublished (s t : Store) : Prop where
  snapshot : t.snapshot = s.snapshot
  notifications : t.notifications = s.notifications
  rebuilds : t.metrics.rebuilds = s.metrics.rebuilds
  gauges : t.metrics.gauges = s.metrics.gauges

theorem SamePublished.refl (s : Store) : s.SamePublished s := ⟨rfl, rfl, rfl, rfl⟩

theorem SamePublished.trans {s t u : Store} (h : s.SamePublished t) (h' : t.SamePublished u) :
    s.SamePublished u :=
  ⟨h'.snapshot.trans h.snapshot, h'.notifications.trans h.notifications,
    h'.rebuilds.trans h.rebuilds, h'.gauges.trans h.gauges⟩

/-- A change of the bindings that publishes nothing: the store after it has the new bindings, and the
flag tells whether they are new. -/
structure Changes (s : Store) (new : SortedMap BindingId Binding) (changed : Bool) (t : Store) :
    Prop where
  bindings : t.bindings = new
  listed : t.listed = s.listed
  same : s.SamePublished t
  flag : changed = false ↔ new = s.bindings

variable {s t : Store} {changed : Bool}

/-- Taking a binding out tells whether it was there. -/
theorem changes_take (s : Store) (id : BindingId) :
    s.Changes (s.bindings.erase id) (s.take id).1 (s.take id).2 := by
  refine ⟨rfl, rfl, ⟨rfl, rfl, rfl, rfl⟩, ?_⟩
  rw [SortedMap.erase_eq_self_iff]
  exact Option.isSome_eq_false_iff.trans Option.isNone_iff_eq_none

/-- Recording a binding puts it in, or takes it out, and tells whether that changed the bindings; it
is refused when the binding cannot be resolved. -/
theorem record_cases (s : Store) (r : BindingResource) :
    (∃ new changed t, recorded s.bindings r = .ok new ∧ s.record r = .ok (changed, t) ∧
      s.Changes new changed t) ∨
    ∃ cause, recorded s.bindings r = .error cause ∧ s.record r = .error cause := by
  unfold record recorded
  cases hid : r.id with
  | error cause => exact Or.inr ⟨cause, rfl, rfl⟩
  | ok id =>
    simp only [bind, Except.bind]
    by_cases hdeleting : r.isDeleting = true
    · rw [if_pos hdeleting, if_pos hdeleting]
      exact Or.inl ⟨_, _, _, rfl, rfl, changes_take s id⟩
    rw [if_neg hdeleting, if_neg hdeleting]
    cases Binding.ofResource r with
    | error cause => exact Or.inr ⟨cause, rfl, rfl⟩
    | ok found =>
      refine Or.inl ?_
      cases found with
      | ok b =>
        by_cases hold : s.bindings.get? id = some b
        · have hsame : s.bindings.insert id b = s.bindings := SortedMap.insert_eq_self_iff.2 hold
          exact ⟨_, false, s, rfl, if_pos hold, hsame.symm, rfl, .refl s,
            fun _ => hsame, fun _ => rfl⟩
        · refine ⟨_, true, _, rfl, if_neg hold, rfl, rfl, ⟨rfl, rfl, rfl, rfl⟩,
            fun h => absurd h (by decide), ?_⟩
          exact fun hsame => absurd (SortedMap.insert_eq_self_iff.1 hsame) hold
      | error fault =>
        -- A malformed binding is counted, and taken out.
        obtain ⟨hbindings, hlisted, -, hflag⟩ := changes_take { s with
          metrics := { s.metrics with malformed := s.metrics.malformed.modify r.kind (· + 1) } } id
        exact ⟨_, _, _, rfl, rfl, hbindings, hlisted, ⟨rfl, rfl, rfl, rfl⟩, hflag⟩

/-- What recording a binding does, when it is not refused. -/
theorem changes_of_record {r : BindingResource} (h : s.record r = .ok (changed, t)) :
    ∃ new, recorded s.bindings r = .ok new ∧ s.Changes new changed t := by
  rcases record_cases s r with ⟨new, changed', t', hnew, hrecord, hchanges⟩ | ⟨cause, -, hrecord⟩
  · rw [h] at hrecord
    obtain ⟨rfl, rfl⟩ := Prod.mk.inj (Except.ok.inj hrecord)
    exact ⟨new, hnew, hchanges⟩
  · rw [h] at hrecord
    cases hrecord

/-! ## Keys -/

/-- Every binding is stored under its identity, and has a mutation of its kind. -/
def IsKeyed (bindings : SortedMap BindingId Binding) : Prop :=
  ∀ id b, bindings.get? id = some b → b.id = id ∧ b.mutation.kind = id.kind

theorem IsKeyed.erase {bindings : SortedMap BindingId Binding} (h : IsKeyed bindings)
    (id : BindingId) : IsKeyed (bindings.erase id) := by
  intro id' b hb
  rw [SortedMap.get?_erase] at hb
  split at hb
  · cases hb
  · exact h id' b hb

/-- A binding that was recorded is stored under its identity, and has a mutation of its kind. -/
theorem IsKeyed.recorded {bindings new : SortedMap BindingId Binding} (h : IsKeyed bindings)
    {r : BindingResource} (hnew : recorded bindings r = .ok new) : IsKeyed new := by
  unfold Store.recorded at hnew
  cases hid : r.id with
  | error cause =>
    rw [hid] at hnew
    cases hnew
  | ok id =>
    rw [hid] at hnew
    simp only [bind, Except.bind] at hnew
    split at hnew
    · obtain rfl := Except.ok.inj hnew
      exact h.erase id
    · split at hnew
      · cases hnew
      · rename_i found hfound
        split at hnew <;> obtain rfl := Except.ok.inj hnew
        · -- The new binding is stored under its identity, the others as before.
          rename_i b
          have hb := Binding.of_ofResource hid hfound
          intro id' b' hb'
          rw [SortedMap.get?_insert] at hb'
          split at hb'
          · rename_i heq
            obtain rfl := Std.LawfulEqCmp.eq_of_compare heq
            obtain rfl := Option.some.inj hb'
            exact hb
          · exact h id' b' hb'
        · exact h.erase id

/-! ## Several bindings -/

/-- What a part of a call does before anything is published: the bindings stay stored under their
identities, and when the flag is not set they are as they were. -/
structure Sweeps (s : Store) (changed : Bool) (t : Store) : Prop where
  listed : t.listed = s.listed
  same : s.SamePublished t
  keyed : IsKeyed s.bindings → IsKeyed t.bindings
  settled : changed = false → t.bindings = s.bindings

theorem Sweeps.refl (s : Store) : s.Sweeps false s := ⟨rfl, .refl s, id, fun _ => rfl⟩

/-- One part after the other. -/
theorem Sweeps.trans {u : Store} {more : Bool} (h : s.Sweeps changed t) (h' : t.Sweeps more u) :
    s.Sweeps (changed || more) u where
  listed := h'.listed.trans h.listed
  same := h.same.trans h'.same
  keyed hs := h'.keyed (h.keyed hs)
  settled hflag := by
    rw [Bool.or_eq_false_iff] at hflag
    exact (h'.settled hflag.2).trans (h.settled hflag.1)

/-- A change of the bindings is a part of a call. -/
theorem Changes.sweeps {new : SortedMap BindingId Binding} (h : s.Changes new changed t)
    (hkeyed : IsKeyed s.bindings → IsKeyed new) : s.Sweeps changed t where
  listed := h.listed
  same := h.same
  keyed hs := h.bindings ▸ hkeyed hs
  settled hflag := h.bindings.trans (h.flag.1 hflag)

/-- When no binding of a list changes the bindings, the flag is not set. -/
theorem recordAll_sweeps {listing : List BindingResource}
    (h : s.recordAll listing = .ok (changed, t)) :
    s.Sweeps changed t ∧
      ((∀ r ∈ listing, ∀ new, recorded s.bindings r = .ok new → new = s.bindings) →
        changed = false) := by
  induction listing generalizing s changed t with
  | nil =>
    obtain ⟨rfl, rfl⟩ := Prod.mk.inj (Except.ok.inj h)
    exact ⟨.refl s, fun _ => rfl⟩
  | cons r rest ih =>
    unfold recordAll at h
    obtain ⟨⟨changed₁, t₁⟩, hfirst, h⟩ := exists_of_bind_eq_ok h
    obtain ⟨⟨changed₂, t₂⟩, hrest, h⟩ := exists_of_bind_eq_ok h
    obtain ⟨rfl, rfl⟩ := Prod.mk.inj (Except.ok.inj h)
    obtain ⟨new, hnew, hchanges⟩ := changes_of_record hfirst
    obtain ⟨hsweeps, hidle⟩ := ih hrest
    refine ⟨(hchanges.sweeps fun hs => hs.recorded hnew).trans hsweeps, fun hnone => ?_⟩
    -- The first one changes nothing, so that the others find the same bindings.
    have hsame : new = s.bindings := hnone r List.mem_cons_self new hnew
    have hflag : changed₁ = false := hchanges.flag.2 hsame
    have hbindings : t₁.bindings = s.bindings := hchanges.bindings.trans hsame
    have hothers : changed₂ = false := by
      refine hidle fun r' hr' new' hnew' => ?_
      rw [hbindings] at hnew' ⊢
      exact hnone r' (List.mem_cons_of_mem _ hr') new' hnew'
    rw [hflag, hothers, Bool.or_false]

/-- When none of some bindings is there, the flag is not set. -/
theorem takeAll_sweeps (s : Store) (ids : List BindingId) :
    s.Sweeps (s.takeAll ids).1 (s.takeAll ids).2 ∧
      ((∀ id ∈ ids, s.bindings.erase id = s.bindings) → (s.takeAll ids).1 = false) := by
  induction ids generalizing s with
  | nil => exact ⟨.refl s, fun _ => rfl⟩
  | cons id rest ih =>
    obtain ⟨hsweeps, hidle⟩ := ih (s.take id).2
    have hchanges := changes_take s id
    refine ⟨(hchanges.sweeps fun hs => hs.erase id).trans hsweeps, fun hnone => ?_⟩
    have hsame : s.bindings.erase id = s.bindings := hnone id List.mem_cons_self
    have hflag : (s.take id).1 = false := hchanges.flag.2 hsame
    have hothers : ((s.take id).2.takeAll rest).1 = false := by
      refine hidle fun id' hid' => ?_
      show (s.bindings.erase id).erase id' = s.bindings.erase id
      rw [hsame]
      exact hnone id' (List.mem_cons_of_mem _ hid')
    show ((s.take id).1 || ((s.take id).2.takeAll rest).1) = false
    rw [hflag, hothers, Bool.or_false]

/-! ## Publishing -/

/-- The gauges tell how many bindings of each kind are stored, and how many entries a snapshot has: one
for each workload that is named, and one for each binding that selects by labels. -/
structure Gauges (g : IndexGauges) (bindings : SortedMap BindingId Binding) (snapshot : Snapshot) :
    Prop where
  secret : g.bindings.secret = bindings.entries.countP fun e => e.1.kind = .secret
  env : g.bindings.env = bindings.entries.countP fun e => e.1.kind = .env
  exact : g.exact =
    snapshot.kinds.secret.exact.entries.length + snapshot.kinds.env.exact.entries.length
  inexact : g.inexact =
    ((snapshot.kinds.secret.inexact.entries ++ snapshot.kinds.env.inexact.entries).flatMap
      Prod.snd).length

/-- What was published last is what the bindings give. -/
structure IsPublished (s : Store) : Prop where
  keyed : IsKeyed s.bindings
  snapshot : s.snapshot = .rebuild s.bindings.values
  gauges : s.metrics.rebuilds ≠ 0 →
    ∃ g, s.metrics.gauges = some g ∧ Gauges g s.bindings s.snapshot

/-- The bindings of a kind are counted by their identities. -/
theorem count_eq_countP (s : Store) (k : BindingKind) :
    s.count k = s.bindings.entries.countP fun e => e.1.kind = k := by
  unfold count SortedMap.keys
  rw [← List.countP_eq_length_filter, List.countP_map]
  exact List.countP_congr fun e _ => by simp

/-- What is published of some bindings are their counts. -/
theorem gauges_publish (s : Store) :
    ∃ g, s.publish.metrics.gauges = some g ∧ Gauges g s.publish.bindings s.publish.snapshot := by
  -- The bindings that select in a place are counted together.
  have hcount : ∀ index : KindIndex,
      index.inexactCount = (index.inexact.entries.flatMap Prod.snd).length := fun index => by
    unfold KindIndex.inexactCount SortedMap.values
    rw [List.foldr_map, List.length_flatMap, List.sum_eq_foldr, List.foldr_map]
  refine ⟨_, rfl, count_eq_countP s .secret, count_eq_countP s .env, rfl, ?_⟩
  rw [List.flatMap_append, List.length_append, ← hcount, ← hcount]
  rfl

/-- Publishing leaves the bindings. -/
theorem bindings_publishIf (changed : Bool) (s : Store) :
    (publishIf changed s).bindings = s.bindings := by
  cases changed <;> rfl

/-- The store published once since. -/
structure PublishedOnce (s t : Store) : Prop where
  notifications : t.notifications = s.notifications + 1
  rebuilds : t.metrics.rebuilds = s.metrics.rebuilds + 1

/-- A report changes nothing: neither the binding that is reported, nor any one in a listing of a kind
that was listed before, nor any one that is gone since. -/
def Report.IsIdle (s t : Store) : Report → Prop
  | .applied _ => t.bindings = s.bindings
  | .deleted _ => t.bindings = s.bindings
  | .listed k listing removed => s.listed.get k = true ∧
    (∀ r ∈ listing, ∀ u, s.apply r = .ok u → u.bindings = s.bindings) ∧
    ∀ e ∈ removed, (s.delete ⟨k, e.1, e.2⟩).bindings = s.bindings

/-- What a call does before it publishes anything. The flag is set when the bindings or the listed
kinds changed, and it is not when the call is to change nothing. -/
structure Prepares (s : Store) (idle : Prop) (changed : Bool) (u : Store) : Prop where
  same : s.SamePublished u
  keyed : IsKeyed s.bindings → IsKeyed u.bindings
  settled : changed = false → u.bindings = s.bindings ∧ u.listed = s.listed
  unset : idle → changed = false

/-- Before anything is published, the binding that is reported is recorded. -/
theorem exists_of_apply {r : BindingResource} (h : s.apply r = .ok t) :
    ∃ changed u, t = publishIf changed u ∧ s.Prepares (t.bindings = s.bindings) changed u := by
  obtain ⟨⟨changed, u⟩, hrecord, rfl⟩ := exists_of_map_eq_ok h
  obtain ⟨new, hnew, hchanges⟩ := changes_of_record hrecord
  refine ⟨changed, u, rfl, hchanges.same, fun hs => hchanges.bindings ▸ hs.recorded hnew,
    fun hflag => ⟨hchanges.bindings.trans (hchanges.flag.1 hflag), hchanges.listed⟩, fun hidle => ?_⟩
  rw [bindings_publishIf] at hidle
  exact hchanges.flag.2 (hchanges.bindings.symm.trans hidle)

/-- Before anything is published, the binding that is gone is taken out. -/
theorem exists_of_delete (s : Store) (id : BindingId) :
    ∃ changed u, s.delete id = publishIf changed u ∧
      s.Prepares ((s.delete id).bindings = s.bindings) changed u := by
  have hchanges := changes_take s id
  refine ⟨_, _, rfl, hchanges.same, fun hs => hs.erase id,
    fun hflag => ⟨hchanges.flag.1 hflag, rfl⟩, fun hidle => ?_⟩
  exact hchanges.flag.2 ((bindings_publishIf _ _).symm.trans hidle)

/-- When no binding that is reported changes the bindings, recording none of them does. -/
theorem recorded_eq_of_apply {r : BindingResource}
    (h : ∀ u, s.apply r = .ok u → u.bindings = s.bindings) {new : SortedMap BindingId Binding}
    (hnew : recorded s.bindings r = .ok new) : new = s.bindings := by
  rcases record_cases s r with ⟨new', flag, v, hnew', hrecord, hchanges⟩ | ⟨cause, hcause, -⟩
  · obtain rfl := Except.ok.inj (hnew.symm.trans hnew')
    have happly := h (publishIf flag v) (by rw [apply, hrecord, Except.map])
    rw [bindings_publishIf, hchanges.bindings] at happly
    exact happly
  · cases hnew.symm.trans hcause

/-- Before anything is published, the bindings that are listed are recorded, and those that are gone
are taken out. -/
theorem exists_of_reset {k : BindingKind} {listing : List BindingResource}
    {removed : List (String × String)} (h : s.reset k listing removed = .ok t) :
    ∃ changed u, t = publishIf changed u ∧
      s.Prepares ((Report.listed k listing removed).IsIdle s t) changed u := by
  unfold reset at h
  obtain ⟨⟨changed, u⟩, hrecord, h⟩ := exists_of_bind_eq_ok h
  obtain rfl := Except.ok.inj h
  obtain ⟨hrecords, hnothing⟩ := recordAll_sweeps hrecord
  obtain ⟨htakes, hgone⟩ := takeAll_sweeps u (removed.map fun e => ⟨k, e.1, e.2⟩)
  have hsweeps := hrecords.trans htakes
  obtain ⟨hsnapshot, hnotifications, hrebuilds, hgauges⟩ := hsweeps.same
  refine ⟨_, _, rfl, ⟨hsnapshot, hnotifications, hrebuilds, hgauges⟩, hsweeps.keyed,
    fun hflag => ?_, fun hidle => ?_⟩
  · rw [Bool.or_assoc, Bool.or_eq_false_iff, Bool.not_eq_false'] at hflag
    refine ⟨hsweeps.settled hflag.2, hsweeps.listed.trans ?_⟩
    -- The kind was listed before.
    exact PerKind.modify_of_get hflag.1
  · obtain ⟨hlisted, happlied, hdeleted⟩ := hidle
    have hchanged : changed = false :=
      hnothing fun r hr new hnew => recorded_eq_of_apply (happlied r hr) hnew
    have htaken : (u.takeAll (removed.map fun e => ⟨k, e.1, e.2⟩)).1 = false := by
      refine hgone (List.forall_mem_map.2 fun e he => ?_)
      rw [hrecords.settled hchanged]
      exact (bindings_publishIf _ _).symm.trans (hdeleted e he)
    show (!s.listed.get k || changed || _) = false
    rw [hlisted, hchanged, htaken]
    rfl

/-- A report is handled in a part that publishes nothing, and then what comes of it is published if
the flag is set. -/
theorem exists_of_handle {report : Report} (h : s.handle report = .ok t) :
    ∃ changed u, t = publishIf changed u ∧ s.Prepares (report.IsIdle s t) changed u := by
  cases report with
  | applied r => exact exists_of_apply h
  | deleted id =>
    obtain rfl := Except.ok.inj h
    exact exists_of_delete s id
  | listed k listing removed => exact exists_of_reset h

/-- A binding with an identity and a mutation is recorded. -/
theorem exists_record (s : Store) {r : BindingResource} (hr : r.IsResolvable) :
    ∃ changed t, s.record r = .ok (changed, t) := by
  obtain ⟨⟨id, hid⟩, m, hm⟩ := hr
  rcases record_cases s r with ⟨-, changed, t, -, ht, -⟩ | ⟨cause, hcause, -⟩
  · exact ⟨changed, t, ht⟩
  · unfold recorded Binding.ofResource at hcause
    rw [hid, hm] at hcause
    simp only [bind, Except.bind] at hcause
    split at hcause
    · cases hcause
    · cases hsubject : r.subject with
      | error fault =>
        rw [hsubject] at hcause
        cases hcause
      | ok subject =>
        rw [hsubject] at hcause
        cases hcause

/-- A store does not count a binding that resolves. -/
theorem record_of_ofResource (s : Store) {r : BindingResource} {b : Binding}
    (h : Binding.ofResource r = .ok (.ok b)) :
    ∃ changed t, s.record r = .ok (changed, t) ∧ t.metrics = s.metrics := by
  obtain ⟨hid, -, -⟩ := Binding.ofResource_eq_ok_iff.1 h
  unfold record
  rw [hid, h]
  simp only [bind, Except.bind]
  split
  · exact ⟨_, _, rfl, rfl⟩
  · split
    · exact ⟨_, _, rfl, rfl⟩
    · exact ⟨_, _, rfl, rfl⟩

/-- Bindings with identities and mutations are recorded. -/
theorem exists_recordAll (s : Store) {listing : List BindingResource}
    (h : ∀ r ∈ listing, r.IsResolvable) :
    ∃ changed t, s.recordAll listing = .ok (changed, t) := by
  induction listing generalizing s with
  | nil => exact ⟨_, _, rfl⟩
  | cons r rest ih =>
    -- Whether a binding is recorded does not depend on what is stored.
    obtain ⟨changed, t, ht⟩ := exists_record s (h r List.mem_cons_self)
    obtain ⟨more, u, hu⟩ := ih t fun r hr => h r (List.mem_cons_of_mem _ hr)
    refine ⟨changed || more, u, ?_⟩
    rw [recordAll, ht]
    simp only [bind, Except.bind, hu]

/-- A report is handled when its bindings have identities and mutations. -/
theorem exists_handle (s : Store) {report : Report} (h : ∀ r ∈ report.resources, r.IsResolvable) :
    ∃ t, s.handle report = .ok t := by
  cases report with
  | applied r =>
    obtain ⟨changed, t, ht⟩ := exists_record s (h r List.mem_cons_self)
    exact ⟨publishIf changed t, by rw [handle, apply, ht, Except.map]⟩
  | deleted id => exact ⟨_, rfl⟩
  | listed k listing removed =>
    have hlisting : ∀ r ∈ listing, r.IsResolvable := h
    obtain ⟨changed, t, ht⟩ :=
      exists_recordAll { s with listed := s.listed.modify k fun _ => true } hlisting
    exact ⟨_, by rw [handle, reset, ht]; rfl⟩

/-- Reports are handled when their bindings have identities and mutations. -/
theorem exists_handleAll (s : Store) {reports : List Report}
    (h : ∀ report ∈ reports, ∀ r ∈ report.resources, r.IsResolvable) :
    ∃ t, s.handleAll reports = .ok t := by
  induction reports generalizing s with
  | nil => exact ⟨s, rfl⟩
  | cons report rest ih =>
    obtain ⟨t, ht⟩ := exists_handle s (h report List.mem_cons_self)
    obtain ⟨u, hu⟩ := ih t fun report hreport => h report (List.mem_cons_of_mem _ hreport)
    refine ⟨u, ?_⟩
    unfold handleAll at hu ⊢
    rw [List.foldlM_cons, ht]
    exact hu

/-- What was published last is what the bindings give after a report, when it was before. -/
theorem IsPublished.handle (hs : s.IsPublished) {report : Report} (h : s.handle report = .ok t) :
    t.IsPublished := by
  obtain ⟨changed, u, rfl, hsame, hkeyed, hsettled, -⟩ := exists_of_handle h
  cases changed with
  | true => exact ⟨hkeyed hs.keyed, rfl, fun _ => gauges_publish u⟩
  | false =>
    -- Nothing is published, but the bindings are those of the last time.
    obtain ⟨hbindings, -⟩ := hsettled rfl
    refine ⟨hkeyed hs.keyed, ?_, fun hrebuilds => ?_⟩
    · show u.snapshot = .rebuild u.bindings.values
      rw [hsame.snapshot, hbindings, hs.snapshot]
    · have hbefore : s.metrics.rebuilds ≠ 0 := hsame.rebuilds ▸ hrebuilds
      obtain ⟨g, hg, hgauges⟩ := hs.gauges hbefore
      refine ⟨g, hsame.gauges.trans hg, ?_⟩
      show Gauges g u.bindings u.snapshot
      rw [hbindings, hsame.snapshot]
      exact hgauges

/-- What was published last is what the bindings give after reports, when it was before. -/
theorem IsPublished.handleAll (hs : s.IsPublished) {reports : List Report}
    (h : s.handleAll reports = .ok t) : t.IsPublished := by
  induction reports generalizing s with
  | nil =>
    obtain rfl := Except.ok.inj h
    exact hs
  | cons report rest ih =>
    unfold Store.handleAll at h
    rw [List.foldlM_cons] at h
    obtain ⟨u, hfirst, hrest⟩ := exists_of_bind_eq_ok h
    exact ih (hs.handle hfirst) hrest

/-- A store without bindings has published what they give. -/
theorem isPublished_empty : ({} : Store).IsPublished := by
  refine ⟨fun id b hb => ?_, rfl, fun hrebuilds => ?_⟩
  · cases hb
  · exact absurd rfl hrebuilds

/-- Any reports are handled whose bindings have identities and mutations. After reports that were
handled, what was published last is what the bindings give, and a further report makes the store
publish once when it changes the bindings or the listed kinds, and not at all when it changes nothing.
-/
theorem isPublished_of_handleAll (reports : List Report) :
    ((∀ report ∈ reports, ∀ r ∈ report.resources, r.IsResolvable) →
      ∃ s, ({} : Store).handleAll reports = .ok s) ∧
    ∀ s, ({} : Store).handleAll reports = .ok s → s.IsPublished ∧
      ∀ report t, s.handle report = .ok t →
        t.IsPublished ∧
        (t.bindings ≠ s.bindings ∨ t.listed ≠ s.listed → s.PublishedOnce t) ∧
        (report.IsIdle s t → s.SamePublished t) := by
  refine ⟨exists_handleAll {}, fun s h => ?_⟩
  have hs := isPublished_empty.handleAll h
  refine ⟨hs, fun report t ht => ⟨hs.handle ht, ?_, ?_⟩⟩
  · intro hchanged
    obtain ⟨changed, u, rfl, hsame, -, hsettled, -⟩ := exists_of_handle ht
    cases changed with
    | true =>
      exact ⟨congrArg (· + 1) hsame.notifications, congrArg (· + 1) hsame.rebuilds⟩
    | false =>
      obtain ⟨hbindings, hlisted⟩ := hsettled rfl
      rcases hchanged with hne | hne
      · exact absurd hbindings hne
      · exact absurd hlisted hne
  · intro hidle
    obtain ⟨changed, u, rfl, hsame, -, -, hflag⟩ := exists_of_handle ht
    rw [hflag hidle]
    exact hsame

/-- A binding that sets a variable in the pods of a deployment. -/
def modeBinding : BindingResource where
  metadata := { name := some "mode", «namespace» := some "shop" }
  spec := .env
    { subject :=
        { apiVersion := "apps/v1", kind := "Deployment", «namespace» := none, name := some "web"
          selector := none }
      env := [⟨"MODE", "fast"⟩] }

/-- The store after a listing of the binding. -/
def listedStore : Store :=
  (({} : Store).handleAll [.listed .env [modeBinding] []]).toOption.getD {}

/-- A listing publishes its binding, with gauges that count it, and the report that the binding is gone
makes the store publish once more. -/
theorem isPublished_of_handleAll_listedStore : ∃ t : Store,
    ({} : Store).handleAll [.listed .env [modeBinding] []] = .ok listedStore ∧
      listedStore.handle (.deleted ⟨.env, "shop", "mode"⟩) = .ok t ∧
      listedStore.bindings.size = 1 ∧ listedStore.metrics.gauges = some ⟨⟨0, 1⟩, 1, 0⟩ ∧
      listedStore.IsPublished ∧ t.IsPublished ∧ listedStore.PublishedOnce t := by
  obtain ⟨hhandled, hpublished⟩ := isPublished_of_handleAll [.listed .env [modeBinding] []]
  have hmode : modeBinding.IsResolvable := BindingResource.isResolvable_of_name rfl rfl
  have hresolvable : ∀ report ∈ [Report.listed .env [modeBinding] []], ∀ r ∈ report.resources,
      r.IsResolvable :=
    List.forall_mem_singleton.2 (List.forall_mem_singleton.2 hmode)
  obtain ⟨s, hs⟩ := hhandled hresolvable
  obtain rfl : listedStore = s := by rw [listedStore, hs]; rfl
  obtain ⟨hlisted, hreports⟩ := hpublished listedStore hs
  have hchanged : (listedStore.delete ⟨.env, "shop", "mode"⟩).bindings ≠ listedStore.bindings := by
    decide
  obtain ⟨hdeleted, honce, -⟩ := hreports (.deleted ⟨.env, "shop", "mode"⟩) _ rfl
  exact ⟨_, hs, rfl, by decide, by decide, hlisted, hdeleted, honce (Or.inl hchanged)⟩

end Store

end WorkloadBindings
