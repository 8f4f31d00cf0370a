import Mathlib.Data.List.Dedup
import Mathlib.Data.List.Induction
import WorkloadBindings.Proofs.Index.Store

/-!
# The last word on each binding

A report is made of statements: that a binding is there, as a resource, or that it is gone. What the
store holds of a binding depends on the last statement about it and on nothing else
(`Store.get?_of_foldlM_heed`), and so two runs of reports whose last statements agree, and that
listed the same kinds, end with the same bindings and the same view of them
(`Store.determined_of_handleAll`). The reports of the two watches are about different bindings, so
that it does not matter how they are interleaved (`Store.SameWatches.sameEnd`).
-/

namespace WorkloadBindings

namespace Store

/-! ## Statements -/

/-- What a report says of one binding. -/
inductive Statement where
  /-- The binding is there, as this resource. -/
  | present (r : BindingResource)
  /-- The binding is gone. -/
  | gone (id : BindingId)
  deriving DecidableEq

/-- The statement is about a binding. -/
def Statement.isAbout (id : BindingId) : Statement → Bool
  | .present r => r.id = .ok id
  | .gone id' => id' = id

/-- The binding that a statement leaves in the store: that of the resource, unless it is being
deleted or its subject does not resolve. -/
def Statement.binding? : Statement → Option Binding
  | .present r =>
    if r.isDeleting then none
    else
      match Binding.ofResource r with
      | .ok (.ok b) => some b
      | _ => none
  | .gone _ => none

/-- The statements of a report, in order. What is gone since the last listing counts after what is
listed. -/
def Report.statements : Report → List Statement
  | .applied r => [.present r]
  | .deleted id => [.gone id]
  | .listed k listing removed =>
    listing.map .present ++ removed.map fun e => .gone ⟨k, e.1, e.2⟩

/-- The last statement about a binding in some reports. -/
def lastAbout (reports : List Report) (id : BindingId) : Option Statement :=
  ((reports.flatMap Report.statements).filter (·.isAbout id)).getLast?

/-- The bindings after a statement. -/
def heed (bindings : SortedMap BindingId Binding) :
    Statement → Except Abort (SortedMap BindingId Binding)
  | .present r => recorded bindings r
  | .gone id => .ok (bindings.erase id)

/-! ## One statement -/

variable {s t : Store} {bindings new : SortedMap BindingId Binding} {statement : Statement}

/-- A statement settles what is held of the binding that it is about, and leaves the others. -/
theorem get?_heed (h : heed bindings statement = .ok new) (id : BindingId) :
    new.get? id = if statement.isAbout id then statement.binding? else bindings.get? id := by
  cases statement with
  | gone id' =>
    obtain rfl := Except.ok.inj h
    rw [SortedMap.get?_erase]
    by_cases hid : id' = id
    · simp [Statement.isAbout, Statement.binding?, hid]
    · have hne : compare id id' ≠ .eq := fun heq => hid (Std.LawfulEqCmp.eq_of_compare heq).symm
      simp [Statement.isAbout, hid, hne]
  | present r =>
    have hrecorded : recorded bindings r = .ok new := h
    unfold recorded at hrecorded
    obtain ⟨id', hid', hrest⟩ := exists_of_bind_eq_ok hrecorded
    have habout : (Statement.present r).isAbout id = decide (id' = id) := by
      simp [Statement.isAbout, hid']
    have hcompare : (compare id id' = .eq) ↔ id' = id :=
      ⟨fun heq => (Std.LawfulEqCmp.eq_of_compare heq).symm, fun heq => heq ▸ Std.compare_self⟩
    have herased : new = bindings.erase id' → (Statement.present r).binding? = none →
        new.get? id = if (Statement.present r).isAbout id then (Statement.present r).binding?
          else bindings.get? id := by
      rintro rfl hnone
      simp [SortedMap.get?_erase, hcompare, habout, hnone]
    by_cases hdeleting : r.isDeleting = true
    · rw [if_pos hdeleting] at hrest
      exact herased (Except.ok.inj hrest).symm (by simp [Statement.binding?, hdeleting])
    · rw [if_neg hdeleting] at hrest
      obtain ⟨found, hfound, hrest⟩ := exists_of_bind_eq_ok hrest
      cases found with
      | error fault =>
        exact herased (Except.ok.inj hrest).symm (by simp [Statement.binding?, hfound])
      | ok b =>
        obtain rfl := Except.ok.inj hrest
        simp [SortedMap.get?_insert, hcompare, habout, Statement.binding?, hdeleting, hfound]

/-- A resource that was heeded and is not being deleted has been resolved as far as it can be. -/
theorem exists_ofResource_of_heed {r : BindingResource}
    (h : heed bindings (.present r) = .ok new) (hliving : r.isDeleting = false) :
    ∃ found, Binding.ofResource r = .ok found := by
  have hrecorded : recorded bindings r = .ok new := h
  unfold recorded at hrecorded
  obtain ⟨id, -, hrest⟩ := exists_of_bind_eq_ok hrecorded
  rw [hliving, if_neg Bool.false_ne_true] at hrest
  obtain ⟨found, hfound, -⟩ := exists_of_bind_eq_ok hrest
  exact ⟨found, hfound⟩

/-! ## Several statements -/

/-- What is held of a binding after some statements is what the last one about it leaves, or what was
held before when there is none. -/
theorem get?_of_foldlM_heed {statements : List Statement}
    (h : statements.foldlM heed bindings = .ok new) (id : BindingId) :
    new.get? id =
      ((statements.filter (·.isAbout id)).getLast?).elim (bindings.get? id) Statement.binding? := by
  induction statements using List.reverseRecOn generalizing new with
  | nil =>
    obtain rfl := Except.ok.inj h
    rfl
  | append_singleton statements last ih =>
    rw [List.foldlM_append] at h
    obtain ⟨middle, hbefore, h⟩ := exists_of_bind_eq_ok h
    rw [List.foldlM_cons] at h
    obtain ⟨new, hlast, h⟩ := exists_of_bind_eq_ok h
    obtain rfl := Except.ok.inj h
    rw [get?_heed hlast, ih hbefore, List.filter_append, List.getLast?_append, List.filter_singleton]
    cases last.isAbout id <;> rfl

/-- Each of some statements that were heeded was heeded at some time. -/
theorem exists_heed_of_mem {statements : List Statement}
    (h : statements.foldlM heed bindings = .ok new) (hmem : statement ∈ statements) :
    ∃ before after, heed before statement = .ok after := by
  induction statements generalizing bindings with
  | nil => cases hmem
  | cons first rest ih =>
    rw [List.foldlM_cons] at h
    obtain ⟨middle, hfirst, hrest⟩ := exists_of_bind_eq_ok h
    rcases List.mem_cons.1 hmem with rfl | hmem
    · exact ⟨bindings, middle, hfirst⟩
    · exact ih hrest hmem

/-! ## Reports -/

/-- Recording a list of bindings heeds them one after the other. -/
theorem foldlM_heed_of_recordAll {listing : List BindingResource} {changed : Bool}
    (h : s.recordAll listing = .ok (changed, t)) :
    (listing.map Statement.present).foldlM heed s.bindings = .ok t.bindings := by
  induction listing generalizing s changed t with
  | nil =>
    obtain ⟨-, rfl⟩ := Prod.mk.inj (Except.ok.inj h)
    rfl
  | cons r rest ih =>
    unfold recordAll at h
    obtain ⟨⟨first, u⟩, hfirst, h⟩ := exists_of_bind_eq_ok h
    obtain ⟨⟨more, v⟩, hrest, h⟩ := exists_of_bind_eq_ok h
    obtain ⟨-, rfl⟩ := Prod.mk.inj (Except.ok.inj h)
    obtain ⟨new, hnew, hchanges⟩ := changes_of_record hfirst
    rw [List.map_cons, List.foldlM_cons, heed, hnew, ← hchanges.bindings]
    exact ih hrest

/-- Taking out some bindings heeds that they are gone. -/
theorem foldlM_heed_takeAll (s : Store) (ids : List BindingId) :
    (ids.map Statement.gone).foldlM heed s.bindings = .ok (s.takeAll ids).2.bindings := by
  induction ids generalizing s with
  | nil => rfl
  | cons id rest ih => exact ih (s.take id).2

/-- A listing is recorded, what is gone since is taken out, and then it may be published. -/
theorem exists_recordAll_of_reset {k : BindingKind} {listing : List BindingResource}
    {removed : List (String × String)} (h : s.reset k listing removed = .ok t) :
    ∃ changed published u,
      { s with listed := s.listed.modify k fun _ => true }.recordAll listing = .ok (changed, u) ∧
        t = publishIf published (u.takeAll (removed.map fun e => ⟨k, e.1, e.2⟩)).2 := by
  unfold reset at h
  obtain ⟨⟨changed, u⟩, hrecord, h⟩ := exists_of_bind_eq_ok h
  obtain rfl := Except.ok.inj h
  exact ⟨changed, _, u, hrecord, rfl⟩

/-- The bindings after a report are those after its statements. -/
theorem foldlM_heed_of_handle {report : Report} (h : s.handle report = .ok t) :
    report.statements.foldlM heed s.bindings = .ok t.bindings := by
  cases report with
  | applied r =>
    obtain ⟨⟨changed, u⟩, hrecord, rfl⟩ := exists_of_map_eq_ok h
    obtain ⟨new, hnew, hchanges⟩ := changes_of_record hrecord
    rw [bindings_publishIf, hchanges.bindings, Report.statements, List.foldlM_cons, heed, hnew]
    rfl
  | deleted id =>
    obtain rfl := Except.ok.inj h
    unfold delete
    rw [bindings_publishIf]
    rfl
  | listed k listing removed =>
    obtain ⟨changed, published, u, hrecord, rfl⟩ := exists_recordAll_of_reset h
    have hlisting := foldlM_heed_of_recordAll hrecord
    have hremoved := foldlM_heed_takeAll u (removed.map fun e => ⟨k, e.1, e.2⟩)
    rw [List.map_map] at hremoved
    rw [bindings_publishIf, Report.statements, List.foldlM_append, hlisting]
    exact hremoved

/-- The bindings after some reports are those after their statements. -/
theorem foldlM_heed_of_handleAll {reports : List Report} (h : s.handleAll reports = .ok t) :
    (reports.flatMap Report.statements).foldlM heed s.bindings = .ok t.bindings := by
  induction reports generalizing s with
  | nil =>
    obtain rfl := Except.ok.inj h
    rfl
  | cons report rest ih =>
    unfold handleAll at h
    rw [List.foldlM_cons] at h
    obtain ⟨u, hfirst, hrest⟩ := exists_of_bind_eq_ok h
    rw [List.flatMap_cons, List.foldlM_append, foldlM_heed_of_handle hfirst]
    exact ih hrest

/-- The kind that a report lists, if it is a listing. -/
def Report.listedKind? : Report → Option BindingKind
  | .listed k _ _ => some k
  | _ => none

/-- A report makes the kind that it lists a listed one, and no other. -/
theorem get_listed_handle {report : Report} (h : s.handle report = .ok t) (k : BindingKind) :
    t.listed.get k = (s.listed.get k || report.listedKind? == some k) := by
  have hpublish : ∀ (changed : Bool) (u : Store), (publishIf changed u).listed = u.listed := by
    intro changed u
    cases changed <;> rfl
  cases report with
  | applied r =>
    obtain ⟨⟨changed, u⟩, hrecord, rfl⟩ := exists_of_map_eq_ok h
    obtain ⟨new, -, hchanges⟩ := changes_of_record hrecord
    rw [hpublish, hchanges.listed]
    exact (Bool.or_false _).symm
  | deleted id =>
    obtain rfl := Except.ok.inj h
    unfold delete
    rw [hpublish]
    exact (Bool.or_false _).symm
  | listed k' listing removed =>
    obtain ⟨changed, published, u, hrecord, rfl⟩ := exists_recordAll_of_reset h
    have hsweeps := (recordAll_sweeps hrecord).1.trans
      (takeAll_sweeps u (removed.map fun e => ⟨k', e.1, e.2⟩)).1
    rw [hpublish, hsweeps.listed, PerKind.get_modify]
    by_cases hk : k' = k
    · simp [Report.listedKind?, hk]
    · simp [Report.listedKind?, hk]

/-- The kinds that are listed after some reports were listed before or are listed by one of them. -/
theorem get_listed_handleAll {reports : List Report} (h : s.handleAll reports = .ok t)
    (k : BindingKind) :
    t.listed.get k = (s.listed.get k || reports.any fun report => report.listedKind? == some k) := by
  induction reports generalizing s with
  | nil =>
    obtain rfl := Except.ok.inj h
    exact (Bool.or_false _).symm
  | cons report rest ih =>
    unfold handleAll at h
    rw [List.foldlM_cons] at h
    obtain ⟨u, hfirst, hrest⟩ := exists_of_bind_eq_ok h
    rw [ih hrest, get_listed_handle hfirst, List.any_cons, Bool.or_assoc]

/-! ## Runs that come to the same -/

/-- Two runs of reports come to the same: they end with the same statement about each binding, and
list the same kinds. -/
structure SameEnd (reports reports' : List Report) : Prop where
  last : ∀ id, lastAbout reports id = lastAbout reports' id
  listed : ∀ k : BindingKind, (∃ report ∈ reports, report.listedKind? = some k) ↔
    ∃ report ∈ reports', report.listedKind? = some k

/-- What two stores show of their bindings is the same. -/
structure SameView (s t : Store) : Prop where
  bindings : s.bindings = t.bindings
  listed : s.listed = t.listed
  synced : s.isSynced = t.isSynced
  rules : s.rules = t.rules
  snapshot : s.snapshot = t.snapshot
  lookup : ∀ target, s.snapshot.lookup target = t.snapshot.lookup target

/-- The kind of binding that the watch of a report is about. -/
def Report.kind : Report → BindingKind
  | .applied r => r.kind
  | .deleted id => id.kind
  | .listed k _ _ => k

/-- Two runs of reports are made of the same reports of each watch, in the same order, interleaved in
any way. A watch lists the bindings of its kind only. -/
structure SameWatches (reports reports' : List Report) : Prop where
  uniform : ∀ report ∈ reports ++ reports', ∀ r ∈ report.resources, r.kind = report.kind
  watch : ∀ k, reports.filter (·.kind == k) = reports'.filter (·.kind == k)

/-- The statements of a watch are about bindings of its kind. -/
theorem kind_of_isAbout {report : Report} (h : ∀ r ∈ report.resources, r.kind = report.kind)
    {statement : Statement} (hmem : statement ∈ report.statements) {id : BindingId}
    (habout : statement.isAbout id = true) : report.kind = id.kind := by
  have hpresent : ∀ r ∈ report.resources, (Statement.present r).isAbout id = true →
      report.kind = id.kind := by
    intro r hr hid
    rw [← h r hr]
    exact (BindingResource.kind_of_id (of_decide_eq_true hid)).symm
  cases report with
  | applied r =>
    obtain rfl := List.mem_singleton.1 hmem
    exact hpresent r List.mem_cons_self habout
  | deleted id' =>
    obtain rfl := List.mem_singleton.1 hmem
    exact congrArg BindingId.kind (of_decide_eq_true habout)
  | listed k listing removed =>
    rcases List.mem_append.1 hmem with hlisted | hgone
    · obtain ⟨r, hr, rfl⟩ := List.mem_map.1 hlisted
      exact hpresent r hr habout
    · obtain ⟨e, -, rfl⟩ := List.mem_map.1 hgone
      exact congrArg BindingId.kind (of_decide_eq_true habout)

/-- The statements about a binding are all in the reports of one watch. -/
theorem filter_isAbout_eq {reports : List Report}
    (h : ∀ report ∈ reports, ∀ r ∈ report.resources, r.kind = report.kind) (id : BindingId) :
    (reports.flatMap Report.statements).filter (·.isAbout id) =
      ((reports.filter (·.kind == id.kind)).flatMap Report.statements).filter (·.isAbout id) := by
  induction reports with
  | nil => rfl
  | cons report rest ih =>
    have hrest := ih fun report hreport => h report (List.mem_cons_of_mem _ hreport)
    rw [List.flatMap_cons, List.filter_append, hrest, List.filter_cons]
    by_cases hkind : report.kind = id.kind
    · rw [if_pos (beq_iff_eq.2 hkind), List.flatMap_cons, List.filter_append]
    · have hnone : report.statements.filter (·.isAbout id) = [] := by
        refine List.filter_eq_nil_iff.2 fun statement hmem habout => hkind ?_
        exact kind_of_isAbout (h report List.mem_cons_self) hmem habout
      rw [if_neg (by simpa using hkind), hnone, List.nil_append]

/-- Runs of the same watches come to the same, however they are interleaved. -/
theorem SameWatches.sameEnd {reports reports' : List Report} (h : SameWatches reports reports') :
    SameEnd reports reports' := by
  have hleft := fun report hreport => h.uniform report (List.mem_append_left _ hreport)
  have hright := fun report hreport => h.uniform report (List.mem_append_right _ hreport)
  refine ⟨fun id => ?_, fun k => ?_⟩
  · unfold lastAbout
    rw [filter_isAbout_eq hleft, filter_isAbout_eq hright, h.watch]
  · -- A listing of a kind is a report of the watch of that kind.
    have hlisting : ∀ reports : List Report, (∃ report ∈ reports, report.listedKind? = some k) ↔
        ∃ report ∈ reports.filter (·.kind == k), report.listedKind? = some k := by
      intro reports
      constructor
      · rintro ⟨report, hmem, hk⟩
        refine ⟨report, List.mem_filter.2 ⟨hmem, ?_⟩, hk⟩
        cases report with
        | listed k' _ _ => exact beq_iff_eq.2 (Option.some.inj hk)
        | _ => cases hk
      · rintro ⟨report, hmem, hk⟩
        exact ⟨report, (List.mem_filter.1 hmem).1, hk⟩
    rw [hlisting reports, hlisting reports', h.watch]

/-- A resource that resolves to a binding has a subject, and one with a subject does when it can be
resolved at all. -/
theorem exists_subject_iff {r : BindingResource} {found : Except SubjectFault Binding}
    (h : Binding.ofResource r = .ok found) :
    (∃ subject, r.subject = .ok subject) ↔ ∃ b, found = .ok b := by
  unfold Binding.ofResource at h
  obtain ⟨id, -, h⟩ := exists_of_bind_eq_ok h
  cases hsubject : r.subject with
  | error fault =>
    rw [hsubject] at h
    obtain rfl := Except.ok.inj h
    simp
  | ok subject =>
    rw [hsubject] at h
    obtain ⟨m, -, h⟩ := exists_of_bind_eq_ok h
    obtain rfl := Except.ok.inj h
    simp

/-- A statement leaves a binding when it presents a resource that is not being deleted and resolves to
the binding. -/
theorem binding?_eq_some_iff {statement : Statement} {b : Binding} :
    statement.binding? = some b ↔ ∃ r, statement = .present r ∧ r.isDeleting = false ∧
      Binding.ofResource r = .ok (.ok b) := by
  cases statement with
  | gone id => simp [Statement.binding?]
  | present r =>
    by_cases hdeleting : r.isDeleting = true
    · simp [Statement.binding?, hdeleting]
    · cases hfound : Binding.ofResource r with
      | error cause => simp [Statement.binding?, hfound]
      | ok found => cases found <;> simp [Statement.binding?, hdeleting, hfound]

/-- What is held of a binding after some reports is what the last statement about it leaves. -/
theorem get?_of_handleAll {reports : List Report} (h : ({} : Store).handleAll reports = .ok s)
    (id : BindingId) :
    s.bindings.get? id = (lastAbout reports id).bind Statement.binding? := by
  rw [get?_of_foldlM_heed (foldlM_heed_of_handleAll h)]
  unfold lastAbout
  cases ((reports.flatMap Report.statements).filter (·.isAbout id)).getLast? <;> rfl

/-- A binding is held after some reports just when the last statement about it presents a resource
that is not being deleted and resolves to it. -/
theorem get?_eq_some_iff_of_handleAll {reports : List Report}
    (h : ({} : Store).handleAll reports = .ok s) (id : BindingId) (b : Binding) :
    s.bindings.get? id = some b ↔ ∃ r, lastAbout reports id = some (.present r) ∧
      r.isDeleting = false ∧ Binding.ofResource r = .ok (.ok b) := by
  rw [get?_of_handleAll h, Option.bind_eq_some_iff]
  constructor
  · rintro ⟨statement, hlast, hb⟩
    obtain ⟨r, rfl, hr⟩ := binding?_eq_some_iff.1 hb
    exact ⟨r, hlast, hr⟩
  · rintro ⟨r, hlast, hr⟩
    exact ⟨_, hlast, binding?_eq_some_iff.2 ⟨r, rfl, hr⟩⟩

/-- Some binding of an identity is held after some reports just when the last statement about it
presents a resource that is not being deleted and has a subject. -/
theorem exists_get?_iff_of_handleAll {reports : List Report}
    (h : ({} : Store).handleAll reports = .ok s) (id : BindingId) :
    (∃ b, s.bindings.get? id = some b) ↔ ∃ r, lastAbout reports id = some (.present r) ∧
      r.isDeleting = false ∧ ∃ subject, r.subject = .ok subject := by
  constructor
  · rintro ⟨b, hb⟩
    obtain ⟨r, hlast, hliving, hfound⟩ := (get?_eq_some_iff_of_handleAll h id b).1 hb
    exact ⟨r, hlast, hliving, (exists_subject_iff hfound).2 ⟨b, rfl⟩⟩
  · rintro ⟨r, hlast, hliving, hsubject⟩
    -- The resource was recorded when it was presented, so that it can be resolved.
    have hmem := (List.mem_filter.1 (List.mem_of_getLast? hlast)).1
    obtain ⟨before, after, hheed⟩ := exists_heed_of_mem (foldlM_heed_of_handleAll h) hmem
    obtain ⟨found, hfound⟩ := exists_ofResource_of_heed hheed hliving
    obtain ⟨b, rfl⟩ := (exists_subject_iff hfound).1 hsubject
    exact ⟨b, (get?_eq_some_iff_of_handleAll h id b).2 ⟨r, hlast, hliving, hfound⟩⟩

/-- Stores after reports that come to the same list the same kinds. -/
theorem SameEnd.listed_eq {reports reports' : List Report} (hend : SameEnd reports reports')
    (hs : ({} : Store).handleAll reports = .ok s) (ht : ({} : Store).handleAll reports' = .ok t) :
    s.listed = t.listed := by
  have hget : ∀ k, s.listed.get k = t.listed.get k := by
    intro k
    have hnone : ({} : Store).listed.get k = false := by cases k <;> rfl
    rw [get_listed_handleAll hs, get_listed_handleAll ht, hnone, Bool.eq_iff_iff]
    simpa using hend.listed k
  have hsecret := hget .secret
  have henv := hget .env
  cases hs : s.listed
  cases ht : t.listed
  simp_all [PerKind.get]

/-- Stores after reports that come to the same show the same. -/
theorem SameEnd.sameView {reports reports' : List Report} (hend : SameEnd reports reports')
    (hs : ({} : Store).handleAll reports = .ok s) (ht : ({} : Store).handleAll reports' = .ok t) :
    s.SameView t := by
  have hbindings : s.bindings = t.bindings := by
    refine SortedMap.ext_get? fun id => ?_
    rw [get?_of_handleAll hs, get?_of_handleAll ht, hend.last]
  have hlisted := hend.listed_eq hs ht
  have hsnapshot : s.snapshot = t.snapshot := by
    rw [(isPublished_empty.handleAll hs).snapshot, (isPublished_empty.handleAll ht).snapshot,
      hbindings]
  refine ⟨hbindings, hlisted, ?_, ?_, hsnapshot, fun target => by rw [hsnapshot]⟩
  · unfold isSynced
    rw [hlisted]
  · unfold rules subjects
    rw [hbindings]

/-- The store depends only on the last statement about each binding. Any reports are handled whose
bindings have identities and mutations, and the order in which the reports of the two watches come
does not change what is last. After reports that were handled, a binding is held just when the last
statement about it presents a resource that is not being deleted and whose subject resolves, and then
it is the one that the resource resolves to; and a store after other reports that come to the same
shows the same. -/
theorem determined_of_handleAll (reports : List Report) :
    ((∀ report ∈ reports, ∀ r ∈ report.resources, r.IsResolvable) →
      ∃ s, ({} : Store).handleAll reports = .ok s) ∧
    (∀ reports', SameWatches reports reports' → SameEnd reports reports') ∧
    ∀ s, ({} : Store).handleAll reports = .ok s →
      (∀ id, (∃ b, s.bindings.get? id = some b) ↔ ∃ r, lastAbout reports id = some (.present r) ∧
        r.isDeleting = false ∧ ∃ subject, r.subject = .ok subject) ∧
      (∀ id b, s.bindings.get? id = some b ↔ ∃ r, lastAbout reports id = some (.present r) ∧
        r.isDeleting = false ∧ Binding.ofResource r = .ok (.ok b)) ∧
      ∀ reports' t, ({} : Store).handleAll reports' = .ok t → SameEnd reports reports' →
        s.SameView t := by
  refine ⟨exists_handleAll {}, fun _ hwatches => hwatches.sameEnd, fun s hs => ?_⟩
  exact ⟨exists_get?_iff_of_handleAll hs, get?_eq_some_iff_of_handleAll hs,
    fun _ _ ht hend => hend.sameView hs ht⟩

/-- A binding that sets the variable of `modeBinding` in the same pods to something else. -/
def speedBinding : BindingResource :=
  { modeBinding with
    metadata := { name := some "speed", «namespace» := some "shop" }
    spec := .env
      { subject := modeBinding.spec.subject
        env := [⟨"MODE", "slow"⟩] } }

/-- A binding that mounts a secret in the same pods. -/
def vaultBinding : BindingResource :=
  { modeBinding with
    metadata := { name := some "vault", «namespace» := some "shop" }
    spec := .secret
      { subject := modeBinding.spec.subject
        secret := "credentials"
        mountPath := "/vault" } }

/-- Two bindings claim the same subject, and a third one is reported by the other watch before or
after them: the stores show the same. -/
theorem determined_of_handleAll_vault : ∃ s t : Store,
    ({} : Store).handleAll
        [.applied speedBinding, .listed .env [modeBinding] [], .listed .secret [vaultBinding] []] =
      .ok s ∧
    ({} : Store).handleAll
        [.listed .secret [vaultBinding] [], .applied speedBinding, .listed .env [modeBinding] []] =
      .ok t ∧
    s.bindings.size = 3 ∧ s.SameView t := by
  have hspeed : speedBinding.IsResolvable := ⟨⟨_, rfl⟩, _, rfl⟩
  have hmode : modeBinding.IsResolvable := ⟨⟨_, rfl⟩, _, rfl⟩
  have hvault : vaultBinding.IsResolvable := BindingResource.isResolvable_of_name rfl rfl
  obtain ⟨hhandled, hwatches, hdetermined⟩ := determined_of_handleAll
    [.applied speedBinding, .listed .env [modeBinding] [], .listed .secret [vaultBinding] []]
  obtain ⟨s, hs⟩ := hhandled (by simp [Report.resources, hspeed, hmode, hvault])
  obtain ⟨hhandled', -, -⟩ := determined_of_handleAll
    [.listed .secret [vaultBinding] [], .applied speedBinding, .listed .env [modeBinding] []]
  obtain ⟨t, ht⟩ := hhandled' (by simp [Report.resources, hspeed, hmode, hvault])
  refine ⟨s, t, hs, ht, ?_, (hdetermined s hs).2.2 _ t ht (hwatches _ ?_)⟩
  · have hsize : (({} : Store).handleAll [.applied speedBinding, .listed .env [modeBinding] [],
        .listed .secret [vaultBinding] []]).toOption.map (·.bindings.size) = some 3 := by decide
    rw [hs] at hsize
    exact Option.some.inj hsize
  · exact ⟨by decide, fun k => by cases k <;> rfl⟩

end Store

end WorkloadBindings
