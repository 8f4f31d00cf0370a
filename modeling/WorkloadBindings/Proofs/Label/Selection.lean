import WorkloadBindings.Index.Tracker
import WorkloadBindings.Proofs.Except
import WorkloadBindings.Proofs.Index.Dispatch
import WorkloadBindings.Proofs.Label.Query
import WorkloadBindings.Proofs.Label.Validity
import WorkloadBindings.Proofs.Reconcile.Located

/-!
# Queries select what selectors accept

A selector is evaluated in place, and its query by the API. Both have one meaning. Every pair and
every requirement has a condition of the query language that holds on the same labels
(`Requirement.holds_condition`), the query of the selector is read back as these conditions
(`Selector.read_query`), and so what is listed by the query is what every index takes the subject to
select (`Selector.query_selects`).
-/

namespace WorkloadBindings

open LabelQuery

/-! ## Requirements -/

namespace Requirement

variable {r : Requirement}

/-- The condition that says the same as a requirement. -/
def condition (r : Requirement) : LabelCondition :=
  match r.operator with
  | .oneOf => .among r.key r.values.toList
  | .noneOf => .notAmong r.key r.values.toList
  | .present => .present r.key
  | .absent => .absent r.key

/-- The pieces of a requirement's query. -/
def tokens (r : Requirement) : List QueryToken :=
  match r.operator with
  | .oneOf => .word r.key :: .word "in" :: .opening :: valueTokens r.values.toList
  | .noneOf => .word r.key :: .word "notin" :: .opening :: valueTokens r.values.toList
  | .present => [.word r.key]
  | .absent => [.bang, .word r.key]

/-- The key and the values are words, if not empty. -/
def IsPlain (r : Requirement) : Prop := IsWord r.key ∧ ∀ v ∈ r.values.toList, IsWord v

instance (r : Requirement) : Decidable r.IsPlain := inferInstanceAs (Decidable (_ ∧ _))

/-- A condition holds on the labels that satisfy its requirement. -/
theorem holds_condition (r : Requirement) (labels : Labels) :
    r.condition.holds labels = r.holds labels := by
  have hcontains : ∀ v, r.values.toList.contains v = r.values.contains v := by
    intro v
    rw [Bool.eq_iff_iff, List.contains_iff_mem]
    exact SortedMap.mem_keys_iff
  unfold condition holds
  cases r.operator with
  | oneOf =>
    dsimp only [LabelCondition.holds]
    cases labels.get? r.key with
    | none => rfl
    | some v => exact hcontains v
  | noneOf =>
    dsimp only [LabelCondition.holds]
    cases labels.get? r.key with
    | none => rfl
    | some v => exact congrArg Bool.not (hcontains v)
  | present => rfl
  | absent => rfl

/-- A well-formed requirement has a key, and values if its operator compares with them. -/
theorem of_validate (h : r.validate = .ok ()) :
    r.key ≠ "" ∧ (r.operator.takesValues = true → r.values.toList ≠ []) := by
  have hvalid : r.IsWellFormed := (r.decided_validate.ok_iff ()).1 h
  exact ⟨hvalid.key, hvalid.values_ne_iff.2⟩

/-- The query of a requirement is cut into its pieces. -/
theorem scan_query (hplain : r.IsPlain) (hkey : r.key ≠ "") : scan [] r.query.toList = r.tokens := by
  obtain ⟨hword, hvalues⟩ := hplain
  -- Both operators that compare write their values in the same way.
  have hlist : scan [] ((",".intercalate r.values.toList).toList ++ [')']) =
      valueTokens r.values.toList := by
    have hpieces : (r.values.toList.map String.toList).map (scan []) =
        r.values.toList.map fun v => pending v.toList := by
      rw [List.map_map]
      exact List.map_congr_left fun v hv => scan_toList (hvalues v hv)
    rw [scan_append_symbol (t := .closing) rfl, String.toList_intercalate, String.toList_ofList,
      scan_intercalate, hpieces]
    rfl
  have hcompare : ∀ o, IsWord o → o ≠ "" →
      scan [] (r.key.toList ++ (' ' :: (o.toList ++ (' ' :: '(' ::
        ((",".intercalate r.values.toList).toList ++ [')']))))) =
          .word r.key :: .word o :: .opening :: valueTokens r.values.toList := by
    intro o ho hne
    rw [scan_word hword, List.nil_append, scan_blank, pending_toList hkey, scan_word ho,
      List.nil_append, scan_blank, pending_toList hne, scan_symbol (t := .opening) rfl, hlist]
    rfl
  unfold query tokens
  cases r.operator with
  | oneOf =>
    simp only [String.toList_append, List.append_assoc]
    exact hcompare "in" (by decide) (by decide)
  | noneOf =>
    simp only [String.toList_append, List.append_assoc]
    exact hcompare "notin" (by decide) (by decide)
  | present =>
    dsimp only
    rw [scan_toList hword, pending_toList hkey]
  | absent =>
    dsimp only
    rw [String.toList_append]
    change pending [] ++ .bang :: scan [] r.key.toList = _
    rw [scan_toList hword, pending_toList hkey]
    rfl

/-- A requirement has no comma outside its parentheses. -/
theorem encloses_tokens (r : Requirement) : Encloses false r.tokens := by
  have hnext : ∀ (t : QueryToken) (ts : List QueryToken), t ≠ .comma →
      Encloses (insideAfter false t) ts → Encloses false (t :: ts) :=
    fun t ts hne hts => ⟨fun h => absurd h hne, hts⟩
  have hcompare : ∀ o, Encloses false
      (.word r.key :: .word o :: .opening :: valueTokens r.values.toList) := by
    intro o
    refine hnext _ _ nofun (hnext _ _ nofun (hnext _ _ nofun ?_))
    exact encloses_valueTokens _
  unfold tokens
  cases r.operator with
  | oneOf => exact hcompare "in"
  | noneOf => exact hcompare "notin"
  | present => exact hnext _ _ nofun rfl
  | absent => exact hnext _ _ nofun (hnext _ _ nofun rfl)

/-- The pieces of a requirement are read as its condition. -/
theorem ofTokens?_tokens
    (hvalues : r.operator.takesValues = true → r.values.toList ≠ []) :
    LabelCondition.ofTokens? r.tokens = some r.condition := by
  unfold tokens condition
  cases hoperator : r.operator with
  | oneOf =>
    have hread := values?_valueTokens (hvalues (by rw [hoperator]; rfl))
    dsimp only [LabelCondition.ofTokens?]
    rw [if_pos rfl, hread, Option.map_some]
  | noneOf =>
    have hread := values?_valueTokens (hvalues (by rw [hoperator]; rfl))
    dsimp only [LabelCondition.ofTokens?]
    rw [if_neg (by decide), if_pos rfl, hread, Option.map_some]
  | present => rfl
  | absent => rfl

end Requirement

/-! ## Selectors -/

/-- Parts are read one by one. -/
theorem LabelQuery.mapM_map {α : Type} {xs : List α} {f : α → List QueryToken}
    {g : α → LabelCondition} (h : ∀ x ∈ xs, LabelCondition.ofTokens? (f x) = some (g x)) :
    (xs.map f).mapM LabelCondition.ofTokens? = some (xs.map g) := by
  induction xs with
  | nil => rfl
  | cons x xs ih =>
    obtain ⟨hx, hxs⟩ := List.forall_mem_cons.1 h
    rw [List.map_cons, List.mapM_cons, hx, ih hxs]
    rfl

namespace Selector

variable {s : Selector}

/-- The conditions that say the same as a selector. -/
def conditions (s : Selector) : LabelQuery :=
  (s.pairs.map fun p => .equals p.1 p.2) ++ s.requirements.map Requirement.condition

/-- The parts of a selector's query. -/
def parts (s : Selector) : List (List QueryToken) :=
  (s.pairs.map fun p => .word p.1 :: .equals :: pending p.2.toList) ++
    s.requirements.map Requirement.tokens

/-- All names and values are words, if not empty; those of letters, digits and the marks of labels
are (`LabelQuery.isWord_of_label`). -/
structure IsPlain (s : Selector) : Prop where
  pairs : ∀ p ∈ s.pairs, IsWord p.1 ∧ IsWord p.2
  requirements : ∀ r ∈ s.requirements, r.IsPlain

/-- A well-formed selector has well-formed requirements, and names in its pairs. -/
theorem of_validate (h : s.validate = .ok ()) :
    (∀ r ∈ s.requirements, r.validate = .ok ()) ∧ ∀ p ∈ s.pairs, p.1 ≠ "" := by
  have hvalid : s.IsWellFormed := (s.decided_validate.ok_iff ()).1 h
  exact ⟨fun r hr => (r.decided_validate.ok_iff ()).2 (hvalid.requirements r hr), hvalid.pairs⟩

/-- A selector accepts what satisfies its conditions. -/
theorem selects_conditions (s : Selector) (labels : Labels) :
    s.conditions.selects labels = s.accepts labels := by
  unfold LabelQuery.selects conditions accepts
  rw [List.all_append, List.all_map, List.all_map, Bool.and_comm]
  congr 1
  exact List.all_congr rfl fun r => r.holds_condition labels

/-- The query of a selector is cut into its parts, joined with commas. -/
theorem tokens_query (hvalid : s.validate = .ok ()) (hplain : s.IsPlain) :
    LabelQuery.tokens s.query = [.comma].intercalate s.parts := by
  obtain ⟨hrequirements, hnames⟩ := of_validate hvalid
  have hpairs : ∀ p ∈ s.pairs, scan [] (p.1 ++ "=" ++ p.2).toList =
      .word p.1 :: .equals :: pending p.2.toList := by
    intro p hp
    obtain ⟨hname, hvalue⟩ := hplain.pairs p hp
    rw [String.toList_append, String.toList_append, List.append_assoc, scan_word hname]
    change scan _ ('=' :: p.2.toList) = _
    rw [scan_symbol (t := .equals) rfl, List.nil_append, pending_toList (hnames p hp),
      scan_toList hvalue]
    rfl
  unfold LabelQuery.tokens query parts
  rw [String.toList_intercalate]
  change scan [] ([','].intercalate _) = _
  rw [scan_intercalate, List.map_append, List.map_append, List.map_map, List.map_map, List.map_map,
    List.map_map]
  congr 2
  · exact List.map_congr_left hpairs
  · refine List.map_congr_left fun r hr => ?_
    exact Requirement.scan_query (hplain.requirements r hr)
      (Requirement.of_validate (hrequirements r hr)).1

/-- The parts of a selector's query have something in them, and their commas are in parentheses. -/
theorem encloses_parts (s : Selector) : ∀ p ∈ s.parts, p ≠ [] ∧ Encloses false p := by
  intro p hp
  rcases List.mem_append.1 hp with hpair | hrequirement
  · obtain ⟨pair, -, rfl⟩ := List.mem_map.1 hpair
    refine ⟨List.cons_ne_nil _ _, nofun, nofun, ?_⟩
    by_cases hvalue : pair.2 = ""
    · rw [hvalue]
      rfl
    · rw [pending_toList hvalue]
      exact ⟨nofun, rfl⟩
  · obtain ⟨r, -, rfl⟩ := List.mem_map.1 hrequirement
    refine ⟨?_, r.encloses_tokens⟩
    unfold Requirement.tokens
    cases r.operator <;> exact List.cons_ne_nil _ _

/-- The query of a selector is read as its conditions. -/
theorem read_query (hvalid : s.validate = .ok ()) (hplain : s.IsPlain) :
    LabelQuery.read s.query = some s.conditions := by
  have hpairs : (s.pairs.map fun p => QueryToken.word p.1 :: .equals :: pending p.2.toList).mapM
      LabelCondition.ofTokens? = some (s.pairs.map fun p => .equals p.1 p.2) := by
    refine mapM_map fun p _ => ?_
    by_cases hvalue : p.2 = ""
    · rw [hvalue]
      rfl
    · rw [pending_toList hvalue]
      rfl
  have hrequirements : (s.requirements.map Requirement.tokens).mapM LabelCondition.ofTokens? =
      some (s.requirements.map Requirement.condition) := by
    refine mapM_map fun r hr => ?_
    have hwell := Requirement.of_validate ((of_validate hvalid).1 r hr)
    exact Requirement.ofTokens?_tokens hwell.2
  rw [read_of_parts (tokens_query hvalid hplain) s.encloses_parts]
  unfold parts conditions
  rw [List.mapM_append, hpairs, hrequirements]
  rfl

end Selector

/-! ## Workloads -/

/-- The workloads of a place that a query selects, as a list request brings them. -/
def World.queried (s : World) (place : Place) (q : LabelQuery) : List Workload :=
  (s.workloads.entries.filter fun e =>
    e.1.place == place && q.selects e.2.metadata.labelSet).map Prod.snd

/-- A change of a workload leads back to the bindings whose subject selects it. -/
theorem Tracker.mem_bindingsFor_iff {tracker : Tracker} {id : BindingId} {subject : Subject}
    (h : tracker.subjects.get? id = some subject) (t : Target) :
    id ∈ tracker.bindingsFor t ↔ subject.selects t = true := by
  have hentry := tracker.subjects.sorted.get?_eq_some_iff.1 h
  unfold bindingsFor
  rw [List.mem_map]
  constructor
  · rintro ⟨⟨id', subject'⟩, hmem, rfl⟩
    obtain ⟨hmem, hselects⟩ := List.mem_filter.1 hmem
    have hsame := tracker.subjects.sorted.get?_eq_some_iff.2 hmem
    obtain rfl := Option.some.inj (h.symm.trans hsame)
    exact hselects
  · exact fun hselects => ⟨(id, subject), List.mem_filter.2 ⟨hentry, hselects⟩, rfl⟩

namespace Selector

variable {s : Selector}

/-- The query of a well-formed selector of words is read as conditions that hold on just the labels
that the selector accepts. So for a subject with the selector, a list request by the query brings
the workloads that the subject selects, the tracker leads from these workloads to the binding, and
admission finds a binding of its kind for them and never finds it for another workload. -/
theorem query_selects (hvalid : s.validate = .ok ()) (hplain : s.IsPlain) :
    ∃ q, LabelQuery.read s.query = some q ∧
      (∀ labels, q.selects labels = s.accepts labels) ∧
      ∀ subject : Subject, subject.selection = .selector s →
        (∀ (world : World) (w : Workload), w ∈ world.queried subject.place q ↔
          ∃ k, world.workloads.get? k = some w ∧ subject.selects (k.target w) = true) ∧
        (∀ (tracker : Tracker) (id : BindingId) (t : Target),
          tracker.subjects.get? id = some subject →
            (id ∈ tracker.bindingsFor t ↔
              subject.place = t.place ∧ q.selects t.labels = true)) ∧
        ∀ (bindings : List Binding) (b : Binding) (t : Target), b ∈ bindings → b.subject = subject →
          (b ∈ (Snapshot.rebuild bindings).lookup t →
            subject.place = t.place ∧ q.selects t.labels = true) ∧
          (subject.place = t.place ∧ q.selects t.labels = true →
            ((Snapshot.rebuild bindings).lookupKind b.id.kind t).isSome = true) := by
  refine ⟨s.conditions, read_query hvalid hplain, s.selects_conditions, fun subject hsubject => ?_⟩
  have hselects : ∀ t : Target, subject.selects t = true ↔
      subject.place = t.place ∧ s.conditions.selects t.labels = true := by
    intro t
    rw [subject.selects_iff, hsubject, s.selects_conditions]
  refine ⟨fun world w => ?_, fun tracker id t htracked => ?_, fun bindings b t hb hbinding => ⟨?_, ?_⟩⟩
  · have hqueried : world.queried subject.place s.conditions = world.picked subject.place s := by
      unfold World.queried World.picked
      simp only [s.selects_conditions]
    rw [hqueried, World.mem_picked_iff]
    refine exists_congr fun k => and_congr_right' ?_
    rw [subject.selects_target_iff, hsubject]
  · rw [Tracker.mem_bindingsFor_iff htracked, hselects]
  · intro hfound
    have hscan := Snapshot.of_scan (Snapshot.mem_lookup_iff.1 hfound)
    rw [← hselects, ← hbinding]
    exact hscan.2.2
  · intro hpicked
    rw [Snapshot.lookupKind_rebuild, Option.isSome_iff_ne_none]
    intro hnone
    have hother := Snapshot.scan_eq_none_iff.1 hnone b hb rfl
    rw [hbinding, (hselects t).2 hpicked] at hother
    cases hother

/-- A selector with an empty value and with names that are operators elsewhere. -/
def tierSelector : Selector where
  matchLabels := some (SortedMap.ofList [("app.kubernetes.io/name", "web"), ("in", "")])
  matchExpressions := some
    [⟨"tier", .oneOf, SortedSet.ofList ["db", "", "cache"]⟩,
     ⟨"stage", .noneOf, SortedSet.ofList ["dev"]⟩,
     ⟨"notin", .present, SortedSet.ofList []⟩,
     ⟨"legacy", .absent, SortedSet.ofList []⟩]

/-- The query of the selector is read as what the selector says. -/
theorem query_selects_tierSelector :
    tierSelector.query =
        "app.kubernetes.io/name=web,in=,tier in (,cache,db),stage notin (dev),notin,!legacy" ∧
      tierSelector.validate = .ok () ∧
      ∃ q, LabelQuery.read tierSelector.query = some q ∧
        ∀ labels, q.selects labels = tierSelector.accepts labels := by
  have hplain : tierSelector.IsPlain := ⟨by decide, by decide⟩
  obtain ⟨q, hread, hselects, -⟩ := query_selects (by rfl) hplain
  exact ⟨by decide, by rfl, q, hread, hselects⟩

end Selector

end WorkloadBindings
