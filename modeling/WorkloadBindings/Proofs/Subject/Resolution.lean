import Mathlib.Data.List.DropRight
import WorkloadBindings.Proofs.Label.Validity
import WorkloadBindings.Subject.Basic

/-!
# References that resolve

A reference resolves when its `apiVersion` names a version, its kind is given, it has a namespace of
its own or means that of the binding, and it picks its workloads by a name or by a well-formed
selector, but not by both. The subject is then made of just that, and of no reference that breaks one
of the conditions: the first that is broken, in this order, is the fault that is named
(`Subject.decided_ofRef`).
-/

namespace WorkloadBindings

/-! ## Groups and versions -/

/-- An `apiVersion` without the slash that it begins with, if it does. -/
def withoutLeadingSlash (text : String) : String :=
  match text.toList with
  | '/' :: rest => String.ofList rest
  | _ => text

namespace GroupVersion

variable {gv : GroupVersion} {text : String}

/-- The text is the version of a group, behind the group and a slash; the core group may be left out
with its slash. -/
structure IsNamed (gv : GroupVersion) (text : String) : Prop where
  text : text = gv.group ++ "/" ++ gv.version ∨ gv.group = "" ∧ text = gv.version
  group : '/' ∉ gv.group.toList
  version : '/' ∉ gv.version.toList
  version_ne : gv.version ≠ ""

/-- The text has one slash at most, and something behind it. -/
def IsNameable (text : String) : Prop :=
  text.toList.count '/' ≤ 1 ∧ text.toList.rtakeWhile (· ≠ '/') ≠ []

/-- Up to the first slash there is none. -/
theorem takeWhile_of_notMem {cs : List Char} (h : '/' ∉ cs) (ds : List Char) :
    (cs ++ ds).takeWhile (· ≠ '/') = cs ++ ds.takeWhile (· ≠ '/') ∧
      (cs ++ ds).dropWhile (· ≠ '/') = ds.dropWhile (· ≠ '/') := by
  have hall : ∀ c ∈ cs, decide (c ≠ '/') = true := fun c hc =>
    decide_eq_true fun heq => h (heq ▸ hc)
  exact ⟨List.takeWhile_append_of_pos hall, List.dropWhile_append_of_pos hall⟩

/-- A text without a slash is read as a version of the core group. -/
theorem parse?_of_notMem (h : '/' ∉ text.toList) :
    parse? text = if text = "" then none else some ⟨"", text⟩ := by
  obtain ⟨hbefore, hafter⟩ := takeWhile_of_notMem h []
  rw [List.append_nil] at hbefore hafter
  unfold parse?
  simp only [hbefore, hafter]
  by_cases hempty : text = "" <;> simp [hempty, h]

/-- A text with a slash is read as what stands before and behind the first one. -/
theorem parse?_of_slash {before after : List Char} (htext : text.toList = before ++ '/' :: after)
    (h : '/' ∉ before) : parse? text =
      if after = [] ∨ '/' ∈ after then none else some ⟨String.ofList before, String.ofList after⟩ := by
  obtain ⟨hbefore, hafter⟩ := takeWhile_of_notMem h ('/' :: after)
  unfold parse?
  simp only [htext, hbefore, hafter]
  simp

/-- The characters of a text that is a group, a slash and a version. -/
theorem toList_slash (group version : String) :
    (group ++ "/" ++ version).toList = group.toList ++ '/' :: version.toList := by
  rw [String.toList_append, String.toList_append, List.append_assoc]
  rfl

/-- What a version is read from names it. -/
theorem isNamed_of_parse? (h : parse? text = some gv) : gv.IsNamed text := by
  by_cases hmem : '/' ∈ text.toList
  · obtain ⟨before, after, htext, hbefore⟩ := List.eq_append_cons_of_mem hmem
    rw [parse?_of_slash htext hbefore] at h
    split at h
    · cases h
    rename_i hparts
    obtain rfl := Option.some.inj h
    refine ⟨Or.inl ?_, by simpa using hbefore, by simpa using fun hafter => hparts (Or.inr hafter),
      fun hempty => hparts (Or.inl (by simpa using congrArg String.toList hempty))⟩
    rw [← String.toList_inj, toList_slash]
    simpa using htext
  · rw [parse?_of_notMem hmem] at h
    split at h
    · cases h
    rename_i hempty
    obtain rfl := Option.some.inj h
    exact ⟨Or.inr ⟨rfl, rfl⟩, by simp, hmem, hempty⟩

/-- A version is read from every text that names it. -/
theorem parse?_of_isNamed (h : gv.IsNamed text) : parse? text = some gv := by
  obtain ⟨htext | ⟨hcore, rfl⟩, hgroup, hversion, hne⟩ := h
  · have hparts : ¬(gv.version.toList = [] ∨ '/' ∈ gv.version.toList) :=
      not_or.2 ⟨fun hnil => hne (String.toList_eq_nil_iff.1 hnil), hversion⟩
    rw [parse?_of_slash (htext ▸ toList_slash _ _) hgroup, if_neg hparts, String.ofList_toList,
      String.ofList_toList]
  · rw [parse?_of_notMem hversion, if_neg hne, ← hcore]

/-- A version is read from just the texts that name it. -/
theorem parse?_eq_some_iff : parse? text = some gv ↔ gv.IsNamed text :=
  ⟨isNamed_of_parse?, parse?_of_isNamed⟩

/-- What stands behind the last slash. -/
theorem rtakeWhile_of_notMem {cs ds : List Char} (h : '/' ∉ ds) :
    (cs ++ '/' :: ds).rtakeWhile (· ≠ '/') = ds := by
  have hrev : '/' ∉ ds.reverse := fun hmem => h (List.mem_reverse.1 hmem)
  have hreverse : (cs ++ '/' :: ds).reverse = ds.reverse ++ '/' :: cs.reverse := by simp
  rw [List.rtakeWhile, hreverse, (takeWhile_of_notMem hrev _).1]
  simp

/-- A text without a slash stands behind its last slash. -/
theorem rtakeWhile_self {cs : List Char} (h : '/' ∉ cs) : cs.rtakeWhile (· ≠ '/') = cs :=
  List.rtakeWhile_eq_self_iff.2 fun _ hc => decide_eq_true fun heq => h (heq ▸ hc)

/-- The texts that name a version are those with one slash at most and something behind it. -/
theorem exists_isNamed_iff : (∃ gv, IsNamed gv text) ↔ IsNameable text := by
  constructor
  · rintro ⟨gv, htext, hgroup, hversion, hne⟩
    have hnil : gv.version.toList ≠ [] := fun hnil => hne (String.toList_eq_nil_iff.1 hnil)
    obtain htext | ⟨-, htext⟩ := htext
    · have hcs : text.toList = gv.group.toList ++ '/' :: gv.version.toList := by
        rw [htext, toList_slash]
      rw [IsNameable, hcs, rtakeWhile_of_notMem hversion]
      refine ⟨?_, hnil⟩
      rw [List.count_append, List.count_cons_self, List.count_eq_zero.2 hgroup,
        List.count_eq_zero.2 hversion]
    · rw [IsNameable, htext, rtakeWhile_self hversion, List.count_eq_zero.2 hversion]
      exact ⟨Nat.zero_le 1, hnil⟩
  · rintro ⟨hcount, hbehind⟩
    by_cases hmem : '/' ∈ text.toList
    · obtain ⟨group, version, hcs⟩ := List.append_of_mem hmem
      -- The slash that is there is the only one.
      rw [hcs, List.count_append, List.count_cons_self] at hcount
      have hgroup : '/' ∉ group := List.count_eq_zero.1 (by omega)
      have hversion : '/' ∉ version := List.count_eq_zero.1 (by omega)
      rw [hcs, rtakeWhile_of_notMem hversion] at hbehind
      refine ⟨⟨String.ofList group, String.ofList version⟩, Or.inl ?_, by simpa, by simpa, ?_⟩
      · rw [← String.toList_inj, toList_slash, String.toList_ofList, String.toList_ofList, hcs]
      · exact fun hempty => hbehind (by simpa using congrArg String.toList hempty)
    · rw [rtakeWhile_self hmem] at hbehind
      exact ⟨⟨"", text⟩, Or.inr ⟨rfl, rfl⟩, by simp, hmem,
        fun hempty => hbehind (String.toList_eq_nil_iff.2 hempty)⟩

/-- A text that begins with no slash stays as it is. -/
theorem withoutLeadingSlash_self (h : text.toList.head? ≠ some '/') : withoutLeadingSlash text = text := by
  unfold withoutLeadingSlash
  split
  · rename_i hcs
    exact absurd (by rw [hcs]; rfl) h
  · rfl

/-- A version is written as the text that names it, without its leading slash. -/
theorem IsNamed.render (h : gv.IsNamed text) : gv.render = withoutLeadingSlash text := by
  obtain ⟨htext, hgroup, hversion, hne⟩ := h
  have hhead : ∀ {s : String}, '/' ∉ s.toList → s.toList.head? ≠ some '/' := fun hs heq =>
    hs (List.mem_of_head? heq)
  obtain htext | ⟨hcore, htext⟩ := htext
  · by_cases hcore : gv.group = ""
    · have hcs : text.toList = '/' :: gv.version.toList := by
        rw [htext, toList_slash, hcore]
        rfl
      rw [GroupVersion.render, if_pos hcore, withoutLeadingSlash, hcs]
      exact (String.ofList_toList).symm
    · rw [GroupVersion.render, if_neg hcore, withoutLeadingSlash_self, htext]
      have hnil : gv.group.toList ≠ [] := fun hnil => hcore (String.toList_eq_nil_iff.1 hnil)
      rw [htext, toList_slash, List.head?_append_of_ne_nil _ hnil]
      exact hhead hgroup
  · rw [GroupVersion.render, if_pos hcore, htext, withoutLeadingSlash_self (hhead hversion)]

end GroupVersion

/-! ## References -/

namespace SubjectRef

variable (r : SubjectRef) (binding : String)

/-- The namespace that a reference means: its own, unless it is absent or empty, and else that of the
binding. -/
def effectiveNamespace : String :=
  match r.namespace with
  | none => binding
  | some own => if own = "" then binding else own

/-- The reference has a name that is not empty, or a selector, and not both. -/
def HasOneSelection : Prop :=
  (∃ name, r.name = some name ∧ name ≠ "" ∧ r.selector = none) ∨
    (r.name = none ∧ ∃ selector, r.selector = some selector)

/-- The selection of a reference that has one: the name, or the selector, if it is well-formed. -/
inductive Picks : Selection → Prop where
  | name {name : String} (hname : r.name = some name) (hne : name ≠ "") (hselector : r.selector = none) :
      Picks (.name name)
  | selector {selector : Selector} (hname : r.name = none) (hselector : r.selector = some selector)
      (hvalid : selector.IsWellFormed) : Picks (.selector selector)

/-- What is wrong with the selection of a reference. -/
inductive MissesSelection : SubjectFault → Prop where
  | selection (hone : ¬r.HasOneSelection) : MissesSelection .selection
  | selector {selector : Selector} {fault : SelectorFault} (hname : r.name = none)
      (hselector : r.selector = some selector) (hfault : selector.HasFault fault) :
      MissesSelection (.selector fault)

/-- All that a reference in a binding's namespace must meet to resolve. -/
structure IsWellFormed : Prop where
  apiVersion : GroupVersion.IsNameable r.apiVersion
  kind : r.kind ≠ ""
  «namespace» : r.effectiveNamespace binding ≠ ""
  selection : r.HasOneSelection
  selector : ∀ selector, r.selector = some selector → selector.IsWellFormed

/-- The subject is made of what the reference says: its group, kind and version, the namespace that it
means, and its selection. -/
structure Resolves (s : Subject) : Prop where
  apiVersion : GroupVersion.IsNamed ⟨s.groupKind.group, s.version⟩ r.apiVersion
  kind : s.groupKind.kind = r.kind
  kind_ne : r.kind ≠ ""
  «namespace» : s.namespace = r.effectiveNamespace binding
  namespace_ne : r.effectiveNamespace binding ≠ ""
  selection : r.Picks s.selection

/-- The first condition that a reference does not meet, in order: the version, the kind, the namespace,
that there is one selection, and that it is well-formed. -/
inductive Fails : SubjectFault → Prop where
  | apiVersion (hversion : ¬GroupVersion.IsNameable r.apiVersion) : Fails (.apiVersion r.apiVersion)
  | missingKind (hversion : GroupVersion.IsNameable r.apiVersion) (hkind : r.kind = "") :
      Fails .missingKind
  | missingNamespace (hversion : GroupVersion.IsNameable r.apiVersion) (hkind : r.kind ≠ "")
      (hnamespace : r.effectiveNamespace binding = "") : Fails .missingNamespace
  | selection {fault : SubjectFault} (hversion : GroupVersion.IsNameable r.apiVersion)
      (hkind : r.kind ≠ "") (hnamespace : r.effectiveNamespace binding ≠ "")
      (hfault : r.MissesSelection fault) : Fails fault

variable {r binding}

/-- A reference with a selection has a name, or a selector that is well-formed or not. -/
theorem picks_or_misses (r : SubjectRef) :
    (∃ selection, r.Picks selection) ∨ ∃ fault, r.MissesSelection fault := by
  by_cases hone : r.HasOneSelection
  · obtain ⟨name, hname, hne, hselector⟩ | ⟨hname, s, hselector⟩ := hone
    · exact Or.inl ⟨_, .name hname hne hselector⟩
    · rcases s.isWellFormed_or_hasFault with hvalid | ⟨fault, hfault⟩
      · exact Or.inl ⟨_, .selector hname hselector hvalid⟩
      · exact Or.inr ⟨_, .selector hname hselector hfault⟩
  · exact Or.inr ⟨_, .selection hone⟩

/-- What a reference picks is its selection, and it has one. -/
theorem exists_picks_iff : (∃ selection, r.Picks selection) ↔
    r.HasOneSelection ∧ ∀ selector, r.selector = some selector → selector.IsWellFormed := by
  constructor
  · rintro ⟨_, ⟨hname, hne, hselector⟩ | ⟨hname, hselector, hvalid⟩⟩
    · exact ⟨Or.inl ⟨_, hname, hne, hselector⟩, fun s hs => by simp [hselector] at hs⟩
    · refine ⟨Or.inr ⟨hname, _, hselector⟩, fun s hs => ?_⟩
      exact Option.some.inj (hselector.symm.trans hs) ▸ hvalid
  · rintro ⟨⟨name, hname, hne, hselector⟩ | ⟨hname, s, hselector⟩, hvalid⟩
    · exact ⟨_, .name hname hne hselector⟩
    · exact ⟨_, .selector hname hselector (hvalid s hselector)⟩

/-- A reference is well-formed just when it resolves to some subject. -/
theorem exists_resolves_iff : (∃ s, r.Resolves binding s) ↔ r.IsWellFormed binding := by
  constructor
  · rintro ⟨s, hversion, -, hkind, -, hnamespace, hselection⟩
    obtain ⟨hone, hvalid⟩ := exists_picks_iff.1 ⟨_, hselection⟩
    exact ⟨GroupVersion.exists_isNamed_iff.1 ⟨_, hversion⟩, hkind, hnamespace, hone, hvalid⟩
  · rintro ⟨hversion, hkind, hnamespace, hone, hvalid⟩
    obtain ⟨⟨group, version⟩, hnamed⟩ := GroupVersion.exists_isNamed_iff.2 hversion
    obtain ⟨selection, hpicks⟩ := exists_picks_iff.2 ⟨hone, hvalid⟩
    exact ⟨⟨⟨group, r.kind⟩, version, r.effectiveNamespace binding, selection⟩, hnamed, rfl, hkind, rfl,
      hnamespace, hpicks⟩

/-- A reference resolves, or there is a first condition that it does not meet. -/
theorem resolves_or_fails (r : SubjectRef) (binding : String) :
    (∃ s, r.Resolves binding s) ∨ ∃ fault, r.Fails binding fault := by
  by_cases hversion : GroupVersion.IsNameable r.apiVersion
  case neg => exact Or.inr ⟨_, .apiVersion hversion⟩
  by_cases hkind : r.kind = ""
  case pos => exact Or.inr ⟨_, .missingKind hversion hkind⟩
  by_cases hnamespace : r.effectiveNamespace binding = ""
  case pos => exact Or.inr ⟨_, .missingNamespace hversion hkind hnamespace⟩
  rcases r.picks_or_misses with hpicks | ⟨fault, hfault⟩
  · obtain ⟨hone, hvalid⟩ := exists_picks_iff.1 hpicks
    exact Or.inl (exists_resolves_iff.2 ⟨hversion, hkind, hnamespace, hone, hvalid⟩)
  · exact Or.inr ⟨fault, .selection hversion hkind hnamespace hfault⟩

end SubjectRef

namespace Subject

open SubjectRef

variable {r : SubjectRef} {binding : String}

/-- The namespace that a reference means is the one that is resolved. -/
theorem resolveNamespace_eq (r : SubjectRef) (binding : String) :
    resolveNamespace r.namespace binding =
      if r.effectiveNamespace binding = "" then .error .missingNamespace
      else .ok (r.effectiveNamespace binding) := by
  unfold resolveNamespace effectiveNamespace
  cases r.namespace with
  | none => by_cases hbinding : binding = "" <;> simp [hbinding]
  | some own => by_cases hown : own = "" <;> by_cases hbinding : binding = "" <;> simp [hown, hbinding]

/-- A selection is resolved when a reference picks one, and else its fault is named. -/
theorem decided_resolveSelection (r : SubjectRef) :
    Decided (resolveSelection r) r.Picks r.MissesSelection := by
  refine .of_total ?ok ?error r.picks_or_misses
  case ok =>
    rintro selection (⟨hname, hne, hselector⟩ | ⟨hname, hselector, hvalid⟩)
    · simp only [resolveSelection, hname, hselector, if_neg hne]
    · simp only [resolveSelection, hname, hselector, ((Selector.decided_validate _).ok_iff ()).2 hvalid]
  case error =>
    rintro fault (hone | ⟨hname, hselector, hfault⟩)
    · unfold resolveSelection
      split
      · rename_i name hname hselector
        by_cases hne : name = ""
        · rw [if_pos hne]
        · exact absurd (Or.inl ⟨name, hname, hne, hselector⟩) hone
      · rename_i s hname hselector
        exact absurd (Or.inr ⟨hname, s, hselector⟩) hone
      · rfl
    · simp only [resolveSelection, hname, hselector,
        ((Selector.decided_validate _).error_iff _).2 hfault]

/-- A subject that a reference resolves to is the one that it is resolved to. -/
theorem ofRef_of_resolves {s : Subject} (h : r.Resolves binding s) : ofRef r binding = .ok s := by
  obtain ⟨hversion, hkind, hkindne, hnamespace, hne, hselection⟩ := h
  rw [ofRef, GroupVersion.parse?_eq_some_iff.2 hversion, resolveNamespace_eq, if_neg hne,
    ((decided_resolveSelection r).ok_iff _).2 hselection, ← hkind, ← hnamespace]
  exact if_neg (hkind ▸ hkindne)

/-- The first condition that a reference does not meet is the fault that is named. -/
theorem ofRef_of_fails {fault : SubjectFault} (h : r.Fails binding fault) :
    ofRef r binding = .error fault := by
  have hparse : GroupVersion.IsNameable r.apiVersion →
      ∃ gv, GroupVersion.parse? r.apiVersion = some gv := fun hversion => by
    obtain ⟨gv, hnamed⟩ := GroupVersion.exists_isNamed_iff.2 hversion
    exact ⟨gv, GroupVersion.parse?_eq_some_iff.2 hnamed⟩
  cases h with
  | apiVersion hversion =>
    have hnone : GroupVersion.parse? r.apiVersion = none := by
      refine Option.eq_none_iff_forall_ne_some.2 fun gv hgv => hversion ?_
      exact GroupVersion.exists_isNamed_iff.1 ⟨gv, GroupVersion.parse?_eq_some_iff.1 hgv⟩
    rw [ofRef, hnone]
    rfl
  | missingKind hversion hkind =>
    obtain ⟨gv, hgv⟩ := hparse hversion
    rw [ofRef, hgv]
    exact if_pos hkind
  | missingNamespace hversion hkind hnamespace =>
    obtain ⟨gv, hgv⟩ := hparse hversion
    rw [ofRef, hgv, resolveNamespace_eq, if_pos hnamespace]
    exact if_neg hkind
  | selection hversion hkind hnamespace hfault =>
    obtain ⟨gv, hgv⟩ := hparse hversion
    rw [ofRef, hgv, resolveNamespace_eq, if_neg hnamespace,
      ((decided_resolveSelection r).error_iff _).2 hfault]
    exact if_neg hkind

/-- The subject of a resolved reference is of the type that its `apiVersion` names. -/
theorem apiVersion_of_resolves {s : Subject} (h : r.Resolves binding s) :
    s.resourceType.apiVersion = withoutLeadingSlash r.apiVersion :=
  h.apiVersion.render

/-- A reference resolves just when it is well-formed, to the subject that is made of what it says, whose
type has the `apiVersion` of the reference without a leading slash. When it does not resolve, the fault
is the first condition that it does not meet. -/
theorem decided_ofRef (r : SubjectRef) (binding : String) :
    ((∃ s, ofRef r binding = .ok s) ↔ r.IsWellFormed binding) ∧
      (∀ s, ofRef r binding = .ok s ↔ r.Resolves binding s) ∧
      (∀ s, ofRef r binding = .ok s →
        s.resourceType.apiVersion = withoutLeadingSlash r.apiVersion) ∧
      ∀ fault, ofRef r binding = .error fault ↔ r.Fails binding fault := by
  have hdecided : Decided (ofRef r binding) (r.Resolves binding) (r.Fails binding) :=
    .of_total (fun _ => ofRef_of_resolves) (fun _ => ofRef_of_fails) (r.resolves_or_fails binding)
  refine ⟨?_, hdecided.ok_iff, fun s h => apiVersion_of_resolves ((hdecided.ok_iff s).1 h),
    hdecided.error_iff⟩
  rw [← exists_resolves_iff]
  exact exists_congr hdecided.ok_iff

/-- A reference to the deployments whose tier is known and whose zone is one of none. -/
def zonedRef : SubjectRef where
  apiVersion := "apps/v1"
  kind := "Deployment"
  «namespace» := none
  name := none
  selector := some (.ofRequirements [⟨"tier", .present, .empty⟩, ⟨"zone", .oneOf, .empty⟩])

/-- A reference whose selector has a requirement `In` without values does not resolve, and that is the
fault that is named, behind a requirement `Exists` that is well-formed. -/
theorem decided_ofRef_zonedRef :
    ¬zonedRef.IsWellFormed "shop" ∧
      zonedRef.Fails "shop" (.selector (.valuesMissing .oneOf "zone")) ∧
      ofRef zonedRef "shop" = .error (.selector (.valuesMissing .oneOf "zone")) := by
  obtain ⟨hresolves, -, -, hfault⟩ := decided_ofRef zonedRef "shop"
  have hfirst : Requirement.FirstFault [⟨"tier", .present, .empty⟩, ⟨"zone", .oneOf, .empty⟩]
      (.valuesMissing .oneOf "zone") := by
    refine ⟨[⟨"tier", .present, .empty⟩], ⟨"zone", .oneOf, .empty⟩, [], rfl, ?_, ?_⟩
    · exact List.forall_mem_singleton.2 (.present (by decide) rfl rfl)
    · exact .oneOf (by decide) rfl rfl
  have hmisses : zonedRef.MissesSelection (.selector (.valuesMissing .oneOf "zone")) :=
    .selector rfl rfl (.matchExpressions rfl hfirst)
  have hversion : GroupVersion.IsNameable zonedRef.apiVersion := ⟨by decide, by decide⟩
  have hfails : zonedRef.Fails "shop" (.selector (.valuesMissing .oneOf "zone")) :=
    .selection hversion (by decide) (by decide) hmisses
  have herror := (hfault _).2 hfails
  refine ⟨fun hvalid => ?_, hfails, herror⟩
  obtain ⟨s, hs⟩ := hresolves.2 hvalid
  cases herror.symm.trans hs

/-- An empty namespace counts as none, and an empty name as a selection that is not there. -/
example :
    (Subject.ofRef ⟨"/v1", "Pod", some "", some "web", none⟩ "shop").toOption =
        some ⟨⟨"", "Pod"⟩, "v1", "shop", .name "web"⟩ ∧
      (Subject.ofRef ⟨"/v1", "Pod", none, some "", none⟩ "shop").toOption = none := by
  decide

end Subject

end WorkloadBindings
