import WorkloadBindings.Proofs.Json.Conform

/-!
# What a difference leaves wherever it can be carried out

A value that covers the old one can always be patched with a difference (`Json.applyPatch_diff`). Here
nothing is assumed of the value but that the old one is its written form, and that all operations of
the difference could be carried out: then the new value is the written form of what they leave
(`Shape.conform_of_applyPatch_diff`). Where the value has no place for an operation, the difference
is empty there, or the place holds a null, which is replaced as a whole.
-/

namespace WorkloadBindings

/-! ## Operations with no place -/

/-- The operation is about a place inside a value. -/
def PatchOp.isInner : PatchOp → Bool
  | replace p _ | add p _ | remove p => !p.isEmpty
  | _ => false

/-- A local operation inside a member or an item is about a place inside the whole. -/
theorem PatchOp.isInner_under (token : String) {op : PatchOp} (h : op.isLocal = true) :
    (op.under token).isInner = true := by
  cases op <;> first | rfl | cases h

/-- A pointer to a place inside a value has a first token. -/
theorem Pointer.exists_cons {p : Pointer} (h : (!p.isEmpty) = true) :
    ∃ token rest, p = token :: rest := by
  cases p with
  | nil => cases h
  | cons token rest => exact ⟨token, rest, rfl⟩

namespace Json

variable {ms olds news : Members} {j o n : Json}

/-- There is no place inside a null. -/
theorem applyOp_null {op : PatchOp} (h : op.isInner = true) : null.applyOp op = none := by
  cases op with
  | add p v =>
    obtain ⟨token, rest, rfl⟩ := Pointer.exists_cons h
    cases rest with
    | nil => rfl
    | cons _ _ => simp [applyOp, addAt, modifyAt, List.getLast?_cons]
  | remove p =>
    obtain ⟨token, rest, rfl⟩ := Pointer.exists_cons h
    cases rest with
    | nil => rfl
    | cons _ _ => simp [applyOp, removeAt, modifyAt, List.getLast?_cons]
  | replace p v =>
    obtain ⟨token, rest, rfl⟩ := Pointer.exists_cons h
    rfl
  | _ => cases h

/-- There is no place inside a member that an object lacks. -/
theorem applyOp_under_absent {name : String} (hx : Assoc.get? name ms = none) {op : PatchOp}
    (hop : op.isLocal = true) : (obj ms).applyOp (op.under name) = none := by
  cases op with
  | add p v =>
    obtain ⟨last, -, hunder, hdrop⟩ := exists_last name hop
    simp [PatchOp.under, applyOp, addAt, hunder, hdrop, modifyAt, hx]
  | remove p =>
    obtain ⟨last, -, hunder, hdrop⟩ := exists_last name hop
    simp [PatchOp.under, applyOp, removeAt, hunder, hdrop, modifyAt, hx]
  | replace p v => simp [PatchOp.under, applyOp, modifyAt, hx]
  | _ => cases hop

/-- What is no object has no place inside a token that is no index. -/
theorem applyOp_under_of_not_obj {token : String} (htoken : Pointer.index? token = none)
    (hj : ∀ ms, j ≠ obj ms) {op : PatchOp} (hop : op.isLocal = true) :
    j.applyOp (op.under token) = none := by
  have hmodify : ∀ (f : Json → Option Json) (path : Pointer), modifyAt f (token :: path) j = none := by
    intro f path
    cases j with
    | obj ms => exact absurd rfl (hj ms)
    | arr xs => rw [modifyAt, htoken]; rfl
    | _ => rfl
  cases op with
  | add p v =>
    obtain ⟨last, -, hunder, hdrop⟩ := exists_last token hop
    simp only [PatchOp.under, applyOp, addAt, hunder, hdrop, hmodify]
  | remove p =>
    obtain ⟨last, -, hunder, hdrop⟩ := exists_last token hop
    simp only [PatchOp.under, applyOp, removeAt, hunder, hdrop, hmodify]
  | replace p v => exact hmodify _ p
  | _ => cases hop

/-- Operations inside a token that is no index were carried out on a member of an object. -/
theorem exists_member_of_applyPatch (hj : j.isOrdered = true) {token : String}
    (htoken : Pointer.index? token = none) {patch : Patch} (hlocal : ∀ op ∈ patch, op.isLocal = true)
    (hne : patch ≠ []) {j' : Json} (h : j.applyPatch (patch.map (PatchOp.under token)) = some j') :
    ∃ ms x y, j = obj ms ∧ Assoc.get? token ms = some x ∧ x.applyPatch patch = some y ∧
      j' = obj (Assoc.insert token y ms) := by
  obtain ⟨op, rest, rfl⟩ := List.exists_cons_of_ne_nil hne
  have hop := hlocal op List.mem_cons_self
  by_cases hobj : ∃ ms, j = obj ms
  · obtain ⟨ms, rfl⟩ := hobj
    cases hx : Assoc.get? token ms with
    | none =>
      rw [List.map_cons, applyPatch_cons, applyOp_under_absent hx hop] at h
      cases h
    | some x =>
      rw [applyPatch_under_member (sorted_of_isOrdered hj) hx hlocal] at h
      obtain ⟨y, hy, rfl⟩ := Option.map_eq_some_iff.1 h
      exact ⟨ms, x, y, rfl, hx, hy, rfl⟩
  · rw [List.map_cons, applyPatch_cons,
      applyOp_under_of_not_obj htoken (fun ms hms => hobj ⟨ms, hms⟩) hop] at h
    cases h

/-- The operations on the members of an object are about places inside it. -/
theorem isInner_of_mem_diffMembers : ∀ {news : Members}, ∀ op ∈ diffMembers [] olds news,
    op.isInner = true
  | [], op, hop => by simp [diffMembers] at hop
  | (name, new) :: rest, op, hop => by
    rw [diffMembers] at hop
    rcases List.mem_append.1 hop with hhead | htail
    · split at hhead
      · rw [List.nil_append, diffAt_cons] at hhead
        obtain ⟨op, hmem, rfl⟩ := List.mem_map.1 hhead
        exact PatchOp.isInner_under name (isLocal_of_mem_diffAt _ _ _ op hmem)
      · obtain rfl := List.mem_singleton.1 hhead
        rfl
    · exact isInner_of_mem_diffMembers op htail

/-- The operations on the items of a list are about places inside it. -/
theorem isInner_of_mem_diffItems {i : Nat} {olds : List Json} : ∀ {news : List Json},
    ∀ op ∈ diffItems [] i olds news, op.isInner = true
  | [], op, hop => by
    rw [diffItems] at hop
    obtain ⟨_, -, rfl⟩ := List.mem_map.1 hop
    rfl
  | new :: news, op, hop => by
    cases olds with
    | nil =>
      rw [diffItems] at hop
      rcases List.mem_cons.1 hop with rfl | htail
      · rfl
      · exact isInner_of_mem_diffItems op htail
    | cons old olds =>
      rw [diffItems, List.nil_append, diffAt_cons] at hop
      rcases List.mem_append.1 hop with hhead | htail
      · obtain ⟨op, hmem, rfl⟩ := List.mem_map.1 hhead
        exact PatchOp.isInner_under _ (isLocal_of_mem_diffAt _ _ _ op hmem)
      · exact isInner_of_mem_diffItems op htail

/-- A null on which operations inside it were carried out is left, and there were none. -/
theorem eq_of_applyPatch_null {patch : Patch} (hinner : ∀ op ∈ patch, op.isInner = true)
    (h : null.applyPatch patch = some j) : patch = [] ∧ j = null := by
  cases patch with
  | nil => exact ⟨rfl, (Option.some.inj h).symm⟩
  | cons op rest =>
    rw [applyPatch_cons, applyOp_null (hinner op List.mem_cons_self)] at h
    cases h

/-- A null to which a difference was carried out is replaced by the new value, or there was no
difference. -/
theorem applyPatch_diff_null (h : null.applyPatch (diff o n) = some j) :
    j = n ∨ diff o n = [] ∧ j = null := by
  have hscalar : diff o n = (if o = n then [] else [.replace [] n]) → j = n ∨ diff o n = [] ∧ j = null := by
    intro hdiff
    rw [hdiff] at h ⊢
    split at h
    · exact Or.inr ⟨if_pos ‹_›, (Option.some.inj h).symm⟩
    · exact Or.inl (Option.some.inj h).symm
  have hreplaced : diff o n = [.replace [] n] → j = n := by
    intro hdiff
    rw [hdiff] at h
    exact (Option.some.inj h).symm
  -- Two objects or two lists are compared inside, where a null has no place; all else is replaced.
  cases n with
  | obj news =>
    cases o with
    | obj olds =>
      refine Or.inr (eq_of_applyPatch_null (fun op hop => ?_) h)
      rcases List.mem_append.1 hop with hmember | hgone
      · exact isInner_of_mem_diffMembers op hmember
      · obtain ⟨_, -, rfl⟩ := List.mem_map.1 hgone
        rfl
    | _ => exact Or.inl (hreplaced rfl)
  | arr news =>
    cases o with
    | arr olds => exact Or.inr (eq_of_applyPatch_null isInner_of_mem_diffItems h)
    | _ => exact Or.inl (hreplaced rfl)
  | _ => exact hscalar (by simp only [diff, diffAt])

/-! ## Members and items -/

/-- What a difference leaves of a member whose old value and new value are given: it is put in, or its
own difference is carried out on it, or it is absent and there was no difference. -/
inductive MemberOutcome (found old : Option Json) (new : Json) : Option Json → Prop where
  | added (hold : old = none) : MemberOutcome found old new (some new)
  | changed {x y o : Json} (hfound : found = some x) (hold : old = some o)
      (h : x.applyPatch (diff o new) = some y) : MemberOutcome found old new (some y)
  | absent {o : Json} (hfound : found = none) (hold : old = some o) (h : diff o new = []) :
      MemberOutcome found old new none

/-- The operations inside a member leave it so. -/
theorem memberOutcome_of_applyPatch (hms : Assoc.Sorted ms) {name : String} {new : Json}
    (h : (obj ms).applyPatch
        (match Assoc.get? name olds with
          | some old => diffAt ([] ++ [name]) old new
          | none => [.add ([] ++ [name]) new]) = some j) :
    ∃ ms', j = obj ms' ∧ Assoc.Sorted ms' ∧
      MemberOutcome (Assoc.get? name ms) (Assoc.get? name olds) new (Assoc.get? name ms') ∧
      ∀ other, other ≠ name → Assoc.get? other ms' = Assoc.get? other ms := by
  cases hold : Assoc.get? name olds with
  | none =>
    rw [hold] at h
    obtain rfl : obj (Assoc.insert name new ms) = j := by
      simpa [applyPatch, applyOp, addAt, modifyAt, addChild] using h
    refine ⟨_, rfl, hms.insert name new, ?_, fun other hne => Assoc.get?_insert_of_ne hne new ms⟩
    rw [Assoc.get?_insert_self]
    exact .added rfl
  | some o =>
    rw [hold] at h
    simp only [List.nil_append] at h
    cases hx : Assoc.get? name ms with
    | some x =>
      rw [applyPatch_diffAt_member hms hx] at h
      obtain ⟨y, hy, rfl⟩ := Option.map_eq_some_iff.1 h
      refine ⟨_, rfl, hms.insert name y, ?_, fun other hne => Assoc.get?_insert_of_ne hne y ms⟩
      rw [Assoc.get?_insert_self]
      exact .changed rfl rfl hy
    | none =>
      -- An operation inside a member that is absent would fail, so there is none.
      rw [diffAt_cons] at h
      cases hdiff : diffAt [] o new with
      | nil =>
        rw [hdiff] at h
        obtain rfl := Option.some.inj h
        refine ⟨ms, rfl, hms, ?_, fun _ _ => rfl⟩
        rw [hx]
        exact .absent rfl rfl hdiff
      | cons op rest =>
        have hop : op.isLocal = true := isLocal_of_mem_diffAt [] o new op (hdiff ▸ List.mem_cons_self)
        rw [hdiff, List.map_cons, applyPatch_cons, applyOp_under_absent hx hop] at h
        cases h

/-- The operations on members leave each as its own do, and the others as they were. -/
theorem exists_members_of_applyPatch : ∀ {news : Members} {ms : Members}, Assoc.Sorted ms →
    Assoc.Sorted news → (obj ms).applyPatch (diffMembers [] olds news) = some j →
    ∃ ms', j = obj ms' ∧
      (∀ name, Assoc.get? name news = none → Assoc.get? name ms' = Assoc.get? name ms) ∧
      ∀ name new, Assoc.get? name news = some new →
        MemberOutcome (Assoc.get? name ms) (Assoc.get? name olds) new (Assoc.get? name ms')
  | [], ms, _, _, h => by
    rw [diffMembers] at h
    exact ⟨ms, (Option.some.inj h).symm, fun _ _ => rfl, nofun⟩
  | (name, new) :: rest, ms, hms, hnews, h => by
    obtain ⟨hfirst, hrest⟩ := List.pairwise_cons.1 hnews
    have hnone : Assoc.get? name rest = none := Assoc.get?_eq_none_of_lt hfirst
    rw [diffMembers, applyPatch_append] at h
    obtain ⟨j₁, hhead, htail⟩ := Option.bind_eq_some_iff.1 h
    -- The operations on the first member touch no other, which the later ones find as it was.
    obtain ⟨ms₁, rfl, hms₁, hmember, hothers⟩ := memberOutcome_of_applyPatch hms hhead
    obtain ⟨ms', rfl, hkept, hchanged⟩ := exists_members_of_applyPatch hms₁ hrest htail
    refine ⟨ms', rfl, fun other hother => ?_, fun other value hvalue => ?_⟩
    · -- A name that is not listed is neither the first one nor one of the others.
      by_cases hne : other = name
      · rw [hne, Assoc.get?, if_pos rfl] at hother
        cases hother
      · rw [Assoc.get?, if_neg hne] at hother
        rw [hkept other hother, hothers other hne]
    · by_cases hne : other = name
      · rw [hne, Assoc.get?, if_pos rfl] at hvalue
        obtain rfl := Option.some.inj hvalue
        rw [hne, hkept name hnone]
        exact hmember
      · rw [Assoc.get?, if_neg hne] at hvalue
        rw [← hothers other hne]
        exact hchanged other value hvalue

/-- Members that were removed one after the other are dropped. -/
theorem eq_dropMembers_of_applyPatch : ∀ {gone ms : Members},
    (obj ms).applyPatch (gone.map fun m => .remove ([] ++ [m.1])) = some j →
      j = obj (dropMembers ms gone)
  | [], ms, h => (Option.some.inj h).symm
  | m :: rest, ms, h => by
    rw [List.map_cons, applyPatch_cons] at h
    obtain ⟨j₁, hop, htail⟩ := Option.bind_eq_some_iff.1 h
    have hchild : removeChild m.1 (obj ms) = some j₁ := hop
    rw [removeChild] at hchild
    split at hchild
    · obtain rfl := Option.some.inj hchild
      have hrest := eq_dropMembers_of_applyPatch htail
      exact hrest
    · cases hchild

/-- What a difference between objects leaves of each member. -/
theorem exists_obj_of_applyPatch (hms : Assoc.Sorted ms) (hnews : Assoc.Sorted news)
    (h : (obj ms).applyPatch (diff (obj olds) (obj news)) = some j) :
    ∃ ms', j = obj ms' ∧ ∀ name,
      match Assoc.get? name news with
      | some new => MemberOutcome (Assoc.get? name ms) (Assoc.get? name olds) new
          (Assoc.get? name ms')
      | none => Assoc.get? name ms' =
          if (Assoc.get? name olds).isSome then none else Assoc.get? name ms := by
  rw [diff, diffAt, applyPatch_append] at h
  obtain ⟨j₁, hmembers, hgone⟩ := Option.bind_eq_some_iff.1 h
  obtain ⟨ms₁, rfl, hkept, hchanged⟩ := exists_members_of_applyPatch hms hnews hmembers
  refine ⟨_, eq_dropMembers_of_applyPatch hgone, fun name => ?_⟩
  rw [get?_dropMembers, Assoc.get?_filter fun name => (Assoc.get? name news).isNone]
  cases hnew : Assoc.get? name news with
  | some new => simpa using hchanged name new hnew
  | none => simp [hkept name hnew]

/-- Items that relate to the old ones relate to the new ones after a difference, when each item does
after its own. -/
theorem forall₂_of_applyPatch {R : Json → Json → Prop}
    (hitem : ∀ x o n y : Json, x.isOrdered = true → o.isOrdered = true → n.isOrdered = true →
      R x o → R n n → x.applyPatch (diff o n) = some y → R y n) :
    ∀ {news : List Json} (done : List Json) {xs olds : List Json},
      (∀ x ∈ xs, x.isOrdered = true) → (∀ o ∈ olds, o.isOrdered = true) →
      (∀ n ∈ news, n.isOrdered = true ∧ R n n) → List.Forall₂ R xs olds →
      (arr (done ++ xs)).applyPatch (diffItems [] done.length olds news) = some j →
      ∃ ys, j = arr (done ++ ys) ∧ List.Forall₂ R ys news
  | [], done, xs, olds, _, _, _, hall, h => by
    rw [diffItems, applyPatch_truncate done hall.length_eq] at h
    refine ⟨[], ?_, .nil⟩
    rw [List.append_nil]
    exact (Option.some.inj h).symm
  | new :: news, done, xs, olds, hxs, holds, hnews, hall, h => by
    obtain ⟨hnew, hself⟩ := hnews new List.mem_cons_self
    have hrest : ∀ n ∈ news, n.isOrdered = true ∧ R n n :=
      fun n hn => hnews n (List.mem_cons_of_mem _ hn)
    cases hall with
    | nil =>
      -- The old list has ended, and so has the list that is patched: the item is put at its end.
      have hop : (arr (done ++ [])).applyOp (.add [Pointer.ofIndex done.length] new) =
          some (arr (done ++ [new] ++ [])) := by
        simp [applyOp, addAt, modifyAt, addChild, Pointer.ofIndex_ne_dash, Pointer.index?_ofIndex]
      rw [diffItems, applyPatch_cons, List.nil_append, hop, Option.bind_some] at h
      have hlength : done.length + 1 = (done ++ [new]).length := by simp
      rw [hlength] at h
      obtain ⟨ys, rfl, hys⟩ := forall₂_of_applyPatch hitem (done ++ [new]) (List.forall_mem_nil _)
        (List.forall_mem_nil _) hrest .nil h
      exact ⟨new :: ys, by rw [List.append_assoc, List.singleton_append], .cons hself hys⟩
    | @cons x old xs olds hhd htl =>
      -- The item is patched in its place, and then it is one of those that are done.
      have hx : (done ++ x :: xs)[done.length]? = some x := by simp
      rw [diffItems, List.nil_append, diffAt_cons, applyPatch_append,
        applyPatch_under_item hx (isLocal_of_mem_diffAt [] old new)] at h
      obtain ⟨j₁, hhead, htail⟩ := Option.bind_eq_some_iff.1 h
      obtain ⟨y, hy, rfl⟩ := Option.map_eq_some_iff.1 hhead
      have hyn := hitem x old new y (hxs x List.mem_cons_self) (holds old List.mem_cons_self) hnew
        hhd hself hy
      have hset : (done ++ x :: xs).set done.length y = done ++ [y] ++ xs := by simp
      have hlength : done.length + 1 = (done ++ [y]).length := by simp
      rw [hset, hlength] at htail
      obtain ⟨ys, rfl, hys⟩ := forall₂_of_applyPatch hitem (done ++ [y])
        (fun z hz => hxs z (List.mem_cons_of_mem _ hz))
        (fun z hz => holds z (List.mem_cons_of_mem _ hz)) hrest htl htail
      exact ⟨y :: ys, by rw [List.append_assoc, List.singleton_append], .cons hyn hys⟩

end Json

/-! ## Written forms -/

namespace Shape

/-- A member is written as its new value after its difference was carried out. -/
theorem writes_of_memberOutcome {presence : Presence} {shape : Shape}
    (haccepts : acceptsNull presence shape = true) (hshape : shape.isPlain = true)
    (hpart : ∀ {x o n y : Json}, x.isOrdered = true → o.isOrdered = true → n.isOrdered = true →
      conform shape x = .ok o → conform shape n = .ok n → x.applyPatch (Json.diff o n) = some y →
      conform shape y = .ok n)
    {found old found' : Option Json} {new : Json} (hold : Writes presence shape found old)
    (hnew : Writes presence shape (some new) (some new))
    (hfo : ∀ x, found = some x → x.isOrdered = true) (hoo : ∀ o, old = some o → o.isOrdered = true)
    (hno : new.isOrdered = true) (h : Json.MemberOutcome found old new found') :
    Writes presence shape found' (some new) := by
  obtain ⟨hnew', hnn⟩ := conform_of_writes haccepts hnew id
  cases h with
  | added => exact hnew
  | absent hfound hold' hdiff =>
    obtain rfl := (Json.diff_eq_nil_iff (hoo _ hold') hno).1 hdiff
    rwa [hfound, hold'] at hold
  | @changed x y o hfound hold' hpatch =>
    rw [hfound, hold'] at hold
    rcases writes_cases haccepts hold with ⟨hnull, -⟩ | ⟨x', o', hx, -, hxo, ho⟩
    · -- A null was replaced, or stands for the new value as it stood for the old one.
      obtain rfl : x = .null := by simpa using hnull
      rcases Json.applyPatch_diff_null hpatch with rfl | ⟨hdiff, rfl⟩
      · exact hnew
      · obtain rfl := (Json.diff_eq_nil_iff (hoo _ hold') hno).1 hdiff
        exact hold
    · obtain rfl := Option.some.inj hx
      obtain rfl := Option.some.inj ho
      have hyn := hpart (hfo _ hfound) (hoo _ hold') hno hxo hnn hpatch
      exact writes_given haccepts ((eq_null_iff_of_conform hshape hyn).not.1 hnew') hyn

/-- When a difference between values in written form can be carried out on a value that is written as
the old one, what comes out is written as the new one. -/
theorem conform_of_applyPatch_diff {s : Shape} (hs : s.isPlain = true) {x o n y : Json}
    (hx : x.isOrdered = true) (ho : o.isOrdered = true) (hn : n.isOrdered = true)
    (hxo : conform s x = .ok o) (hnn : conform s n = .ok n)
    (h : x.applyPatch (Json.diff o n) = some y) : conform s y = .ok n := by
  revert x o n y
  refine isPlain_induction (P := fun s => ∀ {x o n y : Json}, x.isOrdered = true →
    o.isOrdered = true → n.isOrdered = true → conform s x = .ok o → conform s n = .ok n →
    x.applyPatch (Json.diff o n) = some y → conform s y = .ok n)
    { copied := ?copied, instant := ?instant, list := ?list, object := ?object } s hs
  case copied =>
    -- What is read is its own written form, so what is patched is the old value.
    intro s hs x o n y hx _ hn hxo hnn h
    obtain rfl := conform_copied hs hxo
    obtain rfl := Option.some.inj ((Json.applyPatch_diff_self hx hn).symm.trans h)
    exact hnn
  case instant =>
    -- A text is replaced as a whole, or stays when what is written of it does.
    intro x o n y _ _ _ hxo hnn h
    obtain ⟨old, _, rfl, -, rfl⟩ := conform_instant hxo
    obtain ⟨new, _, rfl, -, hnew⟩ := conform_instant hnn
    rw [Json.diff, Json.diffAt] at h
    · split at h
      · rename_i heq
        obtain rfl := Option.some.inj h
        rw [heq] at hxo
        exact hxo
      · obtain rfl := Option.some.inj h
        exact hnn
    all_goals nofun
  case list =>
    intro item _ hitem x o n y hx ho hn hxo hnn h
    obtain ⟨xs, olds, rfl, rfl, hxs⟩ := conform_list_iff.1 hxo
    obtain ⟨news, news', rfl, heq, hnews⟩ := conform_list_iff.1 hnn
    obtain rfl := Json.arr.inj heq
    rw [Json.isOrdered_arr_iff] at hx ho hn
    rw [Json.diff, Json.diffAt] at h
    obtain ⟨ys, rfl, hys⟩ := Json.forall₂_of_applyPatch
      (fun x o n y hx ho hn hxo hnn h => hitem hx ho hn hxo hnn h) [] hx ho
      (fun n hmem => ⟨hn n hmem, List.forall₂_same.1 hnews n hmem⟩) hxs h
    exact conform_list_iff.2 ⟨ys, news, rfl, rfl, hys⟩
  case object =>
    intro expected fields hfields hmembers x o n y hx ho hn hxo hnn h
    obtain ⟨ms, rfl⟩ := conform_object hxo
    obtain ⟨news, rfl⟩ := conform_object hnn
    obtain ⟨holds, hwrites⟩ := (conform_object_iff hfields.allOptional ms o).1 hxo
    obtain ⟨hrecord, hself⟩ := (conform_object_iff hfields.allOptional news _).1 hnn
    obtain ⟨olds, rfl⟩ : ∃ olds, o = .obj olds := ⟨_, holds⟩
    obtain ⟨ms', rfl, houtcome⟩ := Json.exists_obj_of_applyPatch (Json.sorted_of_isOrdered hx)
      (Json.sorted_of_isOrdered hn) h
    refine (conform_object_iff hfields.allOptional ms' _).2 ⟨hrecord, fun f hf => ?_⟩
    have hold : Writes f.2.1 f.2.2 (Assoc.get? f.1 ms) (Assoc.get? f.1 olds) := hwrites f hf
    have hnew : Writes f.2.1 f.2.2 (Assoc.get? f.1 news) (Assoc.get? f.1 news) := hself f hf
    -- The record is read member by member, and each one has its own outcome.
    have hmember := houtcome f.1
    rw [Json.get?]
    cases hvalue : Assoc.get? f.1 news with
    | some new =>
      simp only [hvalue] at hmember hnew
      exact writes_of_memberOutcome (hfields.acceptsNull f hf) (hmembers f hf).1 (hmembers f hf).2
        hold hnew (fun x hx' => Json.isOrdered_of_get? hx hx')
        (fun o ho' => Json.isOrdered_of_get? ho ho') (Json.isOrdered_of_get? hn hvalue) hmember
    | none =>
      -- What was written before is taken out, and else the member stays, be it a null.
      simp only [hvalue] at hmember hnew
      rw [hmember]
      cases hbefore : Assoc.get? f.1 olds with
      | some o => exact hnew
      | none =>
        rw [hbefore] at hold
        exact hold

end Shape

end WorkloadBindings
