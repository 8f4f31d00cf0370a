import WorkloadBindings.Proofs.Json.Difference

/-!
# Differences carried out beside other changes

Two changes of one value are made apart, and the difference that one of them makes is carried out on
what the other one has made already. That goes well as long as no part is touched by both
(`Json.PartTransfer.Holds`), however many parts there are, and for all items of a list alike: objects
are put together from their parts by `Json.transfers_record`, and lists from their items by
`Json.transfers_map`.
-/

namespace WorkloadBindings.Json

/-- Carried out on `other`, the difference between `base` and `one` gives `both`. All that differences
are taken of has its names in order. -/
def Transfers (base one other both : Json) : Prop :=
  base.isOrdered = true → one.isOrdered = true → other.applyPatch (diff base one) = some both

/-- A value that the other side left alone becomes what the one side makes of it. -/
theorem transfers_of_eq {base one other both : Json} (hother : other = base) (hboth : both = one) :
    Transfers base one other both := by
  intro hbase hone
  rw [hother, hboth, applyPatch_diff_self hbase hone]

/-! ## Objects -/

/-- A part of an object, which may be absent: before the changes, after one of them, after the other
one, and after both. -/
structure PartTransfer where
  base : Option Json
  one : Option Json
  other : Option Json
  both : Option Json

/-- A part that neither change touches. -/
def PartTransfer.same (part : Option Json) : PartTransfer := ⟨part, part, part, part⟩

/-- At most one of the changes touches the part, or they meet inside it. -/
def PartTransfer.Holds (t : PartTransfer) : Prop :=
  (t.one = t.base ∧ t.both = t.other) ∨ (t.other = t.base ∧ t.both = t.one) ∨
    ∃ base one other both, t.base = some base ∧ t.one = some one ∧ t.other = some other ∧
      t.both = some both ∧ Transfers base one other both

theorem PartTransfer.holds_same (part : Option Json) : (same part).Holds := Or.inl ⟨rfl, rfl⟩

/-- A part that is there on all sides becomes what both changes make of it when its value does. -/
theorem PartTransfer.holds_of_transfers {base one other both : Json}
    (h : Transfers base one other both) : Holds ⟨some base, some one, some other, some both⟩ :=
  Or.inr (Or.inr ⟨base, one, other, both, rfl, rfl, rfl, rfl, h⟩)

/-- A part that the one side removes is left alone by the other one, and is gone in the end. -/
theorem PartTransfer.Holds.of_gone {base : Json} {other both : Option Json}
    (h : PartTransfer.Holds ⟨some base, none, other, both⟩) : other = some base ∧ both = none := by
  rcases h with ⟨hone, -⟩ | ⟨hother, hboth⟩ | ⟨_, _, _, _, -, hone, -⟩
  · cases hone
  · exact ⟨hother, hboth⟩
  · cases hone

/-- A part that is neither there before nor put in by the one side is what the other side makes of it.
-/
theorem PartTransfer.Holds.of_absent {other both : Option Json}
    (h : PartTransfer.Holds ⟨none, none, other, both⟩) : both = other := by
  rcases h with ⟨-, hboth⟩ | ⟨hother, hboth⟩ | ⟨_, _, _, _, hbase, -⟩
  · exact hboth
  · exact hboth.trans hother.symm
  · cases hbase

variable {olds news ms both : Members}

/-- Bringing a member to its new value makes it what both changes make of it, and leaves the others.
-/
theorem applyPatch_member_transfer {name : String} {new : Json} {want : Option Json}
    (hnew : new.isOrdered = true)
    (hold : ∀ x, Assoc.get? name olds = some x → x.isOrdered = true) (hms : Assoc.Sorted ms)
    (h : PartTransfer.Holds ⟨Assoc.get? name olds, some new, Assoc.get? name ms, want⟩) :
    ∃ ms', (obj ms).applyPatch (diffMembers [] olds [(name, new)]) = some (obj ms') ∧
      Assoc.Sorted ms' ∧ Assoc.get? name ms' = want ∧
      ∀ k, compare k name ≠ .eq → Assoc.get? k ms' = Assoc.get? k ms := by
  have hchanged : ∀ old, Assoc.get? name olds = some old →
      diffMembers [] olds [(name, new)] = diffAt [name] old new := by
    intro old hgetOld
    rw [diffMembers, diffMembers, List.append_nil, hgetOld]
    rfl
  have hadded : Assoc.get? name olds = none →
      diffMembers [] olds [(name, new)] = [.add [name] new] := by
    intro hgetOld
    rw [diffMembers, diffMembers, List.append_nil, hgetOld]
    rfl
  -- The member may be there already, or is put in.
  have hinsert : ∀ value, want = some value → Assoc.Sorted (Assoc.insert name value ms) ∧
      Assoc.get? name (Assoc.insert name value ms) = want ∧ ∀ k, compare k name ≠ .eq →
        Assoc.get? k (Assoc.insert name value ms) = Assoc.get? k ms := by
    rintro value rfl
    refine ⟨hms.insert name value, Assoc.get?_insert_self name value ms, fun k hk => ?_⟩
    rw [Assoc.get?_insert, if_neg hk]
  have hinside : ∀ old found value, Assoc.get? name olds = some old →
      Assoc.get? name ms = some found → Transfers old new found value →
      (obj ms).applyPatch (diffAt [name] old new) = some (obj (Assoc.insert name value ms)) := by
    intro old found value hgetOld hgetFound htransfers
    have hpatch := applyPatch_diffAt_member hms hgetFound [] old new
    rw [hpatch, ← diff, htransfers (hold old hgetOld) hnew, Option.map_some]
  rcases h with ⟨hone, hboth⟩ | ⟨hother, hboth⟩ | ⟨old, one, found, value, hgetOld, hone, hgetFound,
    hboth, htransfers⟩
  · -- It is not changed here.
    have hgetOld : Assoc.get? name olds = some new := hone.symm
    have hsame : diffAt [name] new new = [] := diffAt_self [name] hnew
    exact ⟨ms, by rw [hchanged new hgetOld, hsame]; rfl, hms, hboth.symm, fun _ _ => rfl⟩
  · -- It was not changed before.
    refine ⟨Assoc.insert name new ms, ?_, hinsert new hboth⟩
    cases hgetOld : Assoc.get? name olds with
    | none =>
      rw [hadded hgetOld]
      simp [applyPatch, applyOp, addAt, modifyAt, addChild]
    | some old =>
      rw [hchanged old hgetOld]
      exact hinside old old new hgetOld (hother.trans hgetOld) (transfers_of_eq rfl rfl)
  · obtain rfl := Option.some.inj hone
    refine ⟨Assoc.insert name value ms, ?_, hinsert value hboth⟩
    rw [hchanged old hgetOld]
    exact hinside old found value hgetOld hgetFound htransfers

/-- Bringing members to their new values makes each of them what both changes make of it, and leaves
the others. -/
theorem applyPatch_diffMembers_transfer (hnews : (obj news).isOrdered = true)
    (hold : ∀ name x, Assoc.get? name olds = some x → x.isOrdered = true) (hms : Assoc.Sorted ms)
    (hparts : ∀ m ∈ news, PartTransfer.Holds
      ⟨Assoc.get? m.1 olds, some m.2, Assoc.get? m.1 ms, Assoc.get? m.1 both⟩) :
    ∃ ms', (obj ms).applyPatch (diffMembers [] olds news) = some (obj ms') ∧ Assoc.Sorted ms' ∧
      ∀ name, Assoc.get? name ms' =
        if (Assoc.get? name news).isSome then Assoc.get? name both else Assoc.get? name ms := by
  induction news generalizing ms with
  | nil => exact ⟨ms, rfl, hms, fun _ => rfl⟩
  | cons m rest ih =>
    obtain ⟨name, new⟩ := m
    obtain ⟨hsorted, hvalues⟩ := (isOrdered_obj_iff _).1 hnews
    obtain ⟨hfirst, hrest⟩ := List.pairwise_cons.1 hsorted
    have hnew : new.isOrdered = true := hvalues _ List.mem_cons_self
    obtain ⟨ms₁, hpatch, hms₁, hget, hothers⟩ :=
      applyPatch_member_transfer hnew (hold name) hms (hparts _ List.mem_cons_self)
    -- The names of the others differ from this one, so that they are found as before.
    have hlater : ∀ n ∈ rest, Assoc.get? n.1 ms₁ = Assoc.get? n.1 ms := fun n hn =>
      hothers n.1 (Assoc.compare_ne_eq_of_lt (hfirst n hn))
    obtain ⟨ms₂, hpatches, hms₂, hget₂⟩ := ih
      ((isOrdered_obj_iff rest).2 ⟨hrest, fun n hn => hvalues n (List.mem_cons_of_mem _ hn)⟩) hms₁
      fun n hn => by rw [hlater n hn]; exact hparts n (List.mem_cons_of_mem _ hn)
    refine ⟨ms₂, ?_, hms₂, fun k => ?_⟩
    · have hsplit : diffMembers [] olds ((name, new) :: rest) =
          diffMembers [] olds [(name, new)] ++ diffMembers [] olds rest := by
        simp only [diffMembers, List.append_nil]
      rw [hsplit, applyPatch_append, hpatch]
      exact hpatches
    · rw [hget₂, Assoc.get?_cons]
      by_cases hk : compare k name = .eq
      · obtain rfl := Std.LawfulEqCmp.eq_of_compare hk
        rw [Assoc.get?_eq_none_of_lt hfirst, if_pos hk]
        exact hget
      · rw [if_neg hk, hothers k hk]

/-- An object becomes what both changes make of it when each of its parts does. -/
theorem transfers_obj {others : Members} (hothers : Assoc.Sorted others) (hboth : Assoc.Sorted both)
    (hparts : ∀ name, PartTransfer.Holds
      ⟨Assoc.get? name olds, Assoc.get? name news, Assoc.get? name others, Assoc.get? name both⟩) :
    Transfers (obj olds) (obj news) (obj others) (obj both) := by
  intro holds hnews
  have hsortedOlds := sorted_of_isOrdered holds
  have hsortedNews := sorted_of_isOrdered hnews
  obtain ⟨ms, hpatch, hms, hget⟩ := applyPatch_diffMembers_transfer hnews
    (fun name x hx => isOrdered_of_get? holds hx) hothers fun m hm => by
      have hm' := hsortedNews.get?_eq_some_iff.2 hm
      have hpart := hparts m.1
      rwa [hm'] at hpart
  -- What the one side removes was left alone by the other one.
  have hgone : ∀ m ∈ olds.filter fun m => (Assoc.get? m.1 news).isNone,
      (Assoc.get? m.1 ms).isSome = true := by
    intro m hm
    obtain ⟨hm, hnone⟩ := List.mem_filter.1 hm
    have hnone := Option.isNone_iff_eq_none.1 hnone
    have hpart := hparts m.1
    rw [hsortedOlds.get?_eq_some_iff.2 hm, hnone] at hpart
    rw [hget, hnone]
    exact Option.isSome_iff_exists.2 ⟨m.2, hpart.of_gone.1⟩
  have hremove := applyPatch_remove (hsortedOlds.filter _) hgone
  rw [diff, diffAt, applyPatch_append, hpatch, Option.bind_some, hremove]
  refine congrArg some (congrArg obj ((sorted_dropMembers hms _).ext hboth fun name => ?_))
  have hpart := hparts name
  rw [get?_dropMembers, hget, Assoc.get?_filter fun name => (Assoc.get? name news).isNone]
  cases hnew : Assoc.get? name news with
  | some new => rfl
  | none =>
    rw [hnew] at hpart
    cases hold : Assoc.get? name olds with
    | some old =>
      rw [hold] at hpart
      exact hpart.of_gone.2.symm
    | none =>
      rw [hold] at hpart
      exact hpart.of_absent.symm

/-- An object with the members of a table becomes what both changes make of it when each of the members
does. -/
theorem transfers_table {τ : Type} {fields : List (String × τ)}
    {base one other both : String × τ → Option Json}
    (hnames : fields.Pairwise fun a b => compare a.1 b.1 = .lt)
    (hparts : ∀ f ∈ fields, PartTransfer.Holds ⟨base f, one f, other f, both f⟩) :
    Transfers (record (fields.map fun f => (f.1, base f))) (record (fields.map fun f => (f.1, one f)))
      (record (fields.map fun f => (f.1, other f)))
      (record (fields.map fun f => (f.1, both f))) := by
  have hsorted := fun part => sorted_filterMap (ascending_map hnames part)
  refine transfers_obj (hsorted other) (hsorted both) fun name => ?_
  rcases get?_record_map hnames name with ⟨f, hf, rfl, hget⟩ | hnone
  · have hbase := hget base
    have hone := hget one
    have hother := hget other
    have hboth := hget both
    rw [record, get?] at hbase hone hother hboth
    rw [hbase, hone, hother, hboth]
    exact hparts f hf
  · -- No member has the name, before or after the changes.
    have hbase := hnone base
    have hone := hnone one
    have hother := hnone other
    have hboth := hnone both
    rw [record, get?] at hbase hone hother hboth
    rw [hbase, hone, hother, hboth]
    exact PartTransfer.holds_same none

/-- An object of named parts becomes what both changes make of it when each of its parts does. -/
theorem transfers_record (parts : List (String × PartTransfer))
    (hnames : (parts.map Prod.fst).Pairwise fun a b => compare a b = .lt)
    (hparts : ∀ part ∈ parts, part.2.Holds) :
    Transfers (record (parts.map fun p => (p.1, p.2.base)))
      (record (parts.map fun p => (p.1, p.2.one))) (record (parts.map fun p => (p.1, p.2.other)))
      (record (parts.map fun p => (p.1, p.2.both))) :=
  transfers_table (List.pairwise_map.1 hnames) hparts

/-! ## Lists -/

/-- A list becomes what both changes make of it when each of its items does. -/
theorem transfers_map {τ : Type} (base one other both : τ → Json) {ts : List τ}
    (h : ∀ t ∈ ts, Transfers (base t) (one t) (other t) (both t)) :
    Transfers (arr (ts.map base)) (arr (ts.map one)) (arr (ts.map other)) (arr (ts.map both)) := by
  intro hbase hone
  have hbases := (isOrdered_arr_iff _).1 hbase
  have hones := (isOrdered_arr_iff _).1 hone
  -- The items before have been brought to their new values already.
  have hrest : ∀ (rest : List τ) (done : List Json), (∀ t ∈ rest, t ∈ ts) →
      (arr (done ++ rest.map other)).applyPatch
          (diffItems [] done.length (rest.map base) (rest.map one)) =
        some (arr (done ++ rest.map both)) := by
    intro rest
    induction rest with
    | nil => exact fun done _ => rfl
    | cons t rest ih =>
      intro done hmem
      have ht := hmem t List.mem_cons_self
      have hitem : (done ++ other t :: rest.map other)[done.length]? = some (other t) := by simp
      have hinside := applyPatch_under_item hitem (isLocal_of_mem_diffAt [] (base t) (one t))
      rw [← diffAt_cons, ← diff, h t ht (hbases _ (List.mem_map_of_mem ht))
        (hones _ (List.mem_map_of_mem ht))] at hinside
      have htail := ih (done ++ [both t]) fun u hu => hmem u (List.mem_cons_of_mem _ hu)
      rw [List.length_append, List.length_singleton] at htail
      rw [List.map_cons, List.map_cons, List.map_cons, List.map_cons, diffItems, List.nil_append,
        applyPatch_append, hinside, Option.map_some, Option.bind_some]
      simpa using htail
  exact hrest ts [] fun _ ht => ht

end WorkloadBindings.Json
