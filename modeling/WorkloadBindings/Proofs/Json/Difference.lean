import WorkloadBindings.Json.Patch
import WorkloadBindings.Proofs.Json.Ordered

/-!
# Differences carried out

What the difference between two values does to a third one. The third value may hold more than the
first, as an object stored by the API holds more than its typed form; `Json.covers` says that it
holds at least as much, at the same places. `Json.revise` is what becomes of it, given without any
patch: members and items that both sides have are revised in place, those that are new are put in as
they are, those that are gone are taken out, and everything else stays.

The proof goes bottom up. The operations of a difference inside a member or an item act on that
member or item alone (`applyPatch_under_member`, `applyPatch_under_item`), so that each of the three
recursions of `diffAt` follows the matching one of `revise` (`applyPatch_diff`). Between a value and
itself the difference is empty (`diff_self`), and on the first value it gives exactly the second
(`applyPatch_diff_self`).
-/

namespace WorkloadBindings

/-! ## Operations inside a member or an item -/

namespace PatchOp

/-- The operation moved into what is found at a token. -/
def under (token : String) : PatchOp → PatchOp
  | add p v => add (token :: p) v
  | remove p => remove (token :: p)
  | replace p v => replace (token :: p) v
  | move s p => move (token :: s) (token :: p)
  | copy s p => copy (token :: s) (token :: p)
  | test p v => test (token :: p) v

/-- The operation is one of those that differences are made of: it replaces a value, or adds or
removes a part of one. -/
def isLocal : PatchOp → Bool
  | replace _ _ => true
  | add p _ => !p.isEmpty
  | remove p => !p.isEmpty
  | _ => false

end PatchOp

namespace Json

mutual

/-- A difference at a place inside a member or an item is the difference there, moved. -/
theorem diffAt_cons (token : String) (path : Pointer) (old : Json) :
    ∀ new : Json, diffAt (token :: path) old new = (diffAt path old new).map (PatchOp.under token)
  | .obj news => by
    cases old with
    | obj olds =>
      simp only [diffAt, List.map_append, List.map_map, diffMembers_cons token path olds news]
      rfl
    | _ => rfl
  | .arr news => by
    cases old with
    | arr olds => simp only [diffAt, diffItems_cons token path 0 olds news]
    | _ => rfl
  | .null => by simp only [diffAt]; split <;> rfl
  | .bool _ => by simp only [diffAt]; split <;> rfl
  | .int _ => by simp only [diffAt]; split <;> rfl
  | .real _ => by simp only [diffAt]; split <;> rfl
  | .str _ => by simp only [diffAt]; split <;> rfl

theorem diffMembers_cons (token : String) (path : Pointer) (olds : Members) :
    ∀ news : Members, diffMembers (token :: path) olds news =
      (diffMembers path olds news).map (PatchOp.under token)
  | [] => rfl
  | (name, new) :: rest => by
    have htail := diffMembers_cons token path olds rest
    cases hold : Assoc.get? name olds with
    | none =>
      simp only [diffMembers, hold, htail, List.map_append, List.map_cons, List.map_nil]
      rfl
    | some old =>
      have hhead := diffAt_cons token (path ++ [name]) old new
      simp only [diffMembers, hold, htail, List.map_append, ← hhead]
      rfl

theorem diffItems_cons (token : String) (path : Pointer) (i : Nat) (olds : List Json) :
    ∀ news : List Json, diffItems (token :: path) i olds news =
      (diffItems path i olds news).map (PatchOp.under token)
  | [] => by simp [diffItems, PatchOp.under]
  | new :: news => by
    cases olds with
    | nil =>
      have htail := diffItems_cons token path (i + 1) [] news
      simp only [diffItems, htail, List.map_cons]
      rfl
    | cons old olds =>
      have hhead := diffAt_cons token (path ++ [Pointer.ofIndex i]) old new
      have htail := diffItems_cons token path (i + 1) olds news
      simp only [diffItems, htail, List.map_append, ← hhead]
      rfl

end

mutual

/-- Differences are made of local operations. -/
theorem isLocal_of_mem_diffAt (path : Pointer) (old : Json) :
    ∀ (new : Json), ∀ op ∈ diffAt path old new, op.isLocal = true
  | .obj news => by
    cases old with
    | obj olds =>
      intro op hop
      rcases List.mem_append.1 hop with h | h
      · exact isLocal_of_mem_diffMembers path olds news op h
      · obtain ⟨m, _, rfl⟩ := List.mem_map.1 h
        simp [PatchOp.isLocal]
    | _ => simp [diffAt, PatchOp.isLocal]
  | .arr news => by
    cases old with
    | arr olds => exact isLocal_of_mem_diffItems path 0 olds news
    | _ => simp [diffAt, PatchOp.isLocal]
  | .null => by simp only [diffAt]; split <;> simp [PatchOp.isLocal]
  | .bool _ => by simp only [diffAt]; split <;> simp [PatchOp.isLocal]
  | .int _ => by simp only [diffAt]; split <;> simp [PatchOp.isLocal]
  | .real _ => by simp only [diffAt]; split <;> simp [PatchOp.isLocal]
  | .str _ => by simp only [diffAt]; split <;> simp [PatchOp.isLocal]

theorem isLocal_of_mem_diffMembers (path : Pointer) (olds : Members) :
    ∀ (news : Members), ∀ op ∈ diffMembers path olds news, op.isLocal = true
  | [] => by simp [diffMembers]
  | (name, new) :: rest => by
    intro op hop
    rw [diffMembers] at hop
    rcases List.mem_append.1 hop with h | h
    · split at h
      · exact isLocal_of_mem_diffAt _ _ new op h
      · obtain rfl := List.mem_singleton.1 h
        simp [PatchOp.isLocal]
    · exact isLocal_of_mem_diffMembers path olds rest op h

theorem isLocal_of_mem_diffItems (path : Pointer) (i : Nat) (olds : List Json) :
    ∀ (news : List Json), ∀ op ∈ diffItems path i olds news, op.isLocal = true
  | [] => by simp [diffItems, PatchOp.isLocal]
  | new :: news => by
    intro op hop
    cases olds with
    | nil =>
      rw [diffItems] at hop
      rcases List.mem_cons.1 hop with rfl | h
      · simp [PatchOp.isLocal]
      · exact isLocal_of_mem_diffItems path (i + 1) [] news op h
    | cons old olds =>
      rw [diffItems] at hop
      rcases List.mem_append.1 hop with h | h
      · exact isLocal_of_mem_diffAt _ _ new op h
      · exact isLocal_of_mem_diffItems path (i + 1) olds news op h

end

/-- What is done at a place inside a member is done to the member. -/
theorem modifyAt_member {ms : Members} {name : String} {x : Json}
    (hx : Assoc.get? name ms = some x) (f : Json → Option Json) (path : Pointer) :
    modifyAt f (name :: path) (obj ms) =
      (modifyAt f path x).map fun y => obj (Assoc.insert name y ms) := by
  rw [modifyAt, hx]
  cases h : modifyAt f path x <;> simp only [h, bind, Option.bind_some, Option.bind_none,
    Option.map_some, Option.map_none]

/-- What is done at a place inside an item is done to the item. -/
theorem modifyAt_item {xs : List Json} {i : Nat} {x : Json} (hx : xs[i]? = some x)
    (f : Json → Option Json) (path : Pointer) :
    modifyAt f (Pointer.ofIndex i :: path) (arr xs) =
      (modifyAt f path x).map fun y => arr (xs.set i y) := by
  rw [modifyAt, Pointer.index?_ofIndex]
  cases h : modifyAt f path x <;> simp only [hx, h, bind, Option.bind_some, Option.bind_none,
    Option.map_some, Option.map_none]

/-- A place inside a part has the same last token as in the part, and what comes before it begins
with the part. -/
theorem exists_last (token : String) {path : Pointer} (h : (!path.isEmpty) = true) :
    ∃ last, path.getLast? = some last ∧ (token :: path).getLast? = some last ∧
      (token :: path).dropLast = token :: path.dropLast := by
  cases path with
  | nil => cases h
  | cons t rest => exact ⟨_, List.getLast?_cons, List.getLast?_cons_cons.trans List.getLast?_cons, rfl⟩

/-- A local operation inside a member acts on the member. -/
theorem applyOp_under_member {ms : Members} {name : String} {x : Json}
    (hx : Assoc.get? name ms = some x) {op : PatchOp} (hop : op.isLocal = true) :
    (obj ms).applyOp (op.under name) =
      (x.applyOp op).map fun y => obj (Assoc.insert name y ms) := by
  cases op with
  | add p v =>
    obtain ⟨last, hp, hunder, hdrop⟩ := exists_last name hop
    simp only [PatchOp.under, applyOp, addAt, hp, hunder, hdrop]
    exact modifyAt_member hx _ _
  | remove p =>
    obtain ⟨last, hp, hunder, hdrop⟩ := exists_last name hop
    simp only [PatchOp.under, applyOp, removeAt, hp, hunder, hdrop]
    exact modifyAt_member hx _ _
  | replace p v => exact modifyAt_member hx _ _
  | _ => cases hop

/-- A local operation inside an item acts on the item. -/
theorem applyOp_under_item {xs : List Json} {i : Nat} {x : Json} (hx : xs[i]? = some x)
    {op : PatchOp} (hop : op.isLocal = true) :
    (arr xs).applyOp (op.under (Pointer.ofIndex i)) =
      (x.applyOp op).map fun y => arr (xs.set i y) := by
  cases op with
  | add p v =>
    obtain ⟨last, hp, hunder, hdrop⟩ := exists_last (Pointer.ofIndex i) hop
    simp only [PatchOp.under, applyOp, addAt, hp, hunder, hdrop]
    exact modifyAt_item hx _ _
  | remove p =>
    obtain ⟨last, hp, hunder, hdrop⟩ := exists_last (Pointer.ofIndex i) hop
    simp only [PatchOp.under, applyOp, removeAt, hp, hunder, hdrop]
    exact modifyAt_item hx _ _
  | replace p v => exact modifyAt_item hx _ _
  | _ => cases hop

/-- A patch carried out in two parts. -/
theorem applyPatch_append (j : Json) (p q : Patch) :
    j.applyPatch (p ++ q) = (j.applyPatch p).bind (·.applyPatch q) := by
  simp [applyPatch, List.foldlM_append]

/-- A patch carried out operation by operation. -/
theorem applyPatch_cons (j : Json) (op : PatchOp) (p : Patch) :
    j.applyPatch (op :: p) = (j.applyOp op).bind (·.applyPatch p) := by
  simp [applyPatch]

/-- A patch of local operations inside a member acts on the member. -/
theorem applyPatch_under_member {ms : Members} (hms : Assoc.Sorted ms) {name : String} {x : Json}
    (hx : Assoc.get? name ms = some x) {p : Patch} (hp : ∀ op ∈ p, op.isLocal = true) :
    (obj ms).applyPatch (p.map (PatchOp.under name)) =
      (x.applyPatch p).map fun y => obj (Assoc.insert name y ms) := by
  induction p generalizing ms x with
  | nil => simp [applyPatch, hms.insert_of_get? hx]
  | cons op rest ih =>
    rw [List.map_cons, applyPatch_cons, applyPatch_cons,
      applyOp_under_member hx (hp op List.mem_cons_self)]
    cases hop : x.applyOp op with
    | none => rfl
    | some y =>
      -- The next operation finds the member as this one left it.
      have hy : Assoc.get? name (Assoc.insert name y ms) = some y := by
        rw [Assoc.get?_insert, Std.compare_self, if_pos rfl]
      have hrest := ih (hms.insert name y) hy fun o ho => hp o (List.mem_cons_of_mem _ ho)
      simpa [Assoc.insert_insert] using hrest

/-- A patch of local operations inside an item acts on the item. -/
theorem applyPatch_under_item {xs : List Json} {i : Nat} {x : Json} (hx : xs[i]? = some x)
    {p : Patch} (hp : ∀ op ∈ p, op.isLocal = true) :
    (arr xs).applyPatch (p.map (PatchOp.under (Pointer.ofIndex i))) =
      (x.applyPatch p).map fun y => arr (xs.set i y) := by
  induction p generalizing xs x with
  | nil =>
    have hset : xs.set i x = xs := by
      obtain ⟨hi, rfl⟩ := List.getElem?_eq_some_iff.1 hx
      exact List.set_getElem_self hi
    simp [applyPatch, hset]
  | cons op rest ih =>
    rw [List.map_cons, applyPatch_cons, applyPatch_cons,
      applyOp_under_item hx (hp op List.mem_cons_self)]
    cases hop : x.applyOp op with
    | none => rfl
    | some y =>
      obtain ⟨hi, _⟩ := List.getElem?_eq_some_iff.1 hx
      have hy : (xs.set i y)[i]? = some y := List.getElem?_set_self hi
      have hrest := ih hy fun o ho => hp o (List.mem_cons_of_mem _ ho)
      simpa [List.set_set] using hrest

/-- A difference at a place inside a member is carried out on the member. -/
theorem applyPatch_diffAt_member {ms : Members} (hms : Assoc.Sorted ms) {name : String} {x : Json}
    (hx : Assoc.get? name ms = some x) (path : Pointer) (old new : Json) :
    (obj ms).applyPatch (diffAt (name :: path) old new) =
      (x.applyPatch (diffAt path old new)).map fun y => obj (Assoc.insert name y ms) := by
  rw [diffAt_cons, applyPatch_under_member hms hx (isLocal_of_mem_diffAt path old new)]

/-! ## Values that hold more -/

mutual

/-- The value holds at least what another one holds, at the same places: all its members, as many
items in its lists, and the same texts, numbers and truth values. -/
def covers : Json → Json → Bool
  | j, .obj es =>
    match j with
    | .obj ms => coversMembers ms es
    | _ => false
  | j, .arr es =>
    match j with
    | .arr xs => coversItems xs es
    | _ => false
  | j, e => decide (j = e)

/-- The members hold at least what others hold. -/
def coversMembers (ms : Members) : List (String × Json) → Bool
  | [] => true
  | (name, e) :: rest =>
    (match Assoc.get? name ms with
      | some x => covers x e
      | none => false) && coversMembers ms rest

/-- The items hold at least what as many others hold, one by one. -/
def coversItems (xs : List Json) : List Json → Bool
  | [] => xs.isEmpty
  | e :: es =>
    match xs with
    | [] => false
    | x :: xs => covers x e && coversItems xs es

end

/-- A member that is covered is there, and covers it. -/
theorem exists_of_coversMembers {ms es : Members} (h : coversMembers ms es = true)
    {m : String × Json} (hm : m ∈ es) :
    ∃ x, Assoc.get? m.1 ms = some x ∧ x.covers m.2 = true := by
  induction es with
  | nil => cases hm
  | cons hd tl ih =>
    obtain ⟨name, e⟩ := hd
    rw [coversMembers, Bool.and_eq_true] at h
    rcases List.mem_cons.1 hm with rfl | hm
    · cases hx : Assoc.get? name ms with
      | none => simp [hx] at h
      | some x => exact ⟨x, rfl, by simpa [hx] using h.1⟩
    · exact ih h.2 hm

/-- The members cover others when each of these is there and covered. -/
theorem coversMembers_of_forall {ms es : Members}
    (h : ∀ m ∈ es, ∃ x, Assoc.get? m.1 ms = some x ∧ x.covers m.2 = true) :
    coversMembers ms es = true := by
  induction es with
  | nil => rfl
  | cons hd tl ih =>
    obtain ⟨name, e⟩ := hd
    obtain ⟨x, hx, hc⟩ := h _ List.mem_cons_self
    rw [coversMembers, ih fun m hm => h m (List.mem_cons_of_mem _ hm)]
    simp [hx, hc]

mutual

/-- An ordered value covers itself. -/
theorem covers_self : ∀ {j : Json}, j.isOrdered = true → j.covers j = true
  | .obj ms, h => by
    obtain ⟨hs, hms⟩ := (isOrdered_obj_iff ms).1 h
    rw [covers]
    exact coversMembers_of_forall fun m hm =>
      ⟨m.2, hs.get?_eq_some_iff.2 hm, covers_self_of_mem hms m hm⟩
  | .arr xs, h => by
    rw [covers]
    exact coversItems_self ((isOrdered_arr_iff xs).1 h)
  | .null, _ => by simp [covers]
  | .bool _, _ => by simp [covers]
  | .int _, _ => by simp [covers]
  | .real _, _ => by simp [covers]
  | .str _, _ => by simp [covers]

theorem covers_self_of_mem : ∀ {ms : Members}, (∀ m ∈ ms, m.2.isOrdered = true) →
    ∀ m ∈ ms, m.2.covers m.2 = true
  | [], _, _, hm => nomatch hm
  | (_, _) :: _, h, m, hm => by
    rcases List.mem_cons.1 hm with rfl | hm
    · exact covers_self (h _ List.mem_cons_self)
    · exact covers_self_of_mem (fun n hn => h n (List.mem_cons_of_mem _ hn)) m hm

theorem coversItems_self : ∀ {xs : List Json}, (∀ x ∈ xs, x.isOrdered = true) →
    coversItems xs xs = true
  | [], _ => rfl
  | x :: xs, h => by
    have hx := covers_self (h x List.mem_cons_self)
    have hxs := coversItems_self fun y hy => h y (List.mem_cons_of_mem _ hy)
    simp [coversItems, hx, hxs]

end

/-- Null covers nothing but null. -/
theorem eq_null_of_null_covers {e : Json} (h : null.covers e = true) : e = null := by
  cases e <;> simp_all [covers]

/-! ## Revised values -/

/-- The members without those of some names. -/
def dropMembers (ms gone : Members) : Members := gone.foldl (fun ms m => Assoc.erase m.1 ms) ms

mutual

/-- What becomes of a value that covers `old` when `old` is changed to `new`. -/
def revise (j old : Json) : Json → Json
  | .obj news =>
    match old, j with
    | .obj olds, .obj ms =>
      .obj (dropMembers (reviseMembers ms olds news)
        (olds.filter fun m => (Assoc.get? m.1 news).isNone))
    | _, _ => .obj news
  | .arr news =>
    match old, j with
    | .arr olds, .arr xs => .arr (reviseItems xs olds news)
    | _, _ => .arr news
  | new => new

/-- The members with those that `news` lists brought from their values in `olds` to the new ones. -/
def reviseMembers (ms olds : Members) : List (String × Json) → Members
  | [] => ms
  | (name, new) :: rest =>
    let value :=
      match Assoc.get? name ms, Assoc.get? name olds with
      | some x, some old => revise x old new
      | _, _ => new
    reviseMembers (Assoc.insert name value ms) olds rest

/-- The items brought from `olds` to the new ones, as many as there are of these. -/
def reviseItems (xs olds : List Json) : List Json → List Json
  | [] => []
  | new :: news =>
    match xs, olds with
    | x :: xs, old :: olds => revise x old new :: reviseItems xs olds news
    | _, _ => new :: reviseItems [] [] news

end

/-- Removing members one after the other, each of which is there. -/
theorem applyPatch_remove {ms gone : Members} (hgone : Assoc.Sorted gone)
    (hthere : ∀ m ∈ gone, (Assoc.get? m.1 ms).isSome = true) :
    (obj ms).applyPatch (gone.map fun m => .remove ([] ++ [m.1])) =
      some (obj (dropMembers ms gone)) := by
  induction gone generalizing ms with
  | nil => rfl
  | cons m rest ih =>
    obtain ⟨hm, hrest⟩ := List.pairwise_cons.1 hgone
    obtain ⟨x, hx⟩ := Option.isSome_iff_exists.1 (hthere m List.mem_cons_self)
    have hop : (obj ms).applyOp (.remove [m.1]) = some (obj (Assoc.erase m.1 ms)) := by
      simp [applyOp, removeAt, modifyAt, removeChild, hx]
    -- The names differ, so that the others are still there.
    have hkept : ∀ n ∈ rest, (Assoc.get? n.1 (Assoc.erase m.1 ms)).isSome = true := by
      intro n hn
      have hne : compare n.1 m.1 ≠ .eq := fun heq => by
        have hlt := hm n hn
        rw [Std.OrientedCmp.eq_comm.1 heq] at hlt
        cases hlt
      rw [Assoc.get?_erase, if_neg hne]
      exact hthere n (List.mem_cons_of_mem _ hn)
    rw [List.map_cons, applyPatch_cons, List.nil_append, hop]
    exact ih hrest hkept

/-- Removing all items from an index on, each by the index that it comes to have. -/
theorem applyPatch_truncate (kept : List Json) :
    ∀ {xs olds : List Json}, xs.length = olds.length →
      (arr (kept ++ xs)).applyPatch
          (olds.map fun _ => .remove ([] ++ [Pointer.ofIndex kept.length])) =
        some (arr kept)
  | [], [], _ => by simp [applyPatch]
  | x :: xs, _ :: olds, h => by
    have hop : (arr (kept ++ x :: xs)).applyOp (.remove [Pointer.ofIndex kept.length]) =
        some (arr (kept ++ xs)) := by
      simp [applyOp, removeAt, modifyAt, removeChild, Pointer.index?_ofIndex,
        List.eraseIdx_append_of_length_le]
    -- The next item has moved to the index of the one that was removed.
    rw [List.map_cons, applyPatch_cons, List.nil_append, hop]
    exact applyPatch_truncate kept (Nat.succ.inj h)

/-- What is found in revised members: those that `news` lists, brought to their new values, and
otherwise the old ones. -/
theorem get?_reviseMembers {ms olds news : Members} (hnews : Assoc.Sorted news) (name : String) :
    Assoc.get? name (reviseMembers ms olds news) =
      match Assoc.get? name news with
      | some new =>
        some (match Assoc.get? name ms, Assoc.get? name olds with
          | some x, some old => revise x old new
          | _, _ => new)
      | none => Assoc.get? name ms := by
  induction news generalizing ms with
  | nil => simp [reviseMembers, Assoc.get?]
  | cons hd rest ih =>
    obtain ⟨n, new⟩ := hd
    obtain ⟨hfirst, hrest⟩ := List.pairwise_cons.1 hnews
    rw [reviseMembers, ih hrest, Assoc.get?_insert, Assoc.get?_cons]
    by_cases h : compare name n = .eq
    · -- None of the others has the name again.
      obtain rfl := Std.LawfulEqCmp.eq_of_compare h
      rw [Assoc.get?_eq_none_of_lt hfirst, if_pos h, if_pos h]
    · rw [if_neg h, if_neg h]

/-- What is found when members were dropped. -/
theorem get?_dropMembers (ms gone : Members) (name : String) :
    Assoc.get? name (dropMembers ms gone) =
      if (Assoc.get? name gone).isSome then none else Assoc.get? name ms := by
  induction gone generalizing ms with
  | nil => rfl
  | cons hd rest ih =>
    obtain ⟨n, v⟩ := hd
    have hstep := ih (Assoc.erase n ms)
    rw [dropMembers, List.foldl_cons, ← dropMembers, hstep, Assoc.get?_erase, Assoc.get?_cons]
    by_cases h : compare name n = .eq <;> simp [h]

/-- As many items cover others as there are of these. -/
theorem length_eq_of_coversItems : ∀ {xs es : List Json}, coversItems xs es = true →
    xs.length = es.length
  | xs, [], h => by simpa [coversItems] using h
  | [], _ :: _, h => by simp [coversItems] at h
  | x :: xs, e :: es, h => by
    rw [coversItems, Bool.and_eq_true] at h
    rw [List.length_cons, List.length_cons, length_eq_of_coversItems h.2]

/-- A value that has no parts takes the place of any other one. -/
theorem applyPatch_diff_scalar {j old : Json} (new : Json) (hc : j.covers old = true)
    (hdiff : diff old new = if old = new then [] else [.replace [] new])
    (hcovers : j.covers new = decide (j = new)) : j.applyPatch (diff old new) = some new := by
  rw [hdiff]
  split
  · rename_i heq
    rw [heq, hcovers] at hc
    exact congrArg some (of_decide_eq_true hc)
  · rfl

mutual

/-- The difference between two values revises any value that covers the first one. -/
theorem applyPatch_diff {j old : Json} (hj : j.isOrdered = true) (hold : old.isOrdered = true)
    (hc : j.covers old = true) :
    ∀ {new : Json}, new.isOrdered = true → j.applyPatch (diff old new) = some (revise j old new)
  | .obj news, hnew => by
    cases old with
    | obj olds =>
      cases j with
      | obj ms =>
        have holds := sorted_of_isOrdered hold
        have hnews := sorted_of_isOrdered hnew
        have hcovered : ∀ name old, Assoc.get? name olds = some old →
            ∃ x, Assoc.get? name ms = some x ∧ x.covers old = true := fun name old h =>
          exists_of_coversMembers (by simpa [covers] using hc) (holds.get?_eq_some_iff.1 h)
        have hmembers := applyPatch_diffMembers (sorted_of_isOrdered hj) hnew fun m _ old h => by
          obtain ⟨x, hx, hcx⟩ := hcovered m.1 old h
          exact ⟨isOrdered_of_get? hold h, x, hx, isOrdered_of_get? hj hx, hcx⟩
        rw [diff, diffAt, applyPatch_append, hmembers, Option.bind_some, revise]
        -- Members that are gone were there before, and the others do not touch them.
        refine applyPatch_remove (holds.filter _) fun m hm => ?_
        obtain ⟨hm, hgone⟩ := List.mem_filter.1 hm
        obtain ⟨x, hx, _⟩ := hcovered m.1 m.2 (holds.get?_eq_some_iff.2 hm)
        rw [get?_reviseMembers hnews, Option.isNone_iff_eq_none.1 hgone]
        simp [hx]
      | _ => simp [covers] at hc
    | _ => simp [diff, diffAt, applyOp, modifyAt, applyPatch, revise]
  | .arr news, hnew => by
    cases old with
    | arr olds =>
      cases j with
      | arr xs =>
        have hitems := applyPatch_diffItems [] ((isOrdered_arr_iff xs).1 hj)
          ((isOrdered_arr_iff olds).1 hold) (by simpa [covers] using hc)
          ((isOrdered_arr_iff news).1 hnew)
        simpa [diff, diffAt, revise] using hitems
      | _ => simp [covers] at hc
    | _ => simp [diff, diffAt, applyOp, modifyAt, applyPatch, revise]
  | .null, _ => by
    simp only [revise]
    exact applyPatch_diff_scalar _ hc (by simp only [diff, diffAt]) (by simp only [covers])
  | .bool x, _ => by
    simp only [revise]
    exact applyPatch_diff_scalar _ hc (by simp only [diff, diffAt]) (by simp only [covers])
  | .int x, _ => by
    simp only [revise]
    exact applyPatch_diff_scalar _ hc (by simp only [diff, diffAt]) (by simp only [covers])
  | .real x, _ => by
    simp only [revise]
    exact applyPatch_diff_scalar _ hc (by simp only [diff, diffAt]) (by simp only [covers])
  | .str x, _ => by
    simp only [revise]
    exact applyPatch_diff_scalar _ hc (by simp only [diff, diffAt]) (by simp only [covers])
termination_by structural new => new

theorem applyPatch_diffMembers {ms olds : Members} (hms : Assoc.Sorted ms) :
    ∀ {news : Members}, (obj news).isOrdered = true →
      (∀ m ∈ news, ∀ old, Assoc.get? m.1 olds = some old → old.isOrdered = true ∧
        ∃ x, Assoc.get? m.1 ms = some x ∧ x.isOrdered = true ∧ x.covers old = true) →
      (obj ms).applyPatch (diffMembers [] olds news) = some (obj (reviseMembers ms olds news))
  | [], _, _ => by simp [diffMembers, reviseMembers, applyPatch]
  | (name, new) :: rest, hnew, hfit => by
    obtain ⟨hsorted, hvalues⟩ := (isOrdered_obj_iff _).1 hnew
    obtain ⟨hfirst, hrest⟩ := List.pairwise_cons.1 hsorted
    have hnewValue : new.isOrdered = true := hvalues _ List.mem_cons_self
    -- What the first member becomes is not looked at again: its name is not among the others.
    have htail (value : Json) := applyPatch_diffMembers (hms.insert name value)
      ((isOrdered_obj_iff rest).2 ⟨hrest, fun m hm => hvalues m (List.mem_cons_of_mem _ hm)⟩)
      fun m hm old h => by
        obtain ⟨ho, x, hx, hxo, hcx⟩ := hfit m (List.mem_cons_of_mem _ hm) old h
        refine ⟨ho, x, ?_, hxo, hcx⟩
        rw [Assoc.get?_insert, if_neg (Assoc.compare_ne_eq_of_lt (hfirst m hm)), hx]
    cases h : Assoc.get? name olds with
    | none =>
      -- The member is new to the difference, but the value that is revised may hold one of the name.
      have hop : (obj ms).applyOp (.add [name] new) = some (obj (Assoc.insert name new ms)) := by
        simp [applyOp, addAt, modifyAt, addChild]
      rw [diffMembers, h, List.singleton_append, List.nil_append, applyPatch_cons, hop,
        Option.bind_some, htail, reviseMembers, h]
      cases Assoc.get? name ms <;> rfl
    | some old =>
      obtain ⟨ho, x, hx, hxo, hcx⟩ := hfit _ List.mem_cons_self old h
      have hinside := applyPatch_diffAt_member hms hx [] old new
      rw [← diff, applyPatch_diff hxo ho hcx hnewValue] at hinside
      rw [diffMembers, h, List.nil_append, applyPatch_append, hinside, Option.map_some,
        Option.bind_some, htail, reviseMembers, h, hx]
termination_by structural news => news

theorem applyPatch_diffItems (done : List Json) {xs olds : List Json}
    (hxs : ∀ x ∈ xs, x.isOrdered = true) (holds : ∀ x ∈ olds, x.isOrdered = true)
    (hc : coversItems xs olds = true) :
    ∀ {news : List Json}, (∀ x ∈ news, x.isOrdered = true) →
      (arr (done ++ xs)).applyPatch (diffItems [] done.length olds news) =
        some (arr (done ++ reviseItems xs olds news))
  | [], _ => by
    -- The new list ends here: what is left of the old one is removed.
    rw [diffItems, applyPatch_truncate done (length_eq_of_coversItems hc), reviseItems,
      List.append_nil]
  | new :: news, hnew => by
    have hnewValue : new.isOrdered = true := hnew _ List.mem_cons_self
    have hnews : ∀ x ∈ news, x.isOrdered = true := fun x hx => hnew x (List.mem_cons_of_mem _ hx)
    cases olds with
    | nil =>
      -- The old list has ended, and with it the one that covers it: the rest is appended.
      obtain rfl := List.isEmpty_iff.1 (by simpa [coversItems] using hc)
      have hop : (arr (done ++ [])).applyOp (.add [Pointer.ofIndex done.length] new) =
          some (arr (done ++ [new] ++ [])) := by
        simp [applyOp, addAt, modifyAt, addChild, Pointer.ofIndex_ne_dash, Pointer.index?_ofIndex]
      have htail := applyPatch_diffItems (done ++ [new]) hxs holds hc hnews
      rw [List.length_append, List.length_singleton] at htail
      rw [diffItems, applyPatch_cons, List.nil_append, hop, Option.bind_some, htail]
      simp [reviseItems]
    | cons old olds =>
      cases xs with
      | nil => simp [coversItems] at hc
      | cons x xs =>
        rw [coversItems, Bool.and_eq_true] at hc
        -- The item is revised in place, and is done then.
        have hx : (done ++ x :: xs)[done.length]? = some x := by simp
        have hinside := applyPatch_under_item hx (isLocal_of_mem_diffAt [] old new)
        rw [← diffAt_cons, ← diff, applyPatch_diff (hxs _ List.mem_cons_self)
          (holds _ List.mem_cons_self) hc.1 hnewValue] at hinside
        have htail := applyPatch_diffItems (done ++ [revise x old new])
          (fun y hy => hxs y (List.mem_cons_of_mem _ hy))
          (fun y hy => holds y (List.mem_cons_of_mem _ hy)) hc.2 hnews
        rw [List.length_append, List.length_singleton] at htail
        rw [diffItems, List.nil_append, applyPatch_append, hinside, Option.map_some,
          Option.bind_some, reviseItems]
        simpa using htail
termination_by structural news => news

end

/-! ## What revising gives -/

/-- What becomes of a member, by what it is in the old and in the new value: it is brought to its
new value or put in, and taken out only when the old value has it. -/
def reviseMember (found old : Option Json) : Option Json → Option Json
  | some n =>
    some (match found, old with
      | some x, some o => revise x o n
      | _, _ => n)
  | none => if old.isSome then none else found

/-- The members of a revised object. -/
theorem get?_revise_obj {ms olds news : Members} (hnews : Assoc.Sorted news) (name : String) :
    (revise (obj ms) (obj olds) (obj news)).get? name =
      reviseMember (Assoc.get? name ms) (Assoc.get? name olds) (Assoc.get? name news) := by
  rw [revise, get?, get?_dropMembers, get?_reviseMembers hnews,
    Assoc.get?_filter fun name => (Assoc.get? name news).isNone]
  cases Assoc.get? name news <;> simp [reviseMember]

/-- Dropping members keeps the others in order. -/
theorem sorted_dropMembers {ms : Members} (h : Assoc.Sorted ms) (gone : Members) :
    Assoc.Sorted (dropMembers ms gone) := by
  induction gone generalizing ms with
  | nil => exact h
  | cons m rest ih => exact ih (h.erase m.1)

/-- Revising members keeps them in order. -/
theorem sorted_reviseMembers {ms : Members} (h : Assoc.Sorted ms) (olds : Members) :
    ∀ news : Members, Assoc.Sorted (reviseMembers ms olds news)
  | [] => by rwa [reviseMembers]
  | (name, new) :: rest => by
    rw [reviseMembers]
    exact sorted_reviseMembers (h.insert name _) olds rest

/-- A value other than null is not revised to null. -/
theorem revise_ne_null (j old : Json) {new : Json} (h : new ≠ null) : revise j old new ≠ null := by
  cases new with
  | null => exact absurd rfl h
  | obj news => cases old <;> cases j <;> simp [revise]
  | arr news => cases old <;> cases j <;> simp [revise]
  | _ => simp [revise]

mutual

/-- Revising the old value itself gives the new one. -/
theorem revise_self {old : Json} (hold : old.isOrdered = true) :
    ∀ {new : Json}, new.isOrdered = true → revise old old new = new
  | .obj news, hnew => by
    cases old with
    | obj olds =>
      obtain ⟨hnews, hvalues⟩ := (isOrdered_obj_iff news).1 hnew
      have hlook : ∀ name, (revise (obj olds) (obj olds) (obj news)).get? name = _ :=
        get?_revise_obj hnews
      have hsorted := sorted_dropMembers
        (sorted_reviseMembers (sorted_of_isOrdered hold) olds news)
        (olds.filter fun m => (Assoc.get? m.1 news).isNone)
      -- Both sides are ordered, so that it is enough to compare them name by name.
      rw [revise] at hlook ⊢
      refine congrArg obj (hsorted.ext hnews fun name => (hlook name).trans ?_)
      cases hn : Assoc.get? name news with
      | none => cases Assoc.get? name olds <;> rfl
      | some new =>
        have hmem := hnews.get?_eq_some_iff.1 hn
        cases ho : Assoc.get? name olds with
        | none => rfl
        | some o =>
          exact congrArg some
            (revise_self_of_mem hvalues (name, new) hmem (isOrdered_of_get? hold ho))
    | _ => simp [revise]
  | .arr news, hnew => by
    cases old with
    | arr olds =>
      have hitems := reviseItems_self ((isOrdered_arr_iff olds).1 hold)
        ((isOrdered_arr_iff news).1 hnew)
      simp [revise, hitems]
    | _ => simp [revise]
  | .null, _ => by simp [revise]
  | .bool _, _ => by simp [revise]
  | .int _, _ => by simp [revise]
  | .real _, _ => by simp [revise]
  | .str _, _ => by simp [revise]
termination_by structural new => new

theorem revise_self_of_mem : ∀ {news : Members}, (∀ m ∈ news, m.2.isOrdered = true) →
    ∀ m ∈ news, ∀ {old : Json}, old.isOrdered = true → revise old old m.2 = m.2
  | [], _, _, hm, _, _ => nomatch hm
  | (_, _) :: _, h, m, hm, _, hold => by
    rcases List.mem_cons.1 hm with rfl | hm
    · exact revise_self hold (h _ List.mem_cons_self)
    · exact revise_self_of_mem (fun n hn => h n (List.mem_cons_of_mem _ hn)) m hm hold
termination_by structural news => news

theorem reviseItems_self {olds : List Json} (holds : ∀ x ∈ olds, x.isOrdered = true) :
    ∀ {news : List Json}, (∀ x ∈ news, x.isOrdered = true) → reviseItems olds olds news = news
  | [], _ => by rw [reviseItems]
  | new :: news, h => by
    have hnews : ∀ x ∈ news, x.isOrdered = true := fun x hx => h x (List.mem_cons_of_mem _ hx)
    cases olds with
    | nil =>
      have hrest : reviseItems [] [] news = news := reviseItems_self (by simp) hnews
      simp [reviseItems, hrest]
    | cons old olds =>
      rw [reviseItems, revise_self (holds _ List.mem_cons_self) (h _ List.mem_cons_self),
        reviseItems_self (fun x hx => holds x (List.mem_cons_of_mem _ hx)) hnews]
termination_by structural news => news

end

/-- The difference between two values turns the first one into the second. -/
theorem applyPatch_diff_self {old new : Json} (hold : old.isOrdered = true)
    (hnew : new.isOrdered = true) : old.applyPatch (diff old new) = some new := by
  rw [applyPatch_diff hold hold (covers_self hold) hnew, revise_self hold hnew]

mutual

/-- There is no difference between a value and itself. -/
theorem diffAt_self (path : Pointer) : ∀ {j : Json}, j.isOrdered = true → diffAt path j j = []
  | .obj ms, h => by
    obtain ⟨hs, hms⟩ := (isOrdered_obj_iff ms).1 h
    have hkept : (ms.filter fun m => (Assoc.get? m.1 ms).isNone) = [] := by
      refine List.filter_eq_nil_iff.2 fun m hm => ?_
      simp [hs.get?_eq_some_iff.2 hm]
    rw [diffAt, hkept, diffMembers_self path hms fun m hm => hs.get?_eq_some_iff.2 hm]
    rfl
  | .arr xs, h => by
    rw [diffAt]
    exact diffItems_self path 0 ((isOrdered_arr_iff xs).1 h)
  | .null, _ => by simp [diffAt]
  | .bool _, _ => by simp [diffAt]
  | .int _, _ => by simp [diffAt]
  | .real _, _ => by simp [diffAt]
  | .str _, _ => by simp [diffAt]
termination_by structural j => j

theorem diffMembers_self (path : Pointer) {olds : Members} :
    ∀ {news : Members}, (∀ m ∈ news, m.2.isOrdered = true) →
      (∀ m ∈ news, Assoc.get? m.1 olds = some m.2) → diffMembers path olds news = []
  | [], _, _ => by rw [diffMembers]
  | (name, new) :: rest, h, hsame => by
    have hhead := diffAt_self (path ++ [name]) (h _ List.mem_cons_self)
    have htail := diffMembers_self path (fun m hm => h m (List.mem_cons_of_mem _ hm))
      fun m hm => hsame m (List.mem_cons_of_mem _ hm)
    simp [diffMembers, hsame _ List.mem_cons_self, hhead, htail]
termination_by structural news => news

theorem diffItems_self (path : Pointer) (i : Nat) :
    ∀ {xs : List Json}, (∀ x ∈ xs, x.isOrdered = true) → diffItems path i xs xs = []
  | [], _ => by simp [diffItems]
  | x :: xs, h => by
    have hhead := diffAt_self (path ++ [Pointer.ofIndex i]) (h _ List.mem_cons_self)
    have htail := diffItems_self path (i + 1) fun y hy => h y (List.mem_cons_of_mem _ hy)
    simp [diffItems, hhead, htail]
termination_by structural xs => xs

end

/-- Between objects that only differ in one member the difference is that of the member. -/
theorem diffMembers_insert (path : Pointer) {olds : Members} {name : String} {x : Json} (y : Json)
    (hx : Assoc.get? name olds = some x) :
    ∀ {ms : Members}, (obj ms).isOrdered = true → Assoc.get? name ms = some x →
      (∀ m ∈ ms, Assoc.get? m.1 olds = some m.2) →
      diffMembers path olds (Assoc.insert name y ms) = diffAt (path ++ [name]) x y
  | [], _, hfound, _ => nomatch hfound
  | (k, v) :: rest, ho, hfound, hsame => by
    obtain ⟨hs, hvalues⟩ := (isOrdered_obj_iff _).1 ho
    obtain ⟨hfirst, hrest⟩ := List.pairwise_cons.1 hs
    have hvalues' : ∀ m ∈ rest, m.2.isOrdered = true := fun m hm =>
      hvalues m (List.mem_cons_of_mem _ hm)
    have hsame' : ∀ m ∈ rest, Assoc.get? m.1 olds = some m.2 := fun m hm =>
      hsame m (List.mem_cons_of_mem _ hm)
    rw [Assoc.get?_cons] at hfound
    unfold Assoc.insert
    cases hc : compare name k with
    | lt =>
      -- The name would have its place before this member, and so it is not there.
      have hnone : Assoc.get? name rest = none := Assoc.get?_eq_none_of_lt fun m hm =>
        Std.TransCmp.lt_trans hc (hfirst m hm)
      simp [hc, hnone] at hfound
    | eq => simp [diffMembers, hx, diffMembers_self path hvalues' hsame']
    | gt =>
      have hhead := diffAt_self (path ++ [k]) (hvalues _ List.mem_cons_self)
      have htail := diffMembers_insert path y hx ((isOrdered_obj_iff rest).2 ⟨hrest, hvalues'⟩)
        (by simpa [hc] using hfound) hsame'
      simp [diffMembers, hsame _ List.mem_cons_self, hhead, htail]

/-- Between an object and itself with another value of a member the difference is that of the member.
-/
theorem diffAt_insert (path : Pointer) {ms : Members} {name : String} {x : Json} (y : Json)
    (h : (obj ms).isOrdered = true) (hx : Assoc.get? name ms = some x) :
    diffAt path (obj ms) (obj (Assoc.insert name y ms)) = diffAt (path ++ [name]) x y := by
  have hs := sorted_of_isOrdered h
  have hkept : (ms.filter fun m => (Assoc.get? m.1 (Assoc.insert name y ms)).isNone) = [] := by
    refine List.filter_eq_nil_iff.2 fun m hm => ?_
    have hm' : Assoc.get? m.1 ms = some m.2 := hs.get?_eq_some_iff.2 hm
    rw [Assoc.get?_insert]
    split <;> simp [hm']
  rw [diffAt, hkept, diffMembers_insert path y hx h hx fun m hm => hs.get?_eq_some_iff.2 hm]
  simp

/-- The difference between a value and itself is empty. -/
theorem diff_self {j : Json} (h : j.isOrdered = true) : diff j j = [] := diffAt_self [] h

/-- Only between a value and itself is the difference empty. -/
theorem diff_eq_nil_iff {old new : Json} (hold : old.isOrdered = true)
    (hnew : new.isOrdered = true) : diff old new = [] ↔ old = new := by
  constructor
  · intro h
    have hpatch := applyPatch_diff_self hold hnew
    rw [h] at hpatch
    exact Option.some.inj hpatch
  · rintro rfl
    exact diff_self hold

end Json

end WorkloadBindings
