/-!
# Maps kept as sorted lists

A finite map is the list of its entries in strictly ascending key order, so that two maps with the
same entries are equal and walking a map is walking a list. `Assoc` holds the operations on plain
lists of pairs, which JSON objects share; `SortedMap` adds the order as an invariant. The main
statements say what a lookup finds after an insertion (`SortedMap.get?_insert`) and after a removal
(`SortedMap.get?_erase`), and that lookups determine the map (`SortedMap.ext_get?`).
-/

namespace WorkloadBindings

namespace Assoc

variable {κ : Type} {β : Type} [Ord κ]

/-- The value of the first entry with key `k`. -/
def get? [DecidableEq κ] (k : κ) : List (κ × β) → Option β
  | [] => none
  | (k', v) :: rest => if k = k' then some v else get? k rest

/-- Puts an entry at its place in a sorted list, in place of an entry with the same key. -/
def insert (k : κ) (v : β) : List (κ × β) → List (κ × β)
  | [] => [(k, v)]
  | (k', v') :: rest =>
    match compare k k' with
    | .lt => (k, v) :: (k', v') :: rest
    | .eq => (k, v) :: rest
    | .gt => (k', v') :: insert k v rest

/-- Drops every entry with key `k`. -/
def erase (k : κ) (entries : List (κ × β)) : List (κ × β) :=
  entries.filter fun e => compare k e.1 ≠ .eq

/-- Inserts the entries one after the other, so that a later one replaces an earlier one. -/
def ofList (entries : List (κ × β)) : List (κ × β) :=
  entries.foldl (fun acc e => insert e.1 e.2 acc) []

/-- The keys of the entries ascend strictly. -/
def Sorted (entries : List (κ × β)) : Prop :=
  entries.Pairwise fun a b => compare a.1 b.1 = .lt

theorem sorted_nil : Sorted ([] : List (κ × β)) := List.Pairwise.nil

instance (entries : List (κ × β)) : Decidable (Sorted entries) :=
  inferInstanceAs (Decidable (entries.Pairwise fun a b => compare a.1 b.1 = .lt))

/-- Removing entries keeps the others in order. -/
theorem Sorted.erase {entries : List (κ × β)} (h : Sorted entries) (k : κ) :
    Sorted (Assoc.erase k entries) :=
  List.Pairwise.filter _ h

/-- An entry of an insertion is the new one or an old one. -/
theorem mem_insert {k : κ} {v : β} {e : κ × β} {entries : List (κ × β)}
    (h : e ∈ insert k v entries) : e = (k, v) ∨ e ∈ entries := by
  induction entries with
  | nil => simpa [insert] using h
  | cons hd tl ih =>
    obtain ⟨k', v'⟩ := hd
    rw [insert] at h
    split at h
    · simpa using h
    · rcases List.mem_cons.1 h with h | h
      · exact Or.inl h
      · exact Or.inr (List.mem_cons_of_mem _ h)
    · rcases List.mem_cons.1 h with h | h
      · exact Or.inr (h ▸ List.mem_cons_self)
      · rcases ih h with h | h
        · exact Or.inl h
        · exact Or.inr (List.mem_cons_of_mem _ h)

variable [Std.TransOrd κ]

/-- A key above another one is not equal to it. -/
theorem compare_ne_eq_of_lt {k k' : κ} (h : compare k k' = .lt) : compare k' k ≠ .eq := fun heq => by
  rw [Std.OrientedCmp.eq_comm.1 heq] at h
  cases h

/-- Insertion keeps the keys in order. -/
theorem Sorted.insert {entries : List (κ × β)} (h : Sorted entries) (k : κ) (v : β) :
    Sorted (Assoc.insert k v entries) := by
  induction entries with
  | nil => exact List.pairwise_singleton _ _
  | cons hd tl ih =>
    obtain ⟨k', v'⟩ := hd
    obtain ⟨hhd, htl⟩ := List.pairwise_cons.1 h
    rw [Assoc.insert]
    split
    · rename_i hlt
      refine List.pairwise_cons.2 ⟨?_, h⟩
      intro e he
      rcases List.mem_cons.1 he with rfl | he
      · exact hlt
      · exact Std.TransCmp.lt_trans hlt (hhd e he)
    · rename_i heq
      refine List.pairwise_cons.2 ⟨?_, htl⟩
      intro e he
      exact Std.TransCmp.lt_of_eq_of_lt heq (hhd e he)
    · rename_i hgt
      refine List.pairwise_cons.2 ⟨?_, ih htl⟩
      intro e he
      rcases mem_insert he with rfl | he
      · exact Std.OrientedCmp.gt_iff_lt.1 hgt
      · exact hhd e he

/-- A list built by insertions is sorted. -/
theorem sorted_ofList (entries : List (κ × β)) : Sorted (ofList entries) := by
  have key : ∀ (entries acc : List (κ × β)), Sorted acc →
      Sorted (entries.foldl (fun acc e => Assoc.insert e.1 e.2 acc) acc) := by
    intro entries
    induction entries with
    | nil => exact fun _ h => h
    | cons e rest ih => exact fun acc h => ih _ (h.insert e.1 e.2)
  exact key entries [] sorted_nil

variable [Std.LawfulEqOrd κ] [DecidableEq κ]

omit [Ord κ] [Std.TransOrd κ] [Std.LawfulEqOrd κ] in
@[simp] theorem get?_nil (k : κ) : get? k ([] : List (κ × β)) = none := rfl

omit [Std.TransOrd κ] in
/-- The first entry has the key when it compares as equal. -/
theorem get?_cons (k k' : κ) (v : β) (rest : List (κ × β)) :
    get? k ((k', v) :: rest) = if compare k k' = .eq then some v else get? k rest := by
  rw [get?]
  simp only [Std.LawfulEqOrd.compare_eq_iff_eq]

omit [Std.TransOrd κ] in
/-- A lookup after an insertion finds the new value at its key and the old ones elsewhere. -/
theorem get?_insert (k k' : κ) (v : β) (entries : List (κ × β)) :
    get? k (insert k' v entries) = if compare k k' = .eq then some v else get? k entries := by
  induction entries with
  | nil => exact get?_cons k k' v []
  | cons hd tl ih =>
    obtain ⟨k₀, v₀⟩ := hd
    rw [insert]
    split
    · exact get?_cons k k' v _
    · rename_i heq
      obtain rfl := Std.LawfulEqCmp.eq_of_compare heq
      simp only [get?_cons]
      split <;> rfl
    · rename_i hgt
      simp only [get?_cons, ih]
      by_cases h : compare k k₀ = .eq
      · obtain rfl := Std.LawfulEqCmp.eq_of_compare h
        have hne : compare k k' ≠ .eq := by
          intro hk
          obtain rfl := Std.LawfulEqCmp.eq_of_compare hk
          rw [Std.compare_self] at hgt
          cases hgt
        simp [hne]
      · simp [h]

omit [Std.TransOrd κ] in
/-- The value that was put at a key is found there. -/
theorem get?_insert_self (k : κ) (v : β) (entries : List (κ × β)) :
    get? k (insert k v entries) = some v := by
  rw [get?_insert, Std.compare_self, if_pos rfl]

omit [Std.TransOrd κ] in
/-- At other keys the values stay. -/
theorem get?_insert_of_ne {k k' : κ} (h : k ≠ k') (v : β) (entries : List (κ × β)) :
    get? k (insert k' v entries) = get? k entries := by
  rw [get?_insert, if_neg fun heq => h (Std.LawfulEqCmp.eq_of_compare heq)]

/-- A lookup after a removal finds nothing at the removed key and the old values elsewhere. -/
theorem get?_erase (k k' : κ) (entries : List (κ × β)) :
    get? k (erase k' entries) = if compare k k' = .eq then none else get? k entries := by
  induction entries with
  | nil => simp [erase]
  | cons hd tl ih =>
    obtain ⟨k₀, v₀⟩ := hd
    by_cases h₀ : compare k' k₀ = .eq
    · obtain rfl := Std.LawfulEqCmp.eq_of_compare h₀
      have hdrop : erase k' ((k', v₀) :: tl) = erase k' tl := by
        simp [erase]
      rw [hdrop, ih]
      by_cases h : compare k k' = .eq <;> simp [get?_cons, h]
    · have hkeep : erase k' ((k₀, v₀) :: tl) = (k₀, v₀) :: erase k' tl := by
        exact List.filter_cons_of_pos (decide_eq_true h₀)
      rw [hkeep]
      simp only [get?_cons, ih]
      by_cases h : compare k k₀ = .eq
      · obtain rfl := Std.LawfulEqCmp.eq_of_compare h
        have hne : compare k k' ≠ .eq := fun hk => h₀ (Std.OrientedCmp.eq_comm.1 hk)
        simp [hne]
      · simp [h]

omit [Std.TransOrd κ] in
/-- A lookup among the entries whose keys pass a test. -/
theorem get?_filter (keep : κ → Bool) (k : κ) (entries : List (κ × β)) :
    get? k (entries.filter fun e => keep e.1) = if keep k then get? k entries else none := by
  induction entries with
  | nil => simp
  | cons hd tl ih =>
    obtain ⟨k₀, v₀⟩ := hd
    by_cases h : compare k k₀ = .eq
    · obtain rfl := Std.LawfulEqCmp.eq_of_compare h
      cases hk : keep k <;> simp [get?_cons, hk, ih]
    · cases hk : keep k₀ <;> simp [get?_cons, hk, h, ih]

omit [Std.TransOrd κ] [DecidableEq κ] in
/-- A second insertion at a key replaces the first one. -/
theorem insert_insert (k : κ) (u v : β) (entries : List (κ × β)) :
    insert k v (insert k u entries) = insert k v entries := by
  induction entries with
  | nil => simp [insert]
  | cons hd tl ih =>
    obtain ⟨k', v'⟩ := hd
    cases hc : compare k k' with
    | lt => simp [insert, hc]
    | eq => simp [insert, hc]
    | gt => simp [insert, hc, ih]

omit [Std.TransOrd κ] in
/-- Nothing is found at a key below all keys. -/
theorem get?_eq_none_of_lt {k : κ} {entries : List (κ × β)}
    (h : ∀ e ∈ entries, compare k e.1 = .lt) : get? k entries = none := by
  induction entries with
  | nil => rfl
  | cons hd tl ih =>
    obtain ⟨k', v⟩ := hd
    have hlt : compare k k' = .lt := h _ List.mem_cons_self
    rw [get?_cons, hlt]
    exact ih fun e he => h e (List.mem_cons_of_mem _ he)

omit [Std.TransOrd κ] in
/-- What is found is an entry. -/
theorem mem_of_get? {k : κ} {v : β} {entries : List (κ × β)} (h : get? k entries = some v) :
    (k, v) ∈ entries := by
  induction entries with
  | nil => cases h
  | cons hd tl ih =>
    obtain ⟨k₀, v₀⟩ := hd
    rw [get?_cons] at h
    split at h
    · rename_i heq
      obtain rfl := Std.LawfulEqCmp.eq_of_compare heq
      obtain rfl := Option.some.inj h
      exact List.mem_cons_self
    · exact List.mem_cons_of_mem _ (ih h)

omit [Std.TransOrd κ] in
/-- In a sorted list an entry is found by its key, and only entries are found. -/
theorem Sorted.get?_eq_some_iff {entries : List (κ × β)} (h : Sorted entries) {k : κ} {v : β} :
    get? k entries = some v ↔ (k, v) ∈ entries := by
  induction entries with
  | nil => simp
  | cons hd tl ih =>
    obtain ⟨k₀, v₀⟩ := hd
    obtain ⟨hhd, htl⟩ := List.pairwise_cons.1 h
    simp only [get?_cons, List.mem_cons, Prod.mk.injEq]
    by_cases hk : compare k k₀ = .eq
    · obtain rfl := Std.LawfulEqCmp.eq_of_compare hk
      simp only [Std.compare_self, if_true, Option.some.injEq, true_and]
      constructor
      · exact fun hv => Or.inl hv.symm
      · rintro (hv | hv)
        · exact hv.symm
        · have := hhd _ hv
          rw [Std.compare_self] at this
          cases this
    · have hne : k ≠ k₀ := fun he => hk (he ▸ Std.compare_self)
      simp [hk, hne, ih htl]

/-- What the values amount to after one was put in: the new one comes in addition, and in place of
the one that was there. -/
theorem Sorted.sum_insert {entries : List (κ × β)} (h : Sorted entries) (f : β → Nat) (k : κ) (v : β) :
    (Assoc.insert k v entries).foldr (fun e n => f e.2 + n) 0 + ((get? k entries).map f).getD 0 =
      entries.foldr (fun e n => f e.2 + n) 0 + f v := by
  induction entries with
  | nil => simp [Assoc.insert]
  | cons hd tl ih =>
    obtain ⟨k₀, v₀⟩ := hd
    obtain ⟨hhd, htl⟩ := List.pairwise_cons.1 h
    rw [Assoc.insert]
    split
    · rename_i hlt
      have hnone : get? k ((k₀, v₀) :: tl) = none := by
        refine get?_eq_none_of_lt (List.forall_mem_cons.2 ⟨hlt, fun e he => ?_⟩)
        exact Std.TransCmp.lt_trans hlt (hhd e he)
      simp only [hnone, List.foldr_cons, Option.map_none, Option.getD_none]
      omega
    · rename_i heq
      simp only [get?_cons, if_pos heq, List.foldr_cons, Option.map_some, Option.getD_some]
      omega
    · rename_i hgt
      have hne : compare k k₀ ≠ .eq := by
        rw [hgt]
        decide
      have htail := ih htl
      simp only [get?_cons, if_neg hne, List.foldr_cons]
      omega

/-- Sorted lists with the same lookups are equal. -/
theorem Sorted.ext {a b : List (κ × β)} (ha : Sorted a) (hb : Sorted b)
    (h : ∀ k, get? k a = get? k b) : a = b := by
  induction a generalizing b with
  | nil =>
    cases b with
    | nil => rfl
    | cons hd tl =>
      have := h hd.1
      simp [get?] at this
  | cons x xs ih =>
    cases b with
    | nil =>
      have := h x.1
      simp [get?] at this
    | cons y ys =>
      obtain ⟨kx, vx⟩ := x
      obtain ⟨ky, vy⟩ := y
      obtain ⟨hx, hxs⟩ := List.pairwise_cons.1 ha
      obtain ⟨hy, hys⟩ := List.pairwise_cons.1 hb
      -- The least keys agree: either one, were it smaller, would be found on one side only.
      have hkey : compare kx ky = .eq := by
        cases hc : compare kx ky with
        | eq => rfl
        | lt =>
          have hk := h kx
          have hnone : get? kx ((ky, vy) :: ys) = none := get?_eq_none_of_lt <| by
            intro e he
            rcases List.mem_cons.1 he with rfl | he
            · exact hc
            · exact Std.TransCmp.lt_trans hc (hy e he)
          rw [hnone] at hk
          simp [get?_cons] at hk
        | gt =>
          have hc' := Std.OrientedCmp.gt_iff_lt.1 hc
          have hk := h ky
          have hnone : get? ky ((kx, vx) :: xs) = none := get?_eq_none_of_lt <| by
            intro e he
            rcases List.mem_cons.1 he with rfl | he
            · exact hc'
            · exact Std.TransCmp.lt_trans hc' (hx e he)
          rw [hnone] at hk
          simp [get?_cons] at hk
      obtain rfl := Std.LawfulEqCmp.eq_of_compare hkey
      have hval := h kx
      simp only [get?_cons, Std.compare_self, if_true, Option.some.injEq] at hval
      subst hval
      congr 1
      refine ih hxs hys fun k => ?_
      have hk := h k
      simp only [get?_cons] at hk
      by_cases he : compare k kx = .eq
      · obtain rfl := Std.LawfulEqCmp.eq_of_compare he
        rw [get?_eq_none_of_lt hx, get?_eq_none_of_lt hy]
      · simpa [he] using hk

/-- A sorted list that holds a value at a key already is not changed when it is put in again. -/
theorem Sorted.insert_of_get? {entries : List (κ × β)} (h : Sorted entries) {k : κ} {v : β}
    (hv : get? k entries = some v) : Assoc.insert k v entries = entries := by
  refine (h.insert k v).ext h fun k' => ?_
  rw [get?_insert]
  split
  · rename_i hk
    obtain rfl := Std.LawfulEqCmp.eq_of_compare hk
    exact hv.symm
  · rfl

omit [Std.LawfulEqOrd κ] [DecidableEq κ] in
/-- An entry above all others is put at the end. -/
theorem insert_of_forall_lt {k : κ} {entries : List (κ × β)}
    (h : ∀ e ∈ entries, compare e.1 k = .lt) (v : β) : insert k v entries = entries ++ [(k, v)] := by
  induction entries with
  | nil => rfl
  | cons hd tl ih =>
    obtain ⟨k', v'⟩ := hd
    have hgt : compare k k' = .gt := Std.OrientedCmp.gt_iff_lt.2 (h _ List.mem_cons_self)
    simp [insert, hgt, ih fun e he => h e (List.mem_cons_of_mem _ he)]

omit [Std.LawfulEqOrd κ] [DecidableEq κ] in
/-- A sorted list is what is built from its own entries. -/
theorem Sorted.ofList_eq {entries : List (κ × β)} (h : Sorted entries) : ofList entries = entries := by
  have key : ∀ (rest seen : List (κ × β)), Sorted (seen ++ rest) →
      rest.foldl (fun acc e => Assoc.insert e.1 e.2 acc) seen = seen ++ rest := by
    intro rest
    induction rest with
    | nil => exact fun seen _ => (List.append_nil seen).symm
    | cons e rest ih =>
      intro seen hs
      have hbefore : ∀ e' ∈ seen, compare e'.1 e.1 = .lt := fun e' he' =>
        (List.pairwise_append.1 hs).2.2 e' he' e List.mem_cons_self
      rw [List.foldl_cons, insert_of_forall_lt hbefore, ih]
      · simp
      · simpa using hs
  exact key entries [] h

omit [Std.TransOrd κ] in
/-- What a function gives for some keys is found in place of what was there before. -/
theorem get?_foldl_filterMap (keys : List κ) (f : κ → Option β) (k : κ) (entries : List (κ × β)) :
    get? k ((keys.filterMap fun k => (f k).map (k, ·)).foldl (fun acc e => insert e.1 e.2 acc)
      entries) = if k ∈ keys then (f k).or (get? k entries) else get? k entries := by
  induction keys generalizing entries with
  | nil => rfl
  | cons a rest ih =>
    cases ha : f a with
    | none =>
      -- A key that is given nothing changes nothing.
      simp only [List.filterMap_cons, ha, Option.map_none, ih, List.mem_cons]
      by_cases hk : k = a
      · subst hk
        simp [ha]
      · simp [hk]
    | some b =>
      simp only [List.filterMap_cons, ha, Option.map_some, List.foldl_cons, ih, get?_insert,
        List.mem_cons]
      by_cases hk : k = a
      · subst hk
        simp [ha]
      · have hne : compare k a ≠ .eq := fun heq => hk (Std.LawfulEqCmp.eq_of_compare heq)
        simp [hk, hne]

omit [Std.TransOrd κ] in
/-- What a function gives for some keys is found at its key, and nothing else. -/
theorem get?_ofList_filterMap_iff {keys : List κ} {f : κ → Option β} {k : κ} {v : β} :
    get? k (ofList (keys.filterMap fun k => (f k).map (k, ·))) = some v ↔ k ∈ keys ∧ f k = some v := by
  rw [ofList, get?_foldl_filterMap, get?_nil, Option.or_none]
  by_cases hk : k ∈ keys <;> simp [hk]

end Assoc

/-- A finite map: its entries in strictly ascending key order. -/
structure SortedMap (κ β : Type) [Ord κ] where
  /-- The entries, in ascending key order. -/
  entries : List (κ × β)
  /-- No key is repeated and the keys ascend. -/
  sorted : Assoc.Sorted entries

namespace SortedMap

variable {κ β : Type} [Ord κ]

instance [DecidableEq κ] [DecidableEq β] : DecidableEq (SortedMap κ β) := fun a b =>
  decidable_of_iff (a.entries = b.entries)
    ⟨fun h => by cases a; cases b; cases h; rfl, fun h => h ▸ rfl⟩

/-- The map without entries. -/
def empty : SortedMap κ β := ⟨[], Assoc.sorted_nil⟩

instance : Inhabited (SortedMap κ β) := ⟨empty⟩

/-- The value at a key. -/
def get? [DecidableEq κ] (m : SortedMap κ β) (k : κ) : Option β := Assoc.get? k m.entries

/-- The map has an entry with the key. -/
def contains [DecidableEq κ] (m : SortedMap κ β) (k : κ) : Bool := (m.get? k).isSome

/-- The number of entries. -/
def size (m : SortedMap κ β) : Nat := m.entries.length

/-- The keys, ascending. -/
def keys (m : SortedMap κ β) : List κ := m.entries.map Prod.fst

/-- The values, in the order of their keys. -/
def values (m : SortedMap κ β) : List β := m.entries.map Prod.snd

/-- The map without its entry at a key. -/
def erase (m : SortedMap κ β) (k : κ) : SortedMap κ β :=
  ⟨Assoc.erase k m.entries, m.sorted.erase k⟩

variable [Std.TransOrd κ]

/-- The map with a value put at a key. -/
def insert (m : SortedMap κ β) (k : κ) (v : β) : SortedMap κ β :=
  ⟨Assoc.insert k v m.entries, m.sorted.insert k v⟩

/-- The map of a list of entries, in which a later entry replaces an earlier one of its key. -/
def ofList (entries : List (κ × β)) : SortedMap κ β :=
  ⟨Assoc.ofList entries, Assoc.sorted_ofList entries⟩

/-- The map of what a function gives for some keys. -/
def collect (keys : List κ) (f : κ → Option β) : SortedMap κ β :=
  ofList (keys.filterMap fun k => (f k).map (k, ·))

/-- The map with the value at a key recomputed from the present one. -/
def alter [DecidableEq κ] (m : SortedMap κ β) (k : κ) (f : Option β → β) : SortedMap κ β :=
  m.insert k (f (m.get? k))

variable [Std.LawfulEqOrd κ] [DecidableEq κ]

omit [Std.TransOrd κ] [Std.LawfulEqOrd κ] in
@[simp] theorem get?_empty (k : κ) : (empty : SortedMap κ β).get? k = none := rfl

/-- A lookup after an insertion finds the new value at its key and the old ones elsewhere. -/
theorem get?_insert (m : SortedMap κ β) (k k' : κ) (v : β) :
    (m.insert k' v).get? k = if compare k k' = .eq then some v else m.get? k :=
  Assoc.get?_insert k k' v m.entries

/-- A lookup after a removal finds nothing at the removed key and the old values elsewhere. -/
theorem get?_erase (m : SortedMap κ β) (k k' : κ) :
    (m.erase k').get? k = if compare k k' = .eq then none else m.get? k :=
  Assoc.get?_erase k k' m.entries

/-- What was collected is found at its key, and nothing else. -/
theorem get?_collect_eq_some_iff {keys : List κ} {f : κ → Option β} {k : κ} {v : β} :
    (collect keys f).get? k = some v ↔ k ∈ keys ∧ f k = some v :=
  Assoc.get?_ofList_filterMap_iff

/-- Maps with the same lookups are equal. -/
theorem ext_get? {a b : SortedMap κ β} (h : ∀ k, a.get? k = b.get? k) : a = b := by
  obtain ⟨ea, ha⟩ := a
  obtain ⟨eb, hb⟩ := b
  obtain rfl : ea = eb := ha.ext hb h
  rfl

/-- A map is not changed by putting in what it holds, and only by that. -/
theorem insert_eq_self_iff {m : SortedMap κ β} {k : κ} {v : β} :
    m.insert k v = m ↔ m.get? k = some v := by
  constructor
  · intro h
    rw [← h, get?_insert, Std.compare_self, if_pos rfl]
  · intro h
    refine ext_get? fun k' => ?_
    rw [get?_insert]
    split
    · rename_i heq
      rw [Std.LawfulEqCmp.eq_of_compare heq, h]
    · rfl

/-- A map is not changed by taking out what it does not hold, and only by that. -/
theorem erase_eq_self_iff {m : SortedMap κ β} {k : κ} : m.erase k = m ↔ m.get? k = none := by
  constructor
  · intro h
    rw [← h, get?_erase, Std.compare_self, if_pos rfl]
  · intro h
    refine ext_get? fun k' => ?_
    rw [get?_erase]
    split
    · rename_i heq
      rw [Std.LawfulEqCmp.eq_of_compare heq, h]
    · rfl

omit [Std.TransOrd κ] in
/-- The keys of a map are those under which something is found. -/
theorem mem_keys_iff {m : SortedMap κ β} {k : κ} : k ∈ m.keys ↔ (m.get? k).isSome = true := by
  unfold keys
  rw [List.mem_map, Option.isSome_iff_exists]
  constructor
  · rintro ⟨⟨k', v⟩, hmem, rfl⟩
    exact ⟨v, m.sorted.get?_eq_some_iff.2 hmem⟩
  · rintro ⟨v, hv⟩
    exact ⟨(k, v), m.sorted.get?_eq_some_iff.1 hv, rfl⟩

omit [Std.TransOrd κ] [DecidableEq κ] in
/-- No key of a map is there twice. -/
theorem nodup_keys (m : SortedMap κ β) : m.keys.Nodup := by
  have hsorted : m.entries.Pairwise fun a b => compare a.1 b.1 = .lt := m.sorted
  refine List.pairwise_map.2 (hsorted.imp ?_)
  intro a b hlt heq
  rw [heq, Std.compare_self] at hlt
  cases hlt

end SortedMap

/-- A finite set, as the map that gives each of its members the same value. -/
abbrev SortedSet (κ : Type) [Ord κ] : Type := SortedMap κ Unit

namespace SortedSet

variable {κ : Type} [Ord κ] [Std.TransOrd κ]

/-- The set of the elements of a list. -/
def ofList (xs : List κ) : SortedSet κ := SortedMap.ofList (xs.map fun x => (x, ()))

/-- The members, ascending. -/
def toList (s : SortedSet κ) : List κ := s.entries.map Prod.fst

/-- A set is determined by its members. -/
theorem ext_mem [Std.LawfulEqOrd κ] [DecidableEq κ] {a b : SortedSet κ}
    (h : ∀ k, k ∈ a.toList ↔ k ∈ b.toList) : a = b := by
  refine SortedMap.ext_get? fun k => ?_
  have hmem : (a.get? k).isSome = true ↔ (b.get? k).isSome = true := by
    rw [← SortedMap.mem_keys_iff, ← SortedMap.mem_keys_iff]
    exact h k
  cases ha : a.get? k <;> cases hb : b.get? k <;> simp [ha, hb] at hmem ⊢

/-- The set of the members of a set is the set. -/
theorem ofList_toList (s : SortedSet κ) : ofList s.toList = s := by
  have hentries : (s.toList.map fun x => (x, ())) = s.entries := by
    rw [toList, List.map_map]
    exact List.map_id s.entries
  unfold ofList SortedMap.ofList
  simp only [hentries, s.sorted.ofList_eq]

end SortedSet

end WorkloadBindings
