import Mathlib.Data.List.DropRight
import WorkloadBindings.Text.Basic

/-!
# Cutting texts measured in bytes

What a number of bytes holds of a text is the beginning of it with just that many bytes
(`takeBytes?_eq_some_iff`), and there is none when a character lies across the cut
(`exists_takeBytes?_iff`). In a text of ASCII characters every byte is a character, so that every cut
falls between two of them (`takeBytes?_of_isAscii`). Trimming keeps the beginning that does not end in
a trimmed character and has only trimmed ones behind it (`trimEnd_eq_iff`).
-/

namespace WorkloadBindings.Text

variable {c : Char} {cs ds kept : List Char} {n : Nat}

/-! ## Bytes -/

/-- The bytes of two texts one after the other. -/
theorem byteWidth_append (cs ds : List Char) :
    byteWidth (cs ++ ds) = byteWidth cs + byteWidth ds := by
  induction cs with
  | nil => rw [List.nil_append, byteWidth, Nat.zero_add]
  | cons c cs ih => rw [List.cons_append, byteWidth, ih, byteWidth, Nat.add_assoc]

/-- The beginning of a text has no more bytes than the text. -/
theorem byteWidth_le_of_isPrefix (h : cs <+: ds) : byteWidth cs ≤ byteWidth ds := by
  obtain ⟨rest, rfl⟩ := h
  rw [byteWidth_append]
  exact Nat.le_add_right _ _

/-- No bytes hold nothing of a text. -/
theorem takeBytes?_zero (cs : List Char) : takeBytes? 0 cs = some [] := by cases cs <;> rfl

/-- What a number of bytes holds of two texts is the first of them and what is left of the bytes
holds of the second. -/
theorem takeBytes?_append (cs ds : List Char) (n : Nat) :
    takeBytes? (byteWidth cs + n) (cs ++ ds) = (takeBytes? n ds).map (cs ++ ·) := by
  induction cs with
  | nil => simp [byteWidth]
  | cons c cs ih =>
    have hpos : 0 < c.utf8Size := c.utf8Size_pos
    have hrest : c.utf8Size + byteWidth cs + n - c.utf8Size = byteWidth cs + n := by omega
    rw [byteWidth, List.cons_append, takeBytes?, if_neg (by omega), if_pos (by omega), hrest, ih,
      Option.map_map]
    rfl

/-- What a number of bytes holds of a text begins the text and has that many bytes. -/
theorem isPrefix_of_takeBytes? (h : takeBytes? n cs = some kept) :
    kept <+: cs ∧ byteWidth kept = n := by
  induction cs generalizing n kept with
  | nil =>
    rw [takeBytes?] at h
    split at h
    · rename_i hzero
      obtain rfl := Option.some_inj.1 h
      exact ⟨List.prefix_rfl, hzero.symm⟩
    · cases h
  | cons c cs ih =>
    rw [takeBytes?] at h
    split at h
    · rename_i hzero
      obtain rfl := Option.some_inj.1 h
      refine ⟨?_, hzero.symm⟩
      exact List.nil_prefix
    · split at h
      · rename_i hfits
        obtain ⟨rest, hrest, rfl⟩ := Option.map_eq_some_iff.1 h
        obtain ⟨hbegins, hwidth⟩ := ih hrest
        refine ⟨(List.prefix_cons_inj c).2 hbegins, ?_⟩
        rw [byteWidth, hwidth]
        exact Nat.add_sub_of_le hfits
      · cases h

/-- What a number of bytes holds of a text is the beginning of the text with that many bytes. -/
theorem takeBytes?_eq_some_iff :
    takeBytes? n cs = some kept ↔ kept <+: cs ∧ byteWidth kept = n := by
  constructor
  · exact isPrefix_of_takeBytes?
  · rintro ⟨⟨rest, rfl⟩, rfl⟩
    have happend := takeBytes?_append kept rest 0
    rwa [Nat.add_zero, takeBytes?_zero, Option.map_some, List.append_nil] at happend

/-- The bytes of a text are counted character by character. -/
theorem byteWidth_toList (s : String) : byteWidth s.toList = s.utf8ByteSize := by
  have hofList : ∀ cs : List Char, byteWidth cs = (String.ofList cs).utf8ByteSize := by
    intro cs
    induction cs with
    | nil => rfl
    | cons c cs ih =>
      rw [byteWidth, ih, String.ofList_cons, String.utf8ByteSize_append,
        String.utf8ByteSize_singleton]
  rw [hofList, String.ofList_toList]

/-- A number of bytes holds something of a text just when its end lies between two characters. -/
theorem exists_takeBytes?_iff {s : String} :
    (∃ kept, takeBytes? n s.toList = some kept) ↔ (⟨n⟩ : String.Pos.Raw).IsValid s := by
  simp only [takeBytes?_eq_some_iff, String.Pos.Raw.isValid_iff_exists_append, String.Pos.Raw.ext_iff,
    String.byteIdx_rawEndPos]
  constructor
  · rintro ⟨kept, ⟨rest, hrest⟩, rfl⟩
    refine ⟨String.ofList kept, String.ofList rest, ?_, ?_⟩
    · rw [← String.ofList_append, hrest, String.ofList_toList]
    · rw [← byteWidth_toList, String.toList_ofList]
  · rintro ⟨kept, rest, rfl, rfl⟩
    refine ⟨kept.toList, ?_, byteWidth_toList kept⟩
    rw [String.toList_append]
    exact List.prefix_append _ _

/-! ## ASCII -/

/-- The characters are ASCII characters. -/
def IsAscii (cs : List Char) : Prop := ∀ c ∈ cs, c.toNat < 128

instance (cs : List Char) : Decidable (IsAscii cs) := List.decidableBAll _ cs

/-- An ASCII character is one byte. -/
theorem utf8Size_of_ascii (h : c.toNat < 128) : c.utf8Size = 1 := by
  have hle : c.toNat ≤ 127 := Nat.le_of_lt_succ h
  rw [Char.utf8Size_eq_one_iff, UInt32.le_iff_toNat_le]
  exact hle

/-- A text of ASCII characters has as many bytes as characters. -/
theorem byteWidth_of_isAscii (h : IsAscii cs) : byteWidth cs = cs.length := by
  induction cs with
  | nil => rfl
  | cons c cs ih =>
    obtain ⟨hc, hcs⟩ := List.forall_mem_cons.1 h
    rw [byteWidth, utf8Size_of_ascii hc, ih hcs, List.length_cons, Nat.add_comm]

/-- The first bytes of a text of ASCII characters are its first characters. -/
theorem takeBytes?_of_isAscii (h : IsAscii cs) (hn : n ≤ cs.length) :
    takeBytes? n cs = some (cs.take n) := by
  have htake : IsAscii (cs.take n) := fun c hc => h c (List.mem_of_mem_take hc)
  have hbegins : cs.take n <+: cs := List.take_prefix n cs
  refine takeBytes?_eq_some_iff.2 ⟨hbegins, ?_⟩
  rw [byteWidth_of_isAscii htake, List.length_take, Nat.min_eq_left hn]

/-! ## Trimming -/

section

variable {p : Char → Bool}

/-- A trimmed text is a beginning of the text. -/
theorem trimEnd_isPrefix (p : Char → Bool) (cs : List Char) : trimEnd p cs <+: cs :=
  List.rdropWhile_prefix p cs

/-- A trimmed text does not end in a trimmed character. -/
theorem not_of_getLast?_trimEnd (h : (trimEnd p cs).getLast? = some c) : p c = false := by
  have hne : trimEnd p cs ≠ [] := by
    rintro hnil
    rw [hnil] at h
    cases h
  have hlast := List.rdropWhile_last_not p cs hne
  rw [List.getLast?_eq_some_getLast hne] at h
  rw [← Option.some_inj.1 h]
  exact Bool.eq_false_iff.2 hlast

/-- Of two texts the first is trimmed only when nothing is left of the second. -/
theorem trimEnd_append (p : Char → Bool) (cs ds : List Char) :
    trimEnd p (cs ++ ds) = if trimEnd p ds = [] then trimEnd p cs else cs ++ trimEnd p ds := by
  unfold trimEnd
  rw [List.reverse_append, List.dropWhile_append]
  split
  · rename_i hnil
    rw [if_pos (List.reverse_eq_nil_iff.2 (List.isEmpty_iff.1 hnil))]
  · rename_i hne
    rw [if_neg fun hnil => hne (List.isEmpty_iff.2 (List.reverse_eq_nil_iff.1 hnil)),
      List.reverse_append, List.reverse_reverse]

/-- Something is left of a text with a character that is not trimmed. -/
theorem trimEnd_ne_nil (hmem : c ∈ cs) (hc : p c = false) : trimEnd p cs ≠ [] := fun hnil => by
  have hall : p c = true := List.rdropWhile_eq_nil_iff.1 hnil c hmem
  rw [hc] at hall
  exact Bool.false_ne_true hall

/-- A text is trimmed to the beginning that does not end in a trimmed character and has only trimmed
ones behind it. -/
theorem trimEnd_eq_iff {stem : List Char} :
    trimEnd p cs = stem ↔
      ∃ cut, cs = stem ++ cut ∧ (∀ c ∈ cut, p c = true) ∧ ∀ c ∈ stem.getLast?, p c = false := by
  constructor
  · rintro rfl
    refine ⟨cs.rtakeWhile p, List.rdropWhile_append_rtakeWhile.symm, fun c hc => ?_, fun c hc => ?_⟩
    · exact List.mem_rtakeWhile_imp hc
    · exact not_of_getLast?_trimEnd hc
  · rintro ⟨cut, rfl, hcut, hlast⟩
    have hnil : trimEnd p cut = [] := List.rdropWhile_eq_nil_iff.2 hcut
    rw [trimEnd_append, if_pos hnil]
    refine List.rdropWhile_eq_self_iff.2 fun hne => ?_
    rw [hlast _ (List.getLast?_eq_some_getLast hne)]
    exact Bool.false_ne_true

/-- A character that is not trimmed keeps everything in front of it. -/
theorem mem_trimEnd_of_mem {d : Char} (hd : d ∈ cs) (hc : p c = false) :
    d ∈ trimEnd p (cs ++ c :: ds) := by
  rw [trimEnd_append, if_neg (trimEnd_ne_nil List.mem_cons_self hc)]
  exact List.mem_append_left _ hd

end

end WorkloadBindings.Text
