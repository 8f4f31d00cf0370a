import Mathlib.Data.List.Induction
import WorkloadBindings.Proofs.Except
import WorkloadBindings.Proofs.Timestamp.Calendar
import WorkloadBindings.Timestamp.Reader

/-!
# Timestamps that are written and read again

The text of a point in time in whole seconds is read as the point in time without its fraction
(`Timestamp.parse_render`), part by part: each row of digits is read as the number that it writes, and
ends at the mark behind it. So what was read of any text and is written in whole seconds stays as it
is when it is read and written again (`Timestamp.render_of_parse`).
-/

namespace WorkloadBindings.Timestamp

/-! ## Rows of digits -/

namespace Reader

/-- The number of a row of digits is that of the library. -/
theorem natOfDigits_eq (ds : List Char) : natOfDigits ds = Nat.ofDigitChars 10 ds 0 := by
  rw [Nat.ofDigitChars_eq_foldl]
  rfl

/-- A row of digits writes a number with no more digits. -/
theorem natOfDigits_lt {ds : List Char} (h : ∀ d ∈ ds, d.isDigit = true) :
    natOfDigits ds < 10 ^ ds.length := by
  induction ds using List.reverseRecOn with
  | nil => decide
  | append_singleton ds d ih =>
    have hds : natOfDigits ds < 10 ^ ds.length := ih fun c hc => h c (List.mem_append_left _ hc)
    have hd : d.toNat ≤ 57 := (Char.isDigit_iff_toNat.1 (h d (by simp))).2
    have hlast : natOfDigits (ds ++ [d]) = 10 * natOfDigits ds + (d.toNat - 48) := by
      simp [natOfDigits]
    rw [hlast, List.length_append, List.length_singleton, Nat.pow_succ]
    omega

/-- What was read as a number is less than the power of ten of what was taken from the text. -/
theorem lt_of_number {width n : Nat} {cs rest : List Char} (h : number width cs = .ok (n, rest)) :
    n < 10 ^ (cs.length - rest.length) ∧ cs.length - rest.length ≤ width := by
  unfold number at h
  split at h
  · cases h
  · simp only at h
    split at h
    · cases h
    · split at h
      · obtain ⟨rfl, rfl⟩ := Prod.mk.inj (Except.ok.inj h)
        have hdigits := List.takeWhile_prefix Char.isDigit (l := cs.take width)
        have hprefix := hdigits.length_le
        rw [List.length_take] at hprefix
        have hlength : cs.length - (cs.drop ((cs.take width).takeWhile Char.isDigit).length).length =
            ((cs.take width).takeWhile Char.isDigit).length := by
          rw [List.length_drop]
          omega
        rw [hlength]
        exact ⟨natOfDigits_lt (List.all_eq_true.1 List.all_takeWhile), by omega⟩
      · cases h

/-- A row of digits is read as its number, up to the end of the row or of the width. -/
theorem number_append {width : Nat} {ds : List Char} (rest : List Char) (hne : ds ≠ [])
    (hdigits : ∀ d ∈ ds, d.isDigit = true) (hlength : ds.length ≤ width)
    (hend : ds.length = width ∨ ∀ c ∈ rest.head?, c.isDigit = false)
    (hbound : natOfDigits ds < 9223372036854775808) :
    number width (ds ++ rest) = .ok (natOfDigits ds, rest) := by
  have htake : ((ds ++ rest).take width).takeWhile Char.isDigit = ds := by
    rw [List.take_append, List.take_of_length_le hlength, List.takeWhile_append_of_pos hdigits]
    have hnone : (rest.take (width - ds.length)).takeWhile Char.isDigit = [] := by
      rcases hend with hwidth | hmark
      · rw [hwidth, Nat.sub_self, List.take_zero, List.takeWhile_nil]
      · cases rest with
        | nil => rw [List.take_nil, List.takeWhile_nil]
        | cons c rest =>
          have hc : c.isDigit = false := hmark c rfl
          cases width - ds.length with
          | zero => rfl
          | succ k => simp [hc]
    rw [hnone, List.append_nil]
  unfold number
  split
  · rename_i hnil
    exact absurd (List.append_eq_nil_iff.1 hnil).1 hne
  · rw [htake, if_neg (by simpa using hne), if_pos hbound, List.drop_left]

/-- A digit is no white space. -/
theorem isBlank_of_isDigit {c : Char} (h : c.isDigit = true) : Text.isBlank c = false := by
  obtain ⟨hlow, hhigh⟩ : 48 ≤ c.toNat ∧ c.toNat ≤ 57 := Char.isDigit_iff_toNat.1 h
  simp only [Text.isBlank, Bool.or_eq_false_iff, Bool.and_eq_false_iff, decide_eq_false_iff_not,
    beq_eq_false_iff_ne]
  omega

end Reader

/-! ## Numbers with zeros in front -/

/-- The digits of a number with zeros in front. -/
theorem toList_padded (width n : Nat) : (padded width n).toList =
    List.replicate (width - (Nat.toDigits 10 n).length) '0' ++ Nat.toDigits 10 n := by
  simp [padded, Nat.repr_eq_ofList_toDigits]

theorem isDigit_of_mem_padded {width n : Nat} : ∀ d ∈ (padded width n).toList, d.isDigit = true := by
  intro d hd
  rw [toList_padded] at hd
  rcases List.mem_append.1 hd with hzero | hdigit
  · obtain rfl := List.eq_of_mem_replicate hzero
    rfl
  · exact Nat.isDigit_of_mem_toDigits (by omega) (by omega) hdigit

/-- The zeros in front do not count. -/
theorem natOfDigits_padded (width n : Nat) : Reader.natOfDigits (padded width n).toList = n := by
  rw [toList_padded, Reader.natOfDigits_eq, Nat.ofDigitChars_append, Nat.ofDigitChars_replicate_zero,
    Nat.mul_zero, Nat.ofDigitChars_ten_toDigits]

/-- A number that fits is written in the full width. -/
theorem length_padded {width n : Nat} (hwidth : 0 < width) (h : n < 10 ^ width) :
    (padded width n).toList.length = width := by
  have hdigits := (Nat.length_toDigits_le_iff (by omega) hwidth).2 h
  rw [toList_padded, List.length_append, List.length_replicate]
  omega

theorem padded_ne_nil (width n : Nat) : (padded width n).toList ≠ [] := by
  rw [toList_padded]
  simp

namespace Reader

/-- There is no white space before a row of digits. -/
theorem trimStart_padded (width n : Nat) (rest : List Char) :
    Text.trimStart ((padded width n).toList ++ rest) = (padded width n).toList ++ rest := by
  obtain ⟨d, ds, hds⟩ := List.exists_cons_of_ne_nil (padded_ne_nil width n)
  have hd : Text.isBlank d = false :=
    isBlank_of_isDigit (isDigit_of_mem_padded d (hds ▸ List.mem_cons_self))
  rw [hds, List.cons_append, Text.trimStart, List.dropWhile_cons_of_neg (by simp [hd])]

/-- A number of two digits is read as it was written. -/
theorem bounded_padded {low high n : Nat} (hlow : low ≤ n) (hhigh : n ≤ high) (h : n < 100)
    (rest : List Char) : bounded 2 low high ((padded 2 n).toList ++ rest) = .ok (n, rest) := by
  have hlength : (padded 2 n).toList.length = 2 := length_padded (by omega) h
  have hnumber := number_append rest (padded_ne_nil 2 n) isDigit_of_mem_padded hlength.le
    (.inl hlength) (by rw [natOfDigits_padded]; omega)
  rw [natOfDigits_padded] at hnumber
  rw [bounded, trimStart_padded, hnumber]
  exact if_pos ⟨hlow, hhigh⟩

/-- A mark is read where it stands. -/
theorem mark_cons {c : Char} (h : Text.isBlank c = false) (rest : List Char) :
    mark c (c :: rest) = .ok rest := by
  unfold mark
  rw [Text.trimStart, List.dropWhile_cons_of_neg (by simp [h])]
  exact if_pos rfl

/-- A year is read as it was written. -/
theorem year_renderYear {y : Int} (h : isYear y = true) (rest : List Char) :
    year ((renderYear y).toList ++ '-' :: rest) = .ok (y, '-' :: rest) := by
  have hbounds : -262143 ≤ y ∧ y ≤ 262142 := of_decide_eq_true h
  have hmark : ∀ c ∈ ('-' :: rest).head?, c.isDigit = false := by
    intro c hc
    obtain rfl := Option.some.inj hc
    rfl
  -- Behind a sign a year may have any number of digits, up to the mark.
  have hsigned : number ((padded 4 y.natAbs).toList ++ '-' :: rest).length
      ((padded 4 y.natAbs).toList ++ '-' :: rest) = .ok (y.natAbs, '-' :: rest) := by
    have hlength : (padded 4 y.natAbs).toList.length ≤
        ((padded 4 y.natAbs).toList ++ '-' :: rest).length := by
      rw [List.length_append]
      omega
    have hnumber := number_append ('-' :: rest) (padded_ne_nil 4 y.natAbs) isDigit_of_mem_padded
      hlength (.inr hmark) (by rw [natOfDigits_padded]; omega)
    rwa [natOfDigits_padded] at hnumber
  unfold renderYear
  split
  · have hyear : y.toNat < 10 ^ 4 := by omega
    have hlength : (padded 4 y.toNat).toList.length = 4 := length_padded (by omega) hyear
    have hnumber := number_append ('-' :: rest) (padded_ne_nil 4 y.toNat) isDigit_of_mem_padded
      hlength.le (.inl hlength) (by rw [natOfDigits_padded]; omega)
    rw [natOfDigits_padded] at hnumber
    obtain ⟨d, ds, hds⟩ := List.exists_cons_of_ne_nil (padded_ne_nil 4 y.toNat)
    have hd : d.isDigit = true := isDigit_of_mem_padded d (hds ▸ List.mem_cons_self)
    unfold year
    rw [trimStart_padded]
    split
    · rename_i heq
      rw [hds] at heq
      obtain ⟨rfl, -⟩ := List.cons.inj heq
      cases hd
    · rename_i heq
      rw [hds] at heq
      obtain ⟨rfl, -⟩ := List.cons.inj heq
      cases hd
    · rw [hnumber]
      have hcast : (y.toNat : Int) = y := by omega
      simp [bind, Except.bind, hcast]
  · split
    · have htext : ("-" ++ padded 4 y.natAbs).toList ++ '-' :: rest =
          '-' :: ((padded 4 y.natAbs).toList ++ '-' :: rest) := by simp
      have htrim : Text.trimStart ('-' :: ((padded 4 y.natAbs).toList ++ '-' :: rest)) =
          '-' :: ((padded 4 y.natAbs).toList ++ '-' :: rest) :=
        List.dropWhile_cons_of_neg (by decide)
      have hbound : y.natAbs ≤ 2147483648 := by omega
      have hcast : -(y.natAbs : Int) = y := by omega
      rw [htext, year, htrim]
      simp only [hsigned, bind, Except.bind, if_pos hbound, hcast]
    · have hsame : y.toNat = y.natAbs := by omega
      have htext : ("+" ++ padded 4 y.toNat).toList ++ '-' :: rest =
          '+' :: ((padded 4 y.natAbs).toList ++ '-' :: rest) := by simp [hsame]
      have htrim : Text.trimStart ('+' :: ((padded 4 y.natAbs).toList ++ '-' :: rest)) =
          '+' :: ((padded 4 y.natAbs).toList ++ '-' :: rest) :=
        List.dropWhile_cons_of_neg (by decide)
      have hbound : y.natAbs < 2147483648 := by omega
      have hcast : (y.natAbs : Int) = y := by omega
      rw [htext, year, htrim]
      simp only [hsigned, bind, Except.bind, if_pos hbound, hcast]

end Reader

/-! ## Whole seconds -/

/-- The parts of the text of a point in time: the number of its day and the seconds of that day, one
of which a leap second adds to the last minute. -/
theorem toList_render (t : Timestamp) (day : Day) (hday : Day.ofNumber (t.seconds / 86400) = day)
    (clock : Nat) (hclock : (t.seconds % 86400).toNat = clock) :
    t.render.toList = (renderYear day.year).toList ++ '-' :: ((padded 2 day.month).toList ++
      '-' :: ((padded 2 day.day).toList ++ 'T' :: ((padded 2 (clock / 3600)).toList ++
      ':' :: ((padded 2 (clock / 60 % 60)).toList ++ ':' :: ((padded 2 (clock % 60 +
        if 1000000000 ≤ t.nanos then 1 else 0)).toList ++ ['Z']))))) := by
  unfold render renderSeconds
  simp [hday, hclock]

/-- A leap second is the last one of a minute. -/
def IsLeapSound (t : Timestamp) : Prop := 1000000000 ≤ t.nanos → t.seconds % 60 = 59

/-- What is written in whole seconds is read as the point in time without its fraction. -/
theorem parse_render {t : Timestamp} (hcounted : t.isCounted = true) (hleap : t.IsLeapSound) :
    parse t.render = .ok ⟨t.seconds, if 1000000000 ≤ t.nanos then 1000000000 else 0⟩ := by
  obtain ⟨day, hday⟩ : ∃ day, Day.ofNumber (t.seconds / 86400) = day := ⟨_, rfl⟩
  obtain ⟨clock, hclock⟩ : ∃ clock, (t.seconds % 86400).toNat = clock := ⟨_, rfl⟩
  have hyear : isYear day.year = true := hday ▸ hcounted
  obtain ⟨hmonth, hdays⟩ : day.IsValid := hday ▸ Day.isValid_ofNumber _
  have hnumber : day.number = t.seconds / 86400 := hday ▸ Day.number_ofNumber _
  have hlong : daysInMonth day.year day.month ≤ 31 := by
    unfold daysInMonth
    repeat' split
    all_goals omega
  -- A leap second is written as the sixtieth of its minute, which is its fifty-ninth otherwise.
  obtain ⟨leap, hone⟩ : ∃ leap, (if 1000000000 ≤ t.nanos then 1 else 0) = leap := ⟨_, rfl⟩
  have hsixty : clock % 60 + leap = 60 ↔ 1000000000 ≤ t.nanos := by
    unfold IsLeapSound at hleap
    split at hone <;> omega
  have hsecond : clock % 60 + leap ≤ 60 := by
    split at hone <;> omega
  have hwhole : (if clock % 60 + leap = 60 then 59 else clock % 60 + leap) = clock % 60 := by
    split at hone <;> split <;> omega
  have hseconds : day.number * 86400 + ((↑(clock / 3600) : Int) * 3600 + ↑(clock / 60 % 60) * 60 +
      ↑(clock % 60)) - 0 = t.seconds := by omega
  have hdash : Text.isBlank '-' = false := by decide
  have hcolon : Text.isBlank ':' = false := by decide
  have hfraction : Reader.secondFraction ['Z'] = .ok (0, ['Z']) := rfl
  have hoffset : Reader.offset (Text.trimStart ['Z']) = .ok (0, []) := rfl
  have hfits : (decide (daysInMonth day.year day.month < day.day) || !isYear day.year ||
      decide (86400 ≤ (0 : Int).natAbs)) = false := by
    simp [hyear, hdays.2]
  -- Each part is read where it stands, up to the end of the text.
  unfold parse
  rw [toList_render t day hday clock hclock, hone, Reader.year_renderYear hyear]
  simp only [bind, Except.bind]
  rw [Reader.mark_cons hdash]
  simp only
  rw [Reader.bounded_padded hmonth.1 hmonth.2 (by omega)]
  simp only
  rw [Reader.mark_cons hdash]
  simp only
  rw [Reader.bounded_padded hdays.1 (by omega) (by omega)]
  simp only [or_true, true_or, if_true]
  rw [Reader.bounded_padded (Nat.zero_le _) (by omega) (by omega)]
  simp only
  rw [Reader.mark_cons hcolon]
  simp only
  rw [Reader.bounded_padded (Nat.zero_le _) (by omega) (by omega)]
  simp only
  rw [Reader.mark_cons hcolon]
  simp only
  rw [Reader.bounded_padded (Nat.zero_le _) hsecond (by omega)]
  simp only [hfraction, hoffset, hwhole]
  rw [show (⟨day.year, day.month, day.day⟩ : Day) = day from rfl, hseconds, hfits]
  have hsame : ∀ nanos, (⟨t.seconds, nanos⟩ : Timestamp).isCounted = true := fun _ => hcounted
  simp only [hsixty, hsame]
  rfl

/-! ## Every text -/

namespace Reader

/-- An offset is one of whole minutes. -/
theorem emod_of_hoursMinutes {cs rest : List Char} {n : Int}
    (h : hoursMinutes cs = .ok (n, rest)) : n % 60 = 0 := by
  unfold hoursMinutes at h
  obtain ⟨⟨h₁, h₂, behind⟩, -, h⟩ := exists_of_bind_eq_ok h
  obtain ⟨⟨m₁, m₂, behind⟩, -, h⟩ := exists_of_bind_eq_ok h
  simp only at h
  split at h
  · cases h
  · obtain ⟨rfl, -⟩ := Prod.mk.inj (Except.ok.inj h)
    omega

theorem emod_of_offset {cs rest : List Char} {n : Int} (h : offset cs = .ok (n, rest)) :
    n % 60 = 0 := by
  unfold offset at h
  simp only at h
  split at h
  · obtain ⟨rfl, -⟩ := Prod.mk.inj (Except.ok.inj h)
    rfl
  · split at h
    · cases h
    · split at h
      · obtain ⟨rfl, -⟩ := Prod.mk.inj (Except.ok.inj h)
        rfl
      · split at h
        · exact emod_of_hoursMinutes h
        · split at h
          · obtain ⟨⟨m, behind⟩, hm, h⟩ := exists_of_bind_eq_ok h
            obtain ⟨rfl, -⟩ := Prod.mk.inj (Except.ok.inj h)
            have hwhole := emod_of_hoursMinutes hm
            omega
          · cases h

/-- The fraction of a second is less than a second. -/
theorem lt_of_secondFraction {cs rest : List Char} {n : Nat}
    (h : secondFraction cs = .ok (n, rest)) : n < 1000000000 := by
  unfold secondFraction at h
  split at h
  · obtain ⟨⟨m, behind⟩, hm, h⟩ := exists_of_bind_eq_ok h
    obtain ⟨rfl, -⟩ := Prod.mk.inj (Except.ok.inj h)
    rename_i digits _
    obtain ⟨hlt, hle⟩ := lt_of_number hm
    calc m * 10 ^ (9 - (digits.length - behind.length))
        < 10 ^ (digits.length - behind.length) * 10 ^ (9 - (digits.length - behind.length)) :=
          Nat.mul_lt_mul_of_pos_right hlt (by positivity)
      _ = 10 ^ 9 := by rw [← Nat.pow_add, Nat.add_sub_cancel' hle]
  · obtain ⟨rfl, -⟩ := Prod.mk.inj (Except.ok.inj h)
    decide

end Reader

/-- What was read is a point in time that is counted, and a leap second ends a minute. -/
theorem isCounted_of_parse {text : String} {t : Timestamp} (h : parse text = .ok t) :
    t.isCounted = true ∧ t.IsLeapSound := by
  unfold parse at h
  obtain ⟨⟨year, _⟩, -, h⟩ := exists_of_bind_eq_ok h
  obtain ⟨_, -, h⟩ := exists_of_bind_eq_ok h
  obtain ⟨⟨month, _⟩, -, h⟩ := exists_of_bind_eq_ok h
  obtain ⟨_, -, h⟩ := exists_of_bind_eq_ok h
  obtain ⟨⟨day, _⟩, -, h⟩ := exists_of_bind_eq_ok h
  simp only at h
  split at h
  · cases h
  split at h
  · obtain ⟨_, -, h⟩ := exists_of_bind_eq_ok h
    obtain ⟨⟨hour, _⟩, -, h⟩ := exists_of_bind_eq_ok h
    obtain ⟨_, -, h⟩ := exists_of_bind_eq_ok h
    obtain ⟨⟨minute, _⟩, -, h⟩ := exists_of_bind_eq_ok h
    obtain ⟨_, -, h⟩ := exists_of_bind_eq_ok h
    obtain ⟨⟨second, _⟩, -, h⟩ := exists_of_bind_eq_ok h
    obtain ⟨⟨nanos, _⟩, hnanos, h⟩ := exists_of_bind_eq_ok h
    obtain ⟨⟨offset, _⟩, hoffset, h⟩ := exists_of_bind_eq_ok h
    have hfraction := Reader.lt_of_secondFraction hnanos
    have hwhole := Reader.emod_of_offset hoffset
    simp only at h
    split at h
    · cases h
    split at h
    · cases h
    -- Only the sixtieth second has a fraction beyond a whole one.
    by_cases hsixty : second = 60
    · simp only [hsixty, if_true] at h
      split at h
      · rename_i hcounted
        obtain rfl := Except.ok.inj h
        refine ⟨hcounted, fun _ => ?_⟩
        simp only
        omega
      · cases h
    · simp only [hsixty, if_false] at h
      split at h
      · rename_i hcounted
        obtain rfl := Except.ok.inj h
        refine ⟨hcounted, fun hleap => ?_⟩
        simp only at hleap
        omega
      · cases h
  · cases h

/-- What was read and is written in whole seconds is read and written as it is. -/
theorem render_of_parse {text : String} {t : Timestamp} (h : parse text = .ok t) :
    ∃ t', parse t.render = .ok t' ∧ t'.render = t.render := by
  obtain ⟨hcounted, hleap⟩ := isCounted_of_parse h
  refine ⟨_, parse_render hcounted hleap, ?_⟩
  unfold render renderSeconds
  by_cases hnanos : 1000000000 ≤ t.nanos
  · simp only [if_pos hnanos, le_refl, if_true]
  · have hzero : ¬ 1000000000 ≤ 0 := by decide
    simp only [if_neg hnanos, if_neg hzero]

end WorkloadBindings.Timestamp
