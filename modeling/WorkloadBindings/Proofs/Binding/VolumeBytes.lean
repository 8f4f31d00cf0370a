import WorkloadBindings.Proofs.Binding.VolumeName

/-!
# Volume names as bytes

There is a volume for every binding but those whose name is too long and has a character across the
cut at byte 54. Its name has at most 63 bytes and begins with the head, however much of the
binding's name is trimmed away (`Mutation.volumeName?_bounded`).
-/

namespace WorkloadBindings.Mutation

open Text

variable {binding volume whole kept : String} {n : Nat}

/-! ## The form of a volume name -/

/-- What is left of the first `n` bytes of a text without trailing dashes and dots. -/
def IsTrimmedAt (n : Nat) (whole kept : String) : Prop :=
  ∃ cut rest, whole = kept ++ cut ++ rest ∧ (kept ++ cut).utf8ByteSize = n ∧
    (∀ c ∈ cut.toList, c = '-' ∨ c = '.') ∧ ∀ c ∈ kept.toList.getLast?, c ≠ '-' ∧ c ≠ '.'

/-- The name of a volume for a binding. -/
inductive IsVolumeName (binding : String) : String → Prop where
  /-- The head and the binding's name, when they fit. -/
  | fitting (hfits : ("secretbinding-" ++ binding).utf8ByteSize ≤ 63) :
      IsVolumeName binding ("secretbinding-" ++ binding)
  /-- Otherwise what is left of the first 54 bytes of them, a dash, and the first eight digits of the
  digest of the binding's name. -/
  | shortened {kept digits more : String}
      (hlong : 63 < ("secretbinding-" ++ binding).utf8ByteSize)
      (hkept : IsTrimmedAt 54 ("secretbinding-" ++ binding) kept)
      (hdigest : Sha256.hexDigest binding.toUTF8.toList = digits ++ more)
      (hdigits : digits.length = 8) : IsVolumeName binding (kept ++ "-" ++ digits)

/-- A character that is trimmed is a dash or a dot. -/
theorem isSeparator_iff {c : Char} : isSeparator c = true ↔ c = '-' ∨ c = '.' := by
  rw [isSeparator, Bool.or_eq_true, beq_iff_eq, beq_iff_eq]

/-- A character that is not trimmed is neither a dash nor a dot. -/
theorem isSeparator_eq_false_iff {c : Char} : isSeparator c = false ↔ c ≠ '-' ∧ c ≠ '.' := by
  rw [← Bool.not_eq_true, isSeparator_iff, not_or]

/-- A text is cut and trimmed when a number of bytes holds a part of it and that is trimmed. -/
theorem isTrimmedAt_iff :
    IsTrimmedAt n whole kept ↔
      ∃ start, takeBytes? n whole.toList = some start ∧ trimEnd isSeparator start = kept.toList := by
  simp only [takeBytes?_eq_some_iff, trimEnd_eq_iff]
  constructor
  · rintro ⟨cut, rest, rfl, hsize, hcut, hlast⟩
    refine ⟨(kept ++ cut).toList, ⟨?_, ?_⟩, cut.toList, String.toList_append, ?_, ?_⟩
    · exact ⟨rest.toList, String.toList_append.symm⟩
    · rw [byteWidth_toList, hsize]
    · exact fun c hc => isSeparator_iff.2 (hcut c hc)
    · exact fun c hc => isSeparator_eq_false_iff.2 (hlast c hc)
  · rintro ⟨start, ⟨⟨rest, hrest⟩, hwidth⟩, cut, rfl, hcut, hlast⟩
    refine ⟨String.ofList cut, String.ofList rest, ?_, ?_, ?_, ?_⟩
    · rw [← String.toList_inj, ← hrest]
      simp
    · rw [← byteWidth_toList, String.toList_append, String.toList_ofList, hwidth]
    · intro c hc
      rw [String.toList_ofList] at hc
      exact isSeparator_iff.1 (hcut c hc)
    · exact fun c hc => isSeparator_eq_false_iff.1 (hlast c hc)

/-- The first eight digits of a digest. -/
theorem eq_digest_iff {digits : String} :
    (∃ more, Sha256.hexDigest binding.toUTF8.toList = digits ++ more ∧ digits.length = 8) ↔
      digits.toList = digest binding := by
  rw [toList_toUTF8, digest]
  constructor
  · rintro ⟨more, hdigest, hlength⟩
    rw [hdigest, String.toList_append]
    exact (List.take_left' hlength).symm
  · intro h
    refine ⟨String.ofList ((Sha256.hexDigest (bytes binding)).toList.drop digestDigits), ?_, ?_⟩
    · rw [← String.toList_inj, String.toList_append, h, String.toList_ofList, List.take_append_drop]
    · rw [← String.length_toList, h]
      exact length_digest binding

/-! ## When there is a name -/

/-- The name of a volume when the head and the binding's name fit. -/
theorem volumeName?_of_le (h : (volumeHead ++ binding).utf8ByteSize ≤ 63) :
    volumeName? binding = some (volumeHead ++ binding) := by
  rw [← byteWidth_toList] at h
  exact if_pos h

/-- The name of a volume when the head and the binding's name do not fit. -/
theorem volumeName?_of_lt (h : 63 < (volumeHead ++ binding).utf8ByteSize) :
    volumeName? binding =
      (takeBytes? 54 (volumeHead ++ binding).toList).map fun start =>
        String.ofList (trimEnd isSeparator start) ++ "-" ++ String.ofList (digest binding) := by
  rw [← byteWidth_toList] at h
  rw [digest, ← toList_toUTF8]
  exact if_neg (Nat.not_le_of_lt h)

/-- The name of a volume is what the form says. -/
theorem volumeName?_eq_some_iff : volumeName? binding = some volume ↔ IsVolumeName binding volume := by
  constructor
  · intro h
    by_cases hfits : (volumeHead ++ binding).utf8ByteSize ≤ 63
    · rw [volumeName?_of_le hfits] at h
      obtain rfl := Option.some_inj.1 h
      exact .fitting hfits
    · have hlong := Nat.lt_of_not_le hfits
      rw [volumeName?_of_lt hlong] at h
      obtain ⟨start, hstart, rfl⟩ := Option.map_eq_some_iff.1 h
      obtain ⟨more, hdigest, hdigits⟩ := eq_digest_iff.2 (String.toList_ofList (l := digest binding))
      exact .shortened hlong (isTrimmedAt_iff.2 ⟨start, hstart, String.toList_ofList.symm⟩) hdigest hdigits
  · rintro (hfits | ⟨hlong, hkept, hdigest, hdigits⟩)
    · exact volumeName?_of_le hfits
    · obtain ⟨start, hstart, htrim⟩ := isTrimmedAt_iff.1 hkept
      rw [volumeName?_of_lt hlong]
      refine Option.map_eq_some_iff.2 ⟨start, hstart, ?_⟩
      rw [htrim, ← eq_digest_iff.1 ⟨_, hdigest, hdigits⟩, String.ofList_toList, String.ofList_toList]

/-- There is no volume for a binding when the head and its name are too long and cannot be cut. -/
theorem volumeName?_eq_none_iff :
    volumeName? binding = none ↔
      63 < (volumeHead ++ binding).utf8ByteSize ∧
        ¬(⟨54⟩ : String.Pos.Raw).IsValid (volumeHead ++ binding) := by
  by_cases hfits : (volumeHead ++ binding).utf8ByteSize ≤ 63
  · rw [volumeName?_of_le hfits]
    exact iff_of_false nofun fun h => Nat.not_le_of_lt h.1 hfits
  · have hlong := Nat.lt_of_not_le hfits
    rw [volumeName?_of_lt hlong, Option.map_eq_none_iff, and_iff_right hlong, ← exists_takeBytes?_iff,
      Option.eq_none_iff_forall_ne_some, not_exists]

/-! ## Bounds -/

/-- The name of a volume begins with the head and has at most 63 bytes. -/
theorem exists_append_of_volumeName? (h : volumeName? binding = some volume) :
    ∃ kept, volume = volumeHead ++ kept ∧ volume.utf8ByteSize ≤ 63 := by
  -- Trimming may reach into the head, but what it takes there is the dash that is put back.
  rw [volumeName?_eq] at h
  obtain ⟨kept, hkept, rfl⟩ := Option.map_eq_some_iff.1 h
  have hroom := fits_of_keptName? hkept
  have hhead : byteWidth volumeHead.toList + keptBytes = 63 := by decide
  rw [Fits] at hroom
  refine ⟨kept, rfl, ?_⟩
  rw [← byteWidth_toList, String.toList_append, byteWidth_append]
  omega

/-- For a binding there is no volume just when the head and its name have more than 63 bytes and byte
54 lies inside a character, which it never does in an ASCII name. Otherwise the volume has the name
that the form says, which begins with the head and has at most 63 bytes. -/
theorem volumeName?_bounded (binding : String) :
    (volumeName? binding = none ↔
      63 < ("secretbinding-" ++ binding).utf8ByteSize ∧
        ¬(⟨54⟩ : String.Pos.Raw).IsValid ("secretbinding-" ++ binding)) ∧
    (IsAscii binding.toList → volumeName? binding ≠ none) ∧
    (∀ volume, volumeName? binding = some volume ↔ IsVolumeName binding volume) ∧
    ∀ volume, volumeName? binding = some volume →
      ∃ kept, volume = "secretbinding-" ++ kept ∧ volume.utf8ByteSize ≤ 63 := by
  refine ⟨volumeName?_eq_none_iff, fun hascii => ?_, fun _ => volumeName?_eq_some_iff,
    fun _ => exists_append_of_volumeName?⟩
  obtain ⟨volume, hvolume⟩ := exists_volumeName? hascii
  rw [hvolume]
  exact nofun

/-- A name of which nothing is left. -/
def dashes : String := "--------------------------------------------------"

/-- The volume of a binding with a name of dashes has the head and the digest in its name. -/
theorem volumeName?_bounded_dashes :
    IsAscii dashes.toList ∧ volumeName? dashes = some "secretbinding-98285da7" ∧
      volumeName? dashes ≠ none ∧ IsVolumeName dashes "secretbinding-98285da7" ∧
      ∃ kept, "secretbinding-98285da7" = "secretbinding-" ++ kept ∧
        "secretbinding-98285da7".utf8ByteSize ≤ 63 := by
  have hascii : IsAscii dashes.toList := by decide
  have hvolume : volumeName? dashes = some "secretbinding-98285da7" := by decide +kernel
  obtain ⟨-, hsome, hform, hbounds⟩ := volumeName?_bounded dashes
  exact ⟨hascii, hvolume, hsome hascii, (hform _).1 hvolume, hbounds _ hvolume⟩

/-- Byte 54 lies inside the twentieth character of this name that has two bytes. -/
example : volumeName? "xééééééééééééééééééééééééé" = none := by decide

end WorkloadBindings.Mutation
