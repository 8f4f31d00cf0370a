import WorkloadBindings.Proofs.Binding.VolumeName
import WorkloadBindings.Proofs.Text.DomainName

/-!
# Volume names as domain names

A binding whose name is a subdomain always has a volume, and the name of the volume is a subdomain of
at most 63 characters (`Mutation.volume_of_isSubdomain`). It is a label, as the name of a volume has
to be, just when the part of the binding's name that it keeps has no dot: dots are trimmed only where
a name is cut.
-/

namespace WorkloadBindings.Mutation

open Text

variable {name kept : String}

/-! ## The parts of a name -/

/-- An ASCII name fits when it has at most 49 characters. -/
theorem fits_iff_of_isAscii (h : IsAscii name.toList) : Fits name ↔ name.length ≤ 49 := by
  have hroom : keptBytes = 49 := by decide
  rw [Fits, byteWidth_of_isAscii h, String.length_toList, hroom]

/-- The digest of a name is a label. -/
theorem isLabel_digest (name : String) : IsLabel (digest name) := by
  have hne : digest name ≠ [] := List.ne_nil_of_length_pos (by rw [length_digest]; decide)
  have hdigits : Sha256.hexDigits.all isLowerAlphanumeric = true := by decide
  have hdigit : ∀ c ∈ digest name, isLowerAlphanumeric c = true := fun c hc =>
    List.all_eq_true.1 hdigits c (mem_hexDigits_of_mem_digest hc)
  refine ⟨fun c hc => by rw [isLabelChar, hdigit c hc, Bool.true_or], ?_, ?_⟩
  · rw [List.head?_eq_some_head hne, Option.any_some]
    exact hdigit _ (List.head_mem hne)
  · rw [List.getLast?_eq_some_getLast hne, Option.any_some]
    exact hdigit _ (List.getLast_mem hne)

/-! ## Stems -/

/-- A letter or digit is not trimmed. -/
theorem isSeparator_eq_false {c : Char} (h : isLowerAlphanumeric c = true) :
    isSeparator c = false := by
  rw [isSeparator, Bool.or_eq_false_iff, beq_eq_false_iff_ne, beq_eq_false_iff_ne]
  constructor
  · rintro rfl
    exact absurd h (by decide)
  · rintro rfl
    exact absurd h (by decide)

/-- A character of a subdomain that is not trimmed is a letter or digit. -/
theorem isLowerAlphanumeric_of_isSeparator {c : Char} (h : isLabelChar c = true ∨ c = '.')
    (hsep : isSeparator c = false) : isLowerAlphanumeric c = true := by
  rw [isSeparator, Bool.or_eq_false_iff] at hsep
  rcases h with hchar | rfl
  · rwa [isLabelChar, hsep.1, Bool.or_false] at hchar
  · exact absurd hsep.2 (by decide)

/-- What is left of the beginning of a subdomain without trailing dashes and dots is a subdomain. -/
theorem isSubdomain_trimEnd {cs start : List Char} (h : IsSubdomain cs) (hstart : start <+: cs)
    (hne : start ≠ []) : IsSubdomain (trimEnd isSeparator start) := by
  have hleft : trimEnd isSeparator start ≠ [] := by
    have hfirst := any_head?_of_isPrefix h.first hstart hne
    rw [List.head?_eq_some_head hne, Option.any_some] at hfirst
    exact trimEnd_ne_nil (List.head_mem hne) (isSeparator_eq_false hfirst)
  have hbegins : trimEnd isSeparator start <+: cs := (trimEnd_isPrefix _ _).trans hstart
  have hlast := List.getLast?_eq_some_getLast hleft
  refine h.of_isPrefix hbegins ?_
  rw [hlast, Option.any_some]
  exact isLowerAlphanumeric_of_isSeparator (h.chars _ (hbegins.subset (List.getLast_mem hleft)))
    (not_of_getLast?_trimEnd hlast)

/-- In what is left of the beginning of a subdomain there is a dot just when there is one in front of
the last character of the beginning. -/
theorem dot_mem_trimEnd_iff {cs start : List Char} {c : Char} (h : IsSubdomain cs)
    (hstart : start ++ [c] <+: cs) :
    '.' ∈ trimEnd isSeparator (start ++ [c]) ↔ '.' ∈ start := by
  constructor
  · intro hmem
    rw [trimEnd_append] at hmem
    split at hmem
    · exact (trimEnd_isPrefix _ _).subset hmem
    · rename_i hleft
      refine (List.mem_append.1 hmem).resolve_right fun hlast => ?_
      obtain rfl := List.mem_singleton.1 ((trimEnd_isPrefix _ _).subset hlast)
      exact hleft (by decide)
  · intro hmem
    obtain ⟨before, after, rfl⟩ := List.append_of_mem hmem
    obtain ⟨tail, rfl⟩ := hstart
    -- Behind the dot stands a letter or digit, which is not trimmed and keeps the dot.
    have hbehind : IsSubdomain (after ++ [c] ++ tail) :=
      IsSubdomain.of_append_dot before (by simpa using h)
    have hfirst := any_head?_of_isPrefix hbehind.first (List.prefix_append _ _) (by simp)
    obtain ⟨d, more, hmore⟩ := List.exists_cons_of_ne_nil (show after ++ [c] ≠ [] by simp)
    rw [hmore, List.head?_cons, Option.any_some] at hfirst
    have hstart : before ++ '.' :: after ++ [c] = (before ++ ['.']) ++ d :: more := by
      simp [← hmore]
    rw [hstart]
    exact mem_trimEnd_of_mem (List.mem_append_right _ List.mem_cons_self)
      (isSeparator_eq_false hfirst)

/-! ## Names that are kept -/

/-- A stem with a dash and a digest behind it is a subdomain, which has no other dots. -/
theorem isSubdomain_append_digest {stem : List Char} (h : IsSubdomain stem) (name : String) :
    IsSubdomain (stem ++ '-' :: digest name) ∧
      ('.' ∈ stem ++ '-' :: digest name ↔ '.' ∈ stem) := by
  have hdigest := isLabel_digest name
  have hchars : ∀ c ∈ '-' :: digest name, isLabelChar c = true :=
    List.forall_mem_cons.2 ⟨by decide, hdigest.chars⟩
  have hdot : '.' ∉ '-' :: digest name := fun hmem => absurd (hchars '.' hmem) (by decide)
  exact ⟨h.append hchars (any_getLast?_append hdigest.last ['-']),
    List.mem_append.trans (or_iff_left hdot)⟩

/-- What is kept of a subdomain that does not fit is a subdomain, with dots just when there are dots
among the first 39 characters of the name. -/
theorem exists_shortName? (h : IsSubdomain name.toList) (hlong : ¬Fits name) :
    ∃ kept, shortName? name = some kept ∧ IsSubdomain kept.toList ∧
      ('.' ∈ kept.toList ↔ '.' ∈ name.toList.take 39) := by
  have hlength : 39 < name.toList.length := by
    rw [fits_iff_of_isAscii h.isAscii] at hlong
    rw [String.length_toList]
    omega
  have hbytes : stemBytes = 39 + 1 := by decide
  have htake : name.toList.take 39 ++ [name.toList[39]] <+: name.toList := by
    rw [List.take_append_getElem hlength]
    exact List.take_prefix _ _
  have hstem := isSubdomain_trimEnd h htake (List.append_ne_nil_of_right_ne_nil _ (by simp))
  have hdashed : dashed (trimEnd isSeparator (name.toList.take 39 ++ [name.toList[39]])) =
      trimEnd isSeparator (name.toList.take 39 ++ [name.toList[39]]) ++ ['-'] := by
    refine if_neg fun hnil => ?_
    rw [hnil] at hstem
    cases hstem.first
  obtain ⟨hkept, hdot⟩ := isSubdomain_append_digest hstem name
  rw [shortName?, stem?_of_isAscii h.isAscii hlong, hbytes, ← List.take_append_getElem hlength,
    Option.map_some, hdashed, List.append_assoc, List.singleton_append]
  refine ⟨_, rfl, ?_⟩
  rw [String.toList_ofList]
  exact ⟨hkept, hdot.trans (dot_mem_trimEnd_iff h htake)⟩

/-- What is kept of a subdomain is a subdomain that fits, with dots just when there are dots in the
name or, when it is cut, among its first 39 characters. -/
theorem exists_keptName? (h : IsSubdomain name.toList) :
    ∃ kept, keptName? name = some kept ∧ Fits kept ∧ IsSubdomain kept.toList ∧
      ('.' ∈ kept.toList ↔
        '.' ∈ if name.length ≤ 49 then name.toList else name.toList.take 39) := by
  have hroom := fits_iff_of_isAscii h.isAscii
  by_cases hfits : Fits name
  · rw [if_pos (hroom.1 hfits)]
    exact ⟨name, keptName?_of_fits hfits, hfits, h, Iff.rfl⟩
  · rw [if_neg fun hle => hfits (hroom.2 hle)]
    obtain ⟨kept, hshort, hkept⟩ := exists_shortName? h hfits
    exact ⟨kept, (keptName?_of_not_fits hfits).trans hshort, fits_of_shortName? hshort, hkept⟩

/-! ## Volume names -/

/-- A head in front of a subdomain makes a subdomain, which has no other dots. -/
theorem isSubdomain_volumeHead_append (h : IsSubdomain kept.toList) :
    IsSubdomain (volumeHead ++ kept).toList ∧
      ('.' ∈ (volumeHead ++ kept).toList ↔ '.' ∈ kept.toList) := by
  have hchars : volumeHead.toList.all isLabelChar = true := by decide
  have hfirst : volumeHead.toList.head?.any isLowerAlphanumeric = true := by decide
  have hdot : '.' ∉ volumeHead.toList := by decide
  rw [String.toList_append]
  exact ⟨h.prepend (List.all_eq_true.1 hchars) hfirst, List.mem_append.trans (or_iff_right hdot)⟩

/-- For a binding whose name is a subdomain there is a volume. Its name is a subdomain of at most 63
characters, and a label just when there is no dot in the binding's name or, when that has more than
49 characters and is cut, among its first 39 characters. -/
theorem volume_of_isSubdomain (h : IsSubdomain name.toList) (secretName : String)
    (path : Option String) :
    ∃ mount, ofSecret? name secretName path = some (.secret mount) ∧
      mount.volume.length ≤ 63 ∧ IsSubdomain mount.volume.toList ∧
      (IsLabel mount.volume.toList ↔
        '.' ∉ if name.length ≤ 49 then name.toList else name.toList.take 39) := by
  obtain ⟨kept, hkept, hfits, hsubdomain, hdot⟩ := exists_keptName? h
  obtain ⟨hvolume, hvolumeDot⟩ := isSubdomain_volumeHead_append hsubdomain
  have hlength : (volumeHead ++ kept).length ≤ 63 := by
    have hhead : volumeHead.length = 14 := by decide
    have hroom := (fits_iff_of_isAscii hsubdomain.isAscii).1 hfits
    rw [String.length_append, hhead]
    omega
  have hname : volumeName? name = some (volumeHead ++ kept) := by
    rw [volumeName?_eq, hkept, Option.map_some]
  obtain ⟨mount, hmount, hmountVolume⟩ := exists_ofSecret? hname secretName path
  refine ⟨mount, hmount, ?_⟩
  rw [hmountVolume, hvolume.isLabel_iff, hvolumeDot, hdot]
  exact ⟨hlength, hvolume, Iff.rfl⟩

/-- The name of the volume for a binding with a dot in its name is not a label. -/
theorem volume_of_isSubdomain_dotted :
    IsSubdomain "db.prod".toList ∧
      ofSecret? "db.prod" "db-creds" none =
        some (.secret ⟨"secretbinding-db.prod", "db-creds", "/var/bindings/db.prod"⟩) ∧
      ¬IsLabel "secretbinding-db.prod".toList := by
  have hdb : IsLabel "db".toList := by decide
  have hprod : IsLabel "prod".toList := by decide
  have hsubdomain : IsSubdomain "db.prod".toList := .dot hdb (.label hprod)
  have hmount : ofSecret? "db.prod" "db-creds" none =
      some (.secret ⟨"secretbinding-db.prod", "db-creds", "/var/bindings/db.prod"⟩) := by
    have hfits : Fits "db.prod" := by decide
    rw [ofSecret?, volumeName?_eq, keptName?_of_fits hfits]
    decide
  obtain ⟨mount, hsome, -, -, hlabel⟩ := volume_of_isSubdomain hsubdomain "db-creds" none
  obtain rfl : ⟨"secretbinding-db.prod", "db-creds", "/var/bindings/db.prod"⟩ = mount :=
    secret.inj (Option.some_inj.1 (hmount.symm.trans hsome))
  refine ⟨hsubdomain, hmount, fun h => hlabel.1 h (by decide)⟩

end WorkloadBindings.Mutation
