import WorkloadBindings.Proofs.Binding.Basic
import WorkloadBindings.Proofs.Text.ByteOrder
import WorkloadBindings.Proofs.Text.ByteWidth

/-!
# Names of volumes

The name of a volume is a fixed head and what it keeps of the name of its binding
(`Mutation.volumeName?_eq`). That is all of it when it fits behind the head, and else a stem, which is
as much of it as there is room for without trailing dashes and dots, and a digest of all of it. A
stem is missing only when the cut falls inside a character, so that a binding with an ASCII name
always has a mutation (`BindingResource.isResolvable_of_isAscii`).
-/

namespace WorkloadBindings

namespace Mutation

variable {binding kept secretName : String} {path : Option String}

/-! ## What is kept of a name -/

/-- The bytes that a volume name has room for behind its head. -/
def keptBytes : Nat := maxVolumeName - Text.byteWidth volumeHead.toList

/-- The bytes that a shortened volume name has room for between its head and the digest. -/
def stemBytes : Nat := keptBytes - digestDigits - 1

/-- The name of a binding fits behind the head. -/
def Fits (binding : String) : Prop := Text.byteWidth binding.toList ≤ keptBytes

instance (binding : String) : Decidable (Fits binding) := Nat.decLe _ _

/-- The characters that a stem does not end in. -/
def isSeparator (c : Char) : Bool := c == '-' || c == '.'

/-- The stem of a name that does not fit; there is none when the cut falls inside a character. -/
def stem? (binding : String) : Option (List Char) :=
  (Text.takeBytes? stemBytes binding.toList).map (Text.trimEnd isSeparator)

/-- The digits of the digest of a name. -/
def digest (binding : String) : List Char :=
  (Sha256.hexDigest (Text.bytes binding)).toList.take digestDigits

/-- A stem with a dash behind it, when something is left of it. -/
def dashed (stem : List Char) : List Char := if stem = [] then [] else stem ++ ['-']

/-- What a volume name keeps of a name that does not fit. -/
def shortName? (binding : String) : Option String :=
  (stem? binding).map fun stem => String.ofList (dashed stem ++ digest binding)

/-- What a volume name keeps of the name of its binding. -/
def keptName? (binding : String) : Option String :=
  if Fits binding then some binding else shortName? binding

/-- A name that fits is kept. -/
theorem keptName?_of_fits (h : Fits binding) : keptName? binding = some binding := if_pos h

/-- A name that does not fit is shortened. -/
theorem keptName?_of_not_fits (h : ¬Fits binding) : keptName? binding = shortName? binding := if_neg h

/-! ## The whole name -/

/-- The head of a volume name loses the dash at its end. -/
theorem trimEnd_volumeHead : Text.trimEnd isSeparator volumeHead.toList ++ ['-'] = volumeHead.toList := by
  decide

/-- A trimmed head and a dash are the head and the stem with a dash. -/
theorem trimEnd_append_dash (kept : List Char) :
    Text.trimEnd isSeparator (volumeHead.toList ++ kept) ++ ['-'] =
      volumeHead.toList ++ dashed (Text.trimEnd isSeparator kept) := by
  rw [Text.trimEnd_append, dashed]
  split
  · rw [trimEnd_volumeHead, List.append_nil]
  · rw [List.append_assoc]

/-- The name of a volume is the head and what is kept of the binding's name. -/
theorem volumeName?_eq (binding : String) :
    volumeName? binding = (keptName? binding).map (volumeHead ++ ·) := by
  have hfits : Text.byteWidth (volumeHead ++ binding).toList ≤ maxVolumeName ↔ Fits binding := by
    have hhead : Text.byteWidth volumeHead.toList ≤ maxVolumeName := by decide
    rw [String.toList_append, Text.byteWidth_append, Fits, keptBytes]
    omega
  have hcut : maxVolumeName - digestDigits - 1 = Text.byteWidth volumeHead.toList + stemBytes := by
    decide
  unfold volumeName?
  simp only [hfits]
  split
  · rw [keptName?_of_fits ‹_›, Option.map_some]
  · rw [keptName?_of_not_fits ‹_›, shortName?, stem?, hcut, String.toList_append, Text.takeBytes?_append]
    simp only [Option.map_map]
    congr 1
    funext kept
    simp only [Function.comp_apply, ← String.toList_inj, String.toList_append, String.toList_ofList,
      ← List.append_assoc, ← trimEnd_append_dash, Text.toList_toUTF8]
    rfl

/-- The names of two volumes are the same when the same is kept of the names of their bindings. -/
theorem volumeName?_inj {a b volume volume' : String} (ha : volumeName? a = some volume)
    (hb : volumeName? b = some volume') : volume = volume' ↔ keptName? a = keptName? b := by
  rw [volumeName?_eq, Option.map_eq_some_iff] at ha hb
  obtain ⟨kept, hkept, rfl⟩ := ha
  obtain ⟨kept', hkept', rfl⟩ := hb
  rw [hkept, hkept', Option.some_inj, ← String.toList_inj, String.toList_append,
    String.toList_append, List.append_right_inj, String.toList_inj]

/-- The volume of a binding's mutation has the name of the volume for the binding. -/
theorem volumeName?_of_ofSecret? {mount : SecretMount}
    (h : ofSecret? binding secretName path = some (.secret mount)) :
    volumeName? binding = some mount.volume := by
  obtain ⟨volume, hvolume, hmount⟩ := Option.map_eq_some_iff.1 h
  obtain rfl := secret.inj hmount
  exact hvolume

/-- A binding for which there is a volume has a mutation that mounts it. -/
theorem exists_ofSecret? {volume : String} (h : volumeName? binding = some volume)
    (secretName : String) (path : Option String) :
    ∃ mount, ofSecret? binding secretName path = some (.secret mount) ∧ mount.volume = volume := by
  rw [ofSecret?, h]
  exact ⟨_, rfl, rfl⟩

/-! ## The parts of what is kept -/

/-- A digest has eight digits. -/
theorem length_digest (binding : String) : (digest binding).length = 8 := by
  rw [digest, List.length_take, Sha256.length_hexDigest]
  rfl

/-- A digest consists of hexadecimal digits. -/
theorem mem_hexDigits_of_mem_digest {c : Char} (h : c ∈ digest binding) : c ∈ Sha256.hexDigits :=
  Sha256.mem_hexDigits_of_mem_hexDigest (List.mem_of_mem_take h)

/-- A digest consists of ASCII characters. -/
theorem isAscii_digest (binding : String) : Text.IsAscii (digest binding) := fun c hc =>
  (by decide : Text.IsAscii Sha256.hexDigits) c (mem_hexDigits_of_mem_digest hc)

/-- What is kept of a name that does not fit has room behind the head. -/
theorem fits_of_shortName? (h : shortName? binding = some kept) : Fits kept := by
  obtain ⟨stem, hstem, rfl⟩ := Option.map_eq_some_iff.1 h
  obtain ⟨cut, hcut, rfl⟩ := Option.map_eq_some_iff.1 hstem
  have hwidth : Text.byteWidth cut = stemBytes := (Text.isPrefix_of_takeBytes? hcut).2
  have htrim := Text.byteWidth_le_of_isPrefix (Text.trimEnd_isPrefix isSeparator cut)
  have hdashed : Text.byteWidth (dashed (Text.trimEnd isSeparator cut)) ≤ stemBytes + 1 := by
    have hdash : Text.byteWidth ['-'] = 1 := by decide
    unfold dashed
    split
    · exact Nat.zero_le _
    · rw [Text.byteWidth_append, hdash]
      omega
  have hroom : stemBytes + 1 + 8 ≤ keptBytes := by decide
  rw [Fits, String.toList_ofList, Text.byteWidth_append, Text.byteWidth_of_isAscii (isAscii_digest _),
    length_digest]
  omega

/-- What is kept of a name has room behind the head. -/
theorem fits_of_keptName? (h : keptName? binding = some kept) : Fits kept := by
  by_cases hfits : Fits binding
  · rw [keptName?_of_fits hfits] at h
    exact Option.some_inj.1 h ▸ hfits
  · rw [keptName?_of_not_fits hfits] at h
    exact fits_of_shortName? h

/-- Names of which the same is kept have the same digest, when neither of them fits. -/
theorem digest_eq_of_shortName? {a b : String} (ha : shortName? a = some kept)
    (hb : shortName? b = some kept) : digest a = digest b := by
  obtain ⟨stem, -, rfl⟩ := Option.map_eq_some_iff.1 ha
  obtain ⟨stem', -, hkept⟩ := Option.map_eq_some_iff.1 hb
  have hlist := String.ofList_inj.1 hkept
  exact (List.append_inj_right' hlist (by rw [length_digest, length_digest])).symm

/-! ## ASCII names -/

/-- The stem of an ASCII name that does not fit is cut where as many characters end. -/
theorem stem?_of_isAscii (h : Text.IsAscii binding.toList) (hlong : ¬Fits binding) :
    stem? binding = some (Text.trimEnd isSeparator (binding.toList.take stemBytes)) := by
  have hlength : stemBytes ≤ binding.toList.length := by
    have hroom : stemBytes ≤ keptBytes := by decide
    rw [Fits, Text.byteWidth_of_isAscii h] at hlong
    omega
  rw [stem?, Text.takeBytes?_of_isAscii h hlength, Option.map_some]

/-- There is a volume for a binding with an ASCII name. -/
theorem exists_volumeName? (h : Text.IsAscii binding.toList) :
    ∃ volume, volumeName? binding = some volume := by
  rw [volumeName?_eq]
  by_cases hfits : Fits binding
  · rw [keptName?_of_fits hfits]
    exact ⟨_, rfl⟩
  · rw [keptName?_of_not_fits hfits, shortName?, stem?_of_isAscii h hfits]
    exact ⟨_, rfl⟩

end Mutation

/-- The controller can go on with a binding that has an ASCII name. -/
theorem BindingResource.isResolvable_of_isAscii {r : BindingResource} {name : String}
    (hname : r.metadata.name = some name) (h : Text.IsAscii name.toList) : r.IsResolvable := by
  obtain ⟨volume, hvolume⟩ := Mutation.exists_volumeName? h
  exact isResolvable_of_name hname hvolume

end WorkloadBindings
