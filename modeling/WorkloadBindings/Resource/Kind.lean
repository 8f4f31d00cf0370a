import WorkloadBindings.SortedMap
import WorkloadBindings.Text.Basic

/-!
# Kinds of resources

A kind belongs to a group and is served in versions. `GroupVersion.parse?` splits an `apiVersion`
into group and version, `GroupKind` names a kind whatever its version, and `ResourceType` is what a
request needs to address the resources of a kind. The API names these by a plural that is guessed from
the kind in lower case, by the English rules for sibilants and for a `y` after a consonant, with four
fixed exceptions.
-/

namespace WorkloadBindings

/-- A version of a group; the group of the core kinds is empty. -/
structure GroupVersion where
  group : String
  version : String
  deriving DecidableEq, Repr

namespace GroupVersion

/-- The group and version that an `apiVersion` names: what stands before and after its first slash,
or the empty group. The version must not be empty and has no further slash. -/
def parse? (apiVersion : String) : Option GroupVersion :=
  let cs := apiVersion.toList
  let before := cs.takeWhile (· ≠ '/')
  let after := cs.dropWhile (· ≠ '/')
  let parts := if after.isEmpty then ([], before) else (before, after.drop 1)
  if parts.2.isEmpty || parts.2.contains '/' then none
  else some ⟨String.ofList parts.1, String.ofList parts.2⟩

/-- The `apiVersion` of a group and version. -/
def render (gv : GroupVersion) : String :=
  if gv.group = "" then gv.version else gv.group ++ "/" ++ gv.version

end GroupVersion

/-- A kind of resource, whatever its version. -/
structure GroupKind where
  group : String
  kind : String
  deriving DecidableEq, Repr

namespace GroupKind

/-- Kinds are ordered by their group, then by their name. -/
instance : Ord GroupKind := ⟨compareLex (compareOn GroupKind.group) (compareOn GroupKind.kind)⟩

instance : Std.TransOrd GroupKind :=
  inferInstanceAs (Std.TransCmp (compareLex (compareOn GroupKind.group) (compareOn GroupKind.kind)))

instance : Std.LawfulEqOrd GroupKind where
  compare_self := Std.ReflCmp.compare_self
  eq_of_compare {a b} h := by
    obtain ⟨h₁, h₂⟩ := (Ordering.then_eq_eq.1 h : _ ∧ _)
    obtain ⟨ga, ka⟩ := a
    obtain ⟨gb, kb⟩ := b
    obtain rfl : ga = gb := Std.LawfulEqCmp.eq_of_compare h₁
    obtain rfl : ka = kb := Std.LawfulEqCmp.eq_of_compare h₂
    rfl

/-- The kind, with its group after a dot when it has one. -/
def render (gk : GroupKind) : String :=
  if gk.group = "" then gk.kind else gk.kind ++ "." ++ gk.group

end GroupKind

/-- The letters of a word are the last ones of the other. -/
def endsWith (cs : List Char) (ending : String) : Bool :=
  ending.toList.isSuffixOf cs

/-- The plural of a kind. The letter before a final `y` is looked up at the place that the width of
the word in bytes gives, so that a word with wider letters may lack it. -/
def plural (kind : String) : String :=
  let word := kind.map Char.toLower
  let cs := word.toList
  if word = "endpoints" ∨ word = "endpointslices" then word
  else if word = "nodemetrics" then "nodes"
  else if word = "podmetrics" then "pods"
  else if ["s", "x", "z", "ch", "sh"].any (endsWith cs) then word ++ "es"
  else if endsWith cs "y" then
    let width := Text.byteWidth cs
    match if width < 2 then none else cs[width - 2]? with
    | some c =>
      if ['a', 'e', 'i', 'o', 'u'].contains c then word ++ "s"
      else String.ofList cs.dropLast ++ "ies"
    | none => word ++ "s"
  else word ++ "s"

/-- A kind in one of its versions, as requests address it. -/
structure ResourceType where
  group : String
  version : String
  kind : String
  deriving DecidableEq, Repr

namespace ResourceType

/-- The plural that names the resources of the kind. -/
def plural (r : ResourceType) : String := WorkloadBindings.plural r.kind

/-- The group and version as an `apiVersion`. -/
def apiVersion (r : ResourceType) : String := GroupVersion.render ⟨r.group, r.version⟩

end ResourceType

end WorkloadBindings
