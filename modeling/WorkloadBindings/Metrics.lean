/-!
# Metrics

A sample of a metric is a line of text: the name, labels with their values in braces, and a count.
The samples of a component are listed in ascending order of their text.
-/

namespace WorkloadBindings

namespace Metrics

/-- A label of a sample with its value. -/
def label (entry : String × String) : String := entry.1 ++ "=\"" ++ entry.2 ++ "\""

/-- The line of a sample. -/
def sample (name : String) (labels : List (String × String)) (value : Nat) : String :=
  let described :=
    if labels.isEmpty then "" else "\x7b" ++ ",".intercalate (labels.map label) ++ "\x7d"
  name ++ described ++ " " ++ toString value

/-- The line of a labelled counter, once it has counted something. -/
def counted (name : String) (labels : List (String × String)) (value : Nat) : List String :=
  if value = 0 then [] else [sample name labels value]

/-- The lines in ascending order. -/
def sorted (lines : List String) : List String := lines.mergeSort fun a b => decide (a ≤ b)

end Metrics

end WorkloadBindings
