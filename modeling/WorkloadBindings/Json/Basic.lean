import WorkloadBindings.SortedMap

/-!
# JSON values

`Json` is the value every message of the API is made of. An object is the list of its members; the
functions that build objects here, and the reader of `Json.Reader`, list them in ascending order of
their names without repetition, so that equal objects are equal values. Numbers are integers or
carry the shortest decimal text of a double.
-/

namespace WorkloadBindings

/-- A JSON value. -/
inductive Json where
  | null
  | bool (b : Bool)
  | int (n : Int)
  /-- A number that is no integer, by its shortest decimal text. -/
  | real (text : String)
  | str (s : String)
  | arr (items : List Json)
  | obj (members : List (String × Json))

/-- The members of an object. -/
abbrev Members : Type := List (String × Json)

namespace Json

instance : Inhabited Json := ⟨.null⟩

/-! ## Equality -/

mutual

/-- Two values are the same, member by member and item by item. -/
def same : Json → Json → Bool
  | .null, .null => true
  | .bool a, .bool b => a == b
  | .int a, .int b => a == b
  | .real a, .real b => a == b
  | .str a, .str b => a == b
  | .arr a, .arr b => sameItems a b
  | .obj a, .obj b => sameMembers a b
  | _, _ => false

/-- Two lists hold the same values. -/
def sameItems : List Json → List Json → Bool
  | [], [] => true
  | a :: as, b :: bs => same a b && sameItems as bs
  | _, _ => false

/-- Two lists hold the same named values. -/
def sameMembers : List (String × Json) → List (String × Json) → Bool
  | [], [] => true
  | (k, a) :: as, (l, b) :: bs => k == l && (same a b && sameMembers as bs)
  | _, _ => false

end

mutual

theorem same_iff : ∀ a b : Json, same a b = true ↔ a = b
  | .arr a, b => by cases b <;> simp [same, sameItems_iff a]
  | .obj a, b => by cases b <;> simp [same, sameMembers_iff a]
  | .null, b => by cases b <;> simp [same]
  | .bool _, b => by cases b <;> simp [same]
  | .int _, b => by cases b <;> simp [same]
  | .real _, b => by cases b <;> simp [same]
  | .str _, b => by cases b <;> simp [same]

theorem sameItems_iff : ∀ a b : List Json, sameItems a b = true ↔ a = b
  | [], b => by cases b <;> simp [sameItems]
  | x :: xs, b => by cases b <;> simp [sameItems, same_iff x, sameItems_iff xs]

theorem sameMembers_iff : ∀ a b : List (String × Json), sameMembers a b = true ↔ a = b
  | [], b => by cases b <;> simp [sameMembers]
  | (k, x) :: xs, b => by
    cases b with
    | nil => simp [sameMembers]
    | cons y ys => simp [sameMembers, same_iff x, sameMembers_iff xs, Prod.ext_iff, and_assoc]

end

instance : DecidableEq Json := fun a b => decidable_of_iff _ (same_iff a b)

/-! ## Order -/

mutual

/-- Every object inside the value lists its members in ascending order of their names. -/
def isOrdered : Json → Bool
  | .arr xs => orderedItems xs
  | .obj ms => decide (Assoc.Sorted ms) && orderedMembers ms
  | _ => true

/-- Every object inside the items is ordered. -/
def orderedItems : List Json → Bool
  | [] => true
  | x :: rest => isOrdered x && orderedItems rest

/-- Every object inside the values of the members is ordered. -/
def orderedMembers : List (String × Json) → Bool
  | [] => true
  | (_, x) :: rest => isOrdered x && orderedMembers rest

end

/-! ## Building and looking up -/

/-- The object of the members that are given; the names are listed in ascending order. -/
def record (fields : List (String × Option Json)) : Json :=
  .obj (fields.filterMap fun f => f.2.map (f.1, ·))

/-- The list of some texts. -/
def strings (xs : List String) : Json := .arr (xs.map .str)

/-- The object of some named texts. -/
def texts (entries : List (String × String)) : Json :=
  .obj (entries.map fun e => (e.1, .str e.2))

/-- The member of an object with a name. -/
def get? (j : Json) (name : String) : Option Json :=
  match j with
  | .obj members => Assoc.get? name members
  | _ => none

/-- The text a value is. -/
def str? : Json → Option String
  | .str s => some s
  | _ => none

/-- The integer a value is. -/
def int? : Json → Option Int
  | .int n => some n
  | _ => none

/-- The truth value a value is. -/
def bool? : Json → Option Bool
  | .bool b => some b
  | _ => none

/-- The items of a list; no other value has any. -/
def items : Json → List Json
  | .arr xs => xs
  | _ => []

/-- The members of an object; no other value has any. -/
def members : Json → Members
  | .obj ms => ms
  | _ => []

/-- The value is null. -/
def isNull : Json → Bool
  | .null => true
  | _ => false

/-- The object with a member put in; any other value counts as the empty object. -/
def set (j : Json) (name : String) (value : Json) : Json :=
  .obj (Assoc.insert name value j.members)

/-- The object without a member; any other value counts as the empty object. -/
def unset (j : Json) (name : String) : Json :=
  .obj (Assoc.erase name j.members)

end Json

end WorkloadBindings
