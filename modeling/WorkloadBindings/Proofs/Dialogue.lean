import WorkloadBindings.Dialogue

/-!
# What is said in a dialogue

`Dialogue.Leaves` says what is left of a dialogue after some calls and their answers, and
`Dialogue.Obeys` that a dialogue, whatever it is answered, makes no call and comes to no result that
is not allowed after what was said before. The second is shown part by part along the dialogue; from
there it holds of everything that is said in it (`Dialogue.Obeys.call_of_leaves`) and of what is left
(`Dialogue.Obeys.of_leaves`).
-/

namespace WorkloadBindings

namespace Dialogue

variable {C : Type} {A : C → Type} {α β : Type}

/-- Calls with the answers that they got, the first one first. -/
abbrev Said (A : C → Type) : Type := List ((c : C) × A c)

/-- A dialogue that ends with its result is itself. -/
theorem bind_done (d : Dialogue C A α) : (d >>= done) = d := by
  change d.andThen done = d
  induction d with
  | done a => rfl
  | ask c next ih => exact congrArg (ask c) (funext ih)

/-! ## What is left -/

/-- After some calls and answers, this is left of a dialogue. -/
def Leaves : Dialogue C A α → Said A → Dialogue C A α → Prop
  | d, [], rest => d = rest
  | d, x :: said, rest => ∃ next, d = .ask x.1 next ∧ (next x.2).Leaves said rest

variable {d rest : Dialogue C A α} {said said' : Said A}

/-- What is left after more was said is left of what was left before. -/
theorem leaves_append_iff :
    d.Leaves (said ++ said') rest ↔ ∃ m, d.Leaves said m ∧ m.Leaves said' rest := by
  induction said generalizing d with
  | nil => exact ⟨fun h => ⟨d, rfl, h⟩, fun ⟨m, hm, h⟩ => hm ▸ h⟩
  | cons x said ih =>
    constructor
    · rintro ⟨next, hd, hnext⟩
      obtain ⟨m, hm, hrest⟩ := ih.1 hnext
      exact ⟨m, ⟨next, hd, hm⟩, hrest⟩
    · rintro ⟨m, ⟨next, hd, hm⟩, hrest⟩
      exact ⟨next, hd, ih.2 ⟨m, hm, hrest⟩⟩

/-- An answer to the call that is waiting leaves what follows upon it. -/
theorem Leaves.answered {c : C} {next : A c → Dialogue C A α} (h : d.Leaves said (.ask c next))
    (answer : A c) : d.Leaves (said ++ [⟨c, answer⟩]) (next answer) :=
  leaves_append_iff.2 ⟨_, h, next, rfl, rfl⟩

/-- Nothing is said when a dialogue is over. -/
theorem leaves_done_iff {a : α} : (done a).Leaves said rest ↔ said = [] ∧ rest = done a := by
  cases said with
  | nil => exact ⟨fun h => ⟨rfl, h.symm⟩, fun h => h.2.symm⟩
  | cons x said =>
    constructor
    · rintro ⟨next, hd, -⟩
      cases hd
    · rintro ⟨hnil, -⟩
      cases hnil

/-- A dialogue whose result is used in some way says the same. -/
theorem leaves_map_iff {f : α → β} {rest : Dialogue C A β} :
    (f <$> d).Leaves said rest ↔ ∃ m, d.Leaves said m ∧ rest = f <$> m := by
  induction said generalizing d with
  | nil => exact ⟨fun h => ⟨d, rfl, h.symm⟩, fun ⟨m, hm, h⟩ => hm ▸ h.symm⟩
  | cons x said ih =>
    constructor
    · rintro ⟨next, hd, hrest⟩
      cases d with
      | done a => cases hd
      | ask c next' =>
        obtain ⟨rfl, rfl⟩ := ask.inj hd
        obtain ⟨m, hm, hmap⟩ := ih.1 hrest
        exact ⟨m, ⟨next', rfl, hm⟩, hmap⟩
    · rintro ⟨m, ⟨next, rfl, hm⟩, hmap⟩
      exact ⟨_, rfl, ih.2 ⟨m, hm, hmap⟩⟩

/-- What is said in a dialogue that ends is said before what is said in the one that follows. -/
theorem Leaves.bind {a : α} {f : α → Dialogue C A β} {rest : Dialogue C A β}
    (h : d.Leaves said (done a)) (hrest : (f a).Leaves said' rest) :
    (d >>= f).Leaves (said ++ said') rest := by
  change (d.andThen f).Leaves (said ++ said') rest
  induction said generalizing d with
  | nil =>
    obtain rfl : d = done a := h
    exact hrest
  | cons x said ih =>
    obtain ⟨next, rfl, hnext⟩ := h
    exact ⟨_, rfl, ih hnext⟩

/-- A dialogue that consists of two parts ends when the second part does after the first one. -/
theorem leaves_bind_done_iff {f : α → Dialogue C A β} {b : β} :
    (d >>= f).Leaves said (done b) ↔ ∃ a said₁ said₂, d.Leaves said₁ (done a) ∧
      (f a).Leaves said₂ (done b) ∧ said = said₁ ++ said₂ := by
  constructor
  · intro h
    change (d.andThen f).Leaves said (done b) at h
    induction d generalizing said with
    | done a => exact ⟨a, [], said, rfl, h, rfl⟩
    | ask c next ih =>
      match said, h with
      | x :: said, ⟨next', heq, hnext⟩ =>
        -- The call of the first part is the first that is made.
        obtain ⟨rfl, hcont⟩ := ask.inj heq
        obtain rfl := eq_of_heq hcont
        obtain ⟨a, said₁, said₂, ha, hb, rfl⟩ := ih x.2 hnext
        exact ⟨a, x :: said₁, said₂, ⟨next, rfl, ha⟩, hb, rfl⟩
  · rintro ⟨a, said₁, said₂, ha, hb, rfl⟩
    exact ha.bind hb

/-- Every answer is the one that is given after what was said before. -/
def Follows (said : Said A) (answers : Said A → (c : C) → A c) : Prop :=
  ∀ before c answer after, said = before ++ ⟨c, answer⟩ :: after → answer = answers before c

/-- However it is answered, a dialogue ends. -/
theorem exists_leaves_done (d : Dialogue C A α) (answers : Said A → (c : C) → A c) :
    ∃ said a, d.Leaves said (done a) ∧ Follows said answers := by
  induction d generalizing answers with
  | done a => exact ⟨[], a, rfl, fun before c answer after h => by cases before <;> cases h⟩
  | ask c next ih =>
    obtain ⟨said, a, hleaves, hfollows⟩ :=
      ih (answers [] c) fun before => answers (⟨c, answers [] c⟩ :: before)
    refine ⟨⟨c, answers [] c⟩ :: said, a, ⟨next, rfl, hleaves⟩, fun before c' answer after h => ?_⟩
    cases before with
    | nil =>
      obtain ⟨heq, -⟩ := List.cons.inj h
      cases heq
      rfl
    | cons x before =>
      obtain ⟨rfl, hrest⟩ := List.cons.inj h
      exact hfollows before c' answer after hrest

/-! ## What is allowed -/

/-- Whatever it is answered, a dialogue that goes on after something was said makes only calls and
comes only to results that are allowed after all that was said. -/
def Obeys (calls : Said A → C → Prop) (ends : Said A → α → Prop) : Said A → Dialogue C A α → Prop
  | said, .done a => ends said a
  | said, .ask c next =>
    calls said c ∧ ∀ answer, Obeys calls ends (said ++ [⟨c, answer⟩]) (next answer)

variable {calls : Said A → C → Prop} {ends : Said A → α → Prop}

/-- What a dialogue obeys implies what is less strict. -/
theorem Obeys.mono {calls' : Said A → C → Prop} {ends' : Said A → α → Prop}
    (hcalls : ∀ said c, calls said c → calls' said c)
    (hends : ∀ said a, ends said a → ends' said a) (h : Obeys calls ends said d) :
    Obeys calls' ends' said d := by
  induction d generalizing said with
  | done a => exact hends said a h
  | ask c next ih => exact ⟨hcalls said c h.1, fun answer => ih answer (h.2 answer)⟩

/-- A dialogue obeys when its second part does wherever its first part ends. -/
theorem Obeys.bind {ends : Said A → β → Prop} {f : α → Dialogue C A β}
    (h : Obeys calls (fun said a => Obeys calls ends said (f a)) said d) :
    Obeys calls ends said (d >>= f) := by
  change Obeys calls ends said (d.andThen f)
  induction d generalizing said with
  | done a => exact h
  | ask c next ih => exact ⟨h.1, fun answer => ih answer (h.2 answer)⟩

/-- A dialogue obeys when its result may be used as it is. -/
theorem Obeys.map {ends : Said A → β → Prop} {f : α → β}
    (h : Obeys calls (fun said a => ends said (f a)) said d) : Obeys calls ends said (f <$> d) :=
  Obeys.bind h

/-- What is left of a dialogue obeys like the dialogue. -/
theorem Obeys.of_leaves (h : Obeys calls ends said d) (hleaves : d.Leaves said' rest) :
    Obeys calls ends (said ++ said') rest := by
  induction said' generalizing d said with
  | nil =>
    obtain rfl : d = rest := hleaves
    rwa [List.append_nil]
  | cons x said' ih =>
    obtain ⟨next, rfl, hnext⟩ := hleaves
    have hrest := ih (h.2 x.2) hnext
    rwa [List.append_assoc, List.singleton_append] at hrest

/-- A call that was made was allowed after what was said before it. -/
theorem Obeys.call_of_leaves {c : C} {answer : A c} (h : Obeys calls ends [] d)
    (hleaves : d.Leaves (said ++ ⟨c, answer⟩ :: said') rest) : calls said c := by
  obtain ⟨m, hm, next, rfl, -⟩ := leaves_append_iff.1 hleaves
  exact (h.of_leaves hm).1

end Dialogue

end WorkloadBindings
