/-!
# Results that may be failures

What a success, or a failure, says of the parts that it was made from.
-/

namespace WorkloadBindings

variable {ε α β : Type}

/-- A result that was mapped comes from one that was given. -/
theorem exists_of_map_eq_ok {r : Except ε α} {f : α → β} {b : β} (h : r.map f = .ok b) :
    ∃ a, r = .ok a ∧ f a = b := by
  cases r with
  | error e => cases h
  | ok a => exact ⟨a, rfl, Except.ok.inj h⟩

/-- A failure is mapped to itself, and comes from nothing else. -/
theorem map_eq_error_iff {r : Except ε α} {f : α → β} {e : ε} : r.map f = .error e ↔ r = .error e := by
  cases r with
  | error e' => rw [Except.map, Except.error.injEq, Except.error.injEq]
  | ok a => exact iff_of_false nofun nofun

/-- A result of two steps comes from results of both. -/
theorem exists_of_bind_eq_ok {r : Except ε α} {f : α → Except ε β} {b : β}
    (h : (r >>= f) = .ok b) : ∃ a, r = .ok a ∧ f a = .ok b := by
  cases r with
  | error e => cases h
  | ok a => exact ⟨a, rfl, h⟩

/-- The result is a success with just what is accepted, and a failure with just what is refused. -/
structure Decided (r : Except ε α) (accepts : α → Prop) (refuses : ε → Prop) : Prop where
  ok_iff : ∀ a, r = .ok a ↔ accepts a
  error_iff : ∀ e, r = .error e ↔ refuses e

/-- A result is decided when what is accepted succeeds, what is refused fails, and there is one of
both. -/
theorem Decided.of_total {r : Except ε α} {accepts : α → Prop} {refuses : ε → Prop}
    (hok : ∀ a, accepts a → r = .ok a) (herror : ∀ e, refuses e → r = .error e)
    (htotal : (∃ a, accepts a) ∨ ∃ e, refuses e) : Decided r accepts refuses := by
  refine ⟨fun a => ⟨fun h => ?_, hok a⟩, fun e => ⟨fun h => ?_, herror e⟩⟩
  · obtain ⟨b, hb⟩ | ⟨e, he⟩ := htotal
    · obtain rfl := Except.ok.inj ((hok b hb).symm.trans h)
      exact hb
    · cases (herror e he).symm.trans h
  · obtain ⟨a, ha⟩ | ⟨f, hf⟩ := htotal
    · cases (hok a ha).symm.trans h
    · obtain rfl := Except.error.inj ((herror f hf).symm.trans h)
      exact hf

/-- What a step made of some items, one after the other, it made of one of them. -/
theorem exists_of_mem_mapM {f : α → Except ε β} {xs : List α} {ys : List β}
    (h : xs.mapM f = .ok ys) {y : β} (hy : y ∈ ys) : ∃ x ∈ xs, f x = .ok y := by
  induction xs generalizing ys with
  | nil =>
    obtain rfl := Except.ok.inj h
    cases hy
  | cons x xs ih =>
    rw [List.mapM_cons] at h
    obtain ⟨z, hz, h⟩ := exists_of_bind_eq_ok h
    obtain ⟨rest, hrest, h⟩ := exists_of_bind_eq_ok h
    obtain rfl := Except.ok.inj h
    rcases List.mem_cons.1 hy with rfl | hy
    · exact ⟨x, List.mem_cons_self, hz⟩
    · obtain ⟨x', hmem, hx'⟩ := ih hrest hy
      exact ⟨x', List.mem_cons_of_mem _ hmem, hx'⟩

end WorkloadBindings
