/-!
# Dialogues

A program that asks its surroundings for something and goes on with the answer is a `Dialogue`: a
tree of calls, each with what follows upon every answer to it. What the surroundings do is no part
of it; `Dialogue.run` carries a dialogue out against surroundings with a state. The rules
`run_done`, `run_ask` and `run_bind` say all there is to know about a run.
-/

namespace WorkloadBindings

/-- A program that makes calls of type `C`, each with answers of a type of its own, and ends with an
`α`. -/
inductive Dialogue (C : Type) (A : C → Type) (α : Type) where
  /-- Ends with a result. -/
  | done (a : α)
  /-- Makes a call and goes on with the answer. -/
  | ask (call : C) (next : A call → Dialogue C A α)

namespace Dialogue

variable {C : Type} {A : C → Type} {α β σ : Type}

/-- One dialogue after the other. -/
def andThen (f : α → Dialogue C A β) : Dialogue C A α → Dialogue C A β
  | done a => f a
  | ask call next => ask call fun answer => (next answer).andThen f

instance : Monad (Dialogue C A) where
  pure := done
  bind d f := d.andThen f

/-- The dialogue that makes one call and ends with the answer. -/
def call (c : C) : Dialogue C A (A c) := ask c done

/-- The result of a dialogue and the state of the surroundings after it. -/
def run (answer : (c : C) → σ → A c × σ) : Dialogue C A α → σ → α × σ
  | done a, s => (a, s)
  | ask c next, s => (next (answer c s).1).run answer (answer c s).2

@[simp] theorem run_done (answer : (c : C) → σ → A c × σ) (a : α) (s : σ) :
    (done a : Dialogue C A α).run answer s = (a, s) := rfl

@[simp] theorem run_ask (answer : (c : C) → σ → A c × σ) (c : C) (next : A c → Dialogue C A α)
    (s : σ) :
    (ask c next).run answer s = (next (answer c s).1).run answer (answer c s).2 := rfl

/-- What follows a dialogue is carried out in the state that it leaves. -/
@[simp] theorem run_bind (answer : (c : C) → σ → A c × σ) (d : Dialogue C A α)
    (f : α → Dialogue C A β) (s : σ) :
    (d >>= f).run answer s = (f (d.run answer s).1).run answer (d.run answer s).2 := by
  change (d.andThen f).run answer s = _
  induction d generalizing s with
  | done a => rfl
  | ask c next ih => exact ih (answer c s).1 (answer c s).2

end Dialogue

end WorkloadBindings
