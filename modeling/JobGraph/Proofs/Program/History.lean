import JobGraph.Proofs.Program.Interruption

/-!
# Histories of runs

The history of a run is what was asked for, in order, each effect with the answer that it got.  The
history of two programs one after the other is that of the first followed by that of the second, and
it holds nothing that the program may not ask for.  Worlds that answer alike whatever a program may
ask for cannot be told apart by it.
-/

namespace JobGraph

variable {σ α β : Type} {E : Effect → Prop} {P : α → Prop}

/-- An effect that was asked for, with its answer. -/
abbrev Event : Type := (e : Effect) × e.Answer

namespace World

/-- What a run asks for, and what it is answered. -/
def history (w : World σ) : Program α → σ → List Event
  | .done _, _ => []
  | .step e next, s =>
    ⟨e, (w.answer e s).1⟩ :: w.history (next (w.answer e s).1) (w.answer e s).2

@[simp]
lemma history_pure (w : World σ) (a : α) (s : σ) : w.history (pure a) s = [] := rfl

lemma history_bind (w : World σ) (p : Program α) (f : α → Program β) (s : σ) :
    w.history (p >>= f) s = w.history p s ++ w.history (f (w.run p s).1) (w.run p s).2 := by
  induction p generalizing s with
  | done a => rfl
  | step e next ih => exact congrArg (List.cons _) (ih _ _)

end World

namespace Program

/-- The history of a run holds what the program may ask for. -/
lemma Within.history {p : Program α} (hp : p.Within E P) (w : World σ) (s : σ) :
    ∀ event ∈ w.history p s, E event.1 := by
  induction p generalizing s with
  | done a => simp [World.history]
  | step e next ih =>
    obtain ⟨he, hnext⟩ := hp
    rw [World.history, List.forall_mem_cons]
    exact ⟨he, ih _ (hnext _) _⟩

/-- Worlds that answer alike what the program may ask for run it alike. -/
lemma Within.run_congr {p : Program α} (hp : p.Within E P) {w w' : World σ}
    (h : ∀ e s, E e → w'.answer e s = w.answer e s) (s : σ) : w'.run p s = w.run p s := by
  induction p generalizing s with
  | done a => rfl
  | step e next ih =>
    obtain ⟨he, hnext⟩ := hp
    rw [World.run, World.run, h e s he]
    exact ih _ (hnext _) _

end Program

end JobGraph
