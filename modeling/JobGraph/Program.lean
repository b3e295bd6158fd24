import JobGraph.Effect

/-!
# Programs

A program is a result, or an effect and what follows for each of its answers. What a program does
is settled by a world, which answers effects and has a state of its own. Running one program after
another is running the second from the state in which the first one stopped.
-/

namespace JobGraph

/-- A finite interaction with the world. -/
inductive Program (α : Type) where
  | done (result : α)
  | step (effect : Effect) (next : effect.Answer → Program α)

namespace Program

/-- Go on with the result of a program. -/
def andThen {α β : Type} : Program α → (α → Program β) → Program β
  | .done a, f => f a
  | .step e next, f => .step e fun answer => (next answer).andThen f

instance : Monad Program where
  pure := .done
  bind := .andThen

/-- The program of one effect. -/
def perform (e : Effect) : Program e.Answer := .step e .done

/-- The program of one file operation. -/
def file (op : FileOp) : Program op.Answer := perform (.file op)

end Program

/-- What answers effects, and how its state changes by them. -/
structure World (σ : Type) where
  answer : (e : Effect) → σ → e.Answer × σ

/-- The result of a program and the state of the world after it. -/
def World.run {σ α : Type} (w : World σ) : Program α → σ → α × σ
  | .done a, s => (a, s)
  | .step e next, s =>
    let (answer, s) := w.answer e s
    w.run (next answer) s

/-- A world that answers file operations and has no services. -/
def World.ofFiles {σ : Type} (perform : (op : FileOp) → σ → op.Answer × σ) : World σ :=
  let absent (service : String) : Error := .unavailable service "not connected"
  { answer := fun
      | .file op, s => perform op s
      | .resolve _ _, s => (.error (absent "placement"), s)
      | .enterTask _, s => (.error (absent Dashboard.service), s)
      | .enterJob _, s => (.error (absent Dashboard.service), s)
      | .noteFailure _, s => (.error (absent FailureNotice.service), s) }

@[simp]
theorem World.run_pure {σ α : Type} (w : World σ) (a : α) (s : σ) :
    w.run (pure a) s = (a, s) := rfl

/-- Running a program and going on with its result. -/
theorem World.run_bind {σ α β : Type} (w : World σ) (p : Program α) (f : α → Program β) (s : σ) :
    w.run (p >>= f) s = w.run (f (w.run p s).1) (w.run p s).2 := by
  induction p generalizing s with
  | done a => rfl
  | step e next ih => exact ih _ _

/-- Programs are as in every monad: results pass through, and grouping does not matter. -/
instance : LawfulMonad Program :=
  LawfulMonad.mk' Program
    (by
      intro α p
      induction p with
      | done a => rfl
      | step e next ih => exact congrArg (Program.step e) (funext ih))
    (fun _ _ => rfl)
    (by
      intro α β γ p f g
      induction p with
      | done a => rfl
      | step e next ih => exact congrArg (Program.step e) (funext ih))

end JobGraph
