import Mathlib.Logic.Function.Iterate
import JobGraph.Attempts
import JobGraph.Program

/-!
# Interrupted programs

What a program may ask of the world, and with what it may end, can be read off it, whatever the
world answers: this is `Program.Within`, which carries over from the parts of a program to the
whole.

A run takes a program one effect further at a time (`World.advance`), and one that is cut off after
some effects leaves the state it has reached (`World.stopped`).  What every effect of a program
keeps therefore holds wherever its run is cut off; this is `Program.Within.stopped`.
-/

namespace JobGraph

variable {σ α β : Type} {E : Effect → Prop} {P : α → Prop} {Q : β → Prop}

namespace Program

/-- Whatever the answers are, the program asks for effects that satisfy `E` and for no others, and
it ends with a result that satisfies `P`. -/
def Within (E : Effect → Prop) (P : α → Prop) : Program α → Prop
  | .done a => P a
  | .step e next => E e ∧ ∀ answer, Within E P (next answer)

lemma within_pure {a : α} (ha : P a) : (pure a : Program α).Within E P := ha

lemma within_true (p : Program α) : p.Within (fun _ => True) fun _ => True := by
  induction p with
  | done a => trivial
  | step e next ih => exact ⟨trivial, ih⟩

lemma within_perform {e : Effect} (he : E e) : (perform e).Within E fun _ => True :=
  ⟨he, fun _ => trivial⟩

lemma Within.mono {p : Program α} {E' : Effect → Prop} (h : ∀ e, E e → E' e)
    (hp : p.Within E P) : p.Within E' P := by
  induction p with
  | done a => exact hp
  | step e next ih =>
    obtain ⟨he, hnext⟩ := hp
    exact ⟨h e he, fun answer => ih answer (hnext answer)⟩

lemma Within.bind {p : Program α} {f : α → Program β} (hp : p.Within E P)
    (hf : ∀ a, P a → (f a).Within E Q) : (p >>= f).Within E Q := by
  induction p with
  | done a => exact hf a hp
  | step e next ih =>
    obtain ⟨he, hnext⟩ := hp
    exact ⟨he, fun answer => ih answer (hnext answer)⟩

/-- Making a call again does not make it ask for other effects. -/
lemma Within.attempt {call : Program (Except Error α)} {P : Except Error α → Prop}
    (h : call.Within E P) (more : Nat) : (Attempts.attempt call more).Within E P := by
  induction more with
  | zero => exact h
  | succ more ih =>
    refine h.bind fun answer hanswer => ?_
    cases answer with
    | ok a => exact within_pure hanswer
    | error e => exact ih

lemma Within.retry {call : Program (Except Error α)} {P : Except Error α → Prop}
    (h : call.Within E P) (retry : Attempts) : (retry.run call).Within E P :=
  h.attempt _

/-- In every world the result is as it has to be. -/
lemma Within.run {p : Program α} (hp : p.Within E P) (w : World σ) (s : σ) : P (w.run p s).1 := by
  induction p generalizing s with
  | done a => exact hp
  | step e next ih => exact ih _ (hp.2 _) _

/-- A program that begins with a file operation is not done. -/
lemma file_bind_ne_done (op : FileOp) (f : op.Answer → Program β) (b : β) :
    Program.file op >>= f ≠ .done b :=
  nofun

end Program

/-- A call that asks the world for nothing comes to the same however often it is made. -/
lemma Attempts.run_pure {ε : Type} (retry : Attempts) (answer : Except ε α) :
    retry.run (pure answer : Program (Except ε α)) = pure answer := by
  rw [run]
  induction retry.limit - 1 with
  | zero => rfl
  | succ more ih =>
    cases answer with
    | ok a => rfl
    | error e => exact ih

namespace World

/-- What is left of a program after one effect, and the state after it. -/
def advance (w : World σ) : Program α × σ → Program α × σ
  | (.done a, s) => (.done a, s)
  | (.step e next, s) => (next (w.answer e s).1, (w.answer e s).2)

/-- The state in which a run is left that is cut off after `n` effects. -/
def stopped (w : World σ) (n : Nat) (p : Program α) (s : σ) : σ :=
  (w.advance^[n] (p, s)).2

/-- A run that is not cut off gets a program done. -/
lemma exists_iterate_advance (w : World σ) (p : Program α) (s : σ) :
    ∃ n, w.advance^[n] (p, s) = (.done (w.run p s).1, (w.run p s).2) := by
  induction p generalizing s with
  | done a => exact ⟨0, rfl⟩
  | step e next ih =>
    obtain ⟨n, hn⟩ := ih (w.answer e s).1 (w.answer e s).2
    exact ⟨n + 1, by rw [Function.iterate_succ_apply]; exact hn⟩

end World

/-- **Wherever a run is cut off.**  What holds at first and is kept by all effects that a program
may ask for holds in every state in which its run can be left. -/
theorem Program.Within.stopped {w : World σ} {I : σ → Prop}
    (hkeep : ∀ e s, E e → I s → I (w.answer e s).2) {p : Program α} (hp : p.Within E P) (n : Nat)
    {s : σ} (hs : I s) : I (w.stopped n p s) := by
  rw [World.stopped]
  induction n generalizing p s with
  | zero => exact hs
  | succ n ih =>
    rw [Function.iterate_succ_apply]
    cases p with
    | done a => exact ih hp hs
    | step e next =>
      obtain ⟨he, hnext⟩ := hp
      exact ih (hnext _) (hkeep e s he hs)

/-- What holds at first and is kept by all effects that a program may ask for holds after it. -/
lemma Program.Within.after {w : World σ} {I : σ → Prop}
    (hkeep : ∀ e s, E e → I s → I (w.answer e s).2) {p : Program α} (hp : p.Within E P) {s : σ}
    (hs : I s) : I (w.run p s).2 := by
  obtain ⟨n, hn⟩ := w.exists_iterate_advance p s
  have h := hp.stopped hkeep n hs
  rw [World.stopped, hn] at h
  exact h

end JobGraph
