import Mathlib.Data.List.Induction
import JobGraph.Proofs.Program.History

/-!
# Programs side by side

Several programs that share one state take turns: a turn takes one of them one effect further
(`World.turn`), and a schedule says whose turn it is (`World.interleaved`).  What holds at first and
is kept by every turn holds after every schedule, which is `World.interleaved_induction`.

What the programs have asked for, in the order of their turns, is the log of the schedule
(`World.log`).  Instead of taking turns, the programs may be run one after another
(`World.inTurn`).  A program that asks for so many effects at most (`Program.EndsWithin`) is done when
it has had so many turns.
-/

namespace JobGraph

/-- The result of a program that is done. -/
def Program.result? {α : Type} : Program α → Option α
  | .done a => some a
  | .step _ _ => none

lemma Program.result?_eq_some {α : Type} {p : Program α} {a : α} :
    p.result? = some a ↔ p = .done a := by
  cases p with
  | done b => exact ⟨fun h => congrArg Program.done (Option.some.inj h), fun h => h ▸ rfl⟩
  | step e next => exact ⟨nofun, nofun⟩

/-- Whatever the answers are, the program asks for so many effects at most. -/
def Program.EndsWithin {α : Type} : Program α → ℕ → Prop
  | .done _, _ => True
  | .step _ next, n => 0 < n ∧ ∀ answer, EndsWithin (next answer) (n - 1)

namespace Program.EndsWithin

variable {σ α β : Type} {m n : ℕ} {p : Program α}

lemma mono (h : p.EndsWithin m) (hmn : m ≤ n) : p.EndsWithin n := by
  induction p generalizing m n with
  | done a => trivial
  | step e next ih =>
    obtain ⟨hm, hnext⟩ := h
    exact ⟨by omega, fun answer => ih answer (hnext answer) (by omega)⟩

lemma bind {f : α → Program β} (hp : p.EndsWithin m) (hf : ∀ a, (f a).EndsWithin n) :
    (p >>= f).EndsWithin (m + n) := by
  induction p generalizing m with
  | done a => exact (hf a).mono (by omega)
  | step e next ih =>
    obtain ⟨hm, hnext⟩ := hp
    refine ⟨by omega, fun answer => (ih answer (hnext answer)).mono (by omega)⟩

lemma file (op : FileOp) : (Program.file op).EndsWithin 1 :=
  ⟨by omega, fun _ => trivial⟩

/-- With every effect there is one less to come. -/
lemma advance (h : p.EndsWithin n) (w : World σ) (s : σ) :
    (w.advance (p, s)).1.EndsWithin (n - 1) := by
  cases p with
  | done a => trivial
  | step e next => exact h.2 _

lemma exists_done (h : p.EndsWithin 0) : ∃ a, p = .done a := by
  cases p with
  | done a => exact ⟨a, rfl⟩
  | step e next => exact absurd h.1 (by omega)

end Program.EndsWithin

end JobGraph

namespace JobGraph.World

variable {σ α ι : Type} [DecidableEq ι] {w : World σ}

/-- One of several programs is taken one effect further, in the state that they share. -/
def turn (w : World σ) (i : ι) (c : (ι → Program α) × σ) : (ι → Program α) × σ :=
  (Function.update c.1 i (w.advance (c.1 i, c.2)).1, (w.advance (c.1 i, c.2)).2)

/-- What is left of several programs, and the state that they share, after turns in the order of a
schedule. -/
def interleaved (w : World σ) (schedule : List ι) (programs : ι → Program α) (s : σ) :
    (ι → Program α) × σ :=
  schedule.foldl (fun c i => w.turn i c) (programs, s)

lemma turn_self (w : World σ) (i : ι) (c : (ι → Program α) × σ) :
    (w.turn i c).1 i = (w.advance (c.1 i, c.2)).1 :=
  Function.update_self _ _ _

lemma turn_of_ne (w : World σ) {i j : ι} (h : j ≠ i) (c : (ι → Program α) × σ) :
    (w.turn i c).1 j = c.1 j :=
  Function.update_of_ne h _ _

lemma interleaved_append_singleton (w : World σ) (schedule : List ι) (i : ι)
    (programs : ι → Program α) (s : σ) :
    w.interleaved (schedule ++ [i]) programs s = w.turn i (w.interleaved schedule programs s) := by
  simp [interleaved]

/-- **Whatever the order of turns.**  What holds before the first turn, and after a turn if it holds
before that, holds after every schedule. -/
theorem interleaved_induction {programs : ι → Program α} {s : σ}
    {I : List ι → (ι → Program α) × σ → Prop} (hstart : I [] (programs, s))
    (hturn : ∀ schedule c i, I schedule c → I (schedule ++ [i]) (w.turn i c)) (schedule : List ι) :
    I schedule (w.interleaved schedule programs s) := by
  induction schedule using List.reverseRecOn with
  | nil => exact hstart
  | append_singleton schedule i ih =>
    rw [interleaved_append_singleton]
    exact hturn schedule _ i ih

/-! ### One after another -/

/-- One of several programs is run to its end. -/
def finish (w : World σ) (i : ι) (c : (ι → Program α) × σ) : (ι → Program α) × σ :=
  (Function.update c.1 i (.done (w.run (c.1 i) c.2).1), (w.run (c.1 i) c.2).2)

/-- The programs of a list are run one after another, and the state that they share is handed on. -/
def inTurn (w : World σ) (order : List ι) (programs : ι → Program α) (s : σ) :
    (ι → Program α) × σ :=
  order.foldl (fun c i => w.finish i c) (programs, s)

lemma inTurn_append_singleton (w : World σ) (order : List ι) (i : ι) (programs : ι → Program α)
    (s : σ) : w.inTurn (order ++ [i]) programs s = w.finish i (w.inTurn order programs s) := by
  simp [inTurn]

/-- A program whose turn it was is done. -/
lemma inTurn_done (w : World σ) {order : List ι} {i : ι} (hi : i ∈ order)
    (programs : ι → Program α) (s : σ) : ∃ a, (w.inTurn order programs s).1 i = .done a := by
  induction order using List.reverseRecOn with
  | nil => cases hi
  | append_singleton order j ih =>
    rw [inTurn_append_singleton]
    by_cases hij : i = j
    · subst hij
      exact ⟨_, Function.update_self ..⟩
    · have hi' : i ∈ order := by simpa [hij] using hi
      obtain ⟨a, ha⟩ := ih hi'
      exact ⟨a, (Function.update_of_ne hij ..).trans ha⟩

/-- A program that has had as many turns as it may ask for effects is done. -/
theorem exists_done_of_count {programs : ι → Program α} {i : ι} {n : ℕ}
    (h : (programs i).EndsWithin n) (w : World σ) (s : σ) {schedule : List ι}
    (hturns : n ≤ schedule.count i) :
    ∃ a, (w.interleaved schedule programs s).1 i = .done a := by
  have hleft : ((w.interleaved schedule programs s).1 i).EndsWithin (n - schedule.count i) := by
    clear hturns
    induction schedule using List.reverseRecOn with
    | nil => exact h
    | append_singleton schedule j ih =>
      rw [interleaved_append_singleton]
      by_cases hij : i = j
      · subst hij
        have hcount : n - (schedule ++ [i]).count i = n - schedule.count i - 1 := by
          rw [List.count_append, List.count_singleton_self, Nat.sub_add_eq]
        rw [hcount, turn_self]
        exact ih.advance w _
      · have hcount : (schedule ++ [j]).count i = schedule.count i := by
          simp [Ne.symm hij]
        rw [hcount, turn_of_ne w hij]
        exact ih
  rw [Nat.sub_eq_zero_of_le hturns] at hleft
  exact hleft.exists_done

/-! ### What is asked for -/

/-- What a program asks for next, with the answer that it gets. -/
def event? (w : World σ) : Program α × σ → Option Event
  | (.done _, _) => none
  | (.step e _, s) => some ⟨e, (w.answer e s).1⟩

/-- What is asked for in the turns of a schedule, and by which of the programs. -/
def log (w : World σ) : List ι → (ι → Program α) × σ → List (ι × Event)
  | [], _ => []
  | i :: schedule, c =>
    ((w.event? (c.1 i, c.2)).map (i, ·)).toList ++ w.log schedule (w.turn i c)

/-- The last turn of a schedule adds what is asked for in it. -/
lemma log_append_singleton (w : World σ) (schedule : List ι) (i : ι) (programs : ι → Program α)
    (s : σ) :
    w.log (schedule ++ [i]) (programs, s) = w.log schedule (programs, s) ++
      ((w.event? ((w.interleaved schedule programs s).1 i,
        (w.interleaved schedule programs s).2)).map (i, ·)).toList := by
  induction schedule generalizing programs s with
  | nil => simp [log, interleaved]
  | cons j schedule ih =>
    rw [List.cons_append, log, log, ih, List.append_assoc]
    rfl

end JobGraph.World
