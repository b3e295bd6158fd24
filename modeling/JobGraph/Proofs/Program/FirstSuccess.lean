import Mathlib.Data.ENat.Lattice
import JobGraph.Attempts
import JobGraph.Program

/-!
# Up to the first success

A call may change a state, whether it succeeds or fails.  When it is made over and over again from
some state, it succeeds for the first time at some call, or never (`Attempts.firstSuccess`).  A call
that is made again while it fails is made up to its first success and not beyond the limit,
whichever comes first, and what comes of it is what comes of these calls one after another: this is
`Attempts.run_exact`.

`Attempts.attempt` counts down the attempts that are left.  A loop that counts up the attempts that
have been made is followed turn by turn (`Attempts.turn`), and it returns the same.

A call that is a program has the state of the world in which it is run, so all this is said of the
calls of services as well (`World.run_attempts`).
-/

namespace JobGraph

variable {σ ε α : Type}

/-! ### Calls one after another -/

namespace Attempts

section Calls

variable (call : StateM σ (Except ε α)) (s : σ)

/-- The state after so many calls, whatever they answer. -/
def after (n : ℕ) : σ :=
  (fun t => (call.run t).2)^[n] s

/-- The answer to the call that comes after so many others. -/
def answer (n : ℕ) : Except ε α :=
  (call.run (after call s n)).1

/-- The first calls: in which state each of them is made, and what it answers. -/
def calls (n : ℕ) : List (σ × Except ε α) :=
  (List.range n).map fun i => (after call s i, answer call s i)

/-- Which call is the first to succeed, counted from one; `⊤` if all of them fail. -/
noncomputable def firstSuccess : ℕ∞ :=
  ⨅ (i : ℕ) (_ : (answer call s i).isOk), ((i + 1 : ℕ) : ℕ∞)

/-- The call, with notes of the states in which it is made and of its answers. -/
def noted : StateM (σ × List (σ × Except ε α)) (Except ε α) := fun (t, earlier) =>
  let (answer, t') := call.run t
  (answer, t', earlier ++ [(t, answer)])

end Calls

variable {call : StateM σ (Except ε α)} {s : σ}

lemma after_zero : after call s 0 = s := rfl

lemma after_succ (n : ℕ) : after call s (n + 1) = (call.run (after call s n)).2 :=
  Function.iterate_succ_apply' _ n s

lemma run_after (n : ℕ) :
    call.run (after call s n) = (answer call s n, after call s (n + 1)) := by
  rw [after_succ]
  rfl

lemma calls_succ (n : ℕ) :
    calls call s (n + 1) = calls call s n ++ [(after call s n, answer call s n)] := by
  rw [calls, List.range_succ, List.map_append]
  rfl

lemma firstSuccess_le {i : ℕ} (h : (answer call s i).isOk) :
    firstSuccess call s ≤ (i + 1 : ℕ) :=
  iInf₂_le i h

lemma le_firstSuccess {n : ℕ} (h : ∀ i < n, (answer call s i).isOk = false) :
    ((n + 1 : ℕ) : ℕ∞) ≤ firstSuccess call s := by
  refine le_iInf₂ fun i hi => ?_
  have hn : n ≤ i := by
    by_contra hlt
    rw [h i (not_le.1 hlt)] at hi
    cases hi
  exact_mod_cast Nat.succ_le_succ hn

/-- Taking notes changes nothing about the calls. -/
lemma after_noted (earlier : List (σ × Except ε α)) (n : ℕ) :
    after (noted call) (s, earlier) n = (after call s n, earlier ++ calls call s n) := by
  induction n with
  | zero => simp [after_zero, calls]
  | succ n ih =>
    rw [after_succ, ih, after_succ, calls_succ, ← List.append_assoc]
    rfl

lemma answer_noted (earlier : List (σ × Except ε α)) (n : ℕ) :
    answer (noted call) (s, earlier) n = answer call s n := by
  rw [answer, after_noted]
  rfl

/-! ### Where the calls end -/

/-- The last call is the one that comes after `n` others: these fail, and it succeeds or no other
may be made. -/
structure EndsAt (p : Attempts) (call : StateM σ (Except ε α)) (s : σ) (n : ℕ) : Prop where
  lt : n < max 1 p.limit
  refused : ∀ i < n, (answer call s i).isOk = false
  last : (answer call s n).isOk ∨ n + 1 = max 1 p.limit

variable {p : Attempts} {n : ℕ}

lemma exists_endsAt (p : Attempts) (call : StateM σ (Except ε α)) (s : σ) :
    ∃ n, EndsAt p call s n := by
  have hex : ∃ n, (answer call s n).isOk ∨ n + 1 = max 1 p.limit :=
    ⟨p.limit - 1, Or.inr (by omega)⟩
  refine ⟨Nat.find hex, ?_, fun i hi => ?_, Nat.find_spec hex⟩
  · have hle := Nat.find_min' hex (m := p.limit - 1) (Or.inr (by omega))
    omega
  · have hnot := Nat.find_min hex hi
    rw [not_or, Bool.not_eq_true] at hnot
    exact hnot.1

namespace EndsAt

lemma of_noted (h : EndsAt p call s n) (earlier : List (σ × Except ε α)) :
    EndsAt p (noted call) (s, earlier) n :=
  { lt := h.lt
    refused := fun i hi => (answer_noted earlier i).symm ▸ h.refused i hi
    last := (answer_noted earlier n).symm ▸ h.last }

/-- So many calls are made as come up to the first success and lie within the limit. -/
lemma count (h : EndsAt p call s n) :
    ((n + 1 : ℕ) : ℕ∞) = min ((max 1 p.limit : ℕ) : ℕ∞) (firstSuccess call s) := by
  refine le_antisymm (le_min (by exact_mod_cast h.lt) (le_firstSuccess h.refused)) ?_
  rcases h.last with hok | hlimit
  · exact (min_le_right _ _).trans (firstSuccess_le hok)
  · rw [hlimit]
    exact min_le_left _ _

/-- The last call succeeds if any does within the limit. -/
lemma isOk_iff (h : EndsAt p call s n) :
    (answer call s n).isOk ↔ firstSuccess call s ≤ (max 1 p.limit : ℕ) := by
  constructor
  · intro hok
    exact (firstSuccess_le hok).trans (by exact_mod_cast h.lt)
  · intro hle
    rcases h.last with hok | hlimit
    · exact hok
    · -- otherwise all calls fail that may be made
      by_contra hrefused
      have hall : ∀ i < n + 1, (answer call s i).isOk = false := by
        intro i hi
        rcases Nat.lt_succ_iff_lt_or_eq.1 hi with hi | rfl
        · exact h.refused i hi
        · simpa using hrefused
      have hlt : n + 1 + 1 ≤ max 1 p.limit := by exact_mod_cast (le_firstSuccess hall).trans hle
      omega

end EndsAt

/-! ### Counting down -/

lemma exists_run_eq_ok (h : (call.run s).1.isOk) :
    ∃ a, call.run s = (.ok a, (call.run s).2) := by
  obtain ⟨a, ha⟩ := exists_of_isOk h
  exact ⟨a, Prod.ext ha rfl⟩

lemma exists_run_eq_error (h : (call.run s).1.isOk = false) :
    ∃ e, call.run s = (.error e, (call.run s).2) := by
  obtain ⟨e, he⟩ := exists_of_not_isOk h
  exact ⟨e, Prod.ext he rfl⟩

lemma run_attempt_of_isOk (h : (call.run s).1.isOk) (more : ℕ) :
    (attempt call more).run s = call.run s := by
  cases more with
  | zero => rfl
  | succ more =>
    obtain ⟨a, hcall⟩ := exists_run_eq_ok h
    rw [attempt, StateT.run_bind, hcall]
    rfl

lemma run_attempt_of_refused (h : (call.run s).1.isOk = false) (more : ℕ) :
    (attempt call (more + 1)).run s = (attempt call more).run (call.run s).2 := by
  obtain ⟨e, hcall⟩ := exists_run_eq_error h
  rw [attempt, StateT.run_bind, hcall]
  rfl

/-- As long as the calls fail, one attempt is used up by each of them. -/
lemma run_attempt_after (h : ∀ i < n, (answer call s i).isOk = false) (more : ℕ) :
    (attempt call (n + more)).run s = (attempt call more).run (after call s n) := by
  induction n generalizing more with
  | zero => rw [Nat.zero_add, after_zero]
  | succ n ih =>
    have hearlier : ∀ i < n, (answer call s i).isOk = false := fun i hi => h i (by omega)
    have hn : (answer call s n).isOk = false := h n (by omega)
    rw [Nat.add_right_comm, Nat.add_assoc, ih hearlier, run_attempt_of_refused hn, after_succ]

/-- What comes of making a call again is what comes of the last call. -/
lemma EndsAt.run_eq (h : EndsAt p call s n) :
    (p.run call).run s = (answer call s n, after call s (n + 1)) := by
  obtain ⟨more, hmore⟩ : ∃ more, p.limit - 1 = n + more := by
    have hlt := h.lt
    exact ⟨p.limit - 1 - n, by omega⟩
  rw [Attempts.run, hmore, run_attempt_after h.refused, ← run_after]
  rcases h.last with hok | hlimit
  · exact run_attempt_of_isOk hok more
  · obtain rfl : more = 0 := by omega
    rfl

/-! ### Counting up -/

/-- Where a loop stands that counts the attempts. -/
inductive Standing (σ ε α : Type) where
  /-- The attempt with this number is the next one. -/
  | next (number : ℕ) (s : σ)
  | returned (result : Except ε α) (s : σ)

/-- One turn of the loop: a success is returned, and a failure is returned if the number of the
attempt has reached the limit. -/
def turn (p : Attempts) (call : StateM σ (Except ε α)) : Standing σ ε α → Standing σ ε α
  | .next number s =>
    match call.run s with
    | (.ok a, t) => .returned (.ok a) t
    | (.error e, t) =>
      if number < max 1 p.limit then .next (number + 1) t else .returned (.error e) t
  | .returned result s => .returned result s

lemma turn_of_refused (h : (call.run s).1.isOk = false) {number : ℕ}
    (hnumber : number < max 1 p.limit) :
    turn p call (.next number s) = .next (number + 1) (call.run s).2 := by
  obtain ⟨e, hcall⟩ := exists_run_eq_error h
  rw [turn, hcall]
  exact if_pos hnumber

lemma turn_of_last {number : ℕ} (h : (call.run s).1.isOk ∨ number = max 1 p.limit) :
    turn p call (.next number s) = .returned (call.run s).1 (call.run s).2 := by
  cases hanswer : (call.run s).1.isOk with
  | true =>
    obtain ⟨a, hcall⟩ := exists_run_eq_ok hanswer
    rw [turn, hcall]
  | false =>
    obtain ⟨e, hcall⟩ := exists_run_eq_error hanswer
    have hnumber : number = max 1 p.limit := h.resolve_left (by simp [hanswer])
    rw [turn, hcall]
    exact if_neg hnumber.not_lt

namespace EndsAt

/-- Until the last call is made, there is one attempt in every turn. -/
lemma iterate_turn_of_le (h : EndsAt p call s n) {i : ℕ} (hi : i ≤ n) :
    (turn p call)^[i] (.next 1 s) = .next (i + 1) (after call s i) := by
  induction i with
  | zero => rfl
  | succ i ih =>
    have hlt := h.lt
    rw [Function.iterate_succ_apply', ih (by omega),
      turn_of_refused (h.refused i (by omega)) (by omega), after_succ]

/-- With the last call the loop returns, and it has returned from then on. -/
lemma iterate_turn_of_lt (h : EndsAt p call s n) {i : ℕ} (hi : n < i) :
    (turn p call)^[i] (.next 1 s) = .returned (answer call s n) (after call s (n + 1)) := by
  obtain ⟨later, rfl⟩ : ∃ later, i = later + (n + 1) := ⟨i - (n + 1), by omega⟩
  have hturn : turn p call (.next (n + 1) (after call s n)) =
      .returned (answer call s n) (after call s (n + 1)) := by
    rw [turn_of_last h.last, after_succ]
    rfl
  rw [Function.iterate_add_apply, Function.iterate_succ_apply', h.iterate_turn_of_le le_rfl, hturn]
  exact Function.iterate_fixed rfl later

end EndsAt

/-! ### Exactly so many calls -/

/-- A call that is made again while it fails is made `n` times in vain and then for the last
time. -/
structure MadeExactly (p : Attempts) (call : StateM σ (Except ε α)) (s : σ) (n : ℕ) : Prop where
  /-- A loop that counts the attempts makes one call in each turn and goes on, -/
  going : ∀ i ≤ n, (turn p call)^[i] (.next 1 s) = .next (i + 1) (after call s i)
  /-- and returns with the last call. -/
  returned : ∀ i > n, (turn p call)^[i] (.next 1 s) =
    .returned ((p.run call).run s).1 ((p.run call).run s).2
  /-- These calls are made and no others, each in the state that those before it leave. -/
  made : ∀ earlier, (p.run (noted call)).run (s, earlier) =
    (((p.run call).run s).1, ((p.run call).run s).2, earlier ++ calls call s (n + 1))
  /-- The state is the one that these calls leave. -/
  state : ((p.run call).run s).2 = after call s (n + 1)
  /-- The result is the first success, if there is one within the limit, -/
  success : firstSuccess call s ≤ (max 1 p.limit : ℕ) →
    firstSuccess call s = (n + 1 : ℕ) ∧
      ∃ a, answer call s n = .ok a ∧ ((p.run call).run s).1 = .ok a
  /-- and the error of the last call otherwise. -/
  failure : (max 1 p.limit : ℕ) < firstSuccess call s →
    ∃ e, answer call s n = .error e ∧ ((p.run call).run s).1 = .error e

/-- **Bounded attempts are exact.**  From every state, a call that is made again while it fails is
made up to its first success and not beyond the limit, whichever comes first; a limit of zero stands
for one. -/
theorem run_exact (p : Attempts) (call : StateM σ (Except ε α)) (s : σ) :
    ∃ n : ℕ, ((n + 1 : ℕ) : ℕ∞) = min ((max 1 p.limit : ℕ) : ℕ∞) (firstSuccess call s) ∧
      MadeExactly p call s n := by
  obtain ⟨n, h⟩ := exists_endsAt p call s
  have hrun := h.run_eq
  refine ⟨n, h.count, ?_⟩
  exact
    { going := fun i hi => h.iterate_turn_of_le hi
      returned := fun i hi => by rw [h.iterate_turn_of_lt hi, hrun]
      made := fun earlier => by
        rw [(h.of_noted earlier).run_eq, answer_noted, after_noted, hrun]
      state := by rw [hrun]
      success := fun hle => by
        obtain ⟨a, ha⟩ := exists_of_isOk (h.isOk_iff.2 hle)
        exact ⟨by rw [h.count, min_eq_right hle], a, ha, by rw [hrun, ha]⟩
      failure := fun hlt => by
        have hrefused : (answer call s n).isOk = false := by
          simpa using mt h.isOk_iff.1 hlt.not_ge
        obtain ⟨e, he⟩ := exists_of_not_isOk hrefused
        exact ⟨e, he, by rw [hrun, he]⟩ }

-- a call that fails twice, and a limit that is reached by its success, before it, and at once
example :
    let call : StateM ℕ (Except ℕ String) := fun made =>
      (if made < 2 then .error made else .ok "done", made + 1)
    (Attempts.run ⟨3, 0⟩ call).run 0 = (.ok "done", 3) ∧
      (Attempts.run ⟨2, 0⟩ call).run 0 = (.error 1, 2) ∧
      (Attempts.run ⟨0, 0⟩ call).run 0 = (.error 0, 1) :=
  ⟨rfl, rfl, rfl⟩

end Attempts

/-! ### Calls of services -/

namespace World

lemma run_attempt (w : World σ) (call : Program (Except ε α)) (more : ℕ) (s : σ) :
    w.run (Attempts.attempt call more) s =
      (Attempts.attempt (m := StateM σ) (w.run call) more).run s := by
  induction more generalizing s with
  | zero => rfl
  | succ more ih =>
    rw [Attempts.attempt, Attempts.attempt, run_bind, StateT.run_bind]
    rcases hcall : w.run call s with ⟨answer, t⟩
    have hrun : StateT.run (m := Id) (w.run call) s = (answer, t) := hcall
    rw [hrun]
    cases answer with
    | ok a => rfl
    | error e => exact ih t

/-- In a world, making a call again is making a call again that has the state of the world. -/
theorem run_attempts (w : World σ) (p : Attempts) (call : Program (Except ε α)) (s : σ) :
    w.run (p.run call) s = (p.run (m := StateM σ) (w.run call)).run s :=
  w.run_attempt call _ s

end World

end JobGraph
