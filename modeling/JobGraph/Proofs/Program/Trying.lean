import Mathlib.Data.List.Forall2
import Mathlib.Data.List.Nodup
import JobGraph.Proofs.Program.History

/-!
# Calls that are made again

What a run asks of one service is picked out of its history (`World.seen`).  A call that fails is
made again, up to a limit: what is asked for one query is `Attempts.Tried`, whatever is answered
(`Attempts.tried_run`).  When several queries are made one after another, what is asked for each of
them can be told from the whole (`Attempts.eq_map_callsFor`).
-/

namespace JobGraph

variable {σ α β γ ι : Type} {w : World σ}

/-! ### What is asked of one service -/

/-- The effect is not among those that `f` picks out, whatever it is answered. -/
def Effect.Unseen (f : Event → Option γ) (e : Effect) : Prop :=
  ∀ answer, f ⟨e, answer⟩ = none

namespace World

variable {f : Event → Option γ}

/-- What is picked out of the history of a run. -/
def seen (w : World σ) (f : Event → Option γ) (p : Program α) (s : σ) : List γ :=
  (w.history p s).filterMap f

@[simp]
lemma seen_pure (a : α) (s : σ) : w.seen f (pure a) s = [] := rfl

lemma seen_bind (p : Program α) (next : α → Program β) (s : σ) :
    w.seen f (p >>= next) s =
      w.seen f p s ++ w.seen f (next (w.run p s).1) (w.run p s).2 := by
  rw [seen, history_bind, List.filterMap_append, seen, seen]

/-- Nothing is picked out of the history of a program that asks for nothing of the kind. -/
lemma seen_eq_nil {P : α → Prop} {p : Program α} (hp : p.Within (Effect.Unseen f) P) (s : σ) :
    w.seen f p s = [] := by
  rw [seen, List.filterMap_eq_nil_iff]
  intro event hevent
  exact hp.history w s event hevent event.2

end World

/-! ### What is asked for one query -/

namespace Attempts

/-- The calls are made for one query: at least once, within the limit, not again after one has
succeeded, and up to the limit if none succeeds. -/
structure Tried (limit : ℕ) (x : ι) (calls : List (ι × Except Error β)) : Prop where
  same : ∀ call ∈ calls, call.1 = x
  pos : 1 ≤ calls.length
  le : calls.length ≤ limit
  refused : ∀ call ∈ calls.dropLast, call.2.isOk = false
  exhausted : (∀ call ∈ calls, call.2.isOk = false) → calls.length = limit

/-- One of the calls has succeeded. -/
def isAnswered (calls : List (ι × Except Error β)) : Bool :=
  calls.any fun call => call.2.isOk

/-- The answer to the last call. -/
def outcome? (calls : List (ι × Except Error β)) : Option (Except Error β) :=
  calls.getLast?.map Prod.snd

namespace Tried

variable {limit : ℕ} {x : ι} {calls : List (ι × Except Error β)}

/-- A single call is enough if it succeeds, or if no other may be made. -/
lemma single {answer : Except Error β} (hlimit : 1 ≤ limit)
    (h : answer.isOk = false → limit = 1) : Tried limit x [(x, answer)] :=
  { same := by simp
    pos := Nat.le_refl 1
    le := hlimit
    refused := by simp
    exhausted := fun hrefused => (h (hrefused _ (List.mem_singleton_self _))).symm }

/-- A call that fails comes before the others. -/
lemma cons {e : Error} (h : Tried limit x calls) :
    Tried (limit + 1) x ((x, .error e) :: calls) := by
  have hne : calls ≠ [] := List.ne_nil_of_length_pos h.pos
  refine ⟨?_, Nat.le_add_left 1 _, Nat.succ_le_succ h.le, ?_, fun hrefused => ?_⟩
  · rw [List.forall_mem_cons]
    exact ⟨rfl, h.same⟩
  · rw [List.dropLast_cons_of_ne_nil hne, List.forall_mem_cons]
    exact ⟨rfl, h.refused⟩
  · rw [List.forall_mem_cons] at hrefused
    rw [List.length_cons, h.exhausted hrefused.2]

/-- All calls but the last one fail. -/
lemma exists_eq_append (h : Tried limit x calls) :
    ∃ front answer, calls = front ++ [(x, answer)] ∧ outcome? calls = some answer ∧
      ∀ call ∈ front, call.2.isOk = false := by
  have hne : calls ≠ [] := List.ne_nil_of_length_pos h.pos
  obtain ⟨front, ⟨y, answer⟩, rfl⟩ : ∃ front last, calls = front ++ [last] :=
    ⟨_, _, (List.dropLast_append_getLast hne).symm⟩
  obtain rfl : y = x := h.same (y, answer) (by simp)
  refine ⟨front, answer, rfl, ?_, by simpa using h.refused⟩
  rw [outcome?, List.getLast?_concat]
  rfl

/-- The last call succeeds if any does, and otherwise no call may be made any more. -/
lemma isAnswered_eq (h : Tried limit x calls) {answer : Except Error β}
    (hlast : outcome? calls = some answer) : isAnswered calls = answer.isOk := by
  obtain ⟨front, last, rfl, houtcome, hfront⟩ := h.exists_eq_append
  obtain rfl : last = answer := Option.some.inj (houtcome.symm.trans hlast)
  have hnone : (front.any fun call => call.2.isOk) = false := by
    rw [List.any_eq_false]
    intro call hcall
    simp [hfront call hcall]
  simp [isAnswered, hnone]

/-- What succeeds is the query, once; and nothing if no call does. -/
lemma map_filter_isOk (h : Tried limit x calls) :
    (calls.filter fun call => call.2.isOk).map Prod.fst =
      if isAnswered calls then [x] else [] := by
  obtain ⟨front, last, hcalls, houtcome, hfront⟩ := h.exists_eq_append
  have hnone : (front.filter fun call => call.2.isOk) = [] := by
    rw [List.filter_eq_nil_iff]
    intro call hcall
    simp [hfront call hcall]
  rw [h.isAnswered_eq houtcome, hcalls, List.filter_append, hnone, List.nil_append,
    List.filter_singleton]
  cases last.isOk <;> rfl

end Tried

/-- Making a call again while it fails: the result is that of the last call. -/
lemma tried_attempt {f : Event → Option (ι × Except Error β)} {x : ι} {g : β → α}
    {call : Program (Except Error α)}
    (hcall : ∀ s, ∃ answer, w.seen f call s = [(x, answer)] ∧
      (w.run call s).1 = answer.map g) (more : ℕ) (s : σ) :
    Tried (more + 1) x (w.seen f (attempt call more) s) ∧
      ∃ answer, outcome? (w.seen f (attempt call more) s) = some answer ∧
        (w.run (attempt call more) s).1 = answer.map g := by
  induction more generalizing s with
  | zero =>
    obtain ⟨answer, hseen, hrun⟩ := hcall s
    rw [attempt, hseen]
    exact ⟨.single (Nat.le_refl 1) fun _ => rfl, answer, rfl, hrun⟩
  | succ more ih =>
    obtain ⟨answer, hseen, hrun⟩ := hcall s
    rw [attempt, World.seen_bind, World.run_bind, hseen, hrun]
    cases answer with
    | ok b =>
      dsimp only [Except.map]
      rw [World.seen_pure, List.append_nil]
      exact ⟨.single (Nat.le_add_left 1 _) nofun, .ok b, rfl, rfl⟩
    | error e =>
      obtain ⟨htried, answer, houtcome, hanswer⟩ := ih (w.run call s).2
      refine ⟨htried.cons, answer, ?_, hanswer⟩
      obtain ⟨front, last, hcalls, -⟩ := htried.exists_eq_append
      dsimp only [Except.map] at houtcome ⊢
      rw [hcalls] at houtcome ⊢
      rw [List.singleton_append, ← List.cons_append]
      rw [outcome?, List.getLast?_concat] at houtcome ⊢
      exact houtcome

/-- **Making a call again.**  If a call is one call of a service, then what is asked of the service
when it is made again up to a limit is asked for one query, and the result is that of the last
call. -/
theorem tried_run {f : Event → Option (ι × Except Error β)} {x : ι} {g : β → α}
    {call : Program (Except Error α)}
    (hcall : ∀ s, ∃ answer, w.seen f call s = [(x, answer)] ∧
      (w.run call s).1 = answer.map g) (retry : Attempts) (s : σ) :
    Tried (max 1 retry.limit) x (w.seen f (retry.run call) s) ∧
      ∃ answer, outcome? (w.seen f (retry.run call) s) = some answer ∧
        (w.run (retry.run call) s).1 = answer.map g := by
  have hlimit : max 1 retry.limit = retry.limit - 1 + 1 := by omega
  rw [hlimit]
  exact tried_attempt hcall _ s

/-! ### Several queries -/

/-- When queries are made one after another, those that are answered are answered once, in their
order. -/
lemma map_filter_flatMap {limit : ℕ} {xs : List ι} {made : ι → List (ι × Except Error β)}
    (h : ∀ x ∈ xs, Tried limit x (made x)) :
    ((xs.flatMap made).filter fun call => call.2.isOk).map Prod.fst =
      xs.filter fun x => isAnswered (made x) := by
  induction xs with
  | nil => rfl
  | cons x xs ih =>
    rw [List.forall_mem_cons] at h
    rw [List.flatMap_cons, List.filter_append, List.map_append, ih h.2, h.1.map_filter_isOk,
      List.filter_cons]
    split <;> rfl

/-- So many calls in a row are made for a query and fail. -/
def GivenUp (limit : ℕ) (calls : List (ι × Except Error β)) (x : ι) : Prop :=
  ∃ failed, failed <:+: calls ∧ failed.length = limit ∧
    ∀ call ∈ failed, call.1 = x ∧ call.2.isOk = false

/-- A query for which no call succeeds is given up. -/
lemma Tried.givenUp {limit : ℕ} {x : ι} {calls whole : List (ι × Except Error β)}
    (h : Tried limit x calls) (hrefused : isAnswered calls = false) (hwithin : calls <:+: whole) :
    GivenUp limit whole x := by
  have hall : ∀ call ∈ calls, call.2.isOk = false := by
    intro call hcall
    simpa using List.any_eq_false.1 hrefused call hcall
  exact ⟨calls, hwithin, h.exhausted hall, fun call hcall => ⟨h.same call hcall, hall call hcall⟩⟩

section Rounds

variable {limit : ℕ} {xs : List ι} {rounds : List (List (ι × Except Error β))}

/-- Nothing is asked but for one of the queries. -/
lemma fst_mem_of_rounds (h : List.Forall₂ (Tried limit) xs rounds) :
    ∀ call ∈ rounds.flatten, call.1 ∈ xs := by
  induction h with
  | nil => simp
  | @cons x calls xs rounds hx _ ih =>
    intro call hcall
    rw [List.flatten_cons, List.mem_append] at hcall
    rcases hcall with hcall | hcall
    · rw [hx.same call hcall]
      exact List.mem_cons_self
    · exact List.mem_cons_of_mem x (ih call hcall)

variable [DecidableEq ι]

/-- The calls that are made for a query. -/
def callsFor (calls : List (ι × Except Error β)) (x : ι) : List (ι × Except Error β) :=
  calls.filter fun call => call.1 = x

/-- If different queries are made one after another, then what is asked for each of them can be told
from the whole. -/
theorem eq_map_callsFor (h : List.Forall₂ (Tried limit) xs rounds) (hnodup : xs.Nodup) :
    rounds = xs.map (callsFor rounds.flatten) := by
  induction h with
  | nil => rfl
  | @cons x calls xs rounds hx hrounds ih =>
    obtain ⟨hnew, hnodup⟩ := List.nodup_cons.1 hnodup
    have hcalls : callsFor calls x = calls := by
      rw [callsFor, List.filter_eq_self]
      intro call hcall
      simpa using hx.same call hcall
    have hothers : callsFor rounds.flatten x = [] := by
      rw [callsFor, List.filter_eq_nil_iff]
      intro call hcall
      have hmem := fst_mem_of_rounds hrounds call hcall
      simpa using fun heq : call.1 = x => hnew (heq ▸ hmem)
    have hrest : ∀ y ∈ xs, callsFor (calls ++ rounds.flatten) y = callsFor rounds.flatten y := by
      intro y hy
      have hnone : callsFor calls y = [] := by
        rw [callsFor, List.filter_eq_nil_iff]
        intro call hcall
        have hxy : x ≠ y := fun heq => hnew (heq ▸ hy)
        simpa [hx.same call hcall] using hxy
      rw [callsFor, List.filter_append, ← callsFor, ← callsFor, hnone, List.nil_append]
    rw [List.map_cons, List.flatten_cons, List.map_congr_left hrest, ← ih hnodup, callsFor,
      List.filter_append, ← callsFor, ← callsFor, hcalls, hothers, List.append_nil]

/-- What is asked for one of the queries is one of the rounds. -/
lemma tried_callsFor (h : List.Forall₂ (Tried limit) xs rounds) (hnodup : xs.Nodup) {x : ι}
    (hx : x ∈ xs) : Tried limit x (callsFor rounds.flatten x) := by
  rw [eq_map_callsFor h hnodup, List.forall₂_map_right_iff, List.forall₂_same] at h
  exact h x hx

/-- The whole is what is asked for each query in turn. -/
lemma flatten_eq_flatMap (h : List.Forall₂ (Tried limit) xs rounds) (hnodup : xs.Nodup) :
    rounds.flatten = xs.flatMap (callsFor rounds.flatten) := by
  rw [List.flatMap_def, ← eq_map_callsFor h hnodup]

/-- If all queries are answered, then they are answered whatever else is asked. -/
lemma isAnswered_callsFor (h : List.Forall₂ (Tried limit) xs rounds)
    (hall : ∀ calls ∈ rounds, isAnswered calls = true) {whole : List (ι × Except Error β)}
    (hsub : rounds.flatten ⊆ whole) {x : ι} (hx : x ∈ xs) :
    isAnswered (callsFor whole x) = true := by
  induction h with
  | nil => cases hx
  | @cons y calls xs rounds hy _ ih =>
    rw [List.forall_mem_cons] at hall
    rw [List.flatten_cons, List.append_subset] at hsub
    rcases List.mem_cons.1 hx with rfl | hx
    · obtain ⟨call, hcall, hok⟩ := List.any_eq_true.1 hall.1
      refine List.any_eq_true.2 ⟨call, List.mem_filter.2 ⟨hsub.1 hcall, ?_⟩, hok⟩
      simpa using hy.same call hcall
    · exact ih hall.2 hsub.2 hx

/-- A query is given up if it is one of those that are made and no call for it succeeds. -/
theorem givenUp_iff (h : List.Forall₂ (Tried limit) xs rounds) (hnodup : xs.Nodup)
    (hlimit : 1 ≤ limit) {x : ι} :
    GivenUp limit rounds.flatten x ↔
      x ∈ xs ∧ isAnswered (callsFor rounds.flatten x) = false := by
  constructor
  · rintro ⟨failed, hwithin, hlength, hfailed⟩
    have hx : x ∈ xs := by
      obtain ⟨call, hcall⟩ := List.exists_mem_of_length_pos (hlength ▸ hlimit)
      rw [← (hfailed call hcall).1]
      exact fst_mem_of_rounds h call (hwithin.subset hcall)
    refine ⟨hx, ?_⟩
    have htried := tried_callsFor h hnodup hx
    obtain ⟨front, answer, hcalls, houtcome, -⟩ := htried.exists_eq_append
    rw [htried.isAnswered_eq houtcome]
    -- if the last call succeeded, there would be no room for so many failures
    cases hanswer : answer.isOk with
    | false => rfl
    | true =>
      have hall : (failed.filter fun call => call.1 = x) = failed := by
        rw [List.filter_eq_self]
        intro call hcall
        simpa using (hfailed call hcall).1
      have hsublist := hwithin.sublist.filter fun call => call.1 = x
      rw [hall, ← callsFor, hcalls] at hsublist
      have hcount := hsublist.countP_le (p := fun call => !call.2.isOk)
      have hfailures : failed.countP (fun call => !call.2.isOk) = failed.length := by
        rw [List.countP_eq_length]
        intro call hcall
        simp [(hfailed call hcall).2]
      have hfront := List.countP_le_length (p := fun call => !call.2.isOk) (l := front)
      have hle := htried.le
      rw [hcalls, List.length_append, List.length_singleton] at hle
      have hlast : [(x, answer)].countP (fun call => !call.2.isOk) = 0 := by simp [hanswer]
      rw [hfailures, List.countP_append, hlast] at hcount
      omega
  · rintro ⟨hx, hrefused⟩
    have hmem : callsFor rounds.flatten x ∈ rounds := by
      have hmap := List.mem_map_of_mem (f := callsFor rounds.flatten) hx
      rwa [← eq_map_callsFor h hnodup] at hmap
    exact (tried_callsFor h hnodup hx).givenUp hrefused (List.infix_of_mem_flatten hmem)

end Rounds

end Attempts

end JobGraph
