import Mathlib.Data.List.Chain
import JobGraph.Proofs.Inbox.Workers
import JobGraph.Rehearsal.Sample

/-!
# What a filter answers

A filter is shared: whoever works on an inbox takes the lock, asks the filter whether contents are
new or makes it forget a path, and gives the lock back.  Only the order in which the lock is taken
matters, and it may be any.

What a filter answers about a path can be told from what it was asked about this path before
(`Filter.history`), and only the last of that matters: contents are refused if they are what was
offered last and not forgotten since.  The main result is `Inbox.Filter.answers_by_history`; that
what is admitted for a path changes from one time to the next follows from it.
-/

namespace JobGraph.Inbox

namespace Filter

/-! ### Calls -/

/-- What a filter is asked to do. -/
inductive Call where
  /-- Say whether the contents are new for the path, and remember them. -/
  | accept (p : Path) (contents : ByteArray)
  | forget (p : Path)

/-- What a call brings for a path, if it is about this path: the contents that are offered, or none
for the path to be forgotten. -/
def Call.brings? (p : Path) : Call → Option (Option ByteArray)
  | .accept q contents => if p.components = q.components then some (some contents) else none
  | .forget q => if p.components = q.components then some none else none

lemma Call.exists_accept_of_brings? {p : Path} {c : Call} {contents : ByteArray}
    (h : c.brings? p = some (some contents)) :
    ∃ q, c = .accept q contents ∧ p.components = q.components := by
  cases c with
  | accept q offered =>
    rw [brings?] at h
    split at h
    · next hq =>
      cases h
      exact ⟨q, rfl, hq⟩
    · cases h
  | forget q =>
    rw [brings?] at h
    split at h
    · cases h
    · cases h

/-- The answer to a call, and the filter afterwards.  A path is forgotten without an answer. -/
def call (f : Inbox.Filter) : Call → Bool × Inbox.Filter
  | .accept p contents => f.accept p contents
  | .forget p => (false, f.forget p)

/-- The filter after calls. -/
def after (f : Inbox.Filter) (calls : List Call) : Inbox.Filter :=
  calls.foldl (fun f c => (f.call c).2) f

/-- What calls have brought for a path, the last one last. -/
def history (p : Path) (calls : List Call) : List (Option ByteArray) :=
  calls.filterMap (Call.brings? p)

variable {f : Inbox.Filter} {p : Path} {c : Call} {contents : ByteArray} {calls : List Call}

/-- A call leaves the filter with what it brings, for the path that it is about. -/
lemma remembered?_call : (f.call c).2.remembered? p =
    ((c.brings? p).map (Option.map Blake3.hash)).getD (f.remembered? p) := by
  cases c with
  | accept q contents =>
    rw [call, remembered?_accept, Call.brings?]
    split
    · rfl
    · rfl
  | forget q =>
    rw [call, remembered?_forget, Call.brings?]
    split
    · rfl
    · rfl

/-- After calls the filter has what the last of them about the path has brought. -/
lemma remembered?_after : (f.after calls).remembered? p =
    (((history p calls).getLast?).map (Option.map Blake3.hash)).getD (f.remembered? p) := by
  -- the last call decides, so the induction takes calls away from the end
  induction calls using List.reverseRecOn with
  | nil => rfl
  | append_singleton calls c ih =>
    have hafter : f.after (calls ++ [c]) = ((f.after calls).call c).2 := List.foldl_concat ..
    have hhistory : history p (calls ++ [c]) = history p calls ++ (c.brings? p).toList := by
      rw [history, List.filterMap_append, ← history]
      cases hbrings : c.brings? p <;> simp [hbrings]
    rw [hafter, remembered?_call, ih, hhistory]
    cases c.brings? p with
    | none => simp
    | some contents? => simp

/-! ### Answers -/

/-- The answers are those that the filter gives to the calls, one after another. -/
def Answers : Inbox.Filter → List (Call × Bool) → Prop
  | _, [] => True
  | f, (c, answer) :: log => answer = (f.call c).1 ∧ Answers (f.call c).2 log

lemma answers_append {log log' : List (Call × Bool)} :
    f.Answers (log ++ log') ↔ f.Answers log ∧ (f.after (log.map Prod.fst)).Answers log' := by
  induction log generalizing f with
  | nil => exact (and_iff_right trivial).symm
  | cons e log ih =>
    rw [List.cons_append, Answers, ih, ← and_assoc]
    rfl

/-- What was admitted for a path, the last one last. -/
def admitted (p : Path) (log : List (Call × Bool)) : List ByteArray :=
  log.filterMap fun e => if e.2 then (e.1.brings? p).join else none

/-- Contents are refused if they are what the history of their path ends with. -/
lemma fst_accept_after (hnew : f.remembered? p = none)
    (hcollision : ∀ other, some other ∈ history p calls → Blake3.hash other = Blake3.hash contents →
      other = contents) :
    ((f.after calls).accept p contents).1 = false ↔
      (history p calls).getLast? = some (some contents) := by
  rw [← Bool.not_eq_true, fst_accept, not_not, remembered?_after, hnew]
  constructor
  · intro h
    rcases hlast : (history p calls).getLast? with _ | _ | other
    · rw [hlast] at h
      cases h
    · -- the path was forgotten last
      rw [hlast] at h
      cases h
    · rw [hlast] at h
      have hhash : Blake3.hash other = Blake3.hash contents := Option.some.inj h
      rw [hcollision other (List.mem_of_getLast? hlast) hhash]
  · intro h
    rw [h]
    rfl

/-- As long as a path is not forgotten, what is admitted for it is never what was admitted just
before, and at first it is not what the filter had for the path. -/
lemma admitted_isChain {log : List (Call × Bool)} (hlog : f.Answers log)
    (hkept : none ∉ history p (log.map Prod.fst)) :
    (admitted p log).IsChain (· ≠ ·) ∧
      ∀ first ∈ (admitted p log).head?, f.remembered? p ≠ some (Blake3.hash first) := by
  induction log generalizing f with
  | nil => exact ⟨List.isChain_nil, by simp [admitted]⟩
  | cons e log ih =>
    obtain ⟨c, answer⟩ := e
    obtain ⟨hanswer, hlog⟩ := hlog
    have hremembers := remembered?_call (f := f) (c := c) (p := p)
    rw [List.map_cons, history, List.filterMap_cons] at hkept
    cases hbrings : c.brings? p with
    | none =>
      -- the call is about another path
      rw [hbrings] at hkept hremembers
      obtain ⟨hchain, hfirst⟩ := ih hlog hkept
      have hsame : admitted p ((c, answer) :: log) = admitted p log := by
        simp [admitted, hbrings]
      rw [hremembers] at hfirst
      exact ⟨hsame ▸ hchain, hsame ▸ hfirst⟩
    | some contents? =>
      rw [hbrings] at hkept hremembers
      obtain ⟨hsome, hkept⟩ : none ≠ contents? ∧ none ∉ history p (log.map Prod.fst) := by
        simpa [history] using hkept
      obtain ⟨hchain, hfirst⟩ := ih hlog hkept
      obtain ⟨contents, rfl⟩ := Option.ne_none_iff_exists'.1 hsome.symm
      obtain ⟨q, rfl, hq⟩ := Call.exists_accept_of_brings? hbrings
      have hself : f.remembered? p = f.remembered? q := by rw [remembered?, hq, ← remembered?]
      rw [call] at hanswer hremembers hlog
      cases answer with
      | false =>
        -- refused, and the filter is what it was
        have hfilter := snd_accept hanswer.symm
        have hsame : admitted p ((.accept q contents, false) :: log) = admitted p log := rfl
        rw [call, hfilter] at hfirst
        exact ⟨hsame ▸ hchain, hsame ▸ hfirst⟩
      | true =>
        have hnew := fst_accept.1 hanswer.symm
        have hadmitted : admitted p ((.accept q contents, true) :: log) =
            contents :: admitted p log := by
          simp [admitted, hbrings]
        rw [hadmitted]
        constructor
        · rw [List.isChain_cons]
          refine ⟨fun next hnext heq => hfirst next hnext ?_, hchain⟩
          rw [call, hremembers, ← heq]
          rfl
        · intro first hhead
          cases hhead
          rwa [hself]

end Filter

/-! ### Callers that share a filter -/

open Inbox.Filter (Call history admitted)

/-- A filter behind a lock, and those who share it. -/
structure Shared where
  filter : Inbox.Filter
  /-- What each of the callers is still to call, the next call first. -/
  pending : List (List Call)
  /-- The calls that were made and their answers, the last one last. -/
  log : List (Call × Bool)

namespace Shared

/-- Nobody has called the filter. -/
def start (f : Inbox.Filter) (pending : List (List Call)) : Shared := ⟨f, pending, []⟩

/-- A caller takes the lock for its next call, if it has one. -/
def turn (s : Shared) (i : ℕ) : Shared :=
  match s.pending[i]? with
  | some (c :: calls) =>
    { filter := (s.filter.call c).2
      pending := s.pending.set i calls
      log := s.log ++ [(c, (s.filter.call c).1)] }
  | _ => s

/-- Callers take the lock in the order of a schedule. -/
def run (s : Shared) (schedule : List ℕ) : Shared :=
  schedule.foldl turn s

/-- The log has what the filter answers to the calls in the order in which they were made, and the
filter is what they leave. -/
def Keeps (f : Inbox.Filter) (s : Shared) : Prop :=
  f.Answers s.log ∧ s.filter = f.after (s.log.map Prod.fst)

variable {f : Inbox.Filter} {s : Shared}

lemma Keeps.turn (h : s.Keeps f) (i : ℕ) : (s.turn i).Keeps f := by
  obtain ⟨hlog, hfilter⟩ := h
  rw [Shared.turn]
  split
  · next c calls _ =>
    constructor
    · rw [Filter.answers_append]
      exact ⟨hlog, by rw [hfilter], trivial⟩
    · simp only [hfilter, Filter.after, List.map_append, List.foldl_append, List.map_cons,
        List.map_nil, List.foldl_cons, List.foldl_nil]
  · exact ⟨hlog, hfilter⟩

lemma Keeps.run (h : s.Keeps f) (schedule : List ℕ) : (s.run schedule).Keeps f := by
  induction schedule generalizing s with
  | nil => exact h
  | cons i schedule ih => exact ih (h.turn i)

/-- Whatever the order in which the lock is taken, the log has the filter's answers. -/
lemma answers_run (f : Inbox.Filter) (pending : List (List Call)) (schedule : List ℕ) :
    f.Answers ((start f pending).run schedule).log :=
  (Keeps.run (s := start f pending) ⟨trivial, rfl⟩ schedule).1

end Shared

namespace Filter

/-- **What a filter answers.**  After any calls of a new filter,
* contents that are offered for a path are refused if and only if the last call about this path has
  offered the same contents, unless others that were offered for it have the same hash;
* the answer is the same after any other calls that have brought the same for this path, whatever
  was called about other paths.

And in whatever order callers that share the filter take the lock, as long as a path is not
forgotten, no contents are admitted for it twice in a row. -/
theorem answers_by_history {f : Inbox.Filter} {pattern : String} (hf : ofPattern pattern = .ok f) :
    (∀ calls p contents,
      (∀ other, some other ∈ history p calls → Blake3.hash other = Blake3.hash contents →
        other = contents) →
      (((f.after calls).accept p contents).1 = false ↔
        (history p calls).getLast? = some (some contents))) ∧
    (∀ calls calls' p q contents, p.components = q.components →
      history p calls = history q calls' →
      ((f.after calls).accept p contents).1 = ((f.after calls').accept q contents).1) ∧
    ∀ pending schedule before part behind p,
      ((Shared.start f pending).run schedule).log = before ++ part ++ behind →
      none ∉ history p (part.map Prod.fst) → (admitted p part).IsChain (· ≠ ·) := by
  have hnew := remembered?_ofPattern hf
  refine ⟨?refused, ?elsewhere, ?changes⟩
  case refused =>
    intro calls p contents hcollision
    exact fst_accept_after (hnew p) hcollision
  case elsewhere =>
    intro calls calls' p q contents hpath hhistory
    have hremembered : (f.after calls).remembered? p = (f.after calls').remembered? q := by
      rw [remembered?_after, remembered?_after, hhistory, hnew, hnew]
    rw [Bool.eq_iff_iff, fst_accept, fst_accept, hremembered]
  case changes =>
    intro pending schedule before part behind p hlog hkept
    have hanswers := Shared.answers_run f pending schedule
    rw [hlog, answers_append, answers_append] at hanswers
    exact (admitted_isChain hanswers.1.2 hkept).1

/-- A file of an inbox, its name spelled in two ways, and another file. -/
def sharedCallers : List (List Call) :=
  [[.accept ⟨"/inbox/a.json"⟩ "old".toUTF8, .accept ⟨"/inbox//a.json"⟩ "new".toUTF8],
    [.accept ⟨"/inbox/b.json"⟩ "new".toUTF8, .forget ⟨"/inbox/b.json"⟩],
    [.accept ⟨"/inbox/./a.json"⟩ "old".toUTF8, .accept ⟨"/inbox/a.json"⟩ "old".toUTF8]]

/-- What was admitted last is refused under another spelling, whatever happens to another file, and
the text before it is admitted again. -/
theorem answers_by_history_spellings :
    ∃ f part, ofPattern "*.json" = .ok f ∧
      ((Shared.start f sharedCallers).run [0, 1, 2, 1, 0, 2]).log = part ∧
      part.map Prod.snd = [true, true, false, false, true, true] ∧
      (admitted ⟨"/inbox/a.json"⟩ part).IsChain (· ≠ ·) ∧
      ((f.after [.accept ⟨"/inbox/a.json"⟩ "old".toUTF8, .forget ⟨"/inbox/b.json"⟩]).accept
        ⟨"/inbox/./a.json"⟩ "old".toUTF8).1 = false := by
  have heval : (ofPattern "*.json").toOption.map (fun f =>
      let part := ((Shared.start f sharedCallers).run [0, 1, 2, 1, 0, 2]).log
      decide (part.map Prod.snd = [true, true, false, false, true, true] ∧
        ∀ brought ∈ history ⟨"/inbox/a.json"⟩ (part.map Prod.fst), brought.isSome)) =
          some true := by
    decide +kernel
  obtain ⟨f, hf, heval⟩ := exists_of_map_toOption heval
  obtain ⟨hanswers, hkept⟩ := of_decide_eq_true heval
  obtain ⟨hrefused, -, hchanges⟩ := answers_by_history hf
  refine ⟨f, _, hf, rfl, hanswers, ?_, ?_⟩
  · exact hchanges sharedCallers [0, 1, 2, 1, 0, 2] [] _ [] _ (by simp)
      fun hforgotten => absurd (hkept none hforgotten) (by simp)
  · have hhistory : history ⟨"/inbox/./a.json"⟩
        [.accept ⟨"/inbox/a.json"⟩ "old".toUTF8, .forget ⟨"/inbox/b.json"⟩] =
          [some "old".toUTF8] := by
      decide +kernel
    rw [hrefused, hhistory]
    · rfl
    · intro other hother _
      rw [hhistory] at hother
      simpa using hother

end Filter

/-! ### Workers of one file -/

namespace Watched

variable {p : Path} {s : Watched}

/-- A turn admits nothing, or what is not remembered. -/
lemma admitted_turn (p : Path) (s : Watched) (t : Turn) : (s.turn p t).admitted = s.admitted ∨
    ∃ text, s.filter.remembered? p ≠ some (digest text) ∧
      (s.turn p t).admitted = s.admitted ++ [text] := by
  cases t with
  | worker i =>
    rw [turn]
    cases hi : s.workers[i]? with
    | none => exact Or.inl (by rw [work_of_none hi])
    | some worker =>
      cases worker with
      | called => exact Or.inl (by rw [work_of_called hi])
      | holding text =>
        cases hfresh : (s.filter.accept p text.toUTF8).1 with
        | true => exact Or.inr ⟨text, Filter.fst_accept.1 hfresh, by rw [work_of_new hi hfresh]⟩
        | false => exact Or.inl (by rw [work_of_same hi hfresh])
      | admitted text => exact Or.inl (by rw [work_of_admitted hi])
      | finished => exact Or.inl (by rw [work_of_finished hi])
  | rewrite text => exact Or.inl rfl
  | event =>
    rw [turn]
    split
    · exact Or.inl rfl
    · exact Or.inl rfl
  | asks q contents =>
    rw [turn]
    split
    · exact Or.inl rfl
    · exact Or.inl rfl
  | forgets q =>
    rw [turn]
    split
    · exact Or.inl rfl
    · exact Or.inl rfl

/-- **Workers of one file.**  Whatever the order of their turns, and however often the file is
rewritten meanwhile, what they find new of it changes from one time to the next. -/
theorem admitted_isChain (h : Tracked p s) (hchain : s.admitted.IsChain (· ≠ ·))
    (turns : List Turn) : (s.run p turns).admitted.IsChain (· ≠ ·) := by
  induction turns generalizing s with
  | nil => exact hchain
  | cons t turns ih =>
    refine ih (h.turn t) ?_
    rcases admitted_turn p s t with hsame | ⟨text, hnew, hmore⟩
    · rwa [hsame]
    · rw [hmore, List.isChain_append]
      refine ⟨hchain, List.isChain_singleton _, ?_⟩
      intro last hlast first hfirst heq
      cases hfirst
      rw [h.latest, Option.mem_def.1 hlast, heq] at hnew
      exact hnew rfl

end Watched

end JobGraph.Inbox
