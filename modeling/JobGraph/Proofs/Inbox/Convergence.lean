import Mathlib.Data.List.Infix
import JobGraph.Proofs.Inbox.Workers
import JobGraph.Rehearsal.Sample

/-!
# What an inbox compiles last

A file of an inbox is rewritten as often as one likes, and in the end all workers that were called
for it have finished.  Nothing keeps these workers in the order in which they were called: one that
has read an older text may ask the filter, or compile, after one that has read a newer text, and
then the older text is compiled last.

But the text that the file has in the end is not lost.  It is compiled by some worker; and it is
compiled last if asking and compiling end as reading has, and so if no two workers of the file are
busy at the same time.  The main result is `Inbox.converges`.
-/

namespace JobGraph.Inbox

variable {p : Path} {s : Watched}

/-! ### What is compiled last -/

namespace Watched

namespace Tracked

/-- In the end the text of the file is the one that was read last. -/
lemma reads_of_quiet (h : Tracked p s) (hquiet : s.Quiet) : s.reads.getLast? = some s.text := by
  rcases h.waits with hwaits | hwaits | hwaits
  · exact absurd hquiet.1 (by omega)
  · exact absurd (hquiet.2 _ hwaits) (by simp)
  · exact hwaits

/-- It was compiled, or another text with the same hash. -/
lemma compiled_of_quiet (h : Tracked p s) (hquiet : s.Quiet) :
    ∃ t ∈ s.compiled, digest t = digest s.text := by
  have hasked : s.text ∈ s.asked := by
    rcases h.asks _ (List.mem_of_getLast? (h.reads_of_quiet hquiet)) with hasked | hw
    · exact hasked
    · exact absurd (hquiet.2 _ hw) (by simp)
  obtain ⟨t, ht, hdigest⟩ := h.covered _ hasked
  rcases h.compiles t ht with hcompiled | hw
  · exact ⟨t, hcompiled, hdigest⟩
  · exact absurd (hquiet.2 _ hw) (by simp)

/-- It was compiled last, if asking and compiling have ended as reading has. -/
lemma last_of_quiet (h : Tracked p s) (hquiet : s.Quiet)
    (hasked : s.asked.getLast? = s.reads.getLast?)
    (hcompiled : s.compiled.getLast? = s.admitted.getLast?) :
    s.compiled.getLast?.map digest = some (digest s.text) := by
  rw [hcompiled, ← h.latest, h.remembers, hasked, h.reads_of_quiet hquiet]
  rfl

end Tracked

end Watched

/-! ### Workers that are not busy at the same time -/

/-- The worker has read the file and has not finished. -/
def Worker.isBusy : Worker → Bool
  | .holding _ => true
  | .admitted _ => true
  | _ => false

namespace Watched

/-- The workers that are busy. -/
def busy (s : Watched) : List Worker :=
  s.workers.filter Worker.isBusy

/-- What has been asked about is what has been read, and what has been compiled is what was new, but
for the one worker that is busy. -/
inductive Aligned (s : Watched) : Prop where
  | idle (hbusy : s.busy = []) (hasked : s.asked = s.reads) (hcompiled : s.compiled = s.admitted)
  | holding (text : String) (hbusy : s.busy = [.holding text])
      (hasked : s.asked ++ [text] = s.reads) (hcompiled : s.compiled = s.admitted)
  | admitted (text : String) (hbusy : s.busy = [.admitted text]) (hasked : s.asked = s.reads)
      (hcompiled : s.compiled ++ [text] = s.admitted)

lemma mem_busy {i : ℕ} {v : Worker} (hi : s.workers[i]? = some v) (hv : v.isBusy = true) :
    v ∈ s.busy :=
  List.mem_filter.2 ⟨List.mem_of_getElem? hi, hv⟩

lemma exists_append_of_getElem? {ws : List Worker} {i : ℕ} {v : Worker} (hi : ws[i]? = some v) :
    ∃ front back, ws = front ++ v :: back ∧ ∀ w, ws.set i w = front ++ w :: back := by
  obtain ⟨hlt, hv⟩ := List.getElem?_eq_some_iff.1 hi
  refine ⟨ws.take i, ws.drop (i + 1), ?_, fun w => ?_⟩
  · rw [← hv, ← List.drop_eq_getElem_cons hlt, List.take_append_drop]
  · rw [List.set_eq_take_append_cons_drop, if_pos hlt]

/-- A busy worker is the only one that is, and so it alone decides who is busy after its turn. -/
lemma of_filter_eq_singleton {ws : List Worker} {i : ℕ} {v w : Worker} (hi : ws[i]? = some v)
    (hv : v.isBusy = true) (h : ws.filter Worker.isBusy = [w]) :
    v = w ∧ ∀ v', (ws.set i v').filter Worker.isBusy = [v'].filter Worker.isBusy := by
  obtain ⟨front, back, rfl, hset⟩ := exists_append_of_getElem? hi
  rw [List.filter_append, List.filter_cons_of_pos hv] at h
  cases hfront : front.filter Worker.isBusy with
  | nil =>
    rw [hfront, List.nil_append, List.cons.injEq] at h
    obtain ⟨heq, hback⟩ := h
    refine ⟨heq, fun v' => ?_⟩
    rw [hset, List.filter_append, hfront, List.nil_append, ← List.singleton_append,
      List.filter_append, hback, List.append_nil]
  | cons u us =>
    rw [hfront] at h
    simp at h

/-- If a worker gets busy and no two workers are, nobody was busy. -/
lemma of_length_filter_le {ws : List Worker} {i : ℕ} {v v' : Worker} (hi : ws[i]? = some v)
    (hv : v.isBusy = false) (hv' : v'.isBusy = true)
    (h : ((ws.set i v').filter Worker.isBusy).length ≤ 1) :
    ws.filter Worker.isBusy = [] ∧ (ws.set i v').filter Worker.isBusy = [v'] := by
  obtain ⟨front, back, rfl, hset⟩ := exists_append_of_getElem? hi
  rw [hset, List.filter_append, List.filter_cons_of_pos hv', List.length_append,
    List.length_cons] at h
  have hfront : front.filter Worker.isBusy = [] := List.length_eq_zero_iff.1 (by omega)
  have hback : back.filter Worker.isBusy = [] := List.length_eq_zero_iff.1 (by omega)
  rw [hset, List.filter_append, List.filter_append, List.filter_cons_of_neg (by simp [hv]),
    List.filter_cons_of_pos hv', hfront, hback]
  exact ⟨rfl, rfl⟩

namespace Aligned

lemma work (h : Aligned s) {i : ℕ} (hexclusive : (s.work p i).busy.length ≤ 1) :
    Aligned (s.work p i) := by
  cases hi : s.workers[i]? with
  | none => rwa [work_of_none hi]
  | some v =>
    cases v with
    | called =>
      rw [work_of_called hi] at hexclusive ⊢
      obtain ⟨hnobody, hbusy⟩ := of_length_filter_le hi rfl rfl hexclusive
      cases h with
      | idle _ hasked hcompiled => exact .holding s.text hbusy (by rw [hasked]) hcompiled
      | holding t h => exact absurd (hnobody.symm.trans h) (by simp)
      | admitted t h => exact absurd (hnobody.symm.trans h) (by simp)
    | holding text =>
      cases h with
      | idle h => exact absurd (mem_busy hi rfl) (by simp [h])
      | admitted t h => cases (of_filter_eq_singleton hi rfl h).1
      | holding t h hasked hcompiled =>
        obtain ⟨heq, hbusy⟩ := of_filter_eq_singleton hi rfl h
        cases heq
        cases hfresh : (s.filter.accept p text.toUTF8).1 with
        | true =>
          rw [work_of_new hi hfresh]
          exact .admitted text (hbusy _) hasked (by rw [hcompiled])
        | false =>
          rw [work_of_same hi hfresh]
          exact .idle (hbusy _) hasked hcompiled
    | admitted text =>
      cases h with
      | idle h => exact absurd (mem_busy hi rfl) (by simp [h])
      | holding t h => cases (of_filter_eq_singleton hi rfl h).1
      | admitted t h hasked hcompiled =>
        obtain ⟨heq, hbusy⟩ := of_filter_eq_singleton hi rfl h
        cases heq
        rw [work_of_admitted hi]
        exact .idle (hbusy _) hasked hcompiled
    | finished => rwa [work_of_finished hi]

/-- What does not change the workers and what they have done keeps them aligned. -/
lemma congr (h : Aligned s) {s' : Watched} (hbusy : s'.busy = s.busy) (hreads : s'.reads = s.reads)
    (hasked : s'.asked = s.asked) (hadmitted : s'.admitted = s.admitted)
    (hcompiled : s'.compiled = s.compiled) : Aligned s' := by
  cases h with
  | idle h₁ h₂ h₃ =>
    exact .idle (hbusy.trans h₁) (by rw [hasked, h₂, hreads]) (by rw [hcompiled, h₃, hadmitted])
  | holding t h₁ h₂ h₃ =>
    exact .holding t (hbusy.trans h₁) (by rw [hasked, h₂, hreads])
      (by rw [hcompiled, h₃, hadmitted])
  | admitted t h₁ h₂ h₃ =>
    exact .admitted t (hbusy.trans h₁) (by rw [hasked, h₂, hreads])
      (by rw [hcompiled, h₃, hadmitted])

lemma turn (h : Aligned s) {t : Turn} (hexclusive : (s.turn p t).busy.length ≤ 1) :
    Aligned (s.turn p t) := by
  cases t with
  | rewrite text => exact h.congr rfl rfl rfl rfl rfl
  | event =>
    rw [Watched.turn]
    split
    · exact h
    · refine h.congr ?_ rfl rfl rfl rfl
      rw [busy]
      split
      · simp [Worker.isBusy, busy]
      · rfl
  | worker i => exact h.work hexclusive
  | asks q contents =>
    rw [Watched.turn]
    split
    · exact h
    · exact h.congr rfl rfl rfl rfl rfl
  | forgets q =>
    rw [Watched.turn]
    split
    · exact h
    · exact h.congr rfl rfl rfl rfl rfl

lemma run (h : Aligned s) {turns : List Turn}
    (hexclusive : ∀ ts, ts <+: turns → (s.run p ts).busy.length ≤ 1) :
    Aligned (s.run p turns) := by
  induction turns generalizing s with
  | nil => exact h
  | cons t turns ih =>
    have hfirst : (s.turn p t).busy.length ≤ 1 := hexclusive [t] (by simp)
    exact ih (h.turn hfirst) fun ts hts => hexclusive (t :: ts) (by simpa using hts)

end Aligned

/-- If no two workers are busy at the same time, asking and compiling end as reading has. -/
lemma Tracked.last_of_exclusive (h : Tracked p s) (hquiet : s.Quiet) (haligned : Aligned s) :
    s.compiled.getLast?.map digest = some (digest s.text) := by
  have hbusy : s.busy = [] := by
    rw [busy, List.filter_eq_nil_iff]
    intro w hw
    rw [hquiet.2 w hw]
    decide
  cases haligned with
  | idle _ hasked hcompiled => exact h.last_of_quiet hquiet (by rw [hasked]) (by rw [hcompiled])
  | holding t h => exact absurd (hbusy.symm.trans h) (by simp)
  | admitted t h => exact absurd (hbusy.symm.trans h) (by simp)

end Watched

/-! ### The last text -/

open Watched in
/-- **The last text.**  Let all changes of a file have been handled and all workers have finished,
after any turns.  Then the text that the file has was compiled, or another one that is the same by
its hash; and this is what was compiled last, if the text that was asked about last is the one that
was read last, and the text that was compiled last is the one that was new last.  So it is if no two
workers of the file have been busy at the same time. -/
theorem converges {p : Path} {f : Inbox.Filter} {text : String} {turns : List Turn} {s : Watched}
    (hselects : f.selects p = true) (hnew : f.remembered? p = none)
    (hs : (start f text).run p turns = s) (hquiet : s.Quiet) :
    (∃ t ∈ s.compiled, digest t = digest s.text) ∧
      (s.asked.getLast? = s.reads.getLast? → s.compiled.getLast? = s.admitted.getLast? →
        s.compiled.getLast?.map digest = some (digest s.text)) ∧
      ((∀ ts, ts <+: turns → ((start f text).run p ts).busy.length ≤ 1) →
        s.compiled.getLast?.map digest = some (digest s.text)) := by
  have h : Tracked p s := by
    rw [← hs]
    exact (Tracked.start hselects hnew text).run turns
  refine ⟨h.compiled_of_quiet hquiet, h.last_of_quiet hquiet, fun hexclusive => ?_⟩
  have haligned : Aligned s := by
    rw [← hs]
    exact Aligned.run (.idle rfl rfl rfl) hexclusive
  exact h.last_of_exclusive hquiet haligned

/-- The file is rewritten when its first worker has read it, and a second worker reads it when the
first one has finished. -/
def inOrder : List Turn :=
  [.event, .worker 0, .rewrite "new", .event, .worker 0, .worker 0, .worker 1, .worker 1,
    .worker 1]

/-- The second worker takes all its turns before the first one asks about what it has read. -/
def overtaken : List Turn :=
  [.event, .worker 0, .rewrite "new", .event, .worker 1, .worker 1, .worker 1, .worker 0, .worker 0]

/-- A file of an inbox. -/
def requestFile : Path := ⟨"/inbox/a.request.json"⟩

/-- If the workers go on in the order in which they have read, the text of the file is compiled
last. -/
theorem converges_inOrder :
    ∃ f s, Inbox.Filter.ofPattern "*.request.json" = .ok f ∧
      (∀ ts, ts <+: inOrder → ((Watched.start f "old").run requestFile ts).busy.length ≤ 1) ∧
      (Watched.start f "old").run requestFile inOrder = s ∧ s.Quiet ∧
      s.compiled = ["old", "new"] ∧
      s.compiled.getLast?.map Watched.digest = some (Watched.digest s.text) := by
  have heval : (Inbox.Filter.ofPattern "*.request.json").toOption.map (fun f =>
      let s := (Watched.start f "old").run requestFile inOrder
      decide (f.selects requestFile = true ∧ f.remembered? requestFile = none ∧
        (∀ ts ∈ inOrder.inits, ((Watched.start f "old").run requestFile ts).busy.length ≤ 1) ∧
        s.Quiet ∧ s.compiled = ["old", "new"])) = some true := by
    decide +kernel
  obtain ⟨f, hf, heval⟩ := exists_of_map_toOption heval
  obtain ⟨hselects, hnew, hinits, hquiet, hall⟩ := of_decide_eq_true heval
  have hexclusive : ∀ ts, ts <+: inOrder →
      ((Watched.start f "old").run requestFile ts).busy.length ≤ 1 :=
    fun ts hts => hinits ts ((List.mem_inits ts inOrder).2 hts)
  refine ⟨f, _, hf, hexclusive, rfl, hquiet, hall, ?_⟩
  exact (converges hselects hnew rfl hquiet).2.2 hexclusive

/-- If the second worker overtakes the first one, the text that the file had before is compiled
last. -/
theorem not_converges_overtaken :
    ∃ f s, Inbox.Filter.ofPattern "*.request.json" = .ok f ∧ f.selects requestFile = true ∧
      (Watched.start f "old").run requestFile overtaken = s ∧ s.Quiet ∧ s.text = "new" ∧
      s.compiled = ["new", "old"] := by
  have heval : (Inbox.Filter.ofPattern "*.request.json").toOption.map (fun f =>
      let s := (Watched.start f "old").run requestFile overtaken
      decide (f.selects requestFile = true ∧ s.Quiet ∧ s.text = "new" ∧
        s.compiled = ["new", "old"])) = some true := by
    decide +kernel
  obtain ⟨f, hf, heval⟩ := exists_of_map_toOption heval
  obtain ⟨hselects, hquiet, htext, hcompiled⟩ := of_decide_eq_true heval
  exact ⟨f, _, hf, hselects, rfl, hquiet, htext, hcompiled⟩

end JobGraph.Inbox
