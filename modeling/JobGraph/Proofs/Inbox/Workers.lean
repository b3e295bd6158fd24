import Mathlib.Data.List.Basic
import JobGraph.Inbox.Watch
import JobGraph.Proofs.Files.World
import JobGraph.Proofs.Inbox.Memory
import JobGraph.Proofs.Text.Encoded

/-!
# Workers of an inbox

For every change of a file of an inbox a worker is called, and the workers that are called for one
file take turns: a worker reads the file, asks the filter whether what it has read is new, and
compiles it if it is.  Only the asking is exclusive: between any two of these steps the file may be
rewritten, and other workers of this file or of other ones may take their turns.

Whatever the order of turns, the text of the file is waiting for somebody to read it or was read
last, nothing that was read goes unasked, and what was asked about has the hash of something that
was new.  `Watched.Tracked` puts this together, and every turn keeps it.  A worker that is left alone
does what `Inbox.dispatch` does with a change.
-/

namespace JobGraph.Inbox

/-! ### Turns -/

/-- How far a worker has come. -/
inductive Worker where
  | called
  /-- It has read the file. -/
  | holding (text : String)
  /-- What it has read is new. -/
  | admitted (text : String)
  | finished
deriving DecidableEq, Repr

/-- A file of an inbox and the workers that were called for it. -/
structure Watched where
  /-- What the file holds. -/
  text : String
  /-- The number of changes that no worker has been called for. -/
  events : ℕ
  filter : Inbox.Filter
  /-- The workers in the order in which they were called. -/
  workers : List Worker
  /-- What the workers have read, the last one last. -/
  reads : List String
  /-- What they have asked about, the last one last. -/
  asked : List String
  /-- What was new of it. -/
  admitted : List String
  /-- What they have compiled, the last one last. -/
  compiled : List String

/-- What may happen next. -/
inductive Turn where
  /-- Another text is put into the file. -/
  | rewrite (text : String)
  /-- The event loop comes to the next change of the file. -/
  | event
  /-- A worker goes one step further. -/
  | worker (i : ℕ)
  /-- A worker of another file asks the filter. -/
  | asks (q : Path) (contents : ByteArray)
  /-- Another file is removed. -/
  | forgets (q : Path)

variable {p : Path} {s : Watched}

namespace Watched

/-- The worker reads the file, asks the filter or compiles. -/
def work (p : Path) (s : Watched) (i : ℕ) : Watched :=
  match s.workers[i]? with
  | some .called =>
    { s with workers := s.workers.set i (.holding s.text), reads := s.reads ++ [s.text] }
  | some (.holding text) =>
    let (fresh, filter) := s.filter.accept p text.toUTF8
    { s with
      filter
      workers := s.workers.set i (if fresh then .admitted text else .finished)
      asked := s.asked ++ [text]
      admitted := if fresh then s.admitted ++ [text] else s.admitted }
  | some (.admitted text) =>
    { s with workers := s.workers.set i .finished, compiled := s.compiled ++ [text] }
  | _ => s

/-- What a turn makes of the file at a path and its workers. -/
def turn (p : Path) (s : Watched) : Turn → Watched
  | .rewrite text => { s with text, events := s.events + 1 }
  | .event =>
    if s.events = 0 then s
    else
      { s with
        events := s.events - 1
        workers := if s.filter.selects p then s.workers ++ [.called] else s.workers }
  | .worker i => s.work p i
  | .asks q contents =>
    if q.components = p.components then s
    else { s with filter := (s.filter.accept q contents).2 }
  | .forgets q =>
    if q.components = p.components then s else { s with filter := s.filter.forget q }

/-- Turns one after another. -/
def run (p : Path) (s : Watched) (turns : List Turn) : Watched :=
  turns.foldl (turn p) s

/-- The file holds a text, and no worker has been called for it. -/
def start (f : Inbox.Filter) (text : String) : Watched :=
  ⟨text, 1, f, [], [], [], [], []⟩

/-- All changes have been handled, and all workers have finished. -/
def Quiet (s : Watched) : Prop :=
  s.events = 0 ∧ ∀ w ∈ s.workers, w = .finished

instance (s : Watched) : Decidable s.Quiet :=
  inferInstanceAs (Decidable (_ ∧ _))

/-- What a filter remembers of a text. -/
def digest (text : String) : String :=
  Blake3.hash text.toUTF8

/-! ### What every turn keeps -/

/-- What is known after any turns. -/
structure Tracked (p : Path) (s : Watched) : Prop where
  selects : s.filter.selects p = true
  /-- The text of the file was read last, or there is somebody to read it. -/
  waits : 0 < s.events ∨ .called ∈ s.workers ∨ s.reads.getLast? = some s.text
  asks : ∀ text ∈ s.reads, text ∈ s.asked ∨ .holding text ∈ s.workers
  compiles : ∀ text ∈ s.admitted, text ∈ s.compiled ∨ .admitted text ∈ s.workers
  /-- The filter remembers what it was asked about last. -/
  remembers : s.filter.remembered? p = s.asked.getLast?.map digest
  /-- This is what it admitted last, or the same by its digest. -/
  latest : s.filter.remembered? p = s.admitted.getLast?.map digest
  covered : ∀ text ∈ s.asked, ∃ text' ∈ s.admitted, digest text' = digest text

lemma work_of_called {i : ℕ} (hi : s.workers[i]? = some .called) :
    s.work p i =
      { s with workers := s.workers.set i (.holding s.text), reads := s.reads ++ [s.text] } := by
  rw [work, hi]

lemma work_of_new {i : ℕ} {text : String} (hi : s.workers[i]? = some (.holding text))
    (hfresh : (s.filter.accept p text.toUTF8).1 = true) :
    s.work p i = { s with
      filter := (s.filter.accept p text.toUTF8).2
      workers := s.workers.set i (.admitted text)
      asked := s.asked ++ [text]
      admitted := s.admitted ++ [text] } := by
  rw [work, hi]
  simp only [hfresh, if_true]

lemma work_of_same {i : ℕ} {text : String} (hi : s.workers[i]? = some (.holding text))
    (hfresh : (s.filter.accept p text.toUTF8).1 = false) :
    s.work p i = { s with
      filter := (s.filter.accept p text.toUTF8).2
      workers := s.workers.set i .finished
      asked := s.asked ++ [text] } := by
  rw [work, hi]
  simp only [hfresh, Bool.false_eq_true, if_false]

lemma work_of_admitted {i : ℕ} {text : String} (hi : s.workers[i]? = some (.admitted text)) :
    s.work p i =
      { s with workers := s.workers.set i .finished, compiled := s.compiled ++ [text] } := by
  rw [work, hi]

lemma work_of_finished {i : ℕ} (hi : s.workers[i]? = some .finished) : s.work p i = s := by
  rw [work, hi]

lemma work_of_none {i : ℕ} (hi : s.workers[i]? = none) : s.work p i = s := by
  rw [work, hi]

/-- A worker that is elsewhere is not touched when one goes a step further. -/
lemma mem_set {ws : List Worker} {i : ℕ} {v w : Worker} (hi : ws[i]? = some v) (hw : w ∈ ws)
    (hne : w ≠ v) (v' : Worker) : w ∈ ws.set i v' := by
  obtain ⟨j, hj⟩ := List.mem_iff_getElem?.1 hw
  have hij : i ≠ j := by
    rintro rfl
    rw [hi] at hj
    exact hne (Option.some.inj hj).symm
  exact List.mem_iff_getElem?.2 ⟨j, by rw [List.getElem?_set_ne hij, hj]⟩

lemma mem_set_self {ws : List Worker} {i : ℕ} {v : Worker} (hi : ws[i]? = some v) (v' : Worker) :
    v' ∈ ws.set i v' := by
  obtain ⟨hlt, -⟩ := List.getElem?_eq_some_iff.1 hi
  exact List.mem_set hlt v'

namespace Tracked

lemma read (h : Tracked p s) {i : ℕ} (hi : s.workers[i]? = some .called) :
    Tracked p (s.work p i) := by
  rw [work_of_called hi]
  exact
    { h with
      waits := Or.inr (Or.inr List.getLast?_concat)
      asks := by
        intro text htext
        rcases List.mem_append.1 htext with htext | htext
        · exact (h.asks text htext).imp_right fun hw => mem_set hi hw (by simp) _
        · rw [List.mem_singleton.1 htext]
          exact Or.inr (mem_set_self hi _)
      compiles := fun text htext =>
        (h.compiles text htext).imp_right fun hw => mem_set hi hw (by simp) _ }

/-- What was asked about last is what the filter remembers, whether it was new or not. -/
lemma ask (h : Tracked p s) {i : ℕ} {text : String}
    (hi : s.workers[i]? = some (.holding text)) : Tracked p (s.work p i) := by
  have hself : (s.filter.accept p text.toUTF8).2.remembered? p = some (digest text) := by
    rw [Inbox.Filter.remembered?_accept, if_pos rfl]
    rfl
  have hlast : ∀ ts : List String, (ts ++ [text]).getLast?.map digest = some (digest text) := by
    intro ts
    rw [List.getLast?_concat]
    rfl
  have hasks : ∀ w, ∀ t ∈ s.reads, t ∈ s.asked ++ [text] ∨ .holding t ∈ s.workers.set i w := by
    intro w t ht
    by_cases heq : t = text
    · exact Or.inl (by simp [heq])
    · exact (h.asks t ht).imp (fun hmem => List.mem_append_left _ hmem)
        fun hw => mem_set hi hw (by simpa using heq) w
  have hwaits : ∀ w, 0 < s.events ∨ .called ∈ s.workers.set i w ∨
      s.reads.getLast? = some s.text :=
    fun w => h.waits.imp_right (Or.imp_left fun hw => mem_set hi hw (by simp) w)
  have hcompiles : ∀ w, ∀ t ∈ s.admitted, t ∈ s.compiled ∨ .admitted t ∈ s.workers.set i w :=
    fun w t ht => (h.compiles t ht).imp_right fun hw => mem_set hi hw (by simp) w
  cases hfresh : (s.filter.accept p text.toUTF8).1 with
  | true =>
    rw [work_of_new hi hfresh]
    exact
      { selects := (Inbox.Filter.selects_accept ..).trans h.selects
        waits := hwaits _
        asks := hasks _
        compiles := by
          intro t ht
          rcases List.mem_append.1 ht with ht | ht
          · exact hcompiles _ t ht
          · rw [List.mem_singleton.1 ht]
            exact Or.inr (mem_set_self hi _)
        remembers := hself.trans (hlast _).symm
        latest := hself.trans (hlast _).symm
        covered := by
          intro t ht
          rcases List.mem_append.1 ht with ht | ht
          · obtain ⟨t', ht', hhash⟩ := h.covered t ht
            exact ⟨t', List.mem_append_left _ ht', hhash⟩
          · exact ⟨t, List.mem_append_right _ ht, rfl⟩ }
  | false =>
    -- the filter remembers what it admitted last, and this has the same digest
    have hsame : s.filter.remembered? p = some (digest text) := by
      by_contra hne
      rw [Inbox.Filter.fst_accept.2 hne] at hfresh
      cases hfresh
    have hlatest := h.latest
    rw [hsame] at hlatest
    obtain ⟨t', ht', hhash⟩ := Option.map_eq_some_iff.1 hlatest.symm
    rw [work_of_same hi hfresh]
    exact
      { selects := (Inbox.Filter.selects_accept ..).trans h.selects
        waits := hwaits _
        asks := hasks _
        compiles := hcompiles _
        remembers := hself.trans (hlast _).symm
        latest := hself.trans hlatest
        covered := by
          intro t ht
          rcases List.mem_append.1 ht with ht | ht
          · exact h.covered t ht
          · rw [List.mem_singleton.1 ht]
            exact ⟨t', List.mem_of_getLast? ht', hhash⟩ }

lemma compile (h : Tracked p s) {i : ℕ} {text : String}
    (hi : s.workers[i]? = some (.admitted text)) : Tracked p (s.work p i) := by
  rw [work_of_admitted hi]
  exact
    { h with
      waits := h.waits.imp_right (Or.imp_left fun hw => mem_set hi hw (by simp) _)
      asks := fun t ht => (h.asks t ht).imp_right fun hw => mem_set hi hw (by simp) _
      compiles := by
        intro t ht
        by_cases heq : t = text
        · exact Or.inl (by simp [heq])
        · exact (h.compiles t ht).imp (fun hmem => List.mem_append_left _ hmem)
            fun hw => mem_set hi hw (by simpa using heq) _ }

lemma work (h : Tracked p s) (i : ℕ) : Tracked p (s.work p i) := by
  cases hi : s.workers[i]? with
  | none => rwa [work_of_none hi]
  | some w =>
    cases w with
    | called => exact h.read hi
    | holding text => exact h.ask hi
    | admitted text => exact h.compile hi
    | finished => rwa [work_of_finished hi]

/-- What happens to other files is of no matter. -/
lemma elsewhere (h : Tracked p s) {f : Inbox.Filter} (hselects : f.selects p = s.filter.selects p)
    (hremembers : f.remembered? p = s.filter.remembered? p) : Tracked p { s with filter := f } :=
  { h with
    selects := hselects.trans h.selects
    remembers := hremembers.trans h.remembers
    latest := hremembers.trans h.latest }

lemma turn (h : Tracked p s) (t : Turn) : Tracked p (s.turn p t) := by
  cases t with
  | rewrite text => exact { h with waits := Or.inl (Nat.succ_pos _) }
  | event =>
    rw [Watched.turn]
    split
    · exact h
    · rw [if_pos h.selects]
      exact { h with
        waits := Or.inr (Or.inl (by simp))
        asks := fun t ht => (h.asks t ht).imp_right fun hw => List.mem_append_left _ hw
        compiles := fun t ht => (h.compiles t ht).imp_right fun hw => List.mem_append_left _ hw }
  | worker i => exact h.work i
  | asks q contents =>
    rw [Watched.turn]
    split
    · exact h
    · next hq => exact h.elsewhere (by simp) (by simp [Ne.symm hq])
  | forgets q =>
    rw [Watched.turn]
    split
    · exact h
    · next hq => exact h.elsewhere (by simp) (by simp [Ne.symm hq])

/-- So it is known after any turns. -/
lemma run (h : Tracked p s) (turns : List Turn) : Tracked p (s.run p turns) := by
  induction turns generalizing s with
  | nil => exact h
  | cons t turns ih => exact ih (h.turn t)

lemma start {f : Inbox.Filter} (hselects : f.selects p = true) (hnew : f.remembered? p = none)
    (text : String) : Tracked p (.start f text) where
  selects := hselects
  waits := Or.inl Nat.one_pos
  asks := by simp [Watched.start]
  compiles := by simp [Watched.start]
  remembers := hnew
  latest := hnew
  covered := by simp [Watched.start]

end Tracked

/-! ### A worker that is left alone -/

lemma getElem?_append_length (ws : List Worker) (w : Worker) :
    (ws ++ [w])[ws.length]? = some w := by
  simp

lemma set_append_length (ws : List Worker) (w w' : Worker) :
    (ws ++ [w]).set ws.length w' = ws ++ [w'] := by
  simp

/-- A worker that takes its turns at once asks about the text that the file has, and compiles it
if it is new. -/
lemma run_alone (hevents : 0 < s.events) (hselects : s.filter.selects p = true) :
    s.run p [.event, .worker s.workers.length, .worker s.workers.length,
        .worker s.workers.length] =
      { s with
        events := s.events - 1
        filter := (s.filter.accept p s.text.toUTF8).2
        workers := s.workers ++ [.finished]
        reads := s.reads ++ [s.text]
        asked := s.asked ++ [s.text]
        admitted := if (s.filter.accept p s.text.toUTF8).1 then s.admitted ++ [s.text]
          else s.admitted
        compiled := if (s.filter.accept p s.text.toUTF8).1 then s.compiled ++ [s.text]
          else s.compiled } := by
  have hevent : s.turn p .event =
      { s with events := s.events - 1, workers := s.workers ++ [.called] } := by
    rw [turn, if_neg (by omega), if_pos hselects]
  rw [run, List.foldl_cons, hevent]
  generalize haccept : s.filter.accept p s.text.toUTF8 = answer
  obtain ⟨fresh, filter⟩ := answer
  cases fresh with
  | true =>
    simp only [List.foldl_cons, List.foldl_nil, turn, work, getElem?_append_length,
      set_append_length, haccept, if_true]
  | false =>
    simp only [List.foldl_cons, List.foldl_nil, turn, work, getElem?_append_length,
      set_append_length, haccept, Bool.false_eq_true, if_false]

end Watched

/-- Looking at a file leaves all files as they are. -/
lemma exists_run_file {σ : Type} {w : World σ} {store : σ → FileStore} (hw : w.Filed store)
    {op : FileOp} {st : σ} {answer : op.Answer}
    (h : FileStore.perform op (store st) = (answer, store st)) :
    ∃ st', store st' = store st ∧ w.run (Program.file op) st = (answer, st') := by
  refine ⟨(w.answer (.file op) st).2, by rw [hw.store_eq, h], ?_⟩
  have hanswer : (w.answer (.file op) st).1 = answer := by rw [hw.answer_eq, h]
  rw [← hanswer]
  rfl

/-- A change that is handled at once is handled by a worker that is left alone. -/
lemma run_dispatch {σ : Type} {w : World σ} {store : σ → FileStore} (hw : w.Filed store)
    (c : Compiler) (token : String) {f : Inbox.Filter} {p : Path} {st : σ} {text : String}
    (hselects : f.selects p = true) (htext : (store st).contents? p = some text.toUTF8) :
    ∃ st', store st' = store st ∧ w.run (dispatch c token p f) st =
      w.run (do
        if (f.accept p text.toUTF8).1 then compileText c token text
        pure (f.accept p text.toUTF8).2) st' := by
  have hpresent : FileStore.perform (.isFile p) (store st) = (true, store st) := by
    rw [FileStore.perform, htext]
    rfl
  obtain ⟨st₁, hst₁, hrun₁⟩ := exists_run_file hw hpresent
  have hread : FileStore.perform (.read p) (store st₁) = (.ok text, store st₁) := by
    simp only [hst₁, FileStore.perform, htext, Text.fromUTF8?_toUTF8]
  obtain ⟨st₂, hst₂, hrun₂⟩ := exists_run_file hw hread
  refine ⟨st₂, hst₂.trans hst₁, ?_⟩
  rw [dispatch, if_neg (by simp [hselects]), World.run_bind, hrun₁]
  dsimp only
  rw [if_neg (by decide), World.run_bind, hrun₂]

end JobGraph.Inbox
