import JobGraph.Proofs.Inbox.Workers

/-!
# The event loop of an inbox

Events are handled one after another, each of them to its end before the next one, and between any
two of them others may do to the files what they like.  An event that makes the loop look at its
path brings a text if the path is one of requests and there is a text that the filter does not
remember for it; this text is compiled, and it is what the filter remembers from then on.

What the loop has compiled and forgotten is kept in a log beside the filter.  For every path the
filter remembers what the log says that was compiled last and not forgotten since, by
`Loop.remembers_run`.
-/

namespace JobGraph.Inbox

open Watched (digest)

/-! ### Events -/

namespace Event

/-- The path that an event tells of. -/
def path : Event → Path
  | .created p => p
  | .dataChanged p => p
  | .renamedFrom p => p
  | .renamedTo p => p
  | .removed p => p
  | .attributesChanged p => p

/-- The event makes the loop look at its path for a request. -/
def looks : Event → Bool
  | .removed _ => false
  | .attributesChanged _ => false
  | _ => true

/-- The event tells that a file was removed. -/
def isRemoval : Event → Bool
  | .removed _ => true
  | _ => false

/-- The event tells that a file has left its path: it was removed, or it was renamed. -/
def isLeaving : Event → Bool
  | .removed _ => true
  | .renamedFrom _ => true
  | _ => false

lemma isRemoval_of_looks {e : Event} (h : e.looks = true) : e.isRemoval = false := by
  cases e <;> first | rfl | cases h

end Event

variable {σ : Type} {w : World σ} {store : σ → FileStore} {c : Compiler} {f : Inbox.Filter}
  {e : Event} {p q : Path} {text : String}

/-! ### What an event brings -/

/-- Look at a path: the text that is to be compiled, if there is one, and the filter that remembers
it. -/
def look (p : Path) (f : Inbox.Filter) : Program (Option String × Inbox.Filter) := do
  if !f.selects p then pure (none, f)
  else
    let present : Bool ← Program.file (.isFile p)
    if !present then pure (none, f)
    else
      let answer : Except FileError String ← Program.file (.read p)
      match answer with
      | .error _ => pure (none, f)
      | .ok text => pure (if (f.accept p text.toUTF8).1 then some text else none,
          (f.accept p text.toUTF8).2)

/-- What comes of an event: a text that is to be compiled, if there is one, and the filter. -/
def admission (f : Inbox.Filter) (e : Event) : Program (Option String × Inbox.Filter) :=
  if e.looks then look e.path f
  else pure (none, if e.isRemoval then f.forget e.path else f)

/-- Compile a text, if there is one. -/
def compileBrought (c : Compiler) (token : String) : Option String → Program Unit
  | some text => compileText c token text
  | none => pure ()

lemma dispatch_eq_look (c : Compiler) (token : String) (p : Path) (f : Inbox.Filter) :
    dispatch c token p f = look p f >>= fun r => compileBrought c token r.1 >>= fun _ =>
      pure r.2 := by
  rw [dispatch, look]
  split
  · rfl
  · rw [bind_assoc]
    refine bind_congr fun present => ?_
    split
    · rfl
    · rw [bind_assoc]
      refine bind_congr fun answer => ?_
      cases answer with
      | error e => rfl
      | ok text =>
        rw [pure_bind]
        dsimp only
        split
        · rfl
        · rfl

/-- Handling an event is compiling what it brings. -/
lemma handle_eq_admission (c : Compiler) (token : String) (f : Inbox.Filter) (e : Event) :
    handle c token f e = admission f e >>= fun r => compileBrought c token r.1 >>= fun _ =>
      pure r.2 := by
  cases e with
  | removed p => rfl
  | attributesChanged p => rfl
  | created p => exact dispatch_eq_look c token p f
  | dataChanged p => exact dispatch_eq_look c token p f
  | renamedFrom p => exact dispatch_eq_look c token p f
  | renamedTo p => exact dispatch_eq_look c token p f

/-- The text of the file at a path. -/
def textAt? (files : FileStore) (p : Path) : Option String :=
  (files.contents? p).bind String.fromUTF8?

lemma textAt?_of_contents {files : FileStore} (h : files.contents? p = some text.toUTF8) :
    textAt? files p = some text := by
  rw [textAt?, h, Option.bind_some, Text.fromUTF8?_toUTF8]

lemma textAt?_eq_none {files : FileStore} (h : files.contents? p = none) :
    textAt? files p = none := by
  rw [textAt?, h, Option.bind_none]

/-- The text of the file at a path, if it is a request and the filter does not remember it there. -/
def sought? (f : Inbox.Filter) (p : Path) (files : FileStore) : Option String :=
  if f.selects p then (textAt? files p).filter fun text => (f.accept p text.toUTF8).1 else none

/-- The filter with a text admitted, if there is one. -/
def admitting (f : Inbox.Filter) (p : Path) : Option String → Inbox.Filter
  | some text => (f.accept p text.toUTF8).2
  | none => f

lemma sought?_eq_some_iff {files : FileStore} :
    sought? f p files = some text ↔ f.selects p = true ∧ textAt? files p = some text ∧
      f.remembered? p ≠ some (digest text) := by
  rw [sought?]
  split
  · next h =>
    rw [Option.filter_eq_some_iff, Inbox.Filter.fst_accept]
    simp [h, digest]
  · next h => simp [h]

lemma sought?_eq_none {files : FileStore} (h : textAt? files p = none) :
    sought? f p files = none := by
  rw [sought?, h]
  split
  · rfl
  · rfl

/-- Looking at a path gives what is sought there, and nothing else changes the filter. -/
lemma fst_run_look (hw : w.Filed store) (p : Path) (f : Inbox.Filter) (st : σ) :
    (w.run (look p f) st).1 = (sought? f p (store st), admitting f p (sought? f p (store st))) := by
  rw [look, sought?]
  cases hselects : f.selects p with
  | false => rfl
  | true =>
    rw [if_neg (by decide), if_pos rfl, World.run_bind]
    obtain hcontents | ⟨bytes, hcontents⟩ := Option.eq_none_or_eq_some ((store st).contents? p)
    · have habsent : FileStore.perform (.isFile p) (store st) = (false, store st) := by
        rw [FileStore.perform, hcontents]
        rfl
      obtain ⟨st₁, -, hrun₁⟩ := exists_run_file hw habsent
      rw [hrun₁, textAt?_eq_none hcontents]
      rfl
    · have hpresent : FileStore.perform (.isFile p) (store st) = (true, store st) := by
        rw [FileStore.perform, hcontents]
        rfl
      obtain ⟨st₁, hst₁, hrun₁⟩ := exists_run_file hw hpresent
      rw [hrun₁]
      dsimp only
      rw [if_neg (by decide), World.run_bind, textAt?, hcontents, Option.bind_some]
      cases htext : String.fromUTF8? bytes with
      | none =>
        have hread : FileStore.perform (.read p) (store st₁) =
            (.error (.notText (Utf8.refusal bytes)), store st₁) := by
          simp only [hst₁, FileStore.perform, hcontents, htext]
        obtain ⟨st₂, -, hrun₂⟩ := exists_run_file hw hread
        rw [hrun₂]
        rfl
      | some text =>
        have hread : FileStore.perform (.read p) (store st₁) = (.ok text, store st₁) := by
          simp only [hst₁, FileStore.perform, hcontents, htext]
        obtain ⟨st₂, -, hrun₂⟩ := exists_run_file hw hread
        rw [hrun₂]
        dsimp only
        rw [World.run_pure, Option.filter_some]
        cases hnew : (f.accept p text.toUTF8).1 with
        | true => rfl
        | false => exact congrArg (Prod.mk none) (Inbox.Filter.snd_accept hnew)

/-- What an event brings, by the files that the loop finds. -/
def brought? (f : Inbox.Filter) (e : Event) (files : FileStore) : Option String :=
  if e.looks then sought? f e.path files else none

/-- The filter after an event that has brought a text or none. -/
def filterAfter (f : Inbox.Filter) (e : Event) : Option String → Inbox.Filter
  | some text => (f.accept e.path text.toUTF8).2
  | none => if e.isRemoval then f.forget e.path else f

lemma fst_run_admission (hw : w.Filed store) (f : Inbox.Filter) (e : Event) (st : σ) :
    (w.run (admission f e) st).1 =
      (brought? f e (store st), filterAfter f e (brought? f e (store st))) := by
  rw [admission, brought?]
  split
  · next hlooks =>
    rw [fst_run_look hw]
    cases sought? f e.path (store st) with
    | some text => rfl
    | none => rw [filterAfter, Event.isRemoval_of_looks hlooks, if_neg (by decide), admitting]
  · rfl

/-! ### The loop -/

/-- An event with what others do to the world before it is handled.  The token is for the names of
staging files. -/
structure Occurrence (σ : Type) where
  others : σ → σ
  event : Event
  token : String

/-- What the loop has done about a path. -/
inductive Deed where
  | compiled (p : Path) (text : String)
  | forgot (p : Path)
deriving DecidableEq, Repr

/-- What is done about an event that has brought a text or none. -/
def deeds (e : Event) : Option String → List Deed
  | some text => [.compiled e.path text]
  | none => if e.isRemoval then [.forgot e.path] else []

/-- The loop between two events. -/
structure Loop (σ : Type) where
  filter : Inbox.Filter
  state : σ
  /-- What it has done, the last deed last. -/
  log : List Deed

namespace Loop

/-- The loop before the first event. -/
def start (f : Inbox.Filter) (st : σ) : Loop σ := ⟨f, st, []⟩

/-- The loop after one more event, when all that it brings has been compiled. -/
def step (w : World σ) (c : Compiler) (s : Loop σ) (o : Occurrence σ) : Loop σ :=
  let r := w.run (admission s.filter o.event) (o.others s.state)
  { filter := r.1.2
    state := (w.run (compileBrought c o.token r.1.1) r.2).2
    log := s.log ++ deeds o.event r.1.1 }

/-- The loop after events. -/
def run (w : World σ) (c : Compiler) (s : Loop σ) (os : List (Occurrence σ)) : Loop σ :=
  os.foldl (step w c) s

/-- The filter and the world are those that handling the event leaves. -/
lemma run_handle (w : World σ) (c : Compiler) (s : Loop σ) (o : Occurrence σ) :
    w.run (handle c o.token s.filter o.event) (o.others s.state) =
      ((s.step w c o).filter, (s.step w c o).state) := by
  rw [handle_eq_admission, World.run_bind, World.run_bind]
  rfl

variable {s : Loop σ} {o : Occurrence σ} {os : List (Occurrence σ)}

/-- What the event brings in this state of the loop. -/
def brings? (store : σ → FileStore) (s : Loop σ) (o : Occurrence σ) : Option String :=
  brought? s.filter o.event (store (o.others s.state))

lemma filter_step (hw : w.Filed store) :
    (s.step w c o).filter = filterAfter s.filter o.event (s.brings? store o) :=
  congrArg Prod.snd (fst_run_admission hw ..)

lemma log_step (hw : w.Filed store) :
    (s.step w c o).log = s.log ++ deeds o.event (s.brings? store o) := by
  simp only [step, fst_run_admission hw]
  rfl

/-- The pattern of the filter stays. -/
lemma selects_step (hw : w.Filed store) (p : Path) :
    (s.step w c o).filter.selects p = s.filter.selects p := by
  rw [filter_step hw]
  cases s.brings? store o with
  | some text => exact Inbox.Filter.selects_accept ..
  | none =>
    rw [filterAfter]
    split
    · exact Inbox.Filter.selects_forget ..
    · rfl

lemma selects_run (hw : w.Filed store) (p : Path) :
    (s.run w c os).filter.selects p = s.filter.selects p := by
  induction os generalizing s with
  | nil => rfl
  | cons o os ih => exact ih.trans (selects_step hw p)

/-! ### What is remembered -/

/-- What is left of a text that was compiled last, after one more deed. -/
def carry (p : Path) (last : Option String) : Deed → Option String
  | .compiled q text => if p.components = q.components then some text else last
  | .forgot q => if p.components = q.components then none else last

/-- The text that was compiled last for a path, if the path has not been forgotten since. -/
def last? (p : Path) (log : List Deed) : Option String :=
  log.foldl (carry p) none

/-- For every path, the filter remembers the digest of what was compiled last. -/
def Remembers (s : Loop σ) : Prop :=
  ∀ p, s.filter.remembered? p = (last? p s.log).map digest

lemma Remembers.step (hw : w.Filed store) (h : s.Remembers) : (s.step w c o).Remembers := by
  intro p
  rw [filter_step hw, log_step hw, last?, List.foldl_append, ← last?]
  cases s.brings? store o with
  | some text =>
    rw [filterAfter, Inbox.Filter.remembered?_accept, deeds, List.foldl_cons, List.foldl_nil,
      carry, h p]
    split
    · rfl
    · rfl
  | none =>
    rw [filterAfter, deeds]
    split
    · rw [Inbox.Filter.remembered?_forget, List.foldl_cons, List.foldl_nil, carry, h p]
      split
      · rfl
      · rfl
    · exact h p

/-- **Memory.**  After any events, the filter remembers for every path what was compiled last for it
and not forgotten since. -/
theorem remembers_run (hw : w.Filed store) (h : s.Remembers) : (s.run w c os).Remembers := by
  induction os generalizing s with
  | nil => exact h
  | cons o os ih => exact ih (h.step hw)

lemma remembers_start {pattern : String} (hf : Inbox.Filter.ofPattern pattern = .ok f) (st : σ) :
    (start f st).Remembers :=
  fun p => Inbox.Filter.remembered?_ofPattern hf p

end Loop

end JobGraph.Inbox
