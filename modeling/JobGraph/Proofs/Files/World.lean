import JobGraph.FailureReport
import JobGraph.Proofs.Files.Alike

/-!
# Worlds with files

The statements about files are made for every world that keeps its files in a file store, whatever
else it holds and however it answers the services: `World.Filed`.

A service may do with its own files what it likes.  That it leaves all others alone is
`World.ChangesOnly`, which carries over from the steps of a program to the program.
-/

namespace JobGraph.World

variable {σ α β : Type} {w : World σ} {store : σ → FileStore}

/-- The world keeps its files in a file store: it answers file operations, and they change its
files, as those of the store.  Nothing is said about the rest of its state and about services. -/
structure Filed (w : World σ) (store : σ → FileStore) : Prop where
  answer_eq : ∀ op s, (w.answer (.file op) s).1 = (FileStore.perform op (store s)).1
  store_eq : ∀ op s, store (w.answer (.file op) s).2 = (FileStore.perform op (store s)).2

/-- A world without services keeps nothing but files. -/
lemma filed_ofFiles : (World.ofFiles FileStore.perform).Filed id :=
  ⟨fun _ _ => rfl, fun _ _ => rfl⟩

/-- Going on after a file operation with what the store answers, from a state with the files that
the store then has. -/
lemma Filed.run_file_bind (hw : w.Filed store) (op : FileOp) (f : op.Answer → Program β) (s : σ) :
    ∃ s', store s' = (FileStore.perform op (store s)).2 ∧
      w.run (Program.file op >>= f) s = w.run (f (FileStore.perform op (store s)).1) s' := by
  refine ⟨(w.answer (.file op) s).2, hw.store_eq op s, ?_⟩
  rw [run_bind, ← hw.answer_eq]
  rfl

/-- One effect of a program that begins with a file operation is that operation. -/
lemma Filed.advance_file_bind (hw : w.Filed store) (op : FileOp) (f : op.Answer → Program β)
    (s : σ) :
    ∃ s', store s' = (FileStore.perform op (store s)).2 ∧
      w.advance (Program.file op >>= f, s) = (f (FileStore.perform op (store s)).1, s') := by
  refine ⟨(w.answer (.file op) s).2, hw.store_eq op s, ?_⟩
  rw [← hw.answer_eq]
  rfl

/-- Effects that touch paths in `D` leave a store as it is but for these paths. -/
lemma Filed.alike_answer (hw : w.Filed store) {D : Set (List Component)} (s : σ) (e : Effect)
    (s' : σ) (he : e.Touches D) (hs' : FileStore.Alike D (store s') (store s)) :
    FileStore.Alike D (store (w.answer e s').2) (store s) := by
  cases e with
  | file op =>
    rw [hw.store_eq]
    exact (FileStore.alike_perform op (store s') he).trans hs'
  | _ => exact he.elim

/-! ### Programs that keep to some files -/

/-- The program changes the files at some paths only. -/
def ChangesOnly (w : World σ) (store : σ → FileStore) (own : Path → Prop) (p : Program α) : Prop :=
  ∀ s q, ¬ own q → (store (w.run p s).2).contents? q = (store s).contents? q

variable {own : Path → Prop}

lemma changesOnly_pure (a : α) : ChangesOnly w store own (pure a) :=
  fun _ _ _ => rfl

lemma ChangesOnly.bind {p : Program α} {f : α → Program β} (hp : ChangesOnly w store own p)
    (hf : ∀ a, ChangesOnly w store own (f a)) : ChangesOnly w store own (p >>= f) := by
  intro s q hq
  rw [run_bind, hf _ _ q hq, hp s q hq]

lemma ChangesOnly.mono {own' : Path → Prop} {p : Program α} (h : ∀ q, own q → own' q)
    (hp : ChangesOnly w store own p) : ChangesOnly w store own' p :=
  fun s q hq => hp s q fun ho => hq (h q ho)

/-- Making a call again does not make it touch other files. -/
lemma ChangesOnly.attempt {call : Program (Except Error α)}
    (h : ChangesOnly w store own call) (more : Nat) :
    ChangesOnly w store own (Attempts.attempt call more) := by
  induction more with
  | zero => exact h
  | succ more ih =>
    refine h.bind fun answer => ?_
    cases answer with
    | ok a => exact changesOnly_pure _
    | error e => exact ih

lemma ChangesOnly.retry {call : Program (Except Error α)} (h : ChangesOnly w store own call)
    (retry : Attempts) : ChangesOnly w store own (retry.run call) :=
  h.attempt _

/-! ### Services that keep to their files -/

/-- The services of a compilation leave files alone but for those of the dashboard and those of the
status store. -/
structure Confined (w : World σ) (store : σ → FileStore) (v : Services)
    (records notices : Path → Prop) : Prop where
  resolve : ∀ sites paths, ChangesOnly w store (fun _ => False) (v.resolve sites paths)
  enterTask : ∀ r, ChangesOnly w store records (v.enterTask r)
  enterJob : ∀ r, ChangesOnly w store records (v.enterJob r)
  noteFailure : ∀ r, ChangesOnly w store notices (v.noteFailure r)

/-- Appending a line changes the file it is appended to. -/
lemma changesOnly_appendLine (hw : w.Filed store) (service : String) (file : Path)
    (d : Document) :
    ChangesOnly w store (fun q => q.same file) (Services.appendLine service file d) := by
  intro s q hq
  obtain ⟨s', hs', happend⟩ := hw.run_file_bind (.append file (Services.jsonLine d)) _ s
  rw [Services.appendLine, happend]
  rcases FileStore.perform_append (store s) file (Services.jsonLine d) with h | h
  · rw [h] at hs' ⊢
    rw [World.run_pure, hs']
  · rw [h] at hs' ⊢
    rw [World.run_pure, hs', ← FileStore.view_components, FileStore.view_put,
      Function.update_of_ne, FileStore.view_components]
    exact fun hk => hq (Path.same_iff.2 hk)

lemma changesOnly_keep (hw : w.Filed store) (service : String) (file : Option Path)
    (d : Document) :
    ChangesOnly w store (fun q => ∃ p ∈ file, q.same p) (Services.keep service file d) := by
  cases file with
  | none => exact changesOnly_pure _
  | some file =>
    exact (changesOnly_appendLine hw service file d).mono fun q hq => ⟨file, rfl, hq⟩

/-- The services of a configuration change the files that it names. -/
lemma confined_ofFiles (hw : w.Filed store) (catalog : Catalog) (records failures : Option Path) :
    Confined w store (Services.ofFiles catalog records failures)
      (fun q => ∃ p ∈ records, q.same p) (fun q => ∃ p ∈ failures, q.same p) :=
  { resolve := fun _ _ => changesOnly_pure _
    enterTask := fun _ => changesOnly_keep hw _ _ _
    enterJob := fun _ => changesOnly_keep hw _ _ _
    noteFailure := fun _ => changesOnly_keep hw _ _ _ }

end JobGraph.World
