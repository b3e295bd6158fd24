import Mathlib.Data.List.Induction
import JobGraph.Proofs.Files.Alike
import JobGraph.Proofs.Files.Faults
import JobGraph.Proofs.Files.Order
import JobGraph.Proofs.Text.Encoded
import JobGraph.Proofs.Text.Utf8

/-!
# Stores and their histories

What a store shows of its files and directories (`FileStore.picture`) can be told from what has
happened to it: from the calls that set it up, and from the operations it was asked for and their
answers.  An operation that failed is no part of that.  Which operations fail can be told from the
history as well, so that the answers are those of a map from paths to contents, in which two
spellings of a path are the same.

The main result is `FileStore.faithful_to_history`.
-/

namespace JobGraph.FileStore

/-! ### Pictures -/

/-- What a store shows: its files and its directories, by the components of their paths. -/
structure Picture where
  files : Contents
  dirs : Set (List Component)

/-- The picture of a store. -/
def picture (s : FileStore) : Picture := ⟨s.view, Path.keys s.dirs⟩

namespace Picture

/-- Nothing is there. -/
def blank : Picture := ⟨fun _ => none, ∅⟩

/-- The picture with other contents at a path, or without a file there. -/
def set (v : Picture) (p : Path) (contents? : Option ByteArray) : Picture :=
  { v with files := Function.update v.files p.components contents? }

end Picture

@[simp]
lemma picture_put (s : FileStore) (p : Path) (b : ByteArray) :
    (s.put p b).picture = s.picture.set p (some b) := by
  rw [picture, view_put]
  rfl

@[simp]
lemma picture_erase (s : FileStore) (p : Path) :
    (s.erase p).picture = s.picture.set p none := by
  rw [picture, view_erase]
  rfl

/-! ### Events -/

/-- How a store is set up. -/
inductive SetUp where
  | addFile (p : Path) (contents : ByteArray)
  | refuseWrites (p : Path)
  | refuseWritesFrom (start : String)
  | refuseRenames (p : Path)

/-- What is done with a store. -/
inductive Call where
  | setUp (c : SetUp)
  | ask (op : FileOp)

/-- What has happened to a store. -/
inductive Event where
  | setUp (c : SetUp)
  | asked (op : FileOp) (answer : op.Answer)

/-- What happens at a call. -/
def event (s : FileStore) : Call → Event
  | .setUp c => .setUp c
  | .ask op => .asked op (perform op s).1

/-- The store after a call. -/
def after (s : FileStore) : Call → FileStore
  | .setUp (.addFile p contents) => s.put p contents
  | .setUp (.refuseWrites p) => s.refuseWrites p
  | .setUp (.refuseWritesFrom start) => s.refuseWritesFrom start
  | .setUp (.refuseRenames p) => s.refuseRenames p
  | .ask op => (perform op s).2

namespace Event

/-- The picture after an event.  An operation that failed leaves it as it was; the others change
the paths that they name, and nothing else. -/
def leaves (v : Picture) : Event → Picture
  | .setUp (.addFile p b) => v.set p (some b)
  | .asked (.write p b) (.ok _) => v.set p (some b)
  | .asked (.append p b) (.ok _) => v.set p (some ((v.files p.components).getD .empty ++ b))
  -- the source is gone, unless it is the target
  | .asked (.rename p q) (.ok _) => (v.set p none).set q (v.files p.components)
  | .asked (.remove p) (.ok _) => v.set p none
  | .asked (.makeDir p) (.ok _) => { v with dirs := insert p.components v.dirs }
  | _ => v

/-- From the event on, writing to the path is refused. -/
def RefusesWrite (p : Path) : Event → Prop
  | .setUp (.refuseWrites q) => p.components = q.components
  | .setUp (.refuseWritesFrom start) => start.toList <+: p.text.toList
  | _ => False

/-- From the event on, renaming to the path is refused. -/
def RefusesRename (p : Path) : Event → Prop
  | .setUp (.refuseRenames q) => p.components = q.components
  | _ => False

end Event

/-! ### Histories -/

/-- What has happened to a store since it was empty, the last event last. -/
abbrev History := List Event

namespace History

variable (h : History)

/-- What the events have left, one after another. -/
def picture : Picture :=
  h.foldl Event.leaves .blank

/-- Writing to the path was set up to fail. -/
def RefusesWrite (p : Path) : Prop :=
  ∃ e ∈ h, e.RefusesWrite p

/-- Renaming to the path was set up to fail. -/
def RefusesRename (p : Path) : Prop :=
  ∃ e ∈ h, e.RefusesRename p

/-- The answer is the one that the history calls for. -/
def Answers : (op : FileOp) → op.Answer → Prop
  | .read p, .ok text => h.picture.files p.components = some text.toUTF8
  | .read p, .error e =>
    (h.picture.files p.components = none ∧ e = .notFound p) ∨
      ∃ b, h.picture.files p.components = some b ∧ (∀ text : String, text.toUTF8 ≠ b) ∧
        e = .notText (Utf8.refusal b)
  | .write p _, .ok _ => ¬ h.RefusesWrite p
  | .write p _, .error e => h.RefusesWrite p ∧ e = .writeRefused p
  | .append p _, .ok _ => ¬ h.RefusesWrite p
  | .append p _, .error e => h.RefusesWrite p ∧ e = .writeRefused p
  | .rename p q, .ok _ => ¬ h.RefusesRename q ∧ h.picture.files p.components ≠ none
  | .rename p q, .error e =>
    (h.RefusesRename q ∧ e = .renameRefused q) ∨
      (¬ h.RefusesRename q ∧ h.picture.files p.components = none ∧ e = .notFound p)
  | .remove p, .ok _ => h.picture.files p.components ≠ none
  | .remove p, .error e => h.picture.files p.components = none ∧ e = .notFound p
  | .makeDir _, answer => answer = .ok ()
  | .exists p, answer =>
    answer = true ↔ h.picture.files p.components ≠ none ∨ p.components ∈ h.picture.dirs
  | .isFile p, answer => answer = true ↔ h.picture.files p.components ≠ none

end History

/-- An empty store after calls, and its history. -/
def run (calls : List Call) : FileStore × History :=
  calls.foldl (fun r c => (r.1.after c, r.2 ++ [r.1.event c])) (empty, [])

/-! ### One call -/

variable {s : FileStore} {h : History}

namespace Performed

variable {op : FileOp} {answer : op.Answer} {t : FileStore}

/-- Only making a directory changes the directories. -/
lemma dirs_eq (ht : Performed s op answer t) (hop : ∀ p, op ≠ .makeDir p) : t.dirs = s.dirs := by
  cases ht with
  | makeDir p => exact absurd rfl (hop p)
  | _ => rfl

/-- **What an operation leaves.**  The picture afterwards can be told from the one before and the
answer. -/
lemma picture_eq (ht : Performed s op answer t) :
    t.picture = (Event.asked op answer).leaves s.picture := by
  cases ht with
  | failed hfailed =>
    cases op with
    | «exists» p => rfl
    | isFile p => rfl
    | _ =>
      cases hfailed
      rfl
  | read p text => rfl
  | write p b => exact picture_put s p b
  | append p b => exact picture_put s p _
  | @rename p q b hb =>
    have hsource : s.picture.files p.components = some b := hb
    rw [picture_put, picture_erase, ← hsource]
    rfl
  | remove p => exact picture_erase s p
  | makeDir p =>
    rw [picture, Path.keys_cons]
    rfl
  | «exists» p answer => rfl
  | isFile p answer => rfl

end Performed

/-- What a call leaves can be told from what happens at it. -/
lemma picture_after (c : Call) (s : FileStore) :
    (s.after c).picture = (s.event c).leaves s.picture := by
  cases c with
  | setUp c =>
    cases c with
    | addFile p b => exact picture_put s p b
    | refuseWrites p => rfl
    | refuseWritesFrom start => rfl
    | refuseRenames p => rfl
  | ask op => exact (performed op s).picture_eq

/-- Writing is refused from the call on that asks for it. -/
lemma refusesWrite_after (c : Call) (s : FileStore) (p : Path) :
    (s.after c).refusesWrite p = true ↔ s.refusesWrite p = true ∨ (s.event c).RefusesWrite p := by
  cases c with
  | setUp c =>
    cases c with
    | addFile q b => simp [after, event, put, refusesWrite, Event.RefusesWrite]
    | refuseWrites q =>
      simp [after, event, refuseWrites, refusesWrite, Event.RefusesWrite, Path.same_iff, or_comm,
        or_left_comm]
    | refuseWritesFrom start =>
      simp only [after, event, refuseWritesFrom, refusesWrite, Event.RefusesWrite, List.any_cons,
        Bool.or_eq_true, List.isPrefixOf_iff_prefix]
      tauto
    | refuseRenames q => simp [after, event, refuseRenames, refusesWrite, Event.RefusesWrite]
  | ask op =>
    have halike : Alike Set.univ (perform op s).2 s := alike_perform op s fun _ _ => trivial
    simp [after, event, refusesWrite, Event.RefusesWrite, halike.refusedWrites,
      halike.refusedStarts]

lemma refusesRename_after (c : Call) (s : FileStore) (p : Path) :
    (s.after c).refusedRenames.any p.same = true ↔
      s.refusedRenames.any p.same = true ∨ (s.event c).RefusesRename p := by
  cases c with
  | setUp c =>
    cases c with
    | addFile q b => simp [after, event, put, Event.RefusesRename]
    | refuseWrites q => simp [after, event, refuseWrites, Event.RefusesRename]
    | refuseWritesFrom start => simp [after, event, refuseWritesFrom, Event.RefusesRename]
    | refuseRenames q =>
      simp [after, event, refuseRenames, Event.RefusesRename, Path.same_iff, or_comm]
  | ask op =>
    have halike : Alike Set.univ (perform op s).2 s := alike_perform op s fun _ _ => trivial
    simp [after, event, Event.RefusesRename, halike.refusedRenames]

lemma InOrder.after (hs : s.InOrder) (c : Call) : (s.after c).InOrder := by
  cases c with
  | setUp c =>
    cases c with
    | addFile p b => exact hs.put p b
    | refuseWrites p => exact hs
    | refuseWritesFrom start => exact hs
    | refuseRenames p => exact hs
  | ask op => exact (performed op s).inOrder hs

/-! ### All calls -/

/-- The store is as its history says. -/
structure Reflects (s : FileStore) (h : History) : Prop where
  picture : s.picture = h.picture
  refusesWrite : ∀ p, s.refusesWrite p = true ↔ h.RefusesWrite p
  refusesRename : ∀ p, s.refusedRenames.any p.same = true ↔ h.RefusesRename p
  inOrder : s.InOrder

namespace Reflects

lemma start : Reflects empty [] where
  picture := congrArg (Picture.mk _) Path.keys_nil
  refusesWrite p := by simp [FileStore.refusesWrite, empty, History.RefusesWrite]
  refusesRename p := by simp [empty, History.RefusesRename]
  inOrder := inOrder_empty

lemma step (hs : Reflects s h) (c : Call) : Reflects (s.after c) (h ++ [s.event c]) where
  picture := by
    rw [picture_after, hs.picture, History.picture, History.picture, List.foldl_concat]
  refusesWrite p := by
    rw [refusesWrite_after, hs.refusesWrite]
    simp [History.RefusesWrite, or_and_right, exists_or]
  refusesRename p := by
    rw [refusesRename_after, hs.refusesRename]
    simp [History.RefusesRename, or_and_right, exists_or]
  inOrder := hs.inOrder.after c

lemma run (calls : List Call) : Reflects (run calls).1 (run calls).2 := by
  induction calls using List.reverseRecOn with
  | nil => exact start
  | append_singleton calls c ih =>
    have hrun : FileStore.run (calls ++ [c]) = ((FileStore.run calls).1.after c,
        (FileStore.run calls).2 ++ [(FileStore.run calls).1.event c]) := List.foldl_concat ..
    rw [hrun]
    exact ih.step c

/-! ### Answers -/

lemma contents?_eq (hs : Reflects s h) (p : Path) :
    s.contents? p = h.picture.files p.components := by
  rw [← hs.picture]
  rfl

/-- **Answers by history.**  Every operation is answered as the history of the store calls for. -/
lemma answers (hs : Reflects s h) (op : FileOp) : h.Answers op (perform op s).1 := by
  cases op with
  | read p =>
    have hcontents := hs.contents?_eq p
    rw [perform]
    split
    · next hnone =>
      rw [hnone] at hcontents
      exact Or.inl ⟨hcontents.symm, rfl⟩
    · next b hb =>
      rw [hb] at hcontents
      split
      · next text htext =>
        show h.picture.files p.components = some text.toUTF8
        rw [← hcontents, Text.toUTF8_of_fromUTF8? htext]
      · next hnone =>
        refine Or.inr ⟨b, hcontents.symm, ?_, rfl⟩
        rintro text rfl
        rw [Text.fromUTF8?_toUTF8] at hnone
        cases hnone
  | write p b =>
    have hrefuses := hs.refusesWrite p
    rw [perform]
    split
    · next hp => exact ⟨hrefuses.1 hp, rfl⟩
    · next hp => exact fun hrefused => hp (hrefuses.2 hrefused)
  | append p b =>
    have hrefuses := hs.refusesWrite p
    rw [perform]
    split
    · next hp => exact ⟨hrefuses.1 hp, rfl⟩
    · next hp => exact fun hrefused => hp (hrefuses.2 hrefused)
  | rename p q =>
    have hcontents := hs.contents?_eq p
    have hrefuses := hs.refusesRename q
    rw [perform]
    split
    · next hq => exact Or.inl ⟨hrefuses.1 hq, rfl⟩
    · next hq =>
      have hallowed : ¬ h.RefusesRename q := fun hrefused => hq (hrefuses.2 hrefused)
      split
      · next hnone => exact Or.inr ⟨hallowed, hcontents ▸ hnone, rfl⟩
      · next b hb =>
        refine ⟨hallowed, ?_⟩
        rw [← hcontents, hb]
        exact Option.some_ne_none b
  | remove p =>
    have hcontents := hs.contents?_eq p
    rw [perform]
    split
    · next hnone => exact ⟨hcontents ▸ hnone, rfl⟩
    · next b hb =>
      show h.picture.files p.components ≠ none
      rw [← hcontents, hb]
      exact Option.some_ne_none b
  | makeDir p => rfl
  | «exists» p =>
    show (_ || _) = true ↔ _
    rw [Bool.or_eq_true, Option.isSome_iff_ne_none, hs.contents?_eq, Path.any_same_iff,
      ← hs.picture]
    rfl
  | isFile p =>
    show Option.isSome _ = true ↔ _
    rw [Option.isSome_iff_ne_none, hs.contents?_eq]

end Reflects

/-- The store is a map from paths to contents that does with every operation what its history calls
for. -/
structure Faithful (s : FileStore) (h : History) : Prop where
  /-- Every spelling of a path leads to what the events have left there. -/
  contents : ∀ p, s.contents? p = h.picture.files p.components
  shown : ∀ p, s.shown? p = (h.picture.files p.components).map Utf8.decodeLossy
  /-- What is read shows as it is read. -/
  legible : ∀ p text, (perform (.read p) s).1 = .ok text → s.shown? p = some text
  /-- Every path with a file is listed, and none of them twice. -/
  listed : ∀ k, (∃ p ∈ s.paths, p.components = k) ↔ h.picture.files k ≠ none
  nodup : (s.paths.map Path.components).Nodup
  answers : ∀ op, h.Answers op (perform op s).1
  /-- What fails leaves everything as it was. -/
  failed : ∀ op e, op.failed? e = some (perform op s).1 → (perform op s).2 = s
  leaves : ∀ op, (perform op s).2.picture = (Event.asked op (perform op s).1).leaves s.picture
  /-- No other paths are changed than those that the operation names. -/
  untouched : ∀ op p, p.components ∉ Path.keys op.touched →
    (perform op s).2.contents? p = s.contents? p
  dirs : ∀ op, (∀ p, op ≠ .makeDir p) → (perform op s).2.dirs = s.dirs

/-- **A store is faithful to its history.**  After any calls, the files and directories of a store
are those that the calls and their answers have left, and so they are for whatever it is asked
next: the answer is the one that the history calls for, an operation that fails changes nothing, and
the others change the paths that they name. -/
theorem faithful_to_history (calls : List Call) : Faithful (run calls).1 (run calls).2 := by
  have hs := Reflects.run calls
  generalize run calls = r at hs ⊢
  have hlegible : ∀ p text, (perform (.read p) r.1).1 = .ok text → r.1.shown? p = some text := by
    intro p text hread
    have hanswer := hs.answers (.read p)
    rw [hread] at hanswer
    have htext : r.2.picture.files p.components = some text.toUTF8 := hanswer
    rw [shown?, hs.contents?_eq, htext, Option.map_some, Utf8.decodeLossy_toUTF8]
  have huntouched : ∀ op p, p.components ∉ Path.keys op.touched →
      (perform op r.1).2.contents? p = r.1.contents? p := by
    intro op p hp
    exact (alike_perform op r.1 fun _ hq => Path.mem_keys hq).view p.components hp
  exact {
    contents := hs.contents?_eq
    shown := fun p => by rw [shown?, hs.contents?_eq]
    legible := hlegible
    listed := fun k => by
      rw [exists_mem_paths_iff, ← hs.picture]
      rfl
    nodup := hs.inOrder.nodup
    answers := hs.answers
    failed := fun op _ hfailed => (performed op r.1).eq_of_failed hfailed
    leaves := fun op => (performed op r.1).picture_eq
    untouched := huntouched
    dirs := fun op hop => (performed op r.1).dirs_eq hop }

/-- A file that is renamed to another spelling of its own path stays, under the new spelling. -/
example :
    (run [.setUp (.addFile ⟨"a/b"⟩ ⟨#[1]⟩), .ask (.rename ⟨"a/b"⟩ ⟨"a//b"⟩)]).1.files =
      [(⟨"a//b"⟩, ⟨#[1]⟩)] := by
  decide +kernel

end JobGraph.FileStore
