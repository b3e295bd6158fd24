import JobGraph.Proofs.Files.Contents
import JobGraph.Program

/-!
# Operations that fail

In `World.withFaults` any operation on files may fail: the operations are numbered in the order in
which they are asked for, and those that are to fail are answered with an error and change nothing.
The others are answered by a file store.  What an operation comes to is said for each kind of it.
-/

namespace JobGraph

namespace World

/-- A file store in which the operations fail that are to fail, and a count of the operations. -/
def withFaults (faults : ℕ → Option FileError) : World (FileStore × ℕ) :=
  .ofFiles fun op s =>
    match (faults s.2).bind op.failed? with
    | some answer => (answer, s.1, s.2 + 1)
    | none => ((FileStore.perform op s.1).1, (FileStore.perform op s.1).2, s.2 + 1)

variable (faults : ℕ → Option FileError) (s : FileStore × ℕ)

/-- An operation fails and changes nothing, or it is that of the store. -/
lemma withFaults_answer (op : FileOp) :
    (∃ e answer, op.failed? e = some answer ∧
      (withFaults faults).answer (.file op) s = (answer, s.1, s.2 + 1)) ∨
    (withFaults faults).answer (.file op) s =
      ((FileStore.perform op s.1).1, (FileStore.perform op s.1).2, s.2 + 1) := by
  have hanswer : (withFaults faults).answer (.file op) s =
      match (faults s.2).bind op.failed? with
      | some answer => (answer, s.1, s.2 + 1)
      | none => ((FileStore.perform op s.1).1, (FileStore.perform op s.1).2, s.2 + 1) := rfl
  rw [hanswer]
  split
  · next answer h =>
    obtain ⟨e, -, he⟩ := Option.bind_eq_some_iff.1 h
    exact Or.inl ⟨e, answer, he, rfl⟩
  · exact Or.inr rfl

lemma withFaults_write (p : Path) (b : ByteArray) :
    (∃ e n, (withFaults faults).answer (.file (.write p b)) s = (.error e, s.1, n)) ∨
    ∃ n, (withFaults faults).answer (.file (.write p b)) s = (.ok (), s.1.put p b, n) := by
  rcases withFaults_answer faults s (.write p b) with ⟨e, answer, hfailed, h⟩ | h
  · cases hfailed
    exact Or.inl ⟨e, _, h⟩
  · rcases FileStore.perform_write s.1 p b with hs | hs
    · rw [hs] at h
      exact Or.inl ⟨_, _, h⟩
    · rw [hs] at h
      exact Or.inr ⟨_, h⟩

lemma withFaults_append (p : Path) (b : ByteArray) :
    (∃ e n, (withFaults faults).answer (.file (.append p b)) s = (.error e, s.1, n)) ∨
    ∃ n, (withFaults faults).answer (.file (.append p b)) s =
      (.ok (), s.1.put p ((s.1.contents? p).getD .empty ++ b), n) := by
  rcases withFaults_answer faults s (.append p b) with ⟨e, answer, hfailed, h⟩ | h
  · cases hfailed
    exact Or.inl ⟨e, _, h⟩
  · rcases FileStore.perform_append s.1 p b with hs | hs
    · rw [hs] at h
      exact Or.inl ⟨_, _, h⟩
    · rw [hs] at h
      exact Or.inr ⟨_, h⟩

lemma withFaults_rename (p q : Path) :
    (∃ e n, (withFaults faults).answer (.file (.rename p q)) s = (.error e, s.1, n)) ∨
    ∃ b n, s.1.contents? p = some b ∧
      (withFaults faults).answer (.file (.rename p q)) s = (.ok (), (s.1.erase p).put q b, n) := by
  rcases withFaults_answer faults s (.rename p q) with ⟨e, answer, hfailed, h⟩ | h
  · cases hfailed
    exact Or.inl ⟨e, _, h⟩
  · rcases FileStore.perform_rename s.1 p q with ⟨e, hs⟩ | ⟨b, hb, hs⟩
    · rw [hs] at h
      exact Or.inl ⟨e, _, h⟩
    · rw [hs] at h
      exact Or.inr ⟨b, _, hb, h⟩

lemma withFaults_remove (p : Path) :
    (∃ e n, (withFaults faults).answer (.file (.remove p)) s = (.error e, s.1, n)) ∨
    ∃ n, (withFaults faults).answer (.file (.remove p)) s = (.ok (), s.1.erase p, n) := by
  rcases withFaults_answer faults s (.remove p) with ⟨e, answer, hfailed, h⟩ | h
  · cases hfailed
    exact Or.inl ⟨e, _, h⟩
  · rcases FileStore.perform_remove s.1 p with ⟨-, hs⟩ | hs
    · rw [hs] at h
      exact Or.inl ⟨_, _, h⟩
    · rw [hs] at h
      exact Or.inr ⟨_, h⟩

/-- Making a directory changes no file. -/
lemma view_withFaults_makeDir (p : Path) :
    ((withFaults faults).answer (.file (.makeDir p)) s).2.1.view = s.1.view := by
  rcases withFaults_answer faults s (.makeDir p) with ⟨e, answer, -, h⟩ | h
  · rw [h]
  · rw [h]
    rfl

/-- Looking whether there is a file changes none. -/
lemma view_withFaults_exists (p : Path) :
    ((withFaults faults).answer (.file (.exists p)) s).2.1.view = s.1.view := by
  rcases withFaults_answer faults s (.exists p) with ⟨e, answer, -, h⟩ | h
  · rw [h]
  · rw [h]
    rfl

end World

end JobGraph
