import Mathlib.Logic.Function.Basic
import JobGraph.FileStore
import JobGraph.Proofs.Files.Naming

/-!
# The files of a store as a map

What a file store holds is a map from lists of components to contents; the spelling of a path does
not matter.  Each operation of a store does to this map what its name says, and an operation that
fails does nothing: `FileStore.perform_write`, `FileStore.perform_rename`,
`FileStore.perform_remove`.  `FileStore.performed` says the same of all operations at once, by what
comes of them.

Removing several files is `FileStore.clear`, so that what a sequence of operations comes to can be
said in one equation.
-/

namespace JobGraph

/-- What an operation answers when it fails.  Looking whether there is a file does not fail. -/
def FileOp.failed? (e : FileError) : (op : FileOp) → Option op.Answer
  | .read _ => some (.error e)
  | .write _ _ => some (.error e)
  | .append _ _ => some (.error e)
  | .rename _ _ => some (.error e)
  | .remove _ => some (.error e)
  | .makeDir _ => some (.error e)
  | .exists _ => none
  | .isFile _ => none

namespace FileStore

/-- What a store holds, by the components of paths. -/
abbrev Contents := List Component → Option ByteArray

/-- The contents of a store. -/
def view (s : FileStore) : Contents := fun k =>
  (s.files.find? fun e => e.1.components == k).map (·.2)

lemma view_components (s : FileStore) (p : Path) : s.view p.components = s.contents? p := rfl

/-- Two spellings of a path lead to the same file. -/
lemma contents?_congr {p q : Path} (h : p.components = q.components) (s : FileStore) :
    s.contents? p = s.contents? q := by
  rw [← view_components, ← view_components, h]

/-- There is nothing at components that are not those of a path. -/
lemma view_eq_none (s : FileStore) {k : List Component} (h : ∀ p : Path, p.components ≠ k) :
    s.view k = none := by
  have hfind : (s.files.find? fun e => e.1.components == k) = none := by
    rw [List.find?_eq_none]
    intro e _
    rw [beq_iff_eq]
    exact h e.1
  rw [view, hfind]
  rfl

/-- Stores with the same files at all paths have the same contents. -/
lemma view_ext {s t : FileStore} (h : ∀ p, s.contents? p = t.contents? p) : s.view = t.view := by
  funext k
  by_cases hk : ∃ p : Path, p.components = k
  · obtain ⟨p, rfl⟩ := hk
    exact h p
  · rw [not_exists] at hk
    rw [view_eq_none s hk, view_eq_none t hk]

/-! ### The operations on the files -/

lemma find?_insertFile (p : Path) (b : ByteArray) (l : List (Path × ByteArray))
    (k : List Component) :
    ((insertFile p b l).find? fun e => e.1.components == k).map (·.2) =
      if k = p.components then some b
      else (l.find? fun e => e.1.components == k).map (·.2) := by
  induction l with
  | nil =>
    by_cases hk : k = p.components
    · simp [insertFile, hk]
    · simp [insertFile, hk, Ne.symm hk]
  | cons e l ih =>
    obtain ⟨q, old⟩ := e
    rw [insertFile]
    split
    · by_cases hk : k = p.components
      · simp [hk]
      · simp [hk, Ne.symm hk]
    · next h =>
      have hpq := Path.compare_eq_iff.1 h
      by_cases hk : k = p.components
      · simp [hk, hpq]
      · have hq : ¬ q.components = k := fun hq => hk (hq ▸ hpq.symm)
        simp [hk, hq]
    · next h =>
      have hpq : p.components ≠ q.components := by
        intro hpq
        rw [Path.compare_eq_iff.2 hpq] at h
        cases h
      by_cases hq : q.components = k
      · have hk : ¬ k = p.components := fun hk => hpq (hk.symm.trans hq.symm)
        simp [hq, hk]
      · simpa [hq] using ih

@[simp]
lemma view_put (s : FileStore) (p : Path) (b : ByteArray) :
    (s.put p b).view = Function.update s.view p.components (some b) := by
  funext k
  rw [Function.update_apply]
  exact find?_insertFile p b s.files k

@[simp]
lemma view_erase (s : FileStore) (p : Path) :
    (s.erase p).view = Function.update s.view p.components none := by
  funext k
  rw [Function.update_apply, view, erase, List.find?_filter]
  simp only [Bool.decide_and, Bool.decide_eq_true]
  by_cases hk : k = p.components
  · have hnone : (s.files.find? fun e => !e.1.same p && e.1.components == k) = none := by
      rw [List.find?_eq_none]
      rintro e - he
      rw [Bool.and_eq_true, Bool.not_eq_true', beq_iff_eq] at he
      rw [hk] at he
      exact absurd (Path.same_iff.2 he.2) (by simp [he.1])
    rw [if_pos hk, hnone]
    rfl
  · have hsame : (fun e : Path × ByteArray => !e.1.same p && e.1.components == k) =
        fun e => e.1.components == k := by
      funext e
      by_cases he : e.1.components = k
      · have hne : e.1.same p = false := by
          rw [← Bool.not_eq_true, Path.same_iff]
          exact fun h => hk (he.symm.trans h)
        simp [he, hne]
      · simp [he]
    rw [if_neg hk, hsame, view]

/-- Writing replaces the file, unless it is refused. -/
lemma perform_write (s : FileStore) (p : Path) (b : ByteArray) :
    (perform (.write p b) s = (.error (.writeRefused p), s)) ∨
      (perform (.write p b) s = (.ok (), s.put p b)) := by
  rw [perform]
  split
  · exact Or.inl rfl
  · exact Or.inr rfl

/-- Appending extends the file, unless it is refused. -/
lemma perform_append (s : FileStore) (p : Path) (b : ByteArray) :
    (perform (.append p b) s = (.error (.writeRefused p), s)) ∨
      (perform (.append p b) s = (.ok (), s.put p ((s.contents? p).getD .empty ++ b))) := by
  rw [perform]
  split
  · exact Or.inl rfl
  · exact Or.inr rfl

/-- Renaming moves what is in a file, unless it is refused or there is no file. -/
lemma perform_rename (s : FileStore) (p q : Path) :
    (∃ e, perform (.rename p q) s = (.error e, s)) ∨
      (∃ b, s.contents? p = some b ∧
        perform (.rename p q) s = (.ok (), (s.erase p).put q b)) := by
  rw [perform]
  split
  · exact Or.inl ⟨_, rfl⟩
  · split
    · exact Or.inl ⟨_, rfl⟩
    · next b hb => exact Or.inr ⟨b, hb, rfl⟩

/-- Removing takes a file away, unless there is none. -/
lemma perform_remove (s : FileStore) (p : Path) :
    (s.contents? p = none ∧ perform (.remove p) s = (.error (.notFound p), s)) ∨
      (perform (.remove p) s = (.ok (), s.erase p)) := by
  rw [perform]
  split
  · next h => exact Or.inl ⟨h, rfl⟩
  · exact Or.inr rfl

/-- If nothing seems to be at a path, there is no file. -/
lemma view_eq_none_of_perform_exists {s : FileStore} {p : Path}
    (h : (perform (.exists p) s).1 = false) : s.view p.components = none := by
  rw [perform, Bool.or_eq_false_iff, Option.isSome_eq_false_iff] at h
  exact Option.isNone_iff_eq_none.1 h.1

/-- Removing a file leaves nothing at its path, also if there was nothing. -/
lemma view_perform_remove (s : FileStore) (p : Path) :
    (perform (.remove p) s).2.view = Function.update s.view p.components none := by
  rcases perform_remove s p with ⟨hnone, h⟩ | h
  · rw [h]
    exact (Function.update_eq_self_iff.2 hnone.symm).symm
  · rw [h, view_erase]

/-- An operation on a store with its answer and the store afterwards: it fails and leaves the store
as it is, or it does what its name says. -/
inductive Performed (s : FileStore) : (op : FileOp) → op.Answer → FileStore → Prop where
  | failed {op : FileOp} {e : FileError} {answer : op.Answer} (h : op.failed? e = some answer) :
    Performed s op answer s
  | read (p : Path) (text : String) : Performed s (.read p) (.ok text) s
  | write (p : Path) (b : ByteArray) : Performed s (.write p b) (.ok ()) (s.put p b)
  | append (p : Path) (b : ByteArray) :
    Performed s (.append p b) (.ok ()) (s.put p ((s.contents? p).getD .empty ++ b))
  | rename {p : Path} (q : Path) {b : ByteArray} (h : s.contents? p = some b) :
    Performed s (.rename p q) (.ok ()) ((s.erase p).put q b)
  | remove (p : Path) : Performed s (.remove p) (.ok ()) (s.erase p)
  | makeDir (p : Path) : Performed s (.makeDir p) (.ok ()) { s with dirs := p :: s.dirs }
  | exists (p : Path) (answer : Bool) : Performed s (.exists p) answer s
  | isFile (p : Path) (answer : Bool) : Performed s (.isFile p) answer s

/-- **What a store does with an operation.** -/
theorem performed (op : FileOp) (s : FileStore) :
    Performed s op (perform op s).1 (perform op s).2 := by
  cases op with
  | read p =>
    rw [perform]
    split
    · exact .failed rfl
    · split
      · exact .read p _
      · exact .failed rfl
  | write p b =>
    rcases perform_write s p b with h | h
    · rw [h]
      exact .failed rfl
    · rw [h]
      exact .write p b
  | append p b =>
    rcases perform_append s p b with h | h
    · rw [h]
      exact .failed rfl
    · rw [h]
      exact .append p b
  | rename p q =>
    rcases perform_rename s p q with ⟨e, h⟩ | ⟨b, hb, h⟩
    · rw [h]
      exact .failed rfl
    · rw [h]
      exact .rename q hb
  | remove p =>
    rcases perform_remove s p with ⟨-, h⟩ | h
    · rw [h]
      exact .failed rfl
    · rw [h]
      exact .remove p
  | makeDir p => exact .makeDir p
  | «exists» p => exact .exists p _
  | isFile p => exact .isFile p _

/-- An operation that failed has left the store as it was. -/
lemma Performed.eq_of_failed {s t : FileStore} {op : FileOp} {answer : op.Answer} {e : FileError}
    (h : Performed s op answer t) (hfailed : op.failed? e = some answer) : t = s := by
  cases h with
  | failed _ => rfl
  | read p text => rfl
  | write p b => cases hfailed
  | append p b => cases hfailed
  | rename q _ => cases hfailed
  | remove p => cases hfailed
  | makeDir p => cases hfailed
  | «exists» p answer => rfl
  | isFile p answer => rfl

/-! ### Removing several files -/

/-- The contents without those at some paths. -/
def clear (ps : List Path) (v : Contents) : Contents := fun k =>
  if k ∈ ps.map Path.components then none else v k

@[simp]
lemma clear_nil (v : Contents) : clear [] v = v := by
  funext k
  simp [clear]

lemma clear_cons (p : Path) (ps : List Path) (v : Contents) :
    clear (p :: ps) v = clear ps (Function.update v p.components none) := by
  funext k
  rw [clear, clear, Function.update_apply, List.map_cons]
  by_cases hk : k = p.components
  · simp [hk]
  · simp [hk]

lemma clear_append (ps qs : List Path) (v : Contents) :
    clear (ps ++ qs) v = clear qs (clear ps v) := by
  funext k
  simp only [clear, List.map_append, List.mem_append]
  by_cases hq : k ∈ qs.map Path.components
  · simp [hq]
  · simp [hq]

lemma clear_congr {ps qs : List Path} (h : ∀ p, p ∈ ps ↔ p ∈ qs) (v : Contents) :
    clear ps v = clear qs v := by
  funext k
  simp only [clear, List.mem_map, h]

lemma clear_of_mem {p : Path} {ps : List Path} (hp : p ∈ ps) (v : Contents) :
    clear ps v p.components = none :=
  if_pos (List.mem_map_of_mem hp)

lemma clear_of_not_mem {k : List Component} {ps : List Path} (hk : k ∉ ps.map Path.components)
    (v : Contents) : clear ps v k = v k :=
  if_neg hk

/-- Clearing other paths than the one that something is put at. -/
lemma clear_update_comm {k : List Component} {ps : List Path} (hk : k ∉ ps.map Path.components)
    (v : Contents) (x : Option ByteArray) :
    clear ps (Function.update v k x) = Function.update (clear ps v) k x := by
  funext j
  rw [clear, Function.update_apply, Function.update_apply, clear]
  by_cases hj : j = k
  · rw [hj, if_neg hk, if_pos rfl, if_pos rfl]
  · rw [if_neg hj, if_neg hj]

/-- What was put at a path that is cleared does not matter. -/
lemma clear_update {p : Path} {ps : List Path} (hp : p ∈ ps) (v : Contents)
    (x : Option ByteArray) : clear ps (Function.update v p.components x) = clear ps v := by
  funext k
  rw [clear, clear, Function.update_apply]
  split
  · rfl
  · next hk =>
    rw [if_neg]
    rintro rfl
    exact hk (List.mem_map_of_mem hp)

end FileStore

end JobGraph
