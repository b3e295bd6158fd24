import Mathlib.Data.Set.Insert
import JobGraph.Proofs.Files.Contents
import JobGraph.Proofs.Program.Interruption

/-!
# Stores that are alike

Two stores are alike up to some paths if they refuse the same operations and hold the same files at
all other paths.  An operation leaves a store alike up to the paths it touches
(`FileStore.alike_perform`), and an operation on two stores that are alike is answered alike, the
files it puts being the same in both: `FileStore.Alike.write`, `FileStore.Alike.rename`.
-/

namespace JobGraph

/-- The paths at which an operation may change a file. -/
def FileOp.touched : FileOp → List Path
  | .write p _ => [p]
  | .append p _ => [p]
  | .rename source target => [source, target]
  | .remove p => [p]
  | .read _ => []
  | .makeDir _ => []
  | .exists _ => []
  | .isFile _ => []

/-- What paths are told apart by. -/
def Path.keys (ps : List Path) : Set (List Component) :=
  {k | k ∈ ps.map Path.components}

namespace Path

variable {p : Path} {ps : List Path}

lemma mem_keys (hp : p ∈ ps) : p.components ∈ keys ps :=
  List.mem_map_of_mem hp

lemma any_same_iff : ps.any p.same = true ↔ p.components ∈ keys ps := by
  rw [List.any_eq_true, keys, Set.mem_ofPred_eq, List.mem_map]
  simp only [same_iff]
  constructor
  · rintro ⟨q, hq, h⟩
    exact ⟨q, hq, h.symm⟩
  · rintro ⟨q, hq, h⟩
    exact ⟨q, hq, h.symm⟩

lemma keys_nil : keys [] = ∅ := by
  ext k
  simp [keys]

lemma keys_cons (p : Path) (ps : List Path) : keys (p :: ps) = insert p.components (keys ps) := by
  ext k
  simp [keys]

lemma diff_keys_nil (D : Set (List Component)) : D \ keys [] = D := by
  ext k
  simp [keys_nil]

lemma diff_keys_cons (D : Set (List Component)) (p : Path) (ps : List Path) :
    D \ keys (p :: ps) = (D \ {p.components}) \ keys ps := by
  ext k
  simp [keys, and_assoc]

end Path

/-- The effect is a file operation, and touches paths in `D` only. -/
def Effect.Touches (D : Set (List Component)) : Effect → Prop
  | .file op => ∀ p ∈ op.touched, p.components ∈ D
  | _ => False

lemma Program.within_file {op : FileOp} {D : Set (List Component)}
    (h : ∀ p ∈ op.touched, p.components ∈ D) :
    (Program.file op).Within (Effect.Touches D) fun _ => True :=
  Program.within_perform h

namespace FileStore

/-- The stores refuse the same, and differ in files at the paths of `D` only. -/
structure Alike (D : Set (List Component)) (s t : FileStore) : Prop where
  refusedWrites : s.refusedWrites = t.refusedWrites
  refusedStarts : s.refusedStarts = t.refusedStarts
  refusedRenames : s.refusedRenames = t.refusedRenames
  view : ∀ k ∉ D, s.view k = t.view k

/-- Nothing is refused on purpose. -/
structure Calm (s : FileStore) : Prop where
  refusedWrites : s.refusedWrites = []
  refusedStarts : s.refusedStarts = []
  refusedRenames : s.refusedRenames = []

variable {D D' : Set (List Component)} {s t u : FileStore}

namespace Alike

lemma refl (D : Set (List Component)) (s : FileStore) : Alike D s s :=
  ⟨rfl, rfl, rfl, fun _ _ => rfl⟩

lemma trans (h : Alike D s t) (h' : Alike D t u) : Alike D s u :=
  ⟨h.refusedWrites.trans h'.refusedWrites, h.refusedStarts.trans h'.refusedStarts,
    h.refusedRenames.trans h'.refusedRenames, fun k hk => (h.view k hk).trans (h'.view k hk)⟩

lemma mono (hD : D ⊆ D') (h : Alike D s t) : Alike D' s t :=
  ⟨h.refusedWrites, h.refusedStarts, h.refusedRenames, fun k hk => h.view k fun hk' => hk (hD hk')⟩

lemma calm (h : Alike D s t) (ht : t.Calm) : s.Calm :=
  ⟨h.refusedWrites.trans ht.refusedWrites, h.refusedStarts.trans ht.refusedStarts,
    h.refusedRenames.trans ht.refusedRenames⟩

end Alike

/-! ### One store -/

/-- Putting a file changes the store at its path. -/
lemma alike_put (s : FileStore) (p : Path) (b : ByteArray) :
    Alike {p.components} (s.put p b) s :=
  ⟨rfl, rfl, rfl, fun _ hk => by rw [view_put, Function.update_of_ne hk]⟩

/-- Taking a file away changes the store at its path. -/
lemma alike_erase (s : FileStore) (p : Path) : Alike {p.components} (s.erase p) s :=
  ⟨rfl, rfl, rfl, fun _ hk => by rw [view_erase, Function.update_of_ne hk]⟩

lemma Performed.alike {op : FileOp} {answer : op.Answer} (h : Performed s op answer t)
    (hD : ∀ p ∈ op.touched, p.components ∈ D) : Alike D t s := by
  have hsub : ∀ p ∈ op.touched, {p.components} ⊆ D :=
    fun p hp => Set.singleton_subset_iff.2 (hD p hp)
  cases h with
  | failed _ => exact .refl D s
  | read p text => exact .refl D s
  | write p b => exact (alike_put s p b).mono (hsub p (by simp [FileOp.touched]))
  | append p b => exact (alike_put s p _).mono (hsub p (by simp [FileOp.touched]))
  | @rename p q b _ =>
    have hput := (alike_put (s.erase p) q b).mono (hsub q (by simp [FileOp.touched]))
    exact hput.trans ((alike_erase s p).mono (hsub p (by simp [FileOp.touched])))
  | remove p => exact (alike_erase s p).mono (hsub p (by simp [FileOp.touched]))
  | makeDir p => exact ⟨rfl, rfl, rfl, fun _ _ => rfl⟩
  | «exists» p answer => exact .refl D s
  | isFile p answer => exact .refl D s

/-- **The frame of an operation.**  An operation changes no file at a path that it does not touch,
and none of the refusals. -/
theorem alike_perform (op : FileOp) (s : FileStore)
    (h : ∀ p ∈ op.touched, p.components ∈ D) : Alike D (perform op s).2 s :=
  (performed op s).alike h

/-! ### Two stores -/

/-- What is put into both of two stores makes no difference between them. -/
lemma Alike.put (h : Alike D s t) (p : Path) (b : ByteArray) :
    Alike (D \ {p.components}) (s.put p b) (t.put p b) := by
  refine ⟨h.refusedWrites, h.refusedStarts, h.refusedRenames, fun k hk => ?_⟩
  rw [view_put, view_put, Function.update_apply, Function.update_apply]
  split
  · rfl
  · next hne => exact h.view k fun hk' => hk ⟨hk', hne⟩

lemma Alike.erase (h : Alike D s t) (p : Path) : Alike D (s.erase p) (t.erase p) := by
  refine ⟨h.refusedWrites, h.refusedStarts, h.refusedRenames, fun k hk => ?_⟩
  rw [view_erase, view_erase, Function.update_apply, Function.update_apply, h.view k hk]

/-- Writing is refused in both of two stores that are alike, or in neither. -/
lemma Alike.write (h : Alike D s t) (p : Path) (b : ByteArray) :
    (perform (.write p b) s = (.error (.writeRefused p), s) ∧
      perform (.write p b) t = (.error (.writeRefused p), t)) ∨
    (perform (.write p b) s = (.ok (), s.put p b) ∧ perform (.write p b) t = (.ok (), t.put p b)) := by
  have hrefuses : s.refusesWrite p = t.refusesWrite p := by
    rw [refusesWrite, refusesWrite, h.refusedWrites, h.refusedStarts]
  rw [perform, perform, hrefuses]
  split
  · exact Or.inl ⟨rfl, rfl⟩
  · exact Or.inr ⟨rfl, rfl⟩

/-- Renaming a file that is the same in both of two stores that are alike fails in both, or moves
the same contents. -/
lemma Alike.rename (h : Alike D s t) {p : Path} (hp : p.components ∉ D) (q : Path) :
    (∃ e, perform (.rename p q) s = (.error e, s) ∧ perform (.rename p q) t = (.error e, t)) ∨
    (∃ b, perform (.rename p q) s = (.ok (), (s.erase p).put q b) ∧
      perform (.rename p q) t = (.ok (), (t.erase p).put q b)) := by
  have hsource : s.contents? p = t.contents? p := h.view p.components hp
  rw [perform, perform, h.refusedRenames, hsource]
  split
  · exact Or.inl ⟨_, rfl, rfl⟩
  · split
    · exact Or.inl ⟨_, rfl, rfl⟩
    · exact Or.inr ⟨_, rfl, rfl⟩

/-! ### Calm stores -/

namespace Calm

lemma perform (hs : s.Calm) (op : FileOp) : (perform op s).2.Calm :=
  (alike_perform (D := Set.univ) op s fun _ _ => trivial).calm hs

lemma write (hs : s.Calm) (p : Path) (b : ByteArray) :
    FileStore.perform (.write p b) s = (.ok (), s.put p b) := by
  have hrefuses : s.refusesWrite p = false := by
    simp [refusesWrite, hs.refusedWrites, hs.refusedStarts]
  rw [FileStore.perform, hrefuses]
  rfl

lemma rename (hs : s.Calm) {p : Path} {b : ByteArray} (hp : s.contents? p = some b) (q : Path) :
    FileStore.perform (.rename p q) s = (.ok (), (s.erase p).put q b) := by
  rw [FileStore.perform, hs.refusedRenames, hp]
  rfl

end Calm

end FileStore

end JobGraph
