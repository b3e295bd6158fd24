import Mathlib.Data.Set.Lattice
import Mathlib.Order.CompletePartialOrder
import JobGraph.Proofs.Files.World
import JobGraph.Proofs.Program.Interleaving

/-!
# Programs that keep to their own files

A program is secluded in a set of paths if it touches files at these paths only, and if what it
comes to, wherever it has got to, depends on no other files (`World.Secluded`).  What it is answered
on the way may depend on other things, such as directories that others have made: only its result
and its files count.

Programs that are secluded in disjoint sets do not disturb each other, in whatever order they take
turns, and neither do they if they are run one after another: `World.undisturbed_interleaved`,
`World.undisturbed_inTurn`.
-/

namespace JobGraph.World

open FileStore (Alike)

variable {σ α β ι : Type} {w : World σ} {store : σ → FileStore} {D : Set (List Component)}

/-! ### Secluded programs -/

/-- What a program comes to depends on the refusals of a store and on its files at some paths, and
on nothing else: from stores that are alike there it has the same result, and it leaves stores that
are alike there. -/
def Local (w : World σ) (store : σ → FileStore) (D : Set (List Component)) (p : Program α) : Prop :=
  ∀ s t, Alike Dᶜ (store s) (store t) →
    (w.run p s).1 = (w.run p t).1 ∧ Alike Dᶜ (store (w.run p s).2) (store (w.run p t).2)

/-- Whatever the answers are, the program touches files at some paths only, and what is left of it
after them depends on no others. -/
def Secluded (w : World σ) (store : σ → FileStore) (D : Set (List Component)) : Program α → Prop
  | .done _ => True
  | .step e next => e.Touches D ∧ Local w store D (.step e next) ∧
      ∀ answer, Secluded w store D (next answer)

lemma local_pure (a : α) : Local w store D (pure a) :=
  fun _ _ h => ⟨rfl, h⟩

lemma Local.bind {p : Program α} {f : α → Program β} {P : α → Prop} (hp : Local w store D p)
    (hpost : ∀ s, P (w.run p s).1) (hf : ∀ a, P a → Local w store D (f a)) :
    Local w store D (p >>= f) := by
  intro s t h
  obtain ⟨hresult, hafter⟩ := hp s t h
  rw [run_bind, run_bind, hresult]
  exact hf _ (hpost t) _ _ hafter

namespace Secluded

lemma pure (a : α) : Secluded w store D (pure a) := trivial

lemma isLocal {p : Program α} (h : Secluded w store D p) : Local w store D p := by
  cases p with
  | done a => exact local_pure a
  | step e next => exact h.2.1

/-- Going on with the result of a secluded program, of which something may be known. -/
lemma bind_within {p : Program α} {f : α → Program β} {F : Effect → Prop} {P : α → Prop}
    (hp : Secluded w store D p) (hpost : p.Within F P)
    (hf : ∀ a, P a → Secluded w store D (f a)) : Secluded w store D (p >>= f) := by
  induction p with
  | done a => exact hf a hpost
  | step e next ih =>
    have hlocal := hp.isLocal.bind (hpost.run w) fun a ha => (hf a ha).isLocal
    obtain ⟨htouches, -, hnext⟩ := hp
    exact ⟨htouches, hlocal, fun answer => ih answer (hnext answer) (hpost.2 answer)⟩

lemma bind {p : Program α} {f : α → Program β} (hp : Secluded w store D p)
    (hf : ∀ a, Secluded w store D (f a)) : Secluded w store D (p >>= f) :=
  hp.bind_within p.within_true fun a _ => hf a

lemma within {p : Program α} (h : Secluded w store D p) :
    p.Within (Effect.Touches D) fun _ => True := by
  induction p with
  | done a => trivial
  | step e next ih => exact ⟨h.1, fun answer => ih answer (h.2.2 answer)⟩

/-- An operation is secluded if it touches files at the paths only, and it is answered alike by
stores that are alike there, and leaves them alike. -/
lemma file (hw : w.Filed store) {op : FileOp} (htouched : ∀ p ∈ op.touched, p.components ∈ D)
    (h : ∀ s t, Alike Dᶜ s t →
      (FileStore.perform op s).1 = (FileStore.perform op t).1 ∧
        Alike Dᶜ (FileStore.perform op s).2 (FileStore.perform op t).2) :
    Secluded w store D (Program.file op) := by
  refine ⟨htouched, fun s t hst => ?_, fun answer => trivial⟩
  obtain ⟨hanswer, hafter⟩ := h (store s) (store t) hst
  have hrun : ∀ u, w.run (Program.step (.file op) .done) u = w.answer (.file op) u := fun _ => rfl
  rw [hrun, hrun, hw.answer_eq, hw.answer_eq, hw.store_eq, hw.store_eq]
  exact ⟨hanswer, hafter⟩

lemma makeDir (hw : w.Filed store) (p : Path) : Secluded w store D (Program.file (.makeDir p)) := by
  refine file hw (by simp [FileOp.touched]) fun s t h => ⟨rfl, ?_⟩
  exact ⟨h.refusedWrites, h.refusedStarts, h.refusedRenames, h.view⟩

lemma write (hw : w.Filed store) {p : Path} (hp : p.components ∈ D) (b : ByteArray) :
    Secluded w store D (Program.file (.write p b)) := by
  refine file hw (by simpa [FileOp.touched] using hp) fun s t h => ?_
  rcases h.write p b with ⟨hs, ht⟩ | ⟨hs, ht⟩
  · rw [hs, ht]
    exact ⟨rfl, h⟩
  · rw [hs, ht]
    exact ⟨rfl, (h.put p b).mono Set.sdiff_subset⟩

lemma rename (hw : w.Filed store) {p q : Path} (hp : p.components ∈ D) (hq : q.components ∈ D) :
    Secluded w store D (Program.file (.rename p q)) := by
  refine file hw (by simpa [FileOp.touched] using ⟨hp, hq⟩) fun s t h => ?_
  rcases h.rename (Set.notMem_compl_iff.2 hp) q with ⟨e, hs, ht⟩ | ⟨b, hs, ht⟩
  · rw [hs, ht]
    exact ⟨rfl, h⟩
  · rw [hs, ht]
    exact ⟨rfl, ((h.erase p).put q b).mono Set.sdiff_subset⟩

lemma remove (hw : w.Filed store) {p : Path} (hp : p.components ∈ D) :
    Secluded w store D (Program.file (.remove p)) := by
  refine file hw (by simpa [FileOp.touched] using hp) fun s t h => ?_
  have hsame : s.contents? p = t.contents? p := h.view p.components (Set.notMem_compl_iff.2 hp)
  rw [FileStore.perform, FileStore.perform, hsame]
  split
  · exact ⟨rfl, h⟩
  · exact ⟨rfl, h.erase p⟩

end Secluded

/-! ### Programs side by side -/

section Undisturbed

variable [DecidableEq ι] {E : ι → Set (List Component)} {programs : ι → Program α} {s : σ}
  {c : (ι → Program α) × σ}

/-- However far the programs have come, what is left of each of them comes to what it comes to
alone from the beginning, in its result and in its files; and no files have changed but theirs. -/
structure Undisturbed (w : World σ) (store : σ → FileStore) (E : ι → Set (List Component))
    (programs : ι → Program α) (s : σ) (c : (ι → Program α) × σ) : Prop where
  secluded : ∀ i, Secluded w store (E i) (c.1 i)
  result : ∀ i, (w.run (c.1 i) c.2).1 = (w.run (programs i) s).1
  files : ∀ i, Alike (E i)ᶜ (store (w.run (c.1 i) c.2).2) (store (w.run (programs i) s).2)
  elsewhere : Alike (⋃ i, E i) (store c.2) (store s)

namespace Undisturbed

omit [DecidableEq ι] in
lemma start (h : ∀ i, Secluded w store (E i) (programs i)) :
    Undisturbed w store E programs s (programs, s) :=
  ⟨h, fun _ => rfl, fun _ => .refl _ _, .refl _ _⟩

/-- **Whatever one of the programs does.**  It goes on as it would have gone on alone, and the
others do not notice. -/
lemma move (hE : Pairwise fun i j => Disjoint (E i) (E j))
    (h : Undisturbed w store E programs s c) {i : ι} {p : Program α} {s' : σ}
    (hp : Secluded w store (E i) p) (hrun : w.run p s' = w.run (c.1 i) c.2)
    (hframe : Alike (E i) (store s') (store c.2)) :
    Undisturbed w store E programs s (Function.update c.1 i p, s') := by
  have hother : ∀ j ≠ i, (w.run (c.1 j) s').1 = (w.run (c.1 j) c.2).1 ∧
      Alike (E j)ᶜ (store (w.run (c.1 j) s').2) (store (w.run (c.1 j) c.2).2) := by
    intro j hj
    have hapart : E i ⊆ (E j)ᶜ := Set.subset_compl_iff_disjoint_right.2 (hE hj.symm)
    exact (h.secluded j).isLocal s' c.2 (hframe.mono hapart)
  refine ⟨fun j => ?_, fun j => ?_, fun j => ?_, ?_⟩
  · by_cases hj : j = i
    · subst hj
      simpa using hp
    · simpa [hj] using h.secluded j
  · by_cases hj : j = i
    · subst hj
      simpa [hrun] using h.result j
    · have hsame := (hother j hj).1.trans (h.result j)
      simpa [hj] using hsame
  · by_cases hj : j = i
    · subst hj
      simpa [hrun] using h.files j
    · have hsame := (hother j hj).2.trans (h.files j)
      simpa [hj] using hsame
  · exact (hframe.mono (Set.subset_iUnion E i)).trans h.elsewhere

lemma turn (hw : w.Filed store) (hE : Pairwise fun i j => Disjoint (E i) (E j))
    (h : Undisturbed w store E programs s c) (i : ι) :
    Undisturbed w store E programs s (w.turn i c) := by
  have hframe : ∀ p : Program α, Secluded w store (E i) p →
      Secluded w store (E i) (w.advance (p, c.2)).1 ∧
      w.run (w.advance (p, c.2)).1 (w.advance (p, c.2)).2 = w.run p c.2 ∧
      Alike (E i) (store (w.advance (p, c.2)).2) (store c.2) := by
    intro p hp
    cases p with
    | done a => exact ⟨trivial, rfl, .refl _ _⟩
    | step e next => exact ⟨hp.2.2 _, rfl, hw.alike_answer c.2 e c.2 hp.1 (.refl _ _)⟩
  obtain ⟨hp, hrun, hfiles⟩ := hframe (c.1 i) (h.secluded i)
  exact h.move hE hp hrun hfiles

lemma finish (hw : w.Filed store) (hE : Pairwise fun i j => Disjoint (E i) (E j))
    (h : Undisturbed w store E programs s c) (i : ι) :
    Undisturbed w store E programs s (w.finish i c) := by
  have hfiles := (h.secluded i).within.after (I := fun s' => Alike (E i) (store s') (store c.2))
    (hw.alike_answer c.2) (.refl _ _)
  exact h.move hE (Secluded.pure _) rfl hfiles

omit [DecidableEq ι] in
/-- A program that is done has come to what it comes to alone, and so have its files. -/
lemma of_done (h : Undisturbed w store E programs s c) {i : ι} {a : α} (hi : c.1 i = .done a) :
    a = (w.run (programs i) s).1 ∧
      ∀ k ∈ E i, (store c.2).view k = (store (w.run (programs i) s).2).view k := by
  have hresult := h.result i
  have hfiles := h.files i
  rw [hi] at hresult hfiles
  exact ⟨hresult, fun k hk => hfiles.view k (Set.notMem_compl_iff.2 hk)⟩

end Undisturbed

/-- **Programs that do not disturb each other.**  In whatever order programs take turns that are
secluded in disjoint sets, each of them comes to what it comes to alone. -/
theorem undisturbed_interleaved (hw : w.Filed store)
    (hE : Pairwise fun i j => Disjoint (E i) (E j))
    (h : ∀ i, Secluded w store (E i) (programs i)) (schedule : List ι) (s : σ) :
    Undisturbed w store E programs s (w.interleaved schedule programs s) :=
  interleaved_induction (I := fun _ => Undisturbed w store E programs s) (.start h)
    (fun _ _ i hc => hc.turn hw hE i) schedule

/-- The same holds if they are run one after another, in whatever order. -/
theorem undisturbed_inTurn (hw : w.Filed store) (hE : Pairwise fun i j => Disjoint (E i) (E j))
    (h : ∀ i, Secluded w store (E i) (programs i)) (order : List ι) (s : σ) :
    Undisturbed w store E programs s (w.inTurn order programs s) := by
  induction order using List.reverseRecOn with
  | nil => exact .start h
  | append_singleton order i ih =>
    rw [inTurn_append_singleton]
    exact ih.finish hw hE i

end Undisturbed

end JobGraph.World
