import JobGraph.Proofs.Files.Contents

/-!
# The order of files

Paths are compared component by component, and this is a linear order of the paths that are told
apart by their components.  A store has its files in this order; putting files and taking them away
keeps it, and so there is one file at most for each path, however it is spelled.
-/

namespace JobGraph

/-! ### Paths -/

open Std in
instance : TransCmp Component.compare := by
  have hrank : TransCmp (compareLex (compareOn fun r : ℕ × String => r.1)
      (compareOn fun r : ℕ × String => r.2)) := inferInstance
  exact { eq_swap := hrank.eq_swap, isLE_trans := hrank.isLE_trans }

namespace Path

lemma compareComponents_eq : compareComponents = List.compareLex Component.compare := by
  funext as bs
  induction as generalizing bs with
  | nil =>
    cases bs with
    | nil => rfl
    | cons b bs => rfl
  | cons a as ih =>
    cases bs with
    | nil => rfl
    | cons b bs => rw [compareComponents, List.compareLex_cons_cons, ih]

open Std in
instance : TransCmp compare := by
  have hcomponents : TransCmp compareComponents := by
    rw [compareComponents_eq]
    infer_instance
  exact { eq_swap := hcomponents.eq_swap, isLE_trans := hcomponents.isLE_trans }

/-- The path comes before the other one. -/
def Before (p q : Path) : Prop :=
  p.compare q = .lt

lemma Before.trans {p q r : Path} (hpq : p.Before q) (hqr : q.Before r) : p.Before r :=
  Std.TransCmp.lt_trans hpq hqr

lemma Before.ne {p q : Path} (h : p.Before q) : p.components ≠ q.components := by
  intro heq
  rw [Before, compare_eq_iff.2 heq] at h
  cases h

end Path

/-! ### Files -/

namespace FileStore

/-- The files are in the order of their paths. -/
def InOrder (s : FileStore) : Prop :=
  s.paths.Pairwise Path.Before

variable {s : FileStore} {p q : Path} {b : ByteArray} {files : List (Path × ByteArray)}

/-- The paths of the files are those there were, and the one of the file that was put. -/
lemma mem_map_insertFile (h : q ∈ (insertFile p b files).map Prod.fst) :
    q = p ∨ q ∈ files.map Prod.fst := by
  induction files with
  | nil => exact Or.inl (List.mem_singleton.1 h)
  | cons e files ih =>
    obtain ⟨r, old⟩ := e
    rw [insertFile] at h
    split at h
    · exact List.mem_cons.1 h
    · exact Or.inr h
    · rcases List.mem_cons.1 h with rfl | h
      · exact Or.inr List.mem_cons_self
      · exact (ih h).imp_right (List.mem_cons_of_mem r)

lemma pairwise_insertFile (h : (files.map Prod.fst).Pairwise Path.Before) :
    ((insertFile p b files).map Prod.fst).Pairwise Path.Before := by
  induction files with
  | nil => exact List.pairwise_singleton _ _
  | cons e files ih =>
    obtain ⟨r, old⟩ := e
    rw [List.map_cons, List.pairwise_cons] at h
    obtain ⟨hfirst, hrest⟩ := h
    rw [insertFile]
    split
    · next hlt =>
      have hbefore : p.Before r := hlt
      rw [List.map_cons, List.pairwise_cons]
      refine ⟨?_, List.pairwise_cons.2 ⟨hfirst, hrest⟩⟩
      intro x hx
      rcases List.mem_cons.1 hx with rfl | hx
      · exact hbefore
      · exact hbefore.trans (hfirst x hx)
    · exact List.pairwise_cons.2 ⟨hfirst, hrest⟩
    · next hgt =>
      have hbefore : r.Before p := Std.OrientedCmp.gt_iff_lt.1 hgt
      rw [List.map_cons, List.pairwise_cons]
      refine ⟨?_, ih hrest⟩
      intro x hx
      rcases mem_map_insertFile hx with rfl | hx
      · exact hbefore
      · exact hfirst x hx

/-- There is something at a path exactly if the path is among those of the files. -/
lemma exists_mem_paths_iff (s : FileStore) (k : List Component) :
    (∃ p ∈ s.paths, p.components = k) ↔ s.view k ≠ none := by
  rw [view, Ne, Option.map_eq_none_iff, List.find?_eq_none, paths]
  simp

/-- No path is listed twice, in two spellings or in one. -/
lemma InOrder.nodup (h : s.InOrder) : (s.paths.map Path.components).Nodup := by
  rw [List.Nodup, List.pairwise_map]
  exact h.imp Path.Before.ne

lemma inOrder_empty : empty.InOrder := List.Pairwise.nil

lemma InOrder.put (h : s.InOrder) (p : Path) (b : ByteArray) : (s.put p b).InOrder :=
  pairwise_insertFile h

lemma InOrder.erase (h : s.InOrder) (p : Path) : (s.erase p).InOrder :=
  List.Pairwise.sublist (List.Sublist.map _ List.filter_sublist) h

/-- Every operation leaves the files in order. -/
lemma Performed.inOrder {op : FileOp} {answer : op.Answer} {t : FileStore}
    (h : Performed s op answer t) (hs : s.InOrder) : t.InOrder := by
  cases h with
  | failed _ => exact hs
  | read p text => exact hs
  | write p b => exact hs.put p b
  | append p b => exact hs.put p _
  | @rename p q b _ => exact (hs.erase p).put q b
  | remove p => exact hs.erase p
  | makeDir p => exact hs
  | «exists» p answer => exact hs
  | isFile p answer => exact hs

end FileStore

end JobGraph
