import Mathlib.Data.List.Forall2
import Mathlib.Tactic.Common

/-!
# Steps that may fail

A chain of steps comes to a result if each of its steps does, and so does a list that is gone
through step by step.  The same is said of steps that fail without an error.
-/

namespace JobGraph

variable {ε α β : Type}

/-- A chain of two steps succeeds if the first one does and then the second one. -/
lemma bind_eq_ok {x : Except ε α} {f : α → Except ε β} {b : β} :
    x >>= f = .ok b ↔ ∃ a, x = .ok a ∧ f a = .ok b := by
  cases x <;> simp [bind, Except.bind]

lemma pure_eq_ok {a b : α} : (pure a : Except ε α) = .ok b ↔ a = b := by
  simp [pure, Except.pure]

lemma throw_ne_ok {e : ε} {a : α} : (throw e : Except ε α) ≠ .ok a := by
  simp [throw, throwThe, MonadExceptOf.throw]

/-- Going through a list succeeds if every step does. -/
lemma mapM_eq_ok {f : α → Except ε β} {xs : List α} {ys : List β} :
    xs.mapM f = .ok ys ↔ List.Forall₂ (fun x y => f x = .ok y) xs ys := by
  induction xs generalizing ys with
  | nil =>
    rw [List.mapM_nil, pure_eq_ok, List.forall₂_nil_left_iff]
    exact eq_comm
  | cons x xs ih =>
    rw [List.mapM_cons, bind_eq_ok, List.forall₂_cons_left_iff]
    simp only [bind_eq_ok, pure_eq_ok, ih]
    constructor
    · rintro ⟨y, hy, zs, hzs, rfl⟩
      exact ⟨y, zs, hy, hzs, rfl⟩
    · rintro ⟨y, zs, hy, hzs, rfl⟩
      exact ⟨y, hy, zs, hzs, rfl⟩

/-- What comes out of going through a list comes from its members. -/
lemma exists_of_mem_mapM {f : α → Except ε β} {xs : List α} {ys : List β} (h : xs.mapM f = .ok ys)
    {y : β} (hy : y ∈ ys) : ∃ x ∈ xs, f x = .ok y := by
  rw [mapM_eq_ok] at h
  induction h with
  | nil => cases hy
  | @cons x y' xs ys hstep _ ih =>
    rcases List.mem_cons.1 hy with rfl | hy
    · exact ⟨x, List.mem_cons_self, hstep⟩
    · obtain ⟨x', hx', hstep'⟩ := ih hy
      exact ⟨x', List.mem_cons_of_mem x hx', hstep'⟩

/-- Going through a list comes to a result exactly if each step does. -/
lemma exists_mapM_eq_ok {f : α → Except ε β} {xs : List α} :
    (∃ ys, xs.mapM f = .ok ys) ↔ ∀ x ∈ xs, ∃ y, f x = .ok y := by
  simp only [mapM_eq_ok]
  induction xs with
  | nil => exact iff_of_true ⟨[], .nil⟩ (List.forall_mem_nil _)
  | cons x xs ih =>
    rw [List.forall_mem_cons, ← ih]
    constructor
    · rintro ⟨ys, hys⟩
      obtain ⟨y, ys, hy, hrest, -⟩ := List.forall₂_cons_left_iff.1 hys
      exact ⟨⟨y, hy⟩, ys, hrest⟩
    · rintro ⟨⟨y, hy⟩, ys, hrest⟩
      exact ⟨y :: ys, .cons hy hrest⟩

/-! ### Without an error -/

section Option

variable {γ : Type}

/-- What comes out of going through a list comes from its members. -/
lemma exists_of_mem_mapM_option {f : α → Option β} {xs : List α} {ys : List β}
    (h : xs.mapM f = some ys) {y : β} (hy : y ∈ ys) : ∃ x ∈ xs, f x = some y := by
  induction xs generalizing ys with
  | nil =>
    obtain rfl : ys = [] := (Option.some.inj h).symm
    cases hy
  | cons x xs ih =>
    simp only [List.mapM_cons, Option.bind_eq_bind, Option.bind_eq_some_iff] at h
    obtain ⟨y', hstep, zs, hrest, hys⟩ := h
    cases hys
    rcases List.mem_cons.1 hy with rfl | hy
    · exact ⟨x, List.mem_cons_self, hstep⟩
    · obtain ⟨x', hx', hstep'⟩ := ih hrest hy
      exact ⟨x', List.mem_cons_of_mem x hx', hstep'⟩

/-- Parts that are written one by one are read back one by one. -/
lemma mapM_map_eq_some {f : α → β} {g : β → Option γ} {h : α → γ} {xs : List α}
    (hread : ∀ x ∈ xs, g (f x) = some (h x)) : (xs.map f).mapM g = some (xs.map h) := by
  induction xs with
  | nil => rfl
  | cons x xs ih =>
    rw [List.forall_mem_cons] at hread
    simp [List.mapM_cons, hread.1, ih hread.2]

end Option

end JobGraph
