import JobGraph.Text.Basic

/-!
# Sets of names

Finite sets of texts, kept as strictly sorted lists; hence two sets with the same members are equal.
The main statements say what the members of each operation's result are.
-/

namespace JobGraph

/-- A finite set of names: its members in strictly rising order. -/
structure NameSet where
  toList : List String
  sorted : toList.Pairwise (· < ·)
deriving Repr

namespace NameSet

/-- A strictly sorted list with one more member. -/
def insertSorted (x : String) : List String → List String
  | [] => [x]
  | y :: ys => if x < y then x :: y :: ys else if x = y then y :: ys else y :: insertSorted x ys

theorem mem_insertSorted {a x : String} {l : List String} :
    a ∈ insertSorted x l ↔ a = x ∨ a ∈ l := by
  induction l with
  | nil => simp [insertSorted]
  | cons y ys ih =>
    simp only [insertSorted]
    split
    · simp
    · split
      · next h => subst h; simp
      · simp only [List.mem_cons, ih]
        constructor <;> rintro (h | h | h) <;> simp [h]

theorem insertSorted_sorted {x : String} {l : List String} (h : l.Pairwise (· < ·)) :
    (insertSorted x l).Pairwise (· < ·) := by
  induction l with
  | nil => simp [insertSorted]
  | cons y ys ih =>
    obtain ⟨hy, hys⟩ := List.pairwise_cons.1 h
    simp only [insertSorted]
    split
    · next hxy =>
      refine List.pairwise_cons.2 ⟨fun a ha => ?_, h⟩
      rcases List.mem_cons.1 ha with rfl | ha
      · exact hxy
      · exact String.lt_trans hxy (hy a ha)
    · next hxy =>
      split
      · exact h
      · next hne =>
        refine List.pairwise_cons.2 ⟨fun a ha => ?_, ih hys⟩
        rcases mem_insertSorted.1 ha with rfl | ha
        · exact Std.lt_of_le_of_ne (String.not_lt.1 hxy) (fun e => hne e.symm)
        · exact hy a ha

/-- The set without members. -/
def empty : NameSet := ⟨[], .nil⟩

/-- The set with one more member. -/
def insert (s : NameSet) (x : String) : NameSet :=
  ⟨insertSorted x s.toList, insertSorted_sorted s.sorted⟩

/-- The set of the members of a list. -/
def ofList (l : List String) : NameSet :=
  l.foldl insert empty

/-- `x` is a member. -/
def contains (s : NameSet) (x : String) : Bool :=
  s.toList.contains x

instance : Membership String NameSet := ⟨fun s x => x ∈ s.toList⟩

instance (x : String) (s : NameSet) : Decidable (x ∈ s) :=
  inferInstanceAs (Decidable (x ∈ s.toList))

instance : DecidableEq NameSet := fun s t =>
  if h : s.toList = t.toList then
    isTrue (by cases s; cases t; simp_all)
  else isFalse (by rintro rfl; exact h rfl)

/-- The members that satisfy `p`. -/
def filter (s : NameSet) (p : String → Bool) : NameSet :=
  ⟨s.toList.filter p, s.sorted.filter p⟩

/-- The members of both sets together. -/
def union (s t : NameSet) : NameSet :=
  t.toList.foldl insert s

/-- The members of `s` that are not in `t`. -/
def diff (s t : NameSet) : NameSet :=
  s.filter fun x => !t.contains x

/-- The set has no members. -/
def isEmpty (s : NameSet) : Bool :=
  s.toList.isEmpty

/-- The number of members. -/
def size (s : NameSet) : Nat :=
  s.toList.length

/-- The members in order, separated by commas. -/
def listed (s : NameSet) : String :=
  ", ".intercalate s.toList

/-! ## Members -/

theorem mem_def {s : NameSet} {x : String} : x ∈ s ↔ x ∈ s.toList := Iff.rfl

@[simp]
theorem mem_toList {s : NameSet} {x : String} : x ∈ s.toList ↔ x ∈ s := Iff.rfl

@[simp]
theorem contains_iff {s : NameSet} {x : String} : s.contains x = true ↔ x ∈ s := by
  simp [contains]

@[simp]
theorem not_mem_empty {x : String} : ¬ x ∈ empty :=
  fun h => (List.not_mem_nil : ¬ x ∈ ([] : List String)) h

@[simp]
theorem mem_insert {s : NameSet} {x y : String} : y ∈ s.insert x ↔ y = x ∨ y ∈ s :=
  mem_insertSorted

theorem mem_foldl_insert {l : List String} {s : NameSet} {y : String} :
    y ∈ l.foldl insert s ↔ y ∈ l ∨ y ∈ s := by
  induction l generalizing s with
  | nil => simp
  | cons x l ih =>
    simp only [List.foldl_cons, ih, mem_insert, List.mem_cons]
    rw [← or_assoc, or_comm (a := y ∈ l)]

@[simp]
theorem mem_ofList {l : List String} {y : String} : y ∈ ofList l ↔ y ∈ l := by
  simp [ofList, mem_foldl_insert]

@[simp]
theorem mem_union {s t : NameSet} {y : String} : y ∈ s.union t ↔ y ∈ s ∨ y ∈ t := by
  simp only [union, mem_foldl_insert, mem_toList]
  exact Or.comm

@[simp]
theorem mem_filter {s : NameSet} {p : String → Bool} {y : String} :
    y ∈ s.filter p ↔ y ∈ s ∧ p y = true :=
  List.mem_filter

@[simp]
theorem mem_diff {s t : NameSet} {y : String} : y ∈ s.diff t ↔ y ∈ s ∧ ¬ y ∈ t := by
  have h : (!t.contains y) = true ↔ ¬ y ∈ t := by rw [← contains_iff]; cases t.contains y <;> simp
  simp only [diff, mem_filter, h]

theorem isEmpty_iff {s : NameSet} : s.isEmpty = true ↔ ∀ x, ¬ x ∈ s := by
  simp only [isEmpty, List.isEmpty_iff, mem_def]
  exact List.eq_nil_iff_forall_not_mem

/-- Sets with the same members are equal. -/
theorem ext {s t : NameSet} (h : ∀ x, x ∈ s ↔ x ∈ t) : s = t := by
  have eq_of_sorted : ∀ l m : List String, l.Pairwise (· < ·) → m.Pairwise (· < ·) →
      (∀ x, x ∈ l ↔ x ∈ m) → l = m := by
    intro l
    induction l with
    | nil =>
      intro m _ _ h
      exact (List.eq_nil_iff_forall_not_mem.2 fun x hx => by simp [← h] at hx).symm
    | cons a l ih =>
      intro m hl hm h
      cases m with
      | nil => exact absurd ((h a).1 (by simp)) (by simp)
      | cons b m =>
        obtain ⟨ha, hl'⟩ := List.pairwise_cons.1 hl
        obtain ⟨hb, hm'⟩ := List.pairwise_cons.1 hm
        have hab : a = b := by
          rcases List.mem_cons.1 ((h a).1 (by simp)) with e | e
          · exact e
          · rcases List.mem_cons.1 ((h b).2 (by simp)) with e' | e'
            · exact e'.symm
            · exact absurd (String.lt_trans (ha b e') (hb a e)) (String.lt_irrefl a)
        subst hab
        congr 1
        refine ih m hl' hm' fun x => ⟨fun hx => ?_, fun hx => ?_⟩
        · rcases List.mem_cons.1 ((h x).1 (by simp [hx])) with e | e
          · exact absurd (e ▸ ha x hx) (String.lt_irrefl a)
          · exact e
        · rcases List.mem_cons.1 ((h x).2 (by simp [hx])) with e | e
          · exact absurd (e ▸ hb x hx) (String.lt_irrefl a)
          · exact e
  cases s with
  | mk s hs =>
    cases t with
    | mk t ht =>
      have : s = t := eq_of_sorted s t hs ht h
      subst this
      rfl

end NameSet

end JobGraph
