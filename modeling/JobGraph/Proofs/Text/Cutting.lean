import Mathlib.Data.List.TakeWhile
import Mathlib.Tactic.Common
import JobGraph.Text.Basic

/-!
# Cutting texts apart

What was put together with a separator comes apart at it again: lines at their line feeds, joined
pieces at the separators between them, and a text at its last separator, provided that the parts
hold none of their own.  The digits of a number hold no separator that is not a digit, and a text
without characters to be trimmed at its ends stays as it is.
-/

namespace JobGraph.Text

variable {sep : Char} {p : Char → Bool}

/-- A text that is given by its characters has those characters. -/
lemma not_mem_toList_ofList {c : Char} {cs : List Char} (h : c ∉ cs) :
    c ∉ (String.ofList cs).toList := by
  rwa [String.toList_ofList]

/-! ### Pieces -/

lemma pieces_append (sep : Char) (a b : List Char) :
    pieces sep (a ++ sep :: b) = pieces sep a ++ pieces sep b := by
  induction a with
  | nil => simp [pieces]
  | cons c a ih =>
    rw [List.cons_append, pieces, pieces]
    split
    · rw [ih, List.cons_append]
    · rw [ih]
      cases hp : pieces sep a with
      | nil => exact absurd hp (pieces_ne_nil sep a)
      | cons p ps => rfl

lemma pieces_eq_singleton {s : List Char} (h : sep ∉ s) : pieces sep s = [s] := by
  induction s with
  | nil => rfl
  | cons c s ih =>
    rw [List.mem_cons, not_or] at h
    rw [pieces, if_neg (Ne.symm h.1), ih h.2]

lemma split_eq_singleton {s : String} (h : sep ∉ s.toList) : split sep s = [s] := by
  rw [split, pieces_eq_singleton h, List.map_singleton, String.ofList_toList]

/-- Texts without the separator stay as they are. -/
lemma flatMap_split_eq_self {texts : List String} (h : ∀ s ∈ texts, sep ∉ s.toList) :
    texts.flatMap (split sep) = texts := by
  induction texts with
  | nil => rfl
  | cons s texts ih =>
    rw [List.forall_mem_cons] at h
    rw [List.flatMap_cons, split_eq_singleton h.1, ih h.2, List.singleton_append]

/-- A text can be told from what is between its separators. -/
lemma split_injective (sep : Char) : Function.Injective (split sep) := by
  intro s t h
  have hpieces : pieces sep s.toList = pieces sep t.toList :=
    (List.map_inj_right fun _ _ => String.ofList_inj.1).1 h
  rw [← String.toList_inj, ← join_pieces sep s.toList, hpieces, join_pieces]

/-- No piece holds the separator. -/
lemma sep_not_mem_of_mem_pieces {s q : List Char} (h : q ∈ pieces sep s) : sep ∉ q := by
  induction s generalizing q with
  | nil =>
    rw [pieces, List.mem_singleton] at h
    subst h
    simp
  | cons c s ih =>
    rw [pieces] at h
    split at h
    · rcases List.mem_cons.1 h with rfl | h
      · simp
      · exact ih h
    · next hc =>
      cases hs : pieces sep s with
      | nil => exact absurd hs (pieces_ne_nil sep s)
      | cons q' qs =>
        rw [hs] at h ih
        rcases List.mem_cons.1 h with rfl | h
        · rw [List.mem_cons, not_or]
          exact ⟨Ne.symm hc, ih (by simp)⟩
        · exact ih (List.mem_cons_of_mem q' h)

/-- Parts that are followed by others end at a separator. -/
lemma join_cons_cons (q q' : List Char) (qs : List (List Char)) :
    join sep (q :: q' :: qs) = q ++ sep :: join sep (q' :: qs) := rfl

/-- Joined parts come apart into the pieces of each. -/
lemma pieces_join {ps : List (List Char)} (h : ps ≠ []) :
    pieces sep (join sep ps) = ps.flatMap (pieces sep) := by
  induction ps with
  | nil => exact absurd rfl h
  | cons q qs ih =>
    cases qs with
    | nil => simp [join]
    | cons q' qs =>
      rw [join_cons_cons, pieces_append, ih (List.cons_ne_nil _ _)]
      exact List.flatMap_cons.symm

lemma subset_join {q : List Char} {ps : List (List Char)} (h : q ∈ ps) : q ⊆ join sep ps := by
  induction ps with
  | nil => cases h
  | cons p ps ih =>
    cases ps with
    | nil =>
      rw [List.mem_singleton] at h
      subst h
      exact List.Subset.refl q
    | cons p' ps =>
      rw [join_cons_cons]
      rcases List.mem_cons.1 h with rfl | h
      · exact List.subset_append_left _ _
      · exact List.subset_append_of_subset_right _ (List.subset_cons_of_subset sep (ih h))

/-- The pieces of a text hold no characters of their own. -/
lemma subset_of_mem_pieces {s q : List Char} (h : q ∈ pieces sep s) : q ⊆ s := by
  have hsub : q ⊆ join sep (pieces sep s) := subset_join h
  rwa [join_pieces] at hsub

lemma intercalate_eq_join (sep : Char) (ps : List (List Char)) :
    [sep].intercalate ps = join sep ps := by
  induction ps with
  | nil => rfl
  | cons q qs ih =>
    cases qs with
    | nil => simp [join]
    | cons q' qs =>
      rw [join_cons_cons, ← ih, List.intercalate_cons_cons, List.append_assoc,
        List.singleton_append]

/-- Parts that are put together hold the characters of the parts and of what is between them. -/
lemma not_mem_intercalate {c : Char} {between : List Char} {ps : List (List Char)}
    (hbetween : c ∉ between) (h : ∀ p ∈ ps, c ∉ p) : c ∉ between.intercalate ps := by
  induction ps with
  | nil => simp
  | cons q qs ih =>
    rw [List.forall_mem_cons] at h
    cases qs with
    | nil => simpa using h.1
    | cons q' qs =>
      rw [List.intercalate_cons_cons, List.mem_append, List.mem_append, not_or, not_or]
      exact ⟨⟨h.1, hbetween⟩, ih h.2⟩

lemma subset_intercalate {between q : List Char} {ps : List (List Char)} (h : q ∈ ps) :
    q ⊆ between.intercalate ps := by
  induction ps with
  | nil => cases h
  | cons p ps ih =>
    cases ps with
    | nil =>
      rw [List.mem_singleton] at h
      subst h
      simp
    | cons p' ps =>
      rw [List.intercalate_cons_cons]
      rcases List.mem_cons.1 h with rfl | h
      · exact List.subset_append_of_subset_left _ (List.subset_append_left _ _)
      · exact List.subset_append_of_subset_right _ (ih h)

/-- A character that is not between the parts is missing if it is missing in every part. -/
lemma not_mem_toList_intercalate {c : Char} {between : String} {ws : List String}
    (hbetween : c ∉ between.toList) :
    c ∉ (between.intercalate ws).toList ↔ ∀ w ∈ ws, c ∉ w.toList := by
  rw [String.toList_intercalate]
  refine ⟨fun h w hw hc => h (subset_intercalate (List.mem_map_of_mem hw) hc), fun h => ?_⟩
  exact not_mem_intercalate hbetween (List.forall_mem_map.2 h)

/-- What is put together ends as its last part does. -/
lemma exists_intercalate_concat (between : List Char) (ps : List (List Char)) (q : List Char) :
    ∃ front, between.intercalate (ps ++ [q]) = front ++ q := by
  induction ps with
  | nil => exact ⟨[], by simp⟩
  | cons p ps ih =>
    obtain ⟨front, hfront⟩ := ih
    refine ⟨p ++ between ++ front, ?_⟩
    cases ps with
    | nil =>
      simp only [List.nil_append, List.intercalate_singleton, List.self_eq_append_left] at hfront
      simp [hfront]
    | cons p' ps =>
      rw [List.cons_append, List.cons_append, List.intercalate_cons_cons, ← List.cons_append,
        hfront, List.append_assoc _ front]

/-- Parts are joined as those before a separator and those behind it. -/
lemma join_append {xs ys : List (List Char)} (hx : xs ≠ []) (hy : ys ≠ []) :
    join sep (xs ++ ys) = join sep xs ++ sep :: join sep ys := by
  induction xs with
  | nil => exact absurd rfl hx
  | cons x xs ih =>
    obtain ⟨y, ys, rfl⟩ := List.exists_cons_of_ne_nil hy
    cases xs with
    | nil => rfl
    | cons x' xs =>
      have hrest := ih (List.cons_ne_nil x' xs)
      rw [List.cons_append, List.cons_append, join_cons_cons, ← List.cons_append, hrest,
        join_cons_cons, List.append_assoc, List.cons_append]

/-- Joined parts in front stand for themselves. -/
lemma join_cons_join {ps : List (List Char)} (h : ps ≠ []) (qs : List (List Char)) :
    join sep (join sep ps :: qs) = join sep (ps ++ qs) := by
  cases qs with
  | nil => simp [join]
  | cons q qs => rw [join_cons_cons, join_append h (List.cons_ne_nil q qs)]

/-- Joined parts stand for themselves wherever they are a part. -/
lemma join_append_join {ps : List (List Char)} (h : ps ≠ []) (os qs : List (List Char)) :
    join sep (os ++ join sep ps :: qs) = join sep (os ++ ps ++ qs) := by
  rcases eq_or_ne os [] with rfl | hos
  · exact join_cons_join h qs
  · rw [join_append hos (List.cons_ne_nil _ _), join_cons_join h, List.append_assoc,
      join_append hos (List.append_ne_nil_of_left_ne_nil h qs)]

/-- Parts without separators each of which is followed by one come apart again. -/
lemma pieces_flatMap_append {ls : List (List Char)} (h : ∀ l ∈ ls, sep ∉ l) :
    pieces sep (ls.flatMap fun l => l ++ [sep]) = ls ++ [[]] := by
  induction ls with
  | nil => rfl
  | cons l ls ih =>
    rw [List.forall_mem_cons] at h
    rw [List.flatMap_cons, List.append_assoc, List.singleton_append, pieces_append,
      pieces_eq_singleton h.1, ih h.2, List.singleton_append, List.cons_append]

/-- A text of lines comes apart at its line feeds; behind the last one there is nothing. -/
lemma split_lines {ls : List String} (h : ∀ l ∈ ls, '\n' ∉ l.toList) :
    split '\n' (String.join (ls.map (· ++ "\n"))) = ls ++ [""] := by
  have htext : (String.join (ls.map (· ++ "\n"))).toList =
      (ls.map String.toList).flatMap fun l => l ++ ['\n'] := by
    rw [String.toList_join, List.flatMap_map, List.flatMap_map]
    simp
  have hlines : ∀ l ∈ ls.map String.toList, '\n' ∉ l := by
    intro l hl
    obtain ⟨line, hline, rfl⟩ := List.mem_map.1 hl
    exact h line hline
  rw [split, htext, pieces_flatMap_append hlines, List.map_append, List.map_map]
  simp

/-! ### The first and the last separator -/

/-- A text is cut where no separator stands in front. -/
lemma cutFirst?_append {a b : List Char} (h : sep ∉ a) :
    cutFirst? sep (a ++ sep :: b) = some (a, b) := by
  induction a with
  | nil => simp [cutFirst?]
  | cons c a ih =>
    rw [List.mem_cons, not_or] at h
    rw [List.cons_append, cutFirst?, if_neg (Ne.symm h.1), ih h.2]
    rfl

/-- Texts of which one begins with the other agree up to their first separators. -/
lemma eq_of_prefix_append {a a' b b' : List Char} (ha : sep ∉ a) (ha' : sep ∉ a')
    (h : a ++ sep :: b <+: a' ++ sep :: b') : a = a' := by
  obtain ⟨t, ht⟩ := h
  rw [List.append_assoc, List.cons_append] at ht
  have hcut := cutFirst?_append (b := b ++ t) ha
  rw [ht, cutFirst?_append ha'] at hcut
  simpa using (congrArg Prod.fst (Option.some.inj hcut)).symm

lemma cutLast?_eq_none_iff {s : List Char} : cutLast? sep s = none ↔ sep ∉ s := by
  induction s with
  | nil => simp [cutLast?]
  | cons c s ih =>
    rw [cutLast?, List.mem_cons, not_or, ← ih]
    cases hs : cutLast? sep s with
    | none =>
      by_cases hc : c = sep
      · simp [hc]
      · simp [hc, Ne.symm hc]
    | some ab => simp

/-- A text is cut where no separator follows. -/
lemma cutLast?_append {a b : List Char} (h : sep ∉ b) :
    cutLast? sep (a ++ sep :: b) = some (a, b) := by
  induction a with
  | nil => simp [cutLast?, cutLast?_eq_none_iff.2 h]
  | cons c a ih => rw [List.cons_append, cutLast?, ih]

lemma sep_not_mem_of_cutLast? {s a b : List Char} (h : cutLast? sep s = some (a, b)) :
    sep ∉ b := by
  induction s generalizing a with
  | nil => simp [cutLast?] at h
  | cons c s ih =>
    rw [cutLast?] at h
    split at h
    · next a' b' h' =>
      cases h
      exact ih h'
    · next h' =>
      split at h
      · cases h
        exact cutLast?_eq_none_iff.1 h'
      · cases h

/-- What stands before the last separator and what stands behind it can be told from the text. -/
lemma append_sep_inj {a a' b b' : List Char} (hb : sep ∉ b) (hb' : sep ∉ b')
    (h : a ++ sep :: b = a' ++ sep :: b') : a = a' ∧ b = b' := by
  have hcut := cutLast?_append (a := a) hb
  rw [h, cutLast?_append hb'] at hcut
  simpa [eq_comm] using hcut

/-! ### Digits -/

lemma not_mem_toDigits {c : Char} (hc : c.isDigit = false) (n : Nat) : c ∉ Nat.toDigits 10 n := by
  intro h
  have hdigit := Nat.isDigit_of_mem_toDigits (by decide) (by decide) h
  rw [hc] at hdigit
  cases hdigit

lemma toDigits_inj {m n : Nat} (h : Nat.toDigits 10 m = Nat.toDigits 10 n) : m = n := by
  rw [← Nat.ofDigitChars_toDigits (b := 10) (n := m) (by decide) (by decide), h,
    Nat.ofDigitChars_toDigits (by decide) (by decide)]

/-! ### Trimming -/

/-- A text whose ends are not to be trimmed stays as it is. -/
lemma trimBy_eq_self {s : List Char} (hhead : ∀ c ∈ s.head?, p c = false)
    (hlast : ∀ c ∈ s.getLast?, p c = false) : trimBy p s = s := by
  have hkeep : ∀ t : List Char, (∀ c ∈ t.head?, p c = false) → t.dropWhile p = t := by
    intro t ht
    cases t with
    | nil => rfl
    | cons c t => exact List.dropWhile_cons_of_neg (by simpa using ht c rfl)
  rw [trimBy, hkeep s hhead, hkeep s.reverse (by rwa [List.head?_reverse]), List.reverse_reverse]

lemma trimBy_cons {c : Char} (hc : p c = true) (s : List Char) :
    trimBy p (c :: s) = trimBy p s := by
  rw [trimBy, List.dropWhile_cons_of_pos hc, trimBy]

lemma trimBy_subset (p : Char → Bool) (s : List Char) : trimBy p s ⊆ s := by
  intro c hc
  rw [trimBy, List.mem_reverse] at hc
  have hmem := (List.dropWhile_sublist p).subset hc
  exact (List.dropWhile_sublist p).subset (List.mem_reverse.1 hmem)

/-- A trimmed text does not begin with a character that is to be trimmed. -/
lemma head?_trimBy {s : List Char} : ∀ c ∈ (trimBy p s).head?, p c = false := by
  intro c hc
  -- trimming at the end leaves a front of what was left by trimming at the beginning
  have hfront : trimBy p s <+: s.dropWhile p := by
    rw [trimBy, ← List.reverse_suffix, List.reverse_reverse]
    exact List.dropWhile_suffix p
  obtain ⟨back, hback⟩ := hfront
  have hhead : (s.dropWhile p).head? = some c := by
    rw [← hback, List.head?_append, Option.mem_def.1 hc]
    rfl
  have hnot := List.head?_dropWhile_not p s
  rw [hhead] at hnot
  exact hnot

lemma getLast?_trimBy {s : List Char} : ∀ c ∈ (trimBy p s).getLast?, p c = false := by
  intro c hc
  have hhead : ((s.dropWhile p).reverse.dropWhile p).head? = some c := by
    rw [← List.getLast?_reverse]
    exact hc
  have hnot := List.head?_dropWhile_not p (s.dropWhile p).reverse
  rw [hhead] at hnot
  exact hnot

/-- What is trimmed off a text stands in front of what is left and behind it. -/
lemma exists_trimBy (p : Char → Bool) (s : List Char) :
    ∃ before after, s = before ++ trimBy p s ++ after ∧
      (∀ c ∈ before, p c = true) ∧ ∀ c ∈ after, p c = true := by
  have hfront := List.takeWhile_append_dropWhile (p := p) (l := s)
  have hback : s.dropWhile p = trimBy p s ++ ((s.dropWhile p).reverse.takeWhile p).reverse := by
    rw [trimBy, ← List.reverse_append, List.takeWhile_append_dropWhile, List.reverse_reverse]
  refine ⟨s.takeWhile p, ((s.dropWhile p).reverse.takeWhile p).reverse, ?_, ?_, ?_⟩
  · rw [List.append_assoc, ← hback, hfront]
  · exact fun c hc => List.mem_takeWhile_imp hc
  · exact fun c hc => List.mem_takeWhile_imp (List.mem_reverse.1 hc)

/-- Nothing is left of a text exactly if all of it is to be trimmed. -/
lemma trimBy_eq_nil_iff {s : List Char} : trimBy p s = [] ↔ ∀ c ∈ s, p c = true := by
  constructor
  · intro h
    obtain ⟨before, after, hs, hbefore, hafter⟩ := exists_trimBy p s
    rw [h, List.append_nil] at hs
    rw [hs]
    exact List.forall_mem_append.2 ⟨hbefore, hafter⟩
  · intro h
    have hnil : s.dropWhile p = [] := List.dropWhile_eq_nil_iff.2 h
    rw [trimBy, hnil]
    rfl

/-- What is to be trimmed at the ends of a text does not matter. -/
lemma trimBy_append_append {before s after : List Char} (hbefore : ∀ c ∈ before, p c = true)
    (hafter : ∀ c ∈ after, p c = true) : trimBy p (before ++ s ++ after) = trimBy p s := by
  have hend : trimBy p (s ++ after) = trimBy p s := by
    by_cases hs : ∀ c ∈ s, p c = true
    · rw [trimBy_eq_nil_iff.2 hs, trimBy_eq_nil_iff.2 (List.forall_mem_append.2 ⟨hs, hafter⟩)]
    · have hne : s.dropWhile p ≠ [] := fun h => hs (List.dropWhile_eq_nil_iff.1 h)
      rw [trimBy, trimBy, List.dropWhile_append, if_neg (by simpa using hne), List.reverse_append,
        List.dropWhile_append_of_pos fun c hc => hafter c (List.mem_reverse.1 hc)]
  rw [List.append_assoc, trimBy, List.dropWhile_append_of_pos hbefore, ← trimBy, hend]

/-- The text neither begins nor ends with white space. -/
def IsTrimmed (s : String) : Prop :=
  (∀ c ∈ s.toList.head?, Unicode.isBlank c = false) ∧
    ∀ c ∈ s.toList.getLast?, Unicode.isBlank c = false

/-- Trimming leaves exactly those texts as they are that have no white space at their ends. -/
lemma trim_eq_self_iff {s : String} : trim s = s ↔ IsTrimmed s := by
  constructor
  · intro h
    have hlist : trimBy Unicode.isBlank s.toList = s.toList := by
      rw [← String.toList_inj, trim, String.toList_ofList] at h
      exact h
    have hhead := head?_trimBy (p := Unicode.isBlank) (s := s.toList)
    have hlast := getLast?_trimBy (p := Unicode.isBlank) (s := s.toList)
    rw [hlist] at hhead hlast
    exact ⟨hhead, hlast⟩
  · rintro ⟨hhead, hlast⟩
    rw [trim, trimBy_eq_self hhead hlast, String.ofList_toList]

end JobGraph.Text
