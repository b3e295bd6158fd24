import Mathlib.Data.List.Infix
import JobGraph.Proofs.Text.Words

/-!
# Lists in a text

The items of a list stand in a text with a comma and a blank between them.  A comma alone does not
end an item, and neither does a blank, so the items are read back if and only if none of them holds
the two of them side by side; this is `Text.listItems_intercalate_iff`.
-/

namespace JobGraph.Text

/-- What stands between the places where a blank follows a comma. -/
def listPieces : List Char → List (List Char)
  | [] => [[]]
  | ',' :: ' ' :: s => [] :: listPieces s
  | c :: s =>
    match listPieces s with
    | [] => [[c]]
    | p :: ps => (c :: p) :: ps

/-- The items of a list that is written as a text. -/
def listItems (s : String) : List String :=
  (listPieces s.toList).map String.ofList

variable {s p q : List Char} {ps : List (List Char)}

/-! ### Pieces -/

lemma listPieces_ne_nil (s : List Char) : listPieces s ≠ [] := by
  induction s using listPieces.induct with
  | case1 => simp [listPieces]
  | case2 s ih => simp [listPieces]
  | case3 c s hsep _ ih => exact absurd ‹_› ih
  | case4 c s hsep p ps hs ih =>
    rw [listPieces, hs]
    · simp
    · exact hsep

/-- A character that does not begin a separator belongs to the first piece. -/
lemma listPieces_cons {c : Char} (hsep : ∀ t, c = ',' → s = ' ' :: t → False)
    (hs : listPieces s = p :: ps) : listPieces (c :: s) = (c :: p) :: ps := by
  rw [listPieces, hs]
  exact hsep

/-- A separator parts a text, as it does not overlap with another one. -/
lemma listPieces_append (a b : List Char) :
    listPieces (a ++ ',' :: ' ' :: b) = listPieces a ++ listPieces b := by
  induction a using listPieces.induct with
  | case1 => simp [listPieces]
  | case2 s ih => simp [listPieces, ih]
  | case3 c s hsep hs ih => exact absurd hs (listPieces_ne_nil s)
  | case4 c s hsep p ps hs ih =>
    rw [hs, List.cons_append] at ih
    rw [listPieces_cons hsep hs, List.cons_append, List.cons_append]
    refine listPieces_cons (fun t hc ht => ?_) ih
    cases s with
    | nil => simp at ht
    | cons d s => exact hsep s hc (by rw [(List.cons.inj ht).1])

lemma listPieces_eq_singleton (h : ¬ [',', ' '] <:+: s) : listPieces s = [s] := by
  induction s with
  | nil => rfl
  | cons c s ih =>
    rw [List.infix_cons_iff, not_or] at h
    refine listPieces_cons (fun t hc ht => h.1 ?_) (ih h.2)
    rw [hc, ht]
    exact List.prefix_append [',', ' '] t

/-- The first piece stands in front. -/
lemma prefix_of_listPieces (h : listPieces s = p :: ps) : p <+: s := by
  induction s using listPieces.induct generalizing p ps with
  | case1 =>
    cases h
    exact List.prefix_refl []
  | case2 s ih =>
    rw [listPieces] at h
    cases h
    exact List.nil_prefix
  | case3 c s hsep hs ih => exact absurd hs (listPieces_ne_nil s)
  | case4 c s hsep q qs hs ih =>
    rw [listPieces_cons hsep hs] at h
    cases h
    exact List.cons_prefix_cons.2 ⟨rfl, ih hs⟩

/-- No piece holds a separator. -/
lemma not_infix_of_mem_listPieces (h : q ∈ listPieces s) : ¬ [',', ' '] <:+: q := by
  induction s using listPieces.induct generalizing q with
  | case1 =>
    rw [listPieces, List.mem_singleton] at h
    subst h
    decide
  | case2 s ih =>
    rw [listPieces] at h
    rcases List.mem_cons.1 h with rfl | h
    · decide
    · exact ih h
  | case3 c s hsep hs ih => exact absurd hs (listPieces_ne_nil s)
  | case4 c s hsep p ps hs ih =>
    rw [listPieces_cons hsep hs] at h
    rw [hs] at ih
    rcases List.mem_cons.1 h with rfl | h
    · -- a separator at the beginning of the piece would stand at the beginning of the text
      rw [List.infix_cons_iff, not_or]
      refine ⟨fun hfront => ?_, ih List.mem_cons_self⟩
      rw [List.cons_prefix_cons] at hfront
      obtain ⟨t, ht⟩ := hfront.2.trans (prefix_of_listPieces hs)
      exact hsep t hfront.1.symm ht.symm
    · exact ih (List.mem_cons_of_mem p h)

/-! ### Items -/

lemma listItems_eq_singleton {w : String} (h : ¬ [',', ' '] <:+: w.toList) :
    listItems w = [w] := by
  rw [listItems, listPieces_eq_singleton h, List.map_singleton, String.ofList_toList]

lemma listItems_intercalate {ws : List String} (h : ws ≠ []) :
    listItems (", ".intercalate ws) = ws.flatMap listItems := by
  induction ws with
  | nil => exact absurd rfl h
  | cons w ws ih =>
    cases ws with
    | nil => simp
    | cons w' ws =>
      have htext : (", ".intercalate (w :: w' :: ws)).toList =
          w.toList ++ ',' :: ' ' :: (", ".intercalate (w' :: ws)).toList := by
        rw [intercalate_cons (List.cons_ne_nil _ _)]
        simp
      rw [List.flatMap_cons, ← ih (List.cons_ne_nil _ _), listItems, htext, listPieces_append,
        List.map_append]
      rfl

/-- **Reading a list.**  The items are read back from a list if and only if no item holds a comma
with a blank behind it. -/
theorem listItems_intercalate_iff {ws : List String} (h : ws ≠ []) :
    listItems (", ".intercalate ws) = ws ↔ ∀ w ∈ ws, ¬ [',', ' '] <:+: w.toList := by
  constructor
  · intro hread w hw
    rw [← hread] at hw
    obtain ⟨q, hq, rfl⟩ := List.mem_map.1 hw
    rw [String.toList_ofList]
    exact not_infix_of_mem_listPieces hq
  · intro hitems
    have hone : ∀ w ∈ ws, listItems w = [w] := fun w hw => listItems_eq_singleton (hitems w hw)
    rw [listItems_intercalate h, List.flatMap_congr hone, List.flatMap_singleton']

end JobGraph.Text
