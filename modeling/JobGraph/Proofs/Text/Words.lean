import Mathlib.Data.List.Basic
import JobGraph.Proofs.Text.Cutting
import JobGraph.Text.Hex
import JobGraph.Unicode.Digit

/-!
# Words

A line is read word by word: its words are what stands between its runs of blanks.  A token is one
word, and so a line that is put together from tokens is read back as those tokens; this is
`Text.words_intercalate`.

Whether a text is a token is seen from its characters.  `Text.Plain` says that all of them are such
as a token may hold, and it carries over to what is cut out of plain texts or put together from
them.
-/

namespace JobGraph

/-- Ranges that do not overlap have no character in common. -/
lemma Unicode.Ranges.has_eq_false {r r' : Ranges} {c : Char}
    (hapart : ∀ x ∈ r, ∀ y ∈ r', x.2 < y.1 ∨ y.2 < x.1) (h : r.has c = true) :
    r'.has c = false := by
  simp only [Ranges.has, List.any_eq_true, Bool.and_eq_true, decide_eq_true_eq] at h
  obtain ⟨x, hx, hxc⟩ := h
  simp only [Ranges.has, List.any_eq_false, Bool.and_eq_true, decide_eq_true_eq, not_and]
  intro y hy hyc
  have := hapart x hx y hy
  omega

namespace Text

/-- The words of a line: what stands between its runs of blanks. -/
def words (s : String) : List String :=
  (split ' ' s).filter fun w => !w.isEmpty

/-- A character that a token may hold. -/
def isTokenChar (c : Char) : Bool :=
  !Unicode.isBlank c && c != '"'

/-- Every character of the text is one that a token may hold. -/
def Plain (s : String) : Prop :=
  ∀ c ∈ s.toList, isTokenChar c = true

instance (s : String) : Decidable (Plain s) :=
  List.decidableBAll (fun c => isTokenChar c = true) s.toList

variable {s t : String} {c : Char}

/-! ### Characters of tokens -/

/-- The visible characters of ASCII are characters of tokens, except for the quote. -/
lemma isTokenChar_of_visible (h : 33 ≤ c.toNat) (h' : c.toNat ≤ 126) (hquote : c.toNat ≠ 34) :
    isTokenChar c = true := by
  have hblank : Unicode.isBlank c = false := by
    simp only [Unicode.isBlank, Unicode.blankRanges, Unicode.Ranges.has, List.any_cons,
      List.any_nil, Bool.or_false, Bool.or_eq_false_iff, Bool.and_eq_false_iff,
      decide_eq_false_iff_not]
    omega
  have hne : c ≠ '"' := by
    rintro rfl
    exact hquote rfl
  simp [isTokenChar, hblank, hne]

/-- The letters and digits of ASCII stand in three runs. -/
lemma isAlphanum_iff (c : Char) :
    c.isAlphanum = true ↔ (65 ≤ c.toNat ∧ c.toNat ≤ 90) ∨ (97 ≤ c.toNat ∧ c.toNat ≤ 122) ∨
      (48 ≤ c.toNat ∧ c.toNat ≤ 57) := by
  have hruns : c.isAlphanum = ((decide (65 ≤ c.toNat ∧ c.toNat ≤ 90) ||
      (decide (97 ≤ c.toNat) && decide (c.toNat ≤ 122))) ||
      (decide (48 ≤ c.toNat) && decide (c.toNat ≤ 57))) := rfl
  simp only [hruns, Bool.or_eq_true, Bool.and_eq_true, decide_eq_true_eq, or_assoc]

lemma isTokenChar_of_isAlphanum (h : c.isAlphanum = true) : isTokenChar c = true := by
  rw [isAlphanum_iff] at h
  exact isTokenChar_of_visible (by omega) (by omega) (by omega)

/-- No digit of any script is white space. -/
lemma isTokenChar_of_isDigit (h : Unicode.isDigit c = true) : isTokenChar c = true := by
  rw [Unicode.isDigit, Bool.or_eq_true, Bool.and_eq_true, decide_eq_true_eq] at h
  rcases h with h | ⟨hlarge, h⟩
  · exact isTokenChar_of_isAlphanum (by simp [Char.isAlphanum, h])
  · have hblank : Unicode.isBlank c = false := Unicode.Ranges.has_eq_false (by decide) h
    have hne : c ≠ '"' := by
      rintro rfl
      revert hlarge
      decide
    simp [isTokenChar, hblank, hne]

/-! ### Plain texts -/

lemma Plain.not_mem (h : Plain s) (hc : isTokenChar c = false) : c ∉ s.toList := by
  intro hmem
  rw [h c hmem] at hc
  cases hc

/-- A token is a plain text that is not empty. -/
lemma isToken_iff : isToken s = true ↔ s ≠ "" ∧ Plain s := by
  simp only [isToken, Plain, isTokenChar, Bool.and_eq_true, Bool.not_eq_true', List.all_eq_true,
    String.isEmpty_eq_false_iff]

lemma isToken_of_mem (hc : c ∈ s.toList) (h : Plain s) : isToken s = true := by
  refine isToken_iff.2 ⟨?_, h⟩
  rintro rfl
  simp at hc

lemma plain_of_isToken (h : isToken s = true) : Plain s :=
  (isToken_iff.1 h).2

/-- A token is on one line. -/
lemma lineFeed_not_mem_of_isToken (h : isToken s = true) : '\n' ∉ s.toList :=
  (plain_of_isToken h).not_mem (by decide)

/-- What holds no character of its own is plain if what it is made from is. -/
lemma Plain.of_subset (h : Plain s) (hsub : t.toList ⊆ s.toList) : Plain t :=
  fun c hc => h c (hsub hc)

/-- A plain text holds none of the characters that tokens do not hold. -/
lemma plain_iff : Plain s ↔ ∀ c, isTokenChar c = false → c ∉ s.toList := by
  refine ⟨fun h c hc => h.not_mem hc, fun h c hc => ?_⟩
  by_contra hchar
  exact h c (Bool.eq_false_iff.2 hchar) hc

lemma plain_append : Plain (s ++ t) ↔ Plain s ∧ Plain t := by
  simp only [Plain, String.toList_append, List.mem_append, or_imp, forall_and]

lemma plain_intercalate {between : String} {ws : List String} (hbetween : Plain between)
    (h : ∀ w ∈ ws, Plain w) : Plain (between.intercalate ws) := by
  rw [plain_iff]
  intro c hc
  rw [not_mem_toList_intercalate (hbetween.not_mem hc)]
  exact fun w hw => (h w hw).not_mem hc

/-- What is cut out of a plain text is plain. -/
lemma plain_of_mem_split {sep : Char} (h : Plain s) (ht : t ∈ split sep s) : Plain t := by
  obtain ⟨q, hq, rfl⟩ := List.mem_map.1 ht
  refine h.of_subset ?_
  rw [String.toList_ofList]
  exact subset_of_mem_pieces hq

lemma plain_toString (n : ℕ) : Plain (toString n) := by
  intro c hc
  have hdigit : c.isDigit = true :=
    Nat.isDigit_of_mem_toDigits (b := 10) (by decide) (by decide) (by simpa using hc)
  exact isTokenChar_of_isAlphanum (by simp [Char.isAlphanum, hdigit])

lemma isToken_toString (n : ℕ) : isToken (toString n) = true := by
  refine isToken_iff.2 ⟨?_, plain_toString n⟩
  intro hempty
  have hdigits := congrArg String.toList hempty
  simp [Nat.toDigits_ne_nil] at hdigits

lemma plain_hexByte (b : UInt8) : ∀ c ∈ hexByte b, isTokenChar c = true := by
  have hdigit : ∀ n < 16, isTokenChar n.digitChar = true := by decide
  have hb := b.toNat_lt
  intro c hc
  rw [hexByte, List.mem_cons, List.mem_singleton] at hc
  rcases hc with rfl | rfl
  · exact hdigit _ (by omega)
  · exact hdigit _ (by omega)

/-! ### Words -/

lemma intercalate_cons {between w : String} {ws : List String} (h : ws ≠ []) :
    between.intercalate (w :: ws) = w ++ between ++ between.intercalate ws := by
  cases ws with
  | nil => exact absurd rfl h
  | cons w' ws =>
    rw [← String.toList_inj]
    simp

/-- What is joined by a separator comes apart at it into the pieces of its parts. -/
lemma split_intercalate {sep : String} {c : Char} (hsep : sep.toList = [c]) {ws : List String}
    (h : ws ≠ []) : split c (sep.intercalate ws) = ws.flatMap (split c) := by
  have hjoin : (sep.intercalate ws).toList = join c (ws.map String.toList) := by
    rw [String.toList_intercalate, hsep]
    exact intercalate_eq_join c _
  rw [split, hjoin, pieces_join (by simpa using h), List.flatMap_map, List.map_flatMap]
  rfl

/-- **Lines and their words.**  What is joined by blanks has the words of its parts. -/
theorem words_intercalate (ws : List String) : words (" ".intercalate ws) = ws.flatMap words := by
  cases ws with
  | nil => rfl
  | cons w ws =>
    rw [words, split_intercalate rfl (List.cons_ne_nil w ws), List.filter_flatMap]
    rfl

/-- A token is one word. -/
lemma words_of_isToken (h : isToken s = true) : words s = [s] := by
  obtain ⟨hne, hplain⟩ := isToken_iff.1 h
  rw [words, split_eq_singleton (hplain.not_mem (by decide))]
  simpa using hne

lemma flatMap_words {ws : List String} (h : ∀ w ∈ ws, isToken w = true) :
    ws.flatMap words = ws := by
  rw [List.flatMap_congr fun w hw => words_of_isToken (h w hw), List.flatMap_singleton']

/-- Tokens are read back from the line that they are joined to. -/
lemma words_intercalate_of_isToken {ws : List String} (h : ∀ w ∈ ws, isToken w = true) :
    words (" ".intercalate ws) = ws := by
  rw [words_intercalate, flatMap_words h]

/-- So they are behind the words at the beginning of a line. -/
lemma words_intercalate_cons (w : String) {ws : List String} (h : ∀ w ∈ ws, isToken w = true) :
    words (" ".intercalate (w :: ws)) = words w ++ ws := by
  rw [words_intercalate, List.flatMap_cons, flatMap_words h]

end Text

end JobGraph
