import Mathlib.Data.List.TakeDrop
import Mathlib.Tactic.Common
import JobGraph.Json.Parser
import JobGraph.Json.Printer

/-!
# Quoted text is read back

A string is written character by character, and each form is read as one piece, whatever follows.
So a quoted text is read as its characters up to the closing quote, and what stands behind the quote
is left: quotes, backslashes and control characters in the text make no difference.  Words and
digits are left in the same way.

The main result is `Json.stringBody?_escape`.
-/

namespace JobGraph.Json

/-! ### Characters -/

/-- A character that is written as itself is read as itself. -/
lemma pieces?_cons {c : Char} (hquote : c ≠ '"') (hslash : c ≠ '\\') (hcode : 32 ≤ c.toNat)
    (s : List Char) : pieces? (c :: s) = (pieces? s).map fun (ps, rest) => (.char c :: ps, rest) := by
  rw [pieces?.eq_def (c :: s)]
  simp only [if_neg hquote, if_neg hslash, if_neg (show ¬ c.toNat < 32 by omega)]

/-- A backslash and a letter are read as the character that they stand for. -/
lemma pieces?_escape {c e : Char} (he : simpleEscape? e = some c) (s : List Char) :
    pieces? ('\\' :: e :: s) = (pieces? s).map fun (ps, rest) => (.char c :: ps, rest) := by
  have hu : e ≠ 'u' := by
    rintro rfl
    cases he
  rw [pieces?.eq_def ('\\' :: e :: s)]
  simp [he, hu]

/-- The code of a control character is read as the character. -/
lemma pieces?_escapeCode {c : Char} (hcode : c.toNat < 32) (s : List Char) :
    pieces? (escapeCode c.toNat ++ s) =
      (pieces? s).map fun (ps, rest) => (.char c :: ps, rest) := by
  have hvalue : ∀ n < 32,
      Text.hexValue? ['0', '0', (n / 16).digitChar, (n % 16).digitChar] = some n := by decide
  have hunit : Piece.ofUnit c.toNat = .char c := by
    have hhalf : (isHigh c.toNat || isLow c.toNat) = false := by
      simp [isHigh, isLow]
      omega
    rw [Piece.ofUnit, hhalf, Char.ofNat_toNat]
    rfl
  rw [escapeCode, List.cons_append, List.cons_append, pieces?.eq_def]
  simp [hvalue _ hcode, hunit]

/-- Whatever form a character is written in, it is read back as itself. -/
lemma pieces?_escapeChar (c : Char) (s : List Char) :
    pieces? (escapeChar c ++ s) = (pieces? s).map fun (ps, rest) => (.char c :: ps, rest) := by
  have hcode : ∀ n, c.toNat = n → c = Char.ofNat n := by
    rintro n rfl
    exact (Char.ofNat_toNat c).symm
  rw [escapeChar]
  split
  · next h => exact pieces?_escape (by subst h; rfl) s
  split
  · next h => exact pieces?_escape (by subst h; rfl) s
  split
  · next h => exact pieces?_escape (by subst h; rfl) s
  split
  · next h => exact pieces?_escape (by subst h; rfl) s
  split
  · next h => exact pieces?_escape (by subst h; rfl) s
  split
  · next h => exact pieces?_escape (by rw [hcode 8 h]; rfl) s
  split
  · next h => exact pieces?_escape (by rw [hcode 12 h]; rfl) s
  split
  · next h => exact pieces?_escapeCode h s
  · next hquote hslash _ _ _ _ _ h => exact pieces?_cons hquote hslash (by omega) s

/-! ### Strings -/

/-- A quoted text in front of something: the opening quote, the form of the text, and the closing
quote. -/
lemma toList_quote_append (text : String) (cs : List Char) :
    (quote text).toList ++ cs = '"' :: (escape text.toList ++ '"' :: cs) := by
  rw [quote, String.toList_ofList, renderText]
  simp

lemma characters?_map_char (cs : List Char) : characters? (cs.map .char) = some cs := by
  induction cs with
  | nil => rfl
  | cons c cs ih => rw [List.map_cons, characters?, ih, Option.map_some]

lemma pieces?_escape_append (cs rest : List Char) :
    pieces? (escape cs ++ '"' :: rest) = some (cs.map .char, rest) := by
  induction cs with
  | nil =>
    rw [pieces?.eq_def]
    rfl
  | cons c cs ih =>
    have hcons : escape (c :: cs) = escapeChar c ++ escape cs := List.flatMap_cons
    rw [hcons, List.append_assoc, pieces?_escapeChar, ih]
    rfl

/-- **Quoted text is read back.**  Behind the opening quote, the form of a text is read as its
characters, and what stands behind the closing quote is left. -/
theorem stringBody?_escape (cs rest : List Char) :
    stringBody? (escape cs ++ '"' :: rest) = some (some cs, rest) := by
  rw [stringBody?, pieces?_escape_append, Option.map_some]
  dsimp only
  rw [characters?_map_char]

/-! ### Words and digits -/

lemma afterWord?_append (w cs : List Char) : afterWord? w (w ++ cs) = some cs := by
  induction w with
  | nil => cases cs <;> rfl
  | cons c w ih => rw [List.cons_append, afterWord?, if_pos rfl, ih]

/-- The digits of a number are read up to what is no digit. -/
lemma digits_append (n : Nat) {rest : List Char} (hrest : ∀ c ∈ rest.head?, c.isDigit = false) :
    digits (Nat.toDigits 10 n ++ rest) = (Nat.toDigits 10 n, rest) := by
  have hdigit : ∀ d ∈ Nat.toDigits 10 n, d.isDigit = true := by
    intro d hd
    exact Nat.isDigit_of_mem_toDigits (by decide) (by decide) hd
  have hstop : rest.takeWhile Char.isDigit = [] ∧ rest.dropWhile Char.isDigit = rest := by
    cases rest with
    | nil => simp
    | cons c rest => simp [hrest c rfl]
  rw [digits, List.span_eq_takeWhile_dropWhile, List.takeWhile_append_of_pos hdigit,
    List.dropWhile_append_of_pos hdigit, hstop.1, hstop.2, List.append_nil]

end JobGraph.Json
