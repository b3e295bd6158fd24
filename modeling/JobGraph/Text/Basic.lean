import JobGraph.Unicode.Blank

/-!
# Cutting and joining texts

Trimming, splitting at a separator and cutting at its first or last occurrence, on lists of
characters and on strings. The main statements say that nothing is lost: joining the pieces gives
the text back.
-/

namespace JobGraph.Text

/-- `s` without the characters at its two ends that satisfy `p`. -/
def trimBy (p : Char → Bool) (s : List Char) : List Char :=
  ((s.dropWhile p).reverse.dropWhile p).reverse

/-- `s` without the white space at its two ends. -/
def trim (s : String) : String :=
  String.ofList (trimBy Unicode.isBlank s.toList)

/-- `s` holds nothing but white space. -/
def isBlank (s : String) : Bool :=
  s.toList.all Unicode.isBlank

/-- `s` is one token of a line: not empty, without white space and without a double quote. -/
def isToken (s : String) : Bool :=
  !s.isEmpty && s.toList.all fun c => !Unicode.isBlank c && c != '"'

/-- The pieces of `s` between the occurrences of `sep`, empty ones included. -/
def pieces (sep : Char) : List Char → List (List Char)
  | [] => [[]]
  | c :: s =>
    if c = sep then [] :: pieces sep s
    else
      match pieces sep s with
      | [] => [[c]]
      | p :: ps => (c :: p) :: ps

/-- The pieces joined by `sep`. -/
def join (sep : Char) : List (List Char) → List Char
  | [] => []
  | [p] => p
  | p :: ps => p ++ sep :: join sep ps

/-- The pieces of a string between the occurrences of `sep`. -/
def split (sep : Char) (s : String) : List String :=
  (pieces sep s.toList).map String.ofList

/-- The parts of `s` before and after the first `sep`. -/
def cutFirst? (sep : Char) : List Char → Option (List Char × List Char)
  | [] => none
  | c :: s =>
    if c = sep then some ([], s)
    else (cutFirst? sep s).map fun (a, b) => (c :: a, b)

/-- The parts of `s` before and after the last `sep`. -/
def cutLast? (sep : Char) : List Char → Option (List Char × List Char)
  | [] => none
  | c :: s =>
    match cutLast? sep s with
    | some (a, b) => some (c :: a, b)
    | none => if c = sep then some ([], s) else none

theorem pieces_ne_nil (sep : Char) (s : List Char) : pieces sep s ≠ [] := by
  induction s with
  | nil => simp [pieces]
  | cons c s ih =>
    simp only [pieces]
    split
    · simp
    · split <;> simp

/-- Joining the pieces of a text gives the text back. -/
theorem join_pieces (sep : Char) (s : List Char) : join sep (pieces sep s) = s := by
  induction s with
  | nil => rfl
  | cons c s ih =>
    simp only [pieces]
    split
    · next h =>
      subst h
      cases hp : pieces c s with
      | nil => exact absurd hp (pieces_ne_nil c s)
      | cons p ps => simp [join, ← hp, ih]
    · cases hp : pieces sep s with
      | nil => exact absurd hp (pieces_ne_nil sep s)
      | cons p ps =>
        rw [hp] at ih
        cases ps <;> simp_all [join]

/-- A text cut at its last separator is the two parts with the separator between them. -/
theorem eq_of_cutLast? {sep : Char} {s a b : List Char} (h : cutLast? sep s = some (a, b)) :
    s = a ++ sep :: b := by
  induction s generalizing a b with
  | nil => simp [cutLast?] at h
  | cons c s ih =>
    simp only [cutLast?] at h
    split at h
    · next a' b' h' =>
      simp only [Option.some.injEq, Prod.mk.injEq] at h
      obtain ⟨rfl, rfl⟩ := h
      simp [ih h']
    · split at h <;> simp_all

end JobGraph.Text
