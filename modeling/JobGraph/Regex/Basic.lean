import JobGraph.Unicode.Blank
import JobGraph.Unicode.Digit
import JobGraph.Unicode.Folding
import JobGraph.Unicode.Word

/-!
# Regular expressions

The expressions, and the sets of characters and the conditions on positions that they are made of.
-/

namespace JobGraph

/-- A set of characters. -/
inductive CharSet where
  | empty
  | range (first last : Char)
  | digit
  | blank
  | word
  | compl (s : CharSet)
  | union (s t : CharSet)
  | inter (s t : CharSet)
  | diff (s t : CharSet)
  /-- All characters that differ from one of the set in case alone. -/
  | anyCase (s : CharSet)
  /-- The same, for the letters of ASCII only. -/
  | anyAsciiCase (s : CharSet)
deriving DecidableEq, Repr

namespace CharSet

/-- `c` belongs to the set. -/
def has : CharSet → Char → Bool
  | .empty, _ => false
  | .range first last, c => decide (first ≤ c) && decide (c ≤ last)
  | .digit, c => Unicode.isDigit c
  | .blank, c => Unicode.isBlank c
  | .word, c => Unicode.isWord c
  | .compl s, c => !s.has c
  | .union s t, c => s.has c || t.has c
  | .inter s t, c => s.has c && t.has c
  | .diff s t, c => s.has c && !t.has c
  | .anyCase s, c => (Unicode.caseVariants c).any s.has
  | .anyAsciiCase s, c => s.has c || s.has c.toLower || s.has c.toUpper

/-- The set of one character. -/
def single (c : Char) : CharSet := .range c c

/-- All characters. -/
def all : CharSet := .compl .empty

/-- The union of the sets of a list. -/
def unions (sets : List CharSet) : CharSet := sets.foldr .union .empty

/-- The digits of ASCII. -/
def asciiDigit : CharSet := .range '0' '9'

/-- The white space of ASCII. -/
def asciiBlank : CharSet := .union (.range '\t' '\r') (single ' ')

/-- The letters and digits of ASCII. -/
def asciiAlnum : CharSet := unions [.range '0' '9', .range 'A' 'Z', .range 'a' 'z']

/-- The word characters of ASCII. -/
def asciiWord : CharSet := .union asciiAlnum (single '_')

/-- The characters of ASCII. -/
def ascii : CharSet := .range (Char.ofNat 0) (Char.ofNat 127)

end CharSet

/-- A condition on a position, which looks at the characters next to it. -/
inductive Look where
  | start
  | stop
  | lineStart
  | lineStop
  | lineStartCrlf
  | lineStopCrlf
  /-- A border between characters that belong to the set and others. -/
  | border (w : CharSet)
  | noBorder (w : CharSet)
  | wordStart (w : CharSet)
  | wordStop (w : CharSet)
  | wordStartHalf (w : CharSet)
  | wordStopHalf (w : CharSet)
deriving DecidableEq, Repr

/-- The condition holds between the characters `before` and `after`. -/
def Look.holds (before after : Option Char) : Look → Bool
  | .start => before.isNone
  | .stop => after.isNone
  | .lineStart => before.isNone || before == some '\n'
  | .lineStop => after.isNone || after == some '\n'
  | .lineStartCrlf =>
    before.isNone || before == some '\n' || (before == some '\r' && after != some '\n')
  | .lineStopCrlf =>
    after.isNone || after == some '\r' || (after == some '\n' && before != some '\r')
  | .border w => before.any w.has != after.any w.has
  | .noBorder w => before.any w.has == after.any w.has
  | .wordStart w => !before.any w.has && after.any w.has
  | .wordStop w => before.any w.has && !after.any w.has
  | .wordStartHalf w => !before.any w.has
  | .wordStopHalf w => !after.any w.has

/-- A regular expression. -/
inductive Regex where
  | empty
  | set (s : CharSet)
  | look (l : Look)
  /-- The text that `r` matches is kept under the number. -/
  | group (number : Nat) (r : Regex)
  | cat (r s : Regex)
  /-- The first alternative is preferred. -/
  | alt (r s : Regex)
  /-- At least `least` and at most `most` times, as often as possible if `greedy`. -/
  | rep (r : Regex) (least : Nat) (most : Option Nat) (greedy : Bool)
deriving DecidableEq, Repr

end JobGraph
