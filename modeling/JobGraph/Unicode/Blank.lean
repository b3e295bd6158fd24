import JobGraph.Unicode.Range

/-!
# White space

The characters with the property White_Space of Unicode. They separate words, are trimmed off the
ends of a text, and make a text blank if it holds nothing else.
-/

namespace JobGraph.Unicode

/-- The ranges of the property White_Space. -/
def blankRanges : Ranges :=
  [
  (0x9, 0xd), (0x20, 0x20), (0x85, 0x85), (0xa0, 0xa0), (0x1680, 0x1680),
  (0x2000, 0x200a), (0x2028, 0x2029), (0x202f, 0x202f), (0x205f, 0x205f), (0x3000, 0x3000)]

/-- `c` is white space. -/
def isBlank (c : Char) : Bool :=
  blankRanges.has c

end JobGraph.Unicode
