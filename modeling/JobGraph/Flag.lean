import JobGraph.Document
import JobGraph.Text.Basic

/-!
# Flags

Truth values as task records spell them: by a letter, a word, or the digits 0 and 1.
-/

namespace JobGraph.Flag

/-- The truth value that a text stands for. -/
def parse? (text : String) : Option Bool :=
  let word := Text.trim text
  if ["T", "t", "true", "True", "1"].contains word then some true
  else if ["F", "f", "false", "False", "0"].contains word then some false
  else none

/-- The truth value that a document stands for. -/
def ofDocument? : Document → Option Bool
  | .bool b => some b
  | .int 0 => some false
  | .int 1 => some true
  | .text s => parse? s
  | _ => none

end JobGraph.Flag
