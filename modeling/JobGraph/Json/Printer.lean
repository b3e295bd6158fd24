import JobGraph.Document

/-!
# Writing JSON

Documents as JSON text without white space. A string escapes quotes, backslashes and control
characters, and writes everything else as it is; hence written text never holds a line feed.
-/

namespace JobGraph.Json

/-- A control character by its code. -/
def escapeCode (n : Nat) : List Char :=
  ['\\', 'u', '0', '0', (n / 16).digitChar, (n % 16).digitChar]

/-- The form of one character inside a string. -/
def escapeChar (c : Char) : List Char :=
  if c = '"' then ['\\', '"']
  else if c = '\\' then ['\\', '\\']
  else if c = '\n' then ['\\', 'n']
  else if c = '\r' then ['\\', 'r']
  else if c = '\t' then ['\\', 't']
  else if c.toNat = 8 then ['\\', 'b']
  else if c.toNat = 12 then ['\\', 'f']
  else if c.toNat < 32 then escapeCode c.toNat
  else [c]

/-- The characters of a string between its quotes. -/
def escape (s : List Char) : List Char :=
  s.flatMap escapeChar

/-- A string with its quotes. -/
def renderText (s : String) : List Char :=
  '"' :: escape s.toList ++ ['"']

mutual

/-- The text of a document. -/
def renderChars : Document → List Char
  | .null => "null".toList
  | .bool true => "true".toList
  | .bool false => "false".toList
  | .int n => (toString n).toList
  | .real x => x.toText.toList
  | .text s => renderText s
  | .list items => '[' :: renderItems items ++ [']']
  | .table entries => '\x7b' :: renderEntries entries ++ ['\x7d']
  | .unusable => "null".toList

/-- The items of a list, separated by commas. -/
def renderItems : List Document → List Char
  | [] => []
  | [d] => renderChars d
  | d :: ds => renderChars d ++ ',' :: renderItems ds

/-- The entries of a table, separated by commas. -/
def renderEntries : List (String × Document) → List Char
  | [] => []
  | [(k, d)] => renderText k ++ ':' :: renderChars d
  | (k, d) :: es => renderText k ++ ':' :: renderChars d ++ ',' :: renderEntries es

end

/-- The JSON text of a document. -/
def render (d : Document) : String :=
  String.ofList (renderChars d)

/-- The JSON text of a string. -/
def quote (s : String) : String :=
  String.ofList (renderText s)

/-- No character is written with a line feed in its form, unless it is one. -/
theorem escapeChar_ne_lineFeed {c d : Char} (h : d ∈ escapeChar c) (hc : c ≠ '\n') : d ≠ '\n' := by
  rintro rfl
  simp only [escapeChar, escapeCode] at h
  repeat' split at h
  all_goals simp_all
  exact hc h.symm

end JobGraph.Json
