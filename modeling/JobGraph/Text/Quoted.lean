import JobGraph.Unicode.Hidden

/-!
# Quoted text

A text as messages show it: between double quotes, with quotes, backslashes and the common
control characters escaped by a backslash, and every other character that does not show as itself
written by its number.
-/

namespace JobGraph.Text

/-- The escaped form of one character. -/
def quoteChar (c : Char) : List Char :=
  if c = '"' then ['\\', '"']
  else if c = '\\' then ['\\', '\\']
  else if c = '\n' then ['\\', 'n']
  else if c = '\r' then ['\\', 'r']
  else if c = '\t' then ['\\', 't']
  else if c.toNat = 0 then ['\\', '0']
  else if Unicode.isHidden c then ['\\', 'u', '\x7b'] ++ Nat.toDigits 16 c.toNat ++ ['\x7d']
  else [c]

/-- `s` between quotes, escaped. -/
def quoted (s : String) : String :=
  String.ofList ('"' :: s.toList.flatMap quoteChar ++ ['"'])

end JobGraph.Text
