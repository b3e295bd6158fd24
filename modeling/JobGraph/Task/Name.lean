import JobGraph.Text.Basic
import JobGraph.Unicode.Digit

/-!
# Forms of names

The forms that the names in a task record have to have. Digits and white space are those of
Unicode, letters of sites and users are those of ASCII.
-/

namespace JobGraph.Task

/-- Date and time as six digits each, a colon, and a name that is one token. -/
def isName (s : String) : Bool :=
  let cs := s.toList
  let date := cs.take 6
  let time := (cs.drop 7).take 6
  date.length == 6 && date.all Unicode.isDigit && cs[6]? == some '_'
    && time.length == 6 && time.all Unicode.isDigit && cs[13]? == some ':'
    && Text.isToken (String.ofList (cs.drop 14))

/-- A character of a user's name. -/
def isUsernameChar (c : Char) : Bool :=
  c.isAlphanum || c == '.' || c == '_' || c == '-'

/-- A name that can be a directory of a user. -/
def isUsername (s : String) : Bool :=
  !s.isEmpty && s.toList.all isUsernameChar

/-- A tier, a country of two capitals and a name, with underscores between them. -/
def isSiteName (s : String) : Bool :=
  match s.toList with
  | 'T' :: tier :: '_' :: a :: b :: '_' :: name =>
    decide ('0' ≤ tier) && decide (tier ≤ '3') && a.isUpper && b.isUpper && !name.isEmpty
      && name.all fun c => c.isAlphanum || c == '_' || c == '-'
  | _ => false

/-- A primary dataset, a processed dataset and a tier, each behind a slash. -/
def isDataset (s : String) : Bool :=
  match Text.split '/' s with
  | ["", primary, processed, tier] => [primary, processed, tier].all Text.isToken
  | _ => false

/-- A character of an output's name. -/
def isOutputNameChar (c : Char) : Bool :=
  !Unicode.isBlank c && c != '/' && c != '"' && c != '=' && c != ','

/-- A name without white space, quotes and the separators of paths and lists. -/
def isOutputName (s : String) : Bool :=
  !s.isEmpty && s.toList.all isOutputNameChar

/-- A character of the directories below a user's directory. -/
def isPrefixChar (c : Char) : Bool :=
  c.isAlphanum || c == '.' || c == '_' || c == '/' || c == '-'

/-- Directories below a user's directory, none of which leads upwards. -/
def isRelativePath (s : String) : Bool :=
  s.toList.all isPrefixChar && !(Text.split '/' s).contains ".."

end JobGraph.Task
