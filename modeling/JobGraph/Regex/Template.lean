import JobGraph.Regex.Parser

/-!
# Replacement templates

A template is a text in which `$name` and `${name}` stand for what a group matched and `$$` for a
dollar sign. A group goes by its number or its name; a group that is unknown or took no part in the
match stands for nothing. A dollar sign that begins none of these stands for itself.
-/

namespace JobGraph.Regex

/-- A part of a template. -/
inductive TemplatePart where
  | char (c : Char)
  | group (name : List Char)
deriving DecidableEq, Repr

/-- A character of a group's name that needs no braces. -/
def isReferenceChar (c : Char) : Bool := c.isAlphanum || c == '_'

/-- The parts of a template. The first argument bounds their number. -/
def templateParts : Nat → List Char → List TemplatePart
  | 0, _ => []
  | _ + 1, [] => []
  | fuel + 1, c :: s =>
    if c ≠ '$' then .char c :: templateParts fuel s
    else
      match s with
      | '$' :: s => .char '$' :: templateParts fuel s
      | '\x7b' :: rest =>
        let name := rest.takeWhile (· != '\x7d')
        if name.length < rest.length then
          .group name :: templateParts fuel (rest.drop (name.length + 1))
        else .char '$' :: templateParts fuel s
      | _ =>
        let name := s.takeWhile isReferenceChar
        if name.isEmpty then .char '$' :: templateParts fuel s
        else .group name :: templateParts fuel (s.drop name.length)

/-- The number that names a group: digits behind at most one plus sign, of at most 64 bits. -/
def groupNumber? (name : List Char) : Option Nat :=
  let ds := match name with
    | '+' :: ds => ds
    | ds => ds
  let n := Nat.ofDigitChars 10 ds 0
  if ds.isEmpty || !ds.all Char.isDigit || Nat.pow 2 64 ≤ n then none else some n

/-- What a part of a template stands for in a match. -/
def TemplatePart.expand (p : Pattern) (m : Match) : TemplatePart → List Char
  | .char c => [c]
  | .group name =>
    match groupNumber? name with
    | some n => m.group n
    | none =>
      match p.names.lookup (String.ofList name) with
      | some n => m.group n
      | none => []

/-- The text of a template in a match. -/
def expand (p : Pattern) (m : Match) (template : String) : List Char :=
  let s := template.toList
  (templateParts s.length s).flatMap (TemplatePart.expand p m)

/-- The text with its first match replaced by the template; the text as it is if nothing
matches. -/
def Pattern.replaceFirst (p : Pattern) (template s : String) : String :=
  match p.search s with
  | some m => String.ofList (m.before ++ expand p m template ++ m.after)
  | none => s

end JobGraph.Regex
