/-!
# Glob patterns

Patterns for file names: a question mark for one byte, a star for any bytes, sets in brackets,
alternatives in braces, and a double star for any directories. A backslash takes the next character
literally.

Names are matched byte by byte in UTF-8, so that a question mark stands for one byte of a longer
character, and the ends of a range in brackets count as the bytes next to the dash.
-/

namespace JobGraph

/-- A part of a glob pattern. -/
inductive GlobToken where
  | char (c : Char)
  | any
  | star
  /-- Any directories in front, or none. -/
  | leading
  /-- Everything below a directory. -/
  | trailing
  /-- Any directories between two, or none. -/
  | between
  | set (negated : Bool) (ranges : List (Char × Char))
  | oneOf (alternatives : List (List GlobToken))
deriving Repr

/-- A glob pattern. -/
structure Glob where
  tokens : List GlobToken
deriving Repr

namespace Glob

/-! ## Reading -/

/-- The alternatives that are open: those that are complete, latest first, and the tokens in front
of the brace, latest first. -/
structure Frame where
  complete : List (List GlobToken)
  outside : List GlobToken

/-- The ranges of a set, latest first, up to its closing bracket. A dash between two characters
makes a range; a bracket or a dash that comes first stands for itself. -/
def ranges? (first inRange : Bool) :
    List (Char × Char) → List Char → Option (List (Char × Char) × List Char)
  | _, [] => none
  | rs, c :: s =>
    if c = ']' ∧ !first then
      some ((if inRange then ('-', '-') :: rs else rs), s)
    else if c = '-' ∧ !first ∧ !inRange then ranges? false true rs s
    else
      match inRange, rs with
      | true, (a, _) :: rs => if c < a then none else ranges? false false ((a, c) :: rs) s
      | _, rs => ranges? false false ((c, c) :: rs) s

/-- A set after its opening bracket. -/
def set? (s : List Char) : Option (GlobToken × List Char) :=
  let (negated, s) :=
    match s with
    | '!' :: s => (true, s)
    | '^' :: s => (true, s)
    | s => (false, s)
  (ranges? true false [] s).map fun (rs, s) => (.set negated rs.reverse, s)

/-- The tokens with a double star added, where `before` is the character in front of it and `s` the
text behind it. It stands for directories only where it fills the place between separators;
elsewhere it is two stars. Gives the tokens, the character read last and the rest. -/
def addDoubleStar (tokens : List GlobToken) (nested : Bool) (before : Option Char) (s : List Char) :
    List GlobToken × Char × List Char :=
  let plain := (.star :: .star :: tokens, '*', s)
  if tokens.isEmpty then
    match s with
    | [] => ([.leading], '*', [])
    | '/' :: s => ([.leading], '/', s)
    | _ => plain
  else if before ≠ some '/' ∧ !(nested && (before == some ',' || before == some '\x7b')) then plain
  else
    let put := fun (isLast : Bool) =>
      match tokens with
      | .leading :: rest => .leading :: rest
      | .trailing :: rest => .trailing :: rest
      | _ :: rest => (if isLast then .trailing else .between) :: rest
      | [] => []
    match s with
    | [] => (put true, '*', [])
    | '/' :: s => (put false, '/', s)
    | c :: _ => if nested && (c = ',' || c = '\x7d') then (put true, '*', s) else plain

/-- Read a pattern. `tokens` are those read in the innermost brace, latest first, and `before` is
the character read last. The first argument bounds the length. -/
def tokens? : Nat → List GlobToken → List Frame → Option Char → List Char →
    Option (List GlobToken)
  | 0, _, _, _, _ => none
  | _ + 1, tokens, frames, _, [] => if frames.isEmpty then some tokens.reverse else none
  | fuel + 1, tokens, frames, before, c :: s =>
    if c = '?' then tokens? fuel (.any :: tokens) frames (some c) s
    else if c = '*' then
      match s with
      | '*' :: s =>
        let (tokens, last, s) := addDoubleStar tokens (!frames.isEmpty) before s
        tokens? fuel tokens frames (some last) s
      | s => tokens? fuel (.star :: tokens) frames (some c) s
    else if c = '[' then
      match set? s with
      | some (t, s) => tokens? fuel (t :: tokens) frames (some ']') s
      | none => none
    else if c = '\x7b' then tokens? fuel [] (⟨[], tokens⟩ :: frames) (some c) s
    else if c = '\x7d' then
      match frames with
      | [] => none
      | f :: frames =>
        tokens? fuel (.oneOf (tokens.reverse :: f.complete).reverse :: f.outside) frames (some c) s
    else if c = ',' then
      match frames with
      | [] => tokens? fuel (.char c :: tokens) [] (some c) s
      | f :: frames =>
        tokens? fuel [] ({ f with complete := tokens.reverse :: f.complete } :: frames) (some c) s
    else if c = '\\' then
      match s with
      | [] => none
      | x :: s => tokens? fuel (.char x :: tokens) frames (some x) s
    else tokens? fuel (.char c :: tokens) frames (some c) s

/-- What is said of a text that is no pattern; the fault is not told. -/
def refusal : String := "invalid glob"

/-- The pattern written as `text`; `none` if it is invalid. -/
def parse? (text : String) : Option Glob :=
  let s := text.toList
  (tokens? (s.length + 1) [] [] none s).map Glob.mk

/-! ## Matching -/

/-- The UTF-8 bytes of a character. -/
def charBytes (c : Char) : List UInt8 := String.utf8EncodeChar c

/-- `b` belongs to the range from `first` to `last`, whose bytes before and after the dash bound the
range and whose other bytes count by themselves. -/
def rangeHas (first last : Char) (b : UInt8) : Bool :=
  let f := charBytes first
  let l := charBytes last
  if first = last then f.contains b
  else
    f.dropLast.contains b || (l.drop 1).contains b ||
      (decide (f.getLastD 0 ≤ b) && decide (b ≤ l.headD 0))

/-- The slash. -/
def slash : UInt8 := 47

/-- All ends of a byte sequence, the longest first. -/
def tails : List UInt8 → List (List UInt8)
  | [] => [[]]
  | b :: s => (b :: s) :: tails s

/-- The ends of a byte sequence that follow a slash. -/
def afterSlashes : List UInt8 → List (List UInt8)
  | [] => []
  | b :: s => if b = slash then s :: afterSlashes s else afterSlashes s

/-- The sequences without repetitions. All are ends of one sequence, so the length tells them
apart. -/
def distinct : List (List UInt8) → List (List UInt8)
  | [] => []
  | s :: ss => s :: (distinct ss).filter fun t => t.length != s.length

mutual

/-- The token matches nothing but the empty text, because it offers only void alternatives. -/
def isVoid : GlobToken → Bool
  | .oneOf alternatives => allVoid alternatives
  | _ => false

/-- All tokens are void. -/
def sequenceVoid : List GlobToken → Bool
  | [] => true
  | t :: ts => isVoid t && sequenceVoid ts

/-- All alternatives are void. -/
def allVoid : List (List GlobToken) → Bool
  | [] => true
  | ts :: rest => sequenceVoid ts && allVoid rest

end

mutual

/-- What may be left of a name after a token. -/
def tokenRests : GlobToken → List UInt8 → List (List UInt8)
  | .char c, s => if (charBytes c).isPrefixOf s then [s.drop (charBytes c).length] else []
  | .any, s => match s with
    | [] => []
    | _ :: s => [s]
  | .star, s => tails s
  | .leading, s => s :: afterSlashes s
  | .trailing, s => match s with
    | [] => []
    | b :: s => if b = slash then tails s else []
  | .between, s => match s with
    | [] => []
    | b :: s => if b = slash then s :: afterSlashes s else []
  | .set negated ranges, s => match s with
    | [] => []
    | b :: s => if (ranges.any fun r => rangeHas r.1 r.2 b) != negated then [s] else []
  | .oneOf alternatives, s =>
    if allVoid alternatives then [s] else distinct (anyRests alternatives s)

/-- What may be left of a name after tokens. -/
def rests : List GlobToken → List UInt8 → List (List UInt8)
  | [], s => [s]
  | t :: ts, s => distinct ((tokenRests t s).flatMap (rests ts))

/-- What may be left of a name after one of several alternatives. Void alternatives do not
count. -/
def anyRests : List (List GlobToken) → List UInt8 → List (List UInt8)
  | [], _ => []
  | ts :: alternatives, s =>
    (if sequenceVoid ts then [] else rests ts s) ++ anyRests alternatives s

end

/-- The pattern matches the whole name. A pattern that is a double star alone matches every
name. -/
def isMatch (g : Glob) (name : String) : Bool :=
  match g.tokens with
  | [.leading] => true
  | ts => (rests ts name.toUTF8.toList).any List.isEmpty

end Glob

end JobGraph
