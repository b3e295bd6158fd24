import JobGraph.Regex.Matching
import JobGraph.Text.Hex

/-!
# Reading regular expressions

Patterns are read strictly: an operator without operand, an unknown escape, a back-reference, a
condition on the text around (look-around), a repeated group name and anything left open make the
pattern invalid.

Sets of characters by their Unicode properties are not read, so a pattern that names one counts as
invalid here. A pattern may be nested and repeated without limit.
-/

namespace JobGraph.Regex

/-! ## Flags and the state of reading -/

/-- The flags that hold at a place of a pattern. -/
structure Flags where
  anyCase : Bool
  multiLine : Bool
  dotAll : Bool
  lazyFirst : Bool
  unicode : Bool
  crlf : Bool
  free : Bool
deriving DecidableEq, Repr

/-- The flags that hold where a pattern begins. -/
def Flags.initial : Flags := ⟨false, false, false, false, true, false, false⟩

/-- The flags with the one of the letter `c` set; `none` for other letters. -/
def Flags.set? (f : Flags) (c : Char) (value : Bool) : Option Flags :=
  if c = 'i' then some { f with anyCase := value }
  else if c = 'm' then some { f with multiLine := value }
  else if c = 's' then some { f with dotAll := value }
  else if c = 'U' then some { f with lazyFirst := value }
  else if c = 'u' then some { f with unicode := value }
  else if c = 'R' then some { f with crlf := value }
  else if c = 'x' then some { f with free := value }
  else none

/-- What is left of the pattern, and the groups opened so far. -/
structure Reading where
  rest : List Char
  groups : Nat
  names : List (String × Nat)

/-- A step of reading, which fails on an invalid pattern. -/
abbrev Reader (α : Type) := StateT Reading Option α

/-- The pattern is invalid. -/
def invalid {α : Type} : Reader α := fun _ => none

/-- The next character, which stays. -/
def peek : Reader (Option Char) := do return (← get).rest.head?

/-- The character behind the next one. -/
def peekSecond : Reader (Option Char) := do return (← get).rest[1]?

/-- Pass over `n` characters. -/
def drop (n : Nat) : Reader Unit := modify fun r => { r with rest := r.rest.drop n }

/-- The next character. -/
def next : Reader Char := do
  match ← peek with
  | some c =>
    drop 1
    return c
  | none => invalid

/-- Pass over `c` if it comes next. -/
def accept (c : Char) : Reader Bool := do
  if (← peek) = some c then
    drop 1
    return true
  else return false

/-- The text without the white space and comments that a free pattern may hold. -/
def skipFree (inComment : Bool) : List Char → List Char
  | [] => []
  | c :: s =>
    if inComment then skipFree (c != '\n') s
    else if Unicode.isBlank c then skipFree false s
    else if c = '#' then skipFree true s
    else c :: s

/-- Pass over white space and comments in a free pattern. -/
def skip (f : Flags) : Reader Unit := do
  if f.free then modify fun r => { r with rest := skipFree false r.rest }

/-- Pass over white space. -/
def skipBlanks : Reader Unit :=
  modify fun r => { r with rest := r.rest.dropWhile Unicode.isBlank }

/-! ## Escapes -/

/-- What an escape stands for. -/
inductive Escape where
  | char (c : Char)
  | set (s : CharSet)
  | look (l : Look)

/-- `c` is an operator of patterns. -/
def isOperator (c : Char) : Bool :=
  "\\.+*?()|[]\x7b\x7d^$#&-~".toList.contains c

/-- `c` may follow a backslash to stand for itself. -/
def isEscapable (c : Char) : Bool :=
  isOperator c || (decide (c.toNat < 128) && !c.isAlphanum && c != '<' && c != '>')

/-- A character by its number: in braces, or of `count` digits. -/
def readCode (count : Nat) : Reader Char := do
  let rest := (← get).rest
  let (ds, used) :=
    match rest with
    | '\x7b' :: s =>
      let ds := s.takeWhile (· != '\x7d')
      (ds, if ds.length < s.length then ds.length + 2 else rest.length + 1)
    | s => (s.take count, count)
  if rest.length < used || ds.isEmpty then invalid
  else
    match Text.hexValue? ds with
    | some n =>
      if n.isValidChar then
        drop used
        return Char.ofNat n
      else invalid
    | none => invalid

/-- The set of a letter such as `d`, complemented for a capital. -/
def classSet? (unicode : Bool) (c : Char) : Option CharSet :=
  let choose := fun (s a : CharSet) => if unicode then s else a
  if c = 'd' then some (choose .digit .asciiDigit)
  else if c = 's' then some (choose .blank .asciiBlank)
  else if c = 'w' then some (choose .word .asciiWord)
  else if !unicode then none
  else if c = 'D' then some (.compl .digit)
  else if c = 'S' then some (.compl .blank)
  else if c = 'W' then some (.compl .word)
  else none

/-- The word characters under the flags. -/
def Flags.wordSet (f : Flags) : CharSet := if f.unicode then .word else .asciiWord

/-- The names of borders that may stand in braces behind `\b`. -/
def borderNames (w : CharSet) : List (List Char × Look) :=
  [("\x7bstart\x7d".toList, .wordStart w), ("\x7bend\x7d".toList, .wordStop w),
    ("\x7bstart-half\x7d".toList, .wordStartHalf w), ("\x7bend-half\x7d".toList, .wordStopHalf w)]

/-- A border of words. Braces behind it that begin like a name have to hold one of the names. -/
def readBorder (w : CharSet) : Reader Escape := do
  let rest := (← get).rest
  match (borderNames w).find? fun e => e.1.isPrefixOf rest with
  | some e =>
    drop e.1.length
    return .look e.2
  | none =>
    match rest with
    | '\x7b' :: c :: _ => if c.isAlpha || c == '-' then invalid else return .look (.border w)
    | _ => return .look (.border w)

/-- An escape after its backslash. -/
def readEscape (f : Flags) : Reader Escape := do
  let c ← next
  if isEscapable c then return .char c
  match classSet? f.unicode c with
  | some s => return .set s
  | none =>
    if c = 'x' then return .char (← readCode 2)
    else if c = 'u' then return .char (← readCode 4)
    else if c = 'U' then return .char (← readCode 8)
    else if c = 'a' then return .char (Char.ofNat 7)
    else if c = 'f' then return .char (Char.ofNat 12)
    else if c = 't' then return .char '\t'
    else if c = 'n' then return .char '\n'
    else if c = 'r' then return .char '\r'
    else if c = 'v' then return .char (Char.ofNat 11)
    else if c = 'A' then return .look .start
    else if c = 'z' then return .look .stop
    else if c = 'b' then readBorder f.wordSet
    else if c = 'B' then return .look (.noBorder f.wordSet)
    else if c = '<' then return .look (.wordStart f.wordSet)
    else if c = '>' then return .look (.wordStop f.wordSet)
    else invalid

/-! ## Sets in brackets -/

/-- The set closed under case if the flags ask for it. -/
def Flags.close (f : Flags) (s : CharSet) : CharSet :=
  if f.anyCase then if f.unicode then .anyCase s else .anyAsciiCase s else s

/-- The complement of a set; without Unicode it would hold bytes that are no characters. -/
def complement (f : Flags) (s : CharSet) : Reader CharSet :=
  if f.unicode then return .compl s else invalid

/-- The named classes of ASCII. -/
def asciiClass? (name : String) : Option CharSet :=
  [("alnum", .asciiAlnum), ("alpha", .union (.range 'A' 'Z') (.range 'a' 'z')),
    ("ascii", .ascii), ("blank", .union (.single '\t') (.single ' ')),
    ("cntrl", .union (.range (Char.ofNat 0) (Char.ofNat 31)) (.single (Char.ofNat 127))),
    ("digit", .asciiDigit), ("graph", .range '!' '~'), ("lower", .range 'a' 'z'),
    ("print", .range ' ' '~'),
    ("punct", .unions
      [.range '!' '/', .range ':' '@', .range '[' (Char.ofNat 96), .range '\x7b' '~']),
    ("space", .asciiBlank), ("upper", .range 'A' 'Z'), ("word", .asciiWord),
    ("xdigit", .unions [.range '0' '9', .range 'A' 'F', .range 'a' 'f'])].lookup name

/-- A named class such as `[:alpha:]`, if one comes next. -/
def readAsciiClass (f : Flags) : Reader (Option CharSet) := do
  match (← get).rest with
  | '[' :: ':' :: s =>
    let (negated, s) := match s with
      | '^' :: s => (true, s)
      | s => (false, s)
    let name := s.takeWhile (· != ':')
    match s.drop name.length with
    | ':' :: ']' :: _ =>
      match asciiClass? (String.ofList name) with
      | some named =>
        drop (2 + (if negated then 1 else 0) + name.length + 2)
        if negated then return some (← complement f named) else return some named
      | none => return none
    | _ => return none
  | _ => return none

/-- One member of a set, or one end of a range. -/
def readMember (f : Flags) : Reader Escape := do
  if ← accept '\\' then
    match ← readEscape f with
    | .look _ => invalid
    | e => return e
  else return .char (← next)

/-- A member or a range. -/
def readRange (f : Flags) : Reader CharSet := do
  let first ← readMember f
  skip f
  let rest := (← get).rest
  let afterDash := if f.free then (skipFree false (rest.drop 1)).head? else rest[1]?
  if rest.isEmpty then invalid
  else if rest.head? ≠ some '-' ∨ afterDash = some ']' ∨ afterDash = some '-' then
    match first with
    | .char c => return .single c
    | .set s => return s
    | .look _ => invalid
  else
    drop 1
    skip f
    let last ← readMember f
    match first, last with
    | .char a, .char b => if a ≤ b then return .range a b else invalid
    | _, _ => invalid

/-- The sets of dashes that open a set. -/
def readDashes (f : Flags) : Nat → Reader (List CharSet)
  | 0 => return []
  | fuel + 1 => do
    if ← accept '-' then
      skip f
      return .single '-' :: (← readDashes f fuel)
    else return []

/-- An operation on sets. -/
inductive SetOperation where
  | inter
  | diff
  | symmetric
deriving DecidableEq, Repr

/-- The operation of two sets. -/
def SetOperation.apply (f : Flags) (op : SetOperation) (s t : CharSet) : CharSet :=
  let s := f.close s
  let t := f.close t
  match op with
  | .inter => .inter s t
  | .diff => .diff s t
  | .symmetric => .diff (.union s t) (.inter s t)

/-- The operation that comes next, if one does. -/
def readOperation : Reader (Option SetOperation) := do
  let op ← (do
    match ← peek, ← peekSecond with
    | some '&', some '&' => return some SetOperation.inter
    | some '-', some '-' => return some .diff
    | some '~', some '~' => return some .symmetric
    | _, _ => return none)
  if op.isSome then drop 2
  return op

/-- Apply the operation that waits for its right side. -/
def finishOperation (f : Flags) (waiting : Option (CharSet × SetOperation)) (s : CharSet) :
    CharSet :=
  match waiting with
  | none => s
  | some (left, op) => op.apply f left s

mutual

/-- A set in brackets after its opening bracket. -/
def readSet (f : Flags) : Nat → Reader CharSet
  | 0 => invalid
  | fuel + 1 => do
    skip f
    let negated ← accept '^'
    skip f
    let dashes ← readDashes f (← get).rest.length
    let members ← (do
      if dashes.isEmpty then
        if ← accept ']' then return [CharSet.single ']']
      return dashes)
    let s ← readMembers f fuel none members
    let s := f.close s
    if negated then complement f s else return s

/-- The members of a set up to the closing bracket. `waiting` is the left side of an operation,
`members` what was read since. -/
def readMembers (f : Flags) :
    Nat → Option (CharSet × SetOperation) → List CharSet → Reader CharSet
  | 0, _, _ => invalid
  | fuel + 1, waiting, members => do
    skip f
    match ← peek with
    | none => invalid
    | some ']' =>
      drop 1
      return finishOperation f waiting (.unions members.reverse)
    | some '[' =>
      match ← readAsciiClass f with
      | some s => readMembers f fuel waiting (s :: members)
      | none =>
        drop 1
        let s ← readSet f fuel
        readMembers f fuel waiting (s :: members)
    | some _ =>
      match ← readOperation with
      | some op =>
        readMembers f fuel (some (finishOperation f waiting (.unions members.reverse), op)) []
      | none =>
        let s ← readRange f
        readMembers f fuel waiting (s :: members)

end

/-! ## Repetitions -/

/-- A count of at most 32 bits; white space around it does not matter. -/
def readCount : Reader (Option Nat) := do
  skipBlanks
  let ds := (← get).rest.takeWhile Char.isDigit
  drop ds.length
  skipBlanks
  if ds.isEmpty then return none
  let n := Nat.ofDigitChars 10 ds 0
  if n < Nat.pow 2 32 then return some n else invalid

/-- The bounds of a repetition after its opening brace. -/
def readBounds (f : Flags) : Reader (Nat × Option Nat) := do
  skip f
  match ← readCount with
  | none => invalid
  | some least =>
    let most ← (do
      if ← accept ',' then
        skip f
        if (← peek) = some '\x7d' then return none
        else
          match ← readCount with
          | some most => return some most
          | none => invalid
      else return some least)
    skip f
    if ← accept '\x7d' then
      if most.any (· < least) then invalid else return (least, most)
    else invalid

/-- The bounds of the repetition that `c` opens, if it opens one. -/
def readRepetition (f : Flags) (c : Char) : Reader (Option (Nat × Option Nat)) := do
  if c = '*' then
    drop 1
    return some (0, none)
  else if c = '+' then
    drop 1
    return some (1, none)
  else if c = '?' then
    drop 1
    return some (0, some 1)
  else if c = '\x7b' then
    drop 1
    return some (← readBounds f)
  else return none

/-! ## Groups -/

/-- The letters of flags up to `)` or `:`. -/
def readFlags : Nat → Bool → List Char → Flags → Reader (Flags × Bool)
  | 0, _, _, _ => invalid
  | fuel + 1, negated, seen, f => do
    let c ← next
    if c = ')' ∨ c = ':' then
      if seen.head? = some '-' then invalid
      else if c = ')' ∧ seen.isEmpty then invalid
      else return (f, c == ')')
    else if seen.contains c then invalid
    else if c = '-' then readFlags fuel true (c :: seen) f
    else
      match f.set? c !negated with
      | some f => readFlags fuel negated (c :: seen) f
      | none => invalid

/-- `c` may stand in the name of a group; the first character of a name is more restricted. -/
def isNameChar (first : Bool) (c : Char) : Bool :=
  let isLetter := Unicode.isWord c && !Unicode.isDigit c
  c == '_' || isLetter || (!first && (c == '.' || c == '[' || c == ']' || Unicode.isDigit c))

/-- The name of a group up to the bracket that closes it. -/
def readName : Reader String := do
  let cs := (← get).rest.takeWhile (· != '>')
  drop cs.length
  if ← accept '>' then
    if cs.isEmpty || !(cs.take 1).all (isNameChar true) || !cs.all (isNameChar false) then invalid
    else return String.ofList cs
  else invalid

/-- Open a new group and answer its number. -/
def openGroup (name : Option String) : Reader Nat := do
  let r ← get
  let n := r.groups + 1
  match name with
  | none => modify fun _ => { r with groups := n }
  | some name =>
    if (r.names.lookup name).isSome then invalid
    else modify fun _ => { r with groups := n, names := (name, n) :: r.names }
  return n

/-- What an opening parenthesis begins. -/
inductive Opening where
  /-- Flags for the rest of the group around it. -/
  | flags (f : Flags)
  | plain (f : Flags)
  | numbered (n : Nat)

/-- The rest of the opening of a group. -/
def readOpening (f : Flags) : Reader Opening := do
  skip f
  if ← accept '?' then
    let rest := (← get).rest
    match rest with
    | 'P' :: '<' :: _ =>
      drop 2
      return .numbered (← openGroup (some (← readName)))
    | '<' :: c :: _ =>
      if c = '=' ∨ c = '!' then invalid
      else
        drop 1
        return .numbered (← openGroup (some (← readName)))
    | _ =>
      let (g, closed) ← readFlags (rest.length + 1) false [] f
      return if closed then .flags g else .plain g
  else return .numbered (← openGroup none)

/-! ## Expressions -/

/-- The parts of a sequence, latest first; `none` stands for flags, which cannot be repeated. -/
abbrev Parts := List (Option Regex)

/-- The sequence of the parts. -/
def sequence (parts : Parts) : Regex :=
  match (parts.filterMap id).reverse with
  | [] => .empty
  | r :: rs => rs.foldl .cat r

/-- The set of a dot. -/
def dotSet (f : Flags) : Reader CharSet :=
  if !f.unicode then invalid
  else if f.dotAll then return .all
  else if f.crlf then return .compl (.union (.single '\n') (.single '\r'))
  else return .compl (.single '\n')

/-- What a single character outside of brackets stands for. -/
def charSet (f : Flags) (c : Char) : CharSet := f.close (.single c)

mutual

/-- Alternatives up to the end of the group. -/
def readAlternatives : Nat → Flags → Reader Regex
  | 0, _ => invalid
  | fuel + 1, f => do
    let (r, f) ← readSequence fuel f []
    if ← accept '|' then
      let s ← readAlternatives fuel f
      return .alt r s
    else return r

/-- A sequence up to the next alternative or the end of the group, and the flags that hold
there. -/
def readSequence : Nat → Flags → Parts → Reader (Regex × Flags)
  | 0, _, _ => invalid
  | fuel + 1, f, parts => do
    skip f
    match ← peek with
    | none => return (sequence parts, f)
    | some c =>
      if c = '|' ∨ c = ')' then return (sequence parts, f)
      else
        match ← readRepetition f c with
        | some (least, most) =>
          let lazy ← accept '?'
          match parts with
          | some r :: parts =>
            readSequence fuel f (some (.rep r least most (lazy == f.lazyFirst)) :: parts)
          | _ => invalid
        | none =>
          drop 1
          if c = '(' then
            match ← readOpening f with
            | .flags g => readSequence fuel g (none :: parts)
            | .plain g =>
              let r ← readAlternatives fuel g
              if ← accept ')' then readSequence fuel f (some r :: parts) else invalid
            | .numbered n =>
              let r ← readAlternatives fuel f
              if ← accept ')' then readSequence fuel f (some (.group n r) :: parts) else invalid
          else
            let r ← (do
              if c = '[' then return Regex.set (← readSet f fuel)
              else if c = '.' then return .set (← dotSet f)
              else if c = '^' then
                return .look (if !f.multiLine then .start else if f.crlf then .lineStartCrlf
                  else .lineStart)
              else if c = '$' then
                return .look (if !f.multiLine then .stop else if f.crlf then .lineStopCrlf
                  else .lineStop)
              else if c = '\\' then
                match ← readEscape f with
                | .char c => return .set (charSet f c)
                | .set s => return .set s
                | .look l => return .look l
              else return .set (charSet f c))
            readSequence fuel f (some r :: parts)

end

/-- A pattern that was read: the expression and the numbers of its named groups. -/
structure Pattern where
  regex : Regex
  names : List (String × Nat)
deriving DecidableEq, Repr

/-- What is said of a text that is no pattern; the fault is not told. -/
def refusal : String := "invalid pattern"

/-- The pattern written as `text`; `none` if it is invalid. -/
def Pattern.parse? (text : String) : Option Pattern := do
  let s := text.toList
  let (r, reading) ← (readAlternatives (3 * s.length + 3) .initial).run ⟨s, 0, []⟩
  if reading.rest.isEmpty then pure ⟨r, reading.names⟩ else none

/-- The first match of the pattern in a text. -/
def Pattern.search (p : Pattern) (s : String) : Option Match :=
  Regex.search p.regex s

/-- The pattern matches somewhere in the text. -/
def Pattern.isMatch (p : Pattern) (s : String) : Bool :=
  (p.search s).isSome

end JobGraph.Regex
