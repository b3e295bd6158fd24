import JobGraph.Text.Hex
import JobGraph.Toml.Tree

/-!
# Reading TOML

TOML 1.1: lines of keys with values and headers of tables. Dates and floating-point numbers are
read as unusable values.

Every function takes the text and answers with what it read and the rest of the text, or with
`none` if the text is malformed.
-/

namespace JobGraph.Toml

/-! ## Blanks, comments, line ends -/

/-- Space or tab. -/
def isSpace (c : Char) : Bool := c == ' ' || c == '\t'

/-- The text without spaces and tabs in front. -/
def skip (s : List Char) : List Char := s.dropWhile isSpace

/-- A control character, which neither strings nor comments may hold. -/
def isControl (c : Char) : Bool :=
  (decide (c.toNat < 32) && c != '\t') || c.toNat == 127

/-- The rest of the text after a line end, if there is one here. -/
def lineEnd? : List Char → Option (List Char)
  | '\n' :: s => some s
  | '\r' :: '\n' :: s => some s
  | _ => none

/-- The text after a comment, which runs to the end of the line. -/
def comment? : List Char → Option (List Char)
  | [] => some []
  | c :: s =>
    if c = '\n' then some (c :: s)
    else if c = '\r' then if s.head? = some '\n' then some (c :: s) else none
    else if isControl c then none
    else comment? s

/-- The text after blanks and a comment, if there is one. -/
def skipComment? (s : List Char) : Option (List Char) :=
  match skip s with
  | '#' :: s => comment? s
  | s => some s

/-- The text after blanks, comments and line ends. The first argument bounds the number of
lines. -/
def skipLines? : Nat → List Char → Option (List Char)
  | 0, s => some s
  | fuel + 1, s => do
    let s ← skipComment? s
    match lineEnd? s with
    | some s => skipLines? fuel s
    | none => pure s

/-! ## Strings -/

/-- The character of `count` hexadecimal digits. -/
def codePoint? (count : Nat) (s : List Char) : Option (Char × List Char) := do
  let ds := s.take count
  if ds.length < count then none
  let n ← Text.hexValue? ds
  if n.isValidChar then pure (Char.ofNat n, s.drop count) else none

/-- The character that stands behind a backslash. -/
def escape? : List Char → Option (Char × List Char)
  | [] => none
  | c :: s =>
    if c = '"' ∨ c = '\\' then some (c, s)
    else if c = 'b' then some (Char.ofNat 8, s)
    else if c = 't' then some ('\t', s)
    else if c = 'n' then some ('\n', s)
    else if c = 'f' then some (Char.ofNat 12, s)
    else if c = 'r' then some ('\r', s)
    else if c = 'e' then some (Char.ofNat 27, s)
    else if c = 'x' then codePoint? 2 s
    else if c = 'u' then codePoint? 4 s
    else if c = 'U' then codePoint? 8 s
    else none

/-- A string of one line up to the quote that closes it. Only between double quotes does a
backslash escape. The first argument bounds the length. -/
def lineString? (quote : Char) : Nat → List Char → Option (List Char × List Char)
  | 0, _ => none
  | _ + 1, [] => none
  | fuel + 1, c :: s =>
    if c = quote then some ([], s)
    else if c = '\\' ∧ quote = '"' then do
      let (x, s) ← escape? s
      let (cs, s) ← lineString? quote fuel s
      pure (x :: cs, s)
    else if isControl c then none
    else (lineString? quote fuel s).map fun (cs, s) => (c :: cs, s)

/-- The text without blanks and line ends in front. -/
def skipBlank : List Char → List Char
  | '\r' :: '\n' :: s => skipBlank s
  | c :: s => if isSpace c || c == '\n' then skipBlank s else c :: s
  | [] => []

/-- The text after a backslash at a line's end: all blanks and line ends are passed over. -/
def continued? (s : List Char) : Option (List Char) :=
  (lineEnd? (skip s)).map skipBlank

/-- A string of several lines up to the three quotes that close it; up to two quotes may stand
right before them. -/
def blockString? (quote : Char) : Nat → List Char → Option (List Char × List Char)
  | 0, _ => none
  | _ + 1, [] => none
  | fuel + 1, c :: s =>
    if c = quote ∧ s.take 2 = [quote, quote] then
      let extra := ((s.drop 2).takeWhile (· = quote)).take 2
      some (extra, s.drop (2 + extra.length))
    else if c = '\\' ∧ quote = '"' then
      match continued? s with
      | some s => blockString? quote fuel s
      | none => do
        let (x, s) ← escape? s
        let (cs, s) ← blockString? quote fuel s
        pure (x :: cs, s)
    else if c = '\r' ∧ s.head? ≠ some '\n' then none
    else if isControl c ∧ c ≠ '\n' ∧ c ≠ '\r' then none
    else (blockString? quote fuel s).map fun (cs, s) => (c :: cs, s)

/-- A string that begins with `quote`, which was read already. -/
def string? (quote : Char) (s : List Char) : Option (String × List Char) :=
  let read :=
    if s.take 2 = [quote, quote] then
      let s := s.drop 2
      blockString? quote (s.length + 1) ((lineEnd? s).getD s)
    else lineString? quote (s.length + 1) s
  read.map fun (cs, s) => (String.ofList cs, s)

/-! ## Keys -/

/-- A character of a key without quotes. -/
def isKeyChar (c : Char) : Bool :=
  c.isAlphanum || c == '_' || c == '-'

/-- One part of a key. -/
def keyPart? (s : List Char) : Option (String × List Char) :=
  match s with
  | [] => none
  | c :: rest =>
    if c = '"' ∨ c = '\'' then
      (lineString? c (rest.length + 1) rest).map fun (cs, s) => (String.ofList cs, s)
    else
      match s.span isKeyChar with
      | ([], _) => none
      | (cs, s) => some (String.ofList cs, s)

/-- A key: the parts in front of the last one, and the last one. -/
def key? : Nat → List Char → Option (List String × String × List Char)
  | 0, _ => none
  | fuel + 1, s => do
    let (part, s) ← keyPart? (skip s)
    match skip s with
    | '.' :: s =>
      let (path, last, s) ← key? fuel s
      pure (part :: path, last, s)
    | s => pure ([], part, s)

/-! ## Numbers and dates -/

/-- Digits of a base with single underscores between them, without the underscores. -/
def digitGroups? (isDigit : Char → Bool) (s : List Char) : Option (List Char) :=
  let rec go (afterDigit : Bool) : List Char → Option (List Char)
    | [] => if afterDigit then some [] else none
    | c :: s =>
      if isDigit c then (go true s).map (c :: ·)
      else if c = '_' ∧ afterDigit then go false s
      else none
  go false s

/-- An integer with a base in front. -/
def basedInteger? (base : Nat) (s : List Char) : Option Document := do
  let isDigit := fun c => match Text.hexDigit? c with
    | some d => decide (d < base)
    | none => false
  let ds ← digitGroups? isDigit s
  pure (.int (ds.foldl (fun n c => n * base + (Text.hexDigit? c).getD 0) 0))

/-- A sign, if there is one, and the rest. -/
def sign : List Char → Bool × List Char
  | '-' :: s => (true, s)
  | '+' :: s => (false, s)
  | s => (false, s)

/-- Decimal digits without a zero in front. -/
def wholeNumber? (s : List Char) : Option Nat := do
  let ds ← digitGroups? Char.isDigit s
  if ds.length ≠ 1 ∧ ds.head? = some '0' then none
  else pure (Nat.ofDigitChars 10 ds 0)

/-- A decimal integer. -/
def decimalInteger? (s : List Char) : Option Document := do
  let (negative, s) := sign s
  let n ← wholeNumber? s
  pure (.int (if negative then -(n : Int) else n))

/-- `s` is a floating-point number. -/
def isFloat (s : List Char) : Bool :=
  let (_, s) := sign s
  let isExponent := fun s => (digitGroups? Char.isDigit (sign s).2).isSome
  let isFraction := fun s =>
    let (ds, e) := s.span fun c => c != 'e' && c != 'E'
    (digitGroups? Char.isDigit ds).isSome && (e.isEmpty || isExponent (e.drop 1))
  if s = "inf".toList ∨ s = "nan".toList then true
  else
    let (whole, rest) := s.span fun c => c.isDigit || c == '_'
    (wholeNumber? whole).isSome &&
      match rest with
      | '.' :: f => isFraction f
      | 'e' :: e => isExponent e
      | 'E' :: e => isExponent e
      | _ => false

/-- `s` begins like a date or a time. -/
def isDate (s : List Char) : Bool :=
  let ds := (s.takeWhile Char.isDigit).length
  (ds == 4 && s[4]? == some '-') || (ds == 2 && s[2]? == some ':')

/-- A character of a number, a truth value or a date. -/
def isBareChar (c : Char) : Bool :=
  c.isAlphanum || c == '_' || c == '-' || c == '+' || c == '.' || c == ':'

/-- The value of a word without quotes. -/
def bare? (s : List Char) : Option Document :=
  if s = "true".toList then some (.bool true)
  else if s = "false".toList then some (.bool false)
  else
    match s with
    | '0' :: 'x' :: ds => basedInteger? 16 ds
    | '0' :: 'o' :: ds => basedInteger? 8 ds
    | '0' :: 'b' :: ds => basedInteger? 2 ds
    | _ =>
      match decimalInteger? s with
      | some d => some d
      | none => if isFloat s || isDate s then some .unusable else none

/-- A word without quotes. A date may have its time behind a blank. -/
def bareWord? (s : List Char) : Option (Document × List Char) :=
  let (word, rest) := s.span isBareChar
  let time := (rest.drop 1).takeWhile isBareChar
  if isDate word && rest.head? == some ' ' && isDate time then
    some (.unusable, rest.drop (1 + time.length))
  else (bare? word).map (·, rest)

/-! ## Values -/

mutual

/-- A value. The first argument bounds the recursion: every call takes at least one character. -/
def value? : Nat → List Char → Option (Document × List Char)
  | 0, _ => none
  | fuel + 1, s =>
    match s with
    | [] => none
    | c :: rest =>
      if c = '"' ∨ c = '\'' then (string? c rest).map fun (t, s) => (.text t, s)
      else if c = '[' then (items? fuel rest).map fun (ds, s) => (.list ds, s)
      else if c = '\x7b' then
        (inlineEntries? fuel [] rest).map fun (es, s) => (.table (entriesToDocuments es), s)
      else bareWord? (c :: rest)

/-- The items of a list up to its end. -/
def items? : Nat → List Char → Option (List Document × List Char)
  | 0, _ => none
  | fuel + 1, s => do
    let s ← skipLines? s.length s
    match s with
    | ']' :: s => pure ([], s)
    | s =>
      let (d, s) ← value? fuel s
      let s ← skipLines? s.length s
      match s with
      | ',' :: s =>
        let (ds, s) ← items? fuel s
        pure (d :: ds, s)
      | ']' :: s => pure ([d], s)
      | _ => none

/-- The entries of a table within one value, added to those read before. -/
def inlineEntries? : Nat → Entries → List Char → Option (Entries × List Char)
  | 0, _, _ => none
  | fuel + 1, entries, s => do
    let s ← skipLines? s.length s
    match s with
    | '\x7d' :: s => pure (entries, s)
    | s =>
      let (path, key, s) ← key? s.length s
      match s with
      | '=' :: s =>
        let (d, s) ← value? fuel (skip s)
        let entries ← insert path key d entries
        let s ← skipLines? s.length s
        match s with
        | ',' :: s => inlineEntries? fuel entries s
        | '\x7d' :: s => pure (entries, s)
        | _ => none
      | _ => none

end

/-! ## Lines -/

/-- The header after its first bracket. -/
def header? (s : List Char) : Option (Header × List Char) := do
  let (row, s) :=
    match s with
    | '[' :: s => (true, s)
    | s => (false, s)
  let (path, key, s) ← key? (s.length + 1) s
  match row, s with
  | true, ']' :: ']' :: s => pure (⟨path, key, true⟩, s)
  | false, ']' :: s => pure (⟨path, key, false⟩, s)
  | _, _ => none

/-- What a line adds, and the text after it. -/
def line? (b : Builder) (s : List Char) : Option (Builder × List Char) := do
  match s with
  | '[' :: s =>
    let (h, s) ← header? s
    let b ← b.enter h
    pure (b, s)
  | s =>
    let (path, key, s) ← key? (s.length + 1) s
    match s with
    | '=' :: s =>
      let s := skip s
      let (d, s) ← value? (2 * s.length + 1) s
      let b ← b.put path key d
      pure (b, s)
    | _ => none

/-- All lines. The first argument bounds their number. -/
def lines? : Nat → Builder → List Char → Option Builder
  | 0, _, _ => none
  | fuel + 1, b, s => do
    let s ← skipLines? s.length s
    if s.isEmpty then pure b
    else
      let (b, s) ← line? b s
      let s ← skipComment? s
      if s.isEmpty then pure b
      else
        let s ← lineEnd? s
        lines? fuel b s

/-- What is said of a text that holds no document; the place in the text is not told. -/
def refusal : String := "malformed TOML"

/-- The document that `text` holds, always a table. A byte order mark in front is passed over. -/
def parse? (text : String) : Option Document := do
  let s := text.toList
  let s := if s.head? = some (Char.ofNat 0xfeff) then s.drop 1 else s
  let b ← lines? (s.length + 1) .empty s
  b.finish

end JobGraph.Toml
