import JobGraph.Document
import JobGraph.Text.Hex

/-!
# Reading JSON

A strict reader: one value, surrounded by nothing but white space. What is well formed but has no
value is read as `Document.unusable`: a string with half a surrogate pair, a table with such a key,
a number beyond the range of binary64, and a list or table inside 127 others.

Every function takes the text and answers with what it read and the rest of the text, or with
`none` if the text is malformed.
-/

namespace JobGraph.Json

/-- White space between tokens. -/
def isSpace (c : Char) : Bool :=
  c == ' ' || c == '\n' || c == '\t' || c == '\r'

/-- The text from its first token on. -/
def skip (s : List Char) : List Char :=
  s.dropWhile isSpace

/-! ## Strings -/

/-- The character that a backslash and `c` stand for. -/
def simpleEscape? (c : Char) : Option Char :=
  if c = '"' ∨ c = '\\' ∨ c = '/' then some c
  else if c = 'b' then some (Char.ofNat 8)
  else if c = 'f' then some (Char.ofNat 12)
  else if c = 'n' then some '\n'
  else if c = 'r' then some '\r'
  else if c = 't' then some '\t'
  else none

/-- What a string is made of: characters, and halves of surrogate pairs given by number. -/
inductive Piece where
  | char (c : Char)
  | half (n : Nat)
deriving DecidableEq, Repr

/-- `n` is the first half of a surrogate pair. -/
def isHigh (n : Nat) : Bool := decide (0xd800 ≤ n) && decide (n < 0xdc00)

/-- `n` is the second half of a surrogate pair. -/
def isLow (n : Nat) : Bool := decide (0xdc00 ≤ n) && decide (n < 0xe000)

/-- The piece with the number `n`. -/
def Piece.ofUnit (n : Nat) : Piece :=
  if isHigh n || isLow n then .half n else .char (Char.ofNat n)

/-- The pieces up to the closing quote. -/
def pieces? : List Char → Option (List Piece × List Char)
  | [] => none
  | c :: s =>
    if c = '"' then some ([], s)
    else if c = '\\' then
      match s with
      | 'u' :: a :: b :: c :: d :: s =>
        match Text.hexValue? [a, b, c, d] with
        | none => none
        | some n => (pieces? s).map fun (ps, rest) => (.ofUnit n :: ps, rest)
      | e :: s =>
        match simpleEscape? e with
        | none => none
        | some x => (pieces? s).map fun (ps, rest) => (.char x :: ps, rest)
      | [] => none
    else if c.toNat < 32 then none
    else (pieces? s).map fun (ps, rest) => (.char c :: ps, rest)

/-- The character of a surrogate pair. -/
def pairChar (high low : Nat) : Char :=
  Char.ofNat (0x10000 + (high - 0xd800) * 0x400 + (low - 0xdc00))

/-- The characters of the pieces; `none` if a half of a surrogate pair stands alone. -/
def characters? : List Piece → Option (List Char)
  | [] => some []
  | .char c :: ps => (characters? ps).map (c :: ·)
  | .half n :: .half m :: ps =>
    if isHigh n && isLow m then (characters? ps).map (pairChar n m :: ·) else none
  | .half _ :: _ => none

/-- A string after its opening quote: its characters, unless half a pair stands alone in it, and
the rest of the text. -/
def stringBody? (s : List Char) : Option (Option (List Char) × List Char) :=
  (pieces? s).map fun (ps, rest) => (characters? ps, rest)

/-! ## Numbers -/

/-- The digits at the start of the text. -/
def digits (s : List Char) : List Char × List Char :=
  s.span Char.isDigit

/-- The largest significand that is kept. -/
def maxSignificand : Nat := Nat.pow 2 64 - 1

/-- The significand extended by digits as long as it stays within 64 bits, and the digits left. -/
def extend (significand : Nat) : List Char → Nat × List Char
  | [] => (significand, [])
  | d :: ds =>
    let next := significand * 10 + (d.toNat - '0'.toNat)
    if maxSignificand < next then (significand, d :: ds) else extend next ds

/-- A number as it is written. -/
structure Numeral where
  negative : Bool
  whole : List Char
  /-- The digits behind the point, if there is one. -/
  fraction : Option (List Char)
  /-- The sign and the digits of the exponent, if there is one. -/
  exponent : Option (Bool × List Char)

/-- The value of the exponent, between the bounds of 32 bits; `none` beyond them. -/
def Numeral.exponent? (n : Numeral) : Option Int :=
  match n.exponent with
  | none => some 0
  | some (negative, ds) =>
    let size := Nat.ofDigitChars 10 ds 0
    if Nat.pow 2 31 ≤ size then none else some (if negative then -size else size)

/-- The number that a numeral with point or exponent, or with too many digits, stands for. Digits
that do not fit the significand only count as places. -/
def Numeral.real (n : Numeral) : Document :=
  let (significand, left) := extend 0 n.whole
  let (significand, used) :=
    match n.fraction with
    | none => (significand, 0)
    | some ds =>
      let (s, rest) := extend significand ds
      (s, ds.length - rest.length)
  let places : Int := left.length - used
  let tooSmall : Document := .real ⟨(if n.negative then -0.0 else 0.0 : Float).toBits⟩
  match n.exponent? with
  | none =>
    match n.exponent with
    | some (true, _) => tooSmall
    | _ => if significand = 0 then tooSmall else .unusable
  | some e =>
    match Binary64.scaled? n.negative significand (places + e) with
    | some x => .real x
    | none => .unusable

/-- The value of a numeral: an integer if it is written as one and fits 64 bits, with or without
sign, and is not a negative zero. -/
def Numeral.value (n : Numeral) : Document :=
  match n.fraction, n.exponent with
  | none, none =>
    let size := Nat.ofDigitChars 10 n.whole 0
    if n.negative then
      if size = 0 ∨ Nat.pow 2 63 < size then n.real else .int (-size)
    else if maxSignificand < size then n.real
    else .int size
  | _, _ => n.real

/-- The digits behind a point. -/
def fraction? (s : List Char) : Option (Option (List Char) × List Char) :=
  match s with
  | '.' :: s =>
    match digits s with
    | ([], _) => none
    | (ds, s) => some (some ds, s)
  | _ => some (none, s)

/-- The exponent. -/
def exponent? (s : List Char) : Option (Option (Bool × List Char) × List Char) :=
  match s with
  | e :: s' =>
    if e = 'e' ∨ e = 'E' then
      let (negative, s') :=
        match s' with
        | '-' :: r => (true, r)
        | '+' :: r => (false, r)
        | _ => (false, s')
      match digits s' with
      | ([], _) => none
      | (ds, s') => some (some (negative, ds), s')
    else some (none, s)
  | [] => some (none, s)

/-- A number. Its whole part has no leading zero. -/
def number? (s : List Char) : Option (Document × List Char) :=
  let (negative, s) :=
    match s with
    | '-' :: s => (true, s)
    | _ => (false, s)
  match digits s with
  | ([], _) => none
  | ('0' :: _ :: _, _) => none
  | (whole, s) => do
    let (fraction, s) ← fraction? s
    let (exponent, s) ← exponent? s
    pure ((Numeral.mk negative whole fraction exponent).value, s)

/-! ## Values -/

/-- The rest of the text after `word`. -/
def afterWord? : List Char → List Char → Option (List Char)
  | [], s => some s
  | w :: ws, c :: s => if w = c then afterWord? ws s else none
  | _ :: _, [] => none

/-- How many lists and tables may contain each other. -/
def maxDepth : Nat := 127

/-- What a list or table is read as if `depth` more may be opened. -/
def within (depth : Nat) (d : Document) : Document :=
  if depth = 0 then .unusable else d

/-- The table of entries, all of whose keys have to be usable. -/
def table (entries : List (Option (List Char) × Document)) : Document :=
  match entries.mapM fun e => e.1.map fun cs => (String.ofList cs, e.2) with
  | some es => .table es
  | none => .unusable

mutual

/-- A value. The first argument bounds the recursion: every call takes at least one character. -/
def value? : Nat → Nat → List Char → Option (Document × List Char)
  | 0, _, _ => none
  | fuel + 1, depth, s =>
    match skip s with
    | [] => none
    | c :: s =>
      if c = '"' then
        (stringBody? s).map fun (cs, rest) =>
          (match cs with
            | some cs => .text (String.ofList cs)
            | none => .unusable, rest)
      else if c = '[' then
        match skip s with
        | ']' :: rest => some (within depth (.list []), rest)
        | _ => (items? fuel (depth - 1) s).map fun (ds, rest) => (within depth (.list ds), rest)
      else if c = '\x7b' then
        match skip s with
        | '\x7d' :: rest => some (within depth (.table []), rest)
        | _ => (entries? fuel (depth - 1) s).map fun (es, rest) => (within depth (table es), rest)
      else if c = 't' then (afterWord? "rue".toList s).map (.bool true, ·)
      else if c = 'f' then (afterWord? "alse".toList s).map (.bool false, ·)
      else if c = 'n' then (afterWord? "ull".toList s).map (.null, ·)
      else number? (c :: s)

/-- The items of a list up to its end. -/
def items? : Nat → Nat → List Char → Option (List Document × List Char)
  | 0, _, _ => none
  | fuel + 1, depth, s =>
    match value? fuel depth s with
    | none => none
    | some (d, s) =>
      match skip s with
      | ',' :: s => (items? fuel depth s).map fun (ds, rest) => (d :: ds, rest)
      | ']' :: s => some ([d], s)
      | _ => none

/-- The entries of a table up to its end; the key is `none` where half a pair stands alone in it. -/
def entries? : Nat → Nat → List Char →
    Option (List (Option (List Char) × Document) × List Char)
  | 0, _, _ => none
  | fuel + 1, depth, s =>
    match skip s with
    | '"' :: s =>
      match stringBody? s with
      | none => none
      | some (cs, s) =>
        match skip s with
        | ':' :: s =>
          match value? fuel depth s with
          | none => none
          | some (d, s) =>
            match skip s with
            | ',' :: s => (entries? fuel depth s).map fun (es, rest) => ((cs, d) :: es, rest)
            | '\x7d' :: s => some ([(cs, d)], s)
            | _ => none
        | _ => none
    | _ => none

end

/-- What is said of a text that holds no document; the place in the text is not told. -/
def refusal : String := "malformed JSON"

/-- The document that `text` holds. -/
def parse? (text : String) : Option Document :=
  let s := text.toList
  match value? (2 * s.length + 1) maxDepth s with
  | some (d, rest) => if skip rest = [] then some d else none
  | none => none

end JobGraph.Json
