/-!
# UTF-8

Decoding of byte sequences that need not be well formed: every maximal piece that cannot be part
of a character becomes one replacement character.
-/

namespace JobGraph.Utf8

/-- A character whose first bytes were read. The next byte has to lie between `low` and `high`;
the bytes after it are any continuation bytes. -/
structure Pending where
  /-- The bits read so far. -/
  value : Nat
  /-- How many bytes are missing, the next one included. -/
  missing : Nat
  low : Nat
  high : Nat

/-- What stands for a piece that is no character. -/
def replacement : Char := Char.ofNat 0xfffd

/-- Begin a character with `b`: a whole character or a pending one. -/
def start (b : Nat) : Char ⊕ Pending :=
  if b < 0x80 then .inl (Char.ofNat b)
  else if 0xc2 ≤ b && b ≤ 0xdf then .inr ⟨b - 0xc0, 1, 0x80, 0xbf⟩
  else if b = 0xe0 then .inr ⟨0, 2, 0xa0, 0xbf⟩
  else if b = 0xed then .inr ⟨0xd, 2, 0x80, 0x9f⟩
  else if 0xe1 ≤ b && b ≤ 0xef then .inr ⟨b - 0xe0, 2, 0x80, 0xbf⟩
  else if b = 0xf0 then .inr ⟨0, 3, 0x90, 0xbf⟩
  else if 0xf1 ≤ b && b ≤ 0xf3 then .inr ⟨b - 0xf0, 3, 0x80, 0xbf⟩
  else if b = 0xf4 then .inr ⟨4, 3, 0x80, 0x8f⟩
  else .inl replacement

/-- The characters decoded so far, latest first, and the character being read. -/
abbrev State := List Char × Option Pending

/-- Read `b` as the first byte of a character. -/
def begin (done : List Char) (b : Nat) : State :=
  match start b with
  | .inl c => (c :: done, none)
  | .inr p => (done, some p)

/-- Read one byte. -/
def step (st : State) (byte : UInt8) : State :=
  let b := byte.toNat
  match st with
  | (done, none) => begin done b
  | (done, some p) =>
    if p.low ≤ b && b ≤ p.high then
      let value := p.value * 64 + (b - 0x80)
      if p.missing ≤ 1 then (Char.ofNat value :: done, none)
      else (done, some ⟨value, p.missing - 1, 0x80, 0xbf⟩)
    else begin (replacement :: done) b

/-- The first piece of a byte sequence that is no character: where it begins, and how many bytes it
has, unless the sequence ends in it. Of the character that is being read, which began at `place`,
`taken` bytes were read. -/
def fault? (place taken : Nat) : Option Pending → List UInt8 → Option (Nat × Option Nat)
  | none, [] => none
  | some _, [] => some (place, none)
  | none, byte :: bytes =>
    match start byte.toNat with
    | .inl _ => if byte < 0x80 then fault? (place + 1) 0 none bytes else some (place, some 1)
    | .inr p => fault? place 1 (some p) bytes
  | some p, byte :: bytes =>
    let b := byte.toNat
    if p.low ≤ b && b ≤ p.high then
      if p.missing ≤ 1 then fault? (place + taken + 1) 0 none bytes
      else
        fault? place (taken + 1) (some ⟨p.value * 64 + (b - 0x80), p.missing - 1, 0x80, 0xbf⟩) bytes
    else some (place, some taken)

/-- What is said of a byte sequence that is no text. -/
def refusal (bytes : ByteArray) : String :=
  match fault? 0 0 none bytes.toList with
  | some (place, some size) => s!"invalid utf-8 sequence of {size} bytes from index {place}"
  | some (place, none) => s!"incomplete utf-8 byte sequence from index {place}"
  | none => ""

/-- The text of a byte sequence, with replacement characters for what is no character. -/
def decodeLossy (bytes : ByteArray) : String :=
  let (done, pending) := bytes.foldl step ([], none)
  let done := if pending.isSome then replacement :: done else done
  String.ofList done.reverse

end JobGraph.Utf8
