/-!
# Hexadecimal digits
-/

namespace JobGraph.Text

/-- The value of a hexadecimal digit of either case. -/
def hexDigit? (c : Char) : Option Nat :=
  if c.isDigit then some (c.toNat - '0'.toNat)
  else if 'a' ≤ c ∧ c ≤ 'f' then some (c.toNat - 'a'.toNat + 10)
  else if 'A' ≤ c ∧ c ≤ 'F' then some (c.toNat - 'A'.toNat + 10)
  else none

/-- The value of hexadecimal digits, most significant first. -/
def hexValue? (ds : List Char) : Option Nat :=
  ds.foldlM (fun n c => (hexDigit? c).map (n * 16 + ·)) 0

/-- The two digits of a byte. -/
def hexByte (b : UInt8) : List Char :=
  [(b.toNat / 16).digitChar, (b.toNat % 16).digitChar]

/-- The bytes that pairs of digits stand for. -/
def hexBytes? : List Char → Option (List UInt8)
  | [] => some []
  | a :: b :: ds => do
    let a ← hexDigit? a
    let b ← hexDigit? b
    let bytes ← hexBytes? ds
    pure (UInt8.ofNat (a * 16 + b) :: bytes)
  | [_] => none

end JobGraph.Text
