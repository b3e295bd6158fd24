/-!
# Binary floating-point numbers

A number of the IEEE 754 format binary64, kept as its bits. It is read from a decimal significand
and a power of ten, and written with the fewest digits that tell it apart from its neighbours.
-/

namespace JobGraph

/-- A binary64 number, by its bits. -/
structure Binary64 where
  bits : UInt64
deriving DecidableEq, Repr

namespace Binary64

/-! ## Reading -/

/-- The number nearest to `10 ^ k`. -/
def powerOfTen (k : Nat) : Float :=
  Float.ofScientific 1 false k

/-- `f · 10 ^ e` by one multiplication or division by a power of ten if `e` is at most 308 in
size, and by several divisions below that; `none` beyond the range. -/
def scaleFloat? : Nat → Float → Int → Option Float
  | 0, f, _ => some f
  | fuel + 1, f, e =>
    if 0 ≤ e then
      if 308 < e then (if f == 0.0 then some f else none)
      else
        let g := f * powerOfTen e.toNat
        if g.isInf then none else some g
    else if -308 ≤ e then some (f / powerOfTen (-e).toNat)
    else if f == 0.0 then some f
    else scaleFloat? fuel (f / powerOfTen 308) (e + 308)

/-- The number `significand · 10 ^ e`, negated if `negative`. Three divisions bring every
significand of 64 bits to zero, so the recursion is never cut short. -/
def scaled? (negative : Bool) (significand : Nat) (e : Int) : Option Binary64 :=
  (scaleFloat? 8 significand.toUInt64.toFloat e).map fun f =>
    ⟨(if negative then -f else f).toBits⟩

/-! ## Writing -/

/-- The sign bit is set. -/
def isNegative (x : Binary64) : Bool :=
  x.bits.toNat / Nat.pow 2 63 == 1

/-- The fraction field. -/
def fraction (x : Binary64) : Nat :=
  x.bits.toNat % Nat.pow 2 52

/-- The exponent field. -/
def exponentField (x : Binary64) : Nat :=
  x.bits.toNat / Nat.pow 2 52 % Nat.pow 2 11

/-- The size of the number is `mantissa · 2 ^ exponent`. -/
def mantissa (x : Binary64) : Nat :=
  if x.exponentField = 0 then x.fraction else Nat.pow 2 52 + x.fraction

/-- The size of the number is `mantissa · 2 ^ exponent`. -/
def exponent (x : Binary64) : Int :=
  if x.exponentField = 0 then -1074 else (x.exponentField : Int) - 1075

/-- The numbers that round to `x`: four times the lower end, `x` and the upper end over a common
denominator. The ends belong to the interval if the mantissa is even. -/
structure Interval where
  low : Nat
  mid : Nat
  high : Nat
  denominator : Nat
  closed : Bool

/-- The interval of the numbers that round to the size of `x`. -/
def interval (x : Binary64) : Interval :=
  let m := x.mantissa
  let below := if x.fraction = 0 && 1 < x.exponentField then 1 else 2
  let up := (x.exponent - 2).toNat
  let down := (2 - x.exponent).toNat
  { low := (4 * m - below) * Nat.pow 2 up
    mid := 4 * m * Nat.pow 2 up
    high := (4 * m + 2) * Nat.pow 2 up
    denominator := Nat.pow 2 down
    closed := m % 2 == 0 }

/-- `d · 10 ^ e` lies in the interval. -/
def Interval.has (i : Interval) (d : Nat) (e : Int) : Bool :=
  let v := d * Nat.pow 10 e.toNat * i.denominator
  let s := Nat.pow 10 (-e).toNat
  if i.closed then decide (i.low * s ≤ v) && decide (v ≤ i.high * s)
  else decide (i.low * s < v) && decide (v < i.high * s)

/-- The middle of the interval, cut down to a multiple of `10 ^ e`. -/
def Interval.floor (i : Interval) (e : Int) : Nat :=
  i.mid * Nat.pow 10 (-e).toNat / (i.denominator * Nat.pow 10 e.toNat)

/-- `d` is at least as near to the middle as `d + 1`, in units of `10 ^ e`; a tie goes to the even
one. -/
def Interval.prefersLower (i : Interval) (d : Nat) (e : Int) : Bool :=
  let twice := 2 * (i.mid * Nat.pow 10 (-e).toNat)
  let middle := (2 * d + 1) * (i.denominator * Nat.pow 10 e.toNat)
  decide (twice < middle) || (decide (twice = middle) && d % 2 == 0)

/-- The first multiple of a power of ten, from `10 ^ e` downwards, that rounds to the number. -/
def Interval.shortest (i : Interval) : Nat → Int → Nat × Int
  | 0, e => (i.floor e, e)
  | fuel + 1, e =>
    let d := i.floor e
    match i.has d e && d != 0, i.has (d + 1) e with
    | true, true => if i.prefersLower d e then (d, e) else (d + 1, e)
    | true, false => (d, e)
    | false, true => (d + 1, e)
    | false, false => i.shortest fuel (e - 1)

/-- `(d, e)` without the zeros at the end of `d`. -/
def stripZeros : Nat → Nat → Int → Nat × Int
  | 0, d, e => (d, e)
  | fuel + 1, d, e => if d % 10 = 0 ∧ d ≠ 0 then stripZeros fuel (d / 10) (e + 1) else (d, e)

/-- The digits `d` and the power of ten `e` of the shortest decimal that reads back as the size of
`x`. No binary64 number reaches `10 ^ 309`, and none needs a unit below `10 ^ (-324)`. -/
def shortestDecimal (x : Binary64) : Nat × Int :=
  let (d, e) := x.interval.shortest 640 309
  stripZeros 20 d e

/-- The decimal text of digits `ds` with the point `point` places behind their start: positional
from 10 ^ (-5) up to 10 ^ 16, with an exponent otherwise. -/
def layout (ds : List Char) (point : Int) : List Char :=
  let n : Int := ds.length
  if n ≤ point ∧ point ≤ 16 then
    ds ++ List.replicate (point - n).toNat '0' ++ ['.', '0']
  else if 0 < point ∧ point ≤ 16 then
    ds.take point.toNat ++ '.' :: ds.drop point.toNat
  else if -5 < point ∧ point ≤ 0 then
    '0' :: '.' :: (List.replicate (-point).toNat '0' ++ ds)
  else
    ds.take 1 ++ (if ds.length = 1 then [] else '.' :: ds.drop 1) ++ 'e' ::
      (toString (point - 1)).toList

/-- The decimal text of a number: as few digits as read back. -/
def toText (x : Binary64) : String :=
  let sign := if x.isNegative then ['-'] else []
  if x.mantissa = 0 then String.ofList (sign ++ ['0', '.', '0'])
  else
    let (d, e) := x.shortestDecimal
    let ds := Nat.toDigits 10 d
    String.ofList (sign ++ layout ds (ds.length + e))

end Binary64

end JobGraph
