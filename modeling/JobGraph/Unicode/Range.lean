/-!
# Sets of characters as ranges of code points

A property of characters is given by the inclusive ranges of code points that have it.
-/

namespace JobGraph.Unicode

/-- Inclusive ranges of code points. -/
abbrev Ranges := List (Nat × Nat)

/-- The code point of `c` lies in one of the ranges. -/
def Ranges.has (ranges : Ranges) (c : Char) : Bool :=
  ranges.any fun r => decide (r.1 ≤ c.toNat) && decide (c.toNat ≤ r.2)

/-- Code points `first`, `first + step`, …, `last`, each of which is related to the one `offset`
further on. -/
structure Run where
  first : Nat
  last : Nat
  step : Nat
  offset : Int
deriving DecidableEq, Repr

/-- The code point `n` belongs to the run. -/
def Run.covers (r : Run) (n : Nat) : Bool :=
  decide (r.first ≤ n) && decide (n ≤ r.last) && (n - r.first) % r.step == 0

/-- The character that the first run covering `c` relates it to; `c` itself if none does. -/
def Run.apply (runs : List Run) (c : Char) : Char :=
  match runs.find? (fun r => r.covers c.toNat) with
  | some r => Char.ofNat (Int.ofNat c.toNat + r.offset).toNat
  | none => c

/-- The characters other than `c` that some run relates to `c`. -/
def Run.sources (runs : List Run) (c : Char) : List Char :=
  runs.filterMap fun r =>
    let n := (Int.ofNat c.toNat - r.offset).toNat
    if r.covers n && n + r.offset == Int.ofNat c.toNat then some (Char.ofNat n) else none

end JobGraph.Unicode
