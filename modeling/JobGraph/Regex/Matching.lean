import JobGraph.Regex.Basic

/-!
# Matching regular expressions

A match is found at the first position that has one; of the matches there, the preferred one
counts: the earlier alternative, and the longer or shorter repetition as the expression asks.

An expression is run from a cursor and gives the cursors behind its matches, most preferred first.
What follows depends on the position alone, so of several cursors at one position only the most
preferred is kept.
-/

namespace JobGraph.Regex

/-- A position in a text and the groups matched on the way to it. -/
structure Cursor where
  /-- How many characters are in front. -/
  pos : Nat
  /-- The character right in front. -/
  before : Option Char
  /-- The text from here on. -/
  after : List Char
  /-- The texts of the groups by number, the latest first. -/
  groups : List (Nat × List Char)
deriving DecidableEq, Repr

/-- The first cursor of every position. -/
def firstOfEach : List Cursor → List Cursor
  | [] => []
  | c :: cs => c :: (firstOfEach cs).filter fun d => d.pos != c.pos

/-- Step over one character of the set. -/
def stepOver (s : CharSet) (c : Cursor) : List Cursor :=
  match c.after with
  | [] => []
  | x :: rest =>
    if s.has x then [{ c with pos := c.pos + 1, before := some x, after := rest }] else []

/-- The cursors behind a repetition that has just come to `c`: it goes on from there or ends there.
It comes to every position only once, `seen` holding those it came to, and does not go on from
`entry`, where it began. The cursors are given with the positions seen in the end. -/
def arrive (run : Cursor → List Cursor) (greedy : Bool) (entry : Nat) :
    Nat → List Nat → Cursor → List Cursor × List Nat
  | 0, seen, _ => ([], seen)
  | fuel + 1, seen, c =>
    if seen.contains c.pos then ([], seen)
    else
      let (more, seen) :=
        ((if c.pos = entry then [] else run c)).foldl
          (fun (found, seen) d =>
            let (more, seen) := arrive run greedy entry fuel seen d
            (found ++ more, seen))
          ([], c.pos :: seen)
      (if greedy then more ++ [c] else c :: more, seen)

/-- `run` exactly `n` times. -/
def exactly (run : Cursor → List Cursor) : Nat → Cursor → List Cursor
  | 0, c => [c]
  | n + 1, c => firstOfEach ((run c).flatMap (exactly run n))

/-- `run` at most `n` times. -/
def atMost (run : Cursor → List Cursor) (greedy : Bool) : Nat → Cursor → List Cursor
  | 0, c => [c]
  | n + 1, c =>
    let more := (run c).flatMap (atMost run greedy n)
    firstOfEach (if greedy then more ++ [c] else c :: more)

/-- `run` any number of times, but at least once. -/
def plus (run : Cursor → List Cursor) (greedy : Bool) (c : Cursor) : List Cursor :=
  ((run c).foldl
    (fun (found, seen) d =>
      let (more, seen) := arrive run greedy c.pos (c.after.length + 2) seen d
      (found ++ more, seen))
    ([], ([] : List Nat))).1

/-- The cursors behind the matches of `r` from `c`. -/
def run : Regex → Cursor → List Cursor
  | .empty, c => [c]
  | .set s, c => stepOver s c
  | .look l, c => if l.holds c.before c.after.head? then [c] else []
  | .group n r, c =>
    (run r c).map fun d => { d with groups := (n, c.after.take (d.pos - c.pos)) :: d.groups }
  | .cat r s, c => firstOfEach ((run r c).flatMap (run s))
  | .alt r s, c => firstOfEach (run r c ++ run s c)
  | .rep r least most greedy, c =>
    match most with
    | some most =>
      firstOfEach ((exactly (run r) least c).flatMap (atMost (run r) greedy (most - least)))
    | none =>
      match least with
      | 0 =>
        let more := plus (run r) greedy c
        firstOfEach (if greedy then more ++ [c] else c :: more)
      | n + 1 => firstOfEach ((exactly (run r) n c).flatMap (plus (run r) greedy))

/-- Where a text matched. -/
structure Match where
  before : List Char
  matched : List Char
  after : List Char
  groups : List (Nat × List Char)
deriving DecidableEq, Repr

/-- The text that a group matched; nothing if it took no part. Number 0 is the whole match. -/
def Match.group (m : Match) (n : Nat) : List Char :=
  if n = 0 then m.matched else (m.groups.lookup n).getD []

/-- The first match at or behind a position, where `passed` holds the characters in front of it,
nearest first. -/
def searchFrom (r : Regex) (passed : List Char) (s : List Char) : Option Match :=
  match run r ⟨passed.length, passed.head?, s, []⟩ with
  | d :: _ => some ⟨passed.reverse, s.take (d.pos - passed.length), d.after, d.groups⟩
  | [] =>
    match s with
    | [] => none
    | c :: s => searchFrom r (c :: passed) s

/-- The first match in a text. -/
def search (r : Regex) (s : String) : Option Match :=
  searchFrom r [] s.toList

end JobGraph.Regex
