import JobGraph.Document
import JobGraph.SettingError
import JobGraph.Text.Basic
import JobGraph.Unicode.Lowercase

/-!
# Throttles

How many of a task's closing scripts may run at once. The execution engine enforces the limit;
here it is only worked out.
-/

namespace JobGraph

/-- The operator's setting for the limit. -/
inductive Throttle.Mode where
  /-- One script for ten jobs, and no fewer than a floor. -/
  | auto
  /-- As many scripts as there are jobs. -/
  | unbounded
  | fixed (count : Nat)
deriving DecidableEq, Repr

namespace Throttle.Mode

/-- The number that digits, with or without a plus sign, stand for; it has to fit 64 bits. -/
def count? (s : List Char) : Option Nat :=
  let ds := match s with
    | '+' :: ds => ds
    | ds => ds
  let n := Nat.ofDigitChars 10 ds 0
  if ds.isEmpty || !ds.all Char.isDigit || Nat.pow 2 64 ≤ n then none else some n

/-- The setting that a text stands for; case and white space around it do not matter. -/
def parse (s : String) : Except SettingError Throttle.Mode :=
  match Unicode.lower (Text.trim s) with
  | "auto" => .ok .auto
  | "unbounded" => .ok .unbounded
  | other =>
    match count? other.toList with
    | some n => .ok (.fixed n)
    | none => .error (.throttle other)

/-- The setting that a document stands for: a number or a text. -/
def ofDocument? : Document → Option Throttle.Mode
  | .text s => (parse s).toOption
  | d => (d.nat? 64).map .fixed

end Throttle.Mode

/-- How the limit is worked out. -/
structure Throttle where
  mode : Throttle.Mode
  /-- The least limit in automatic mode. -/
  floor : Nat
deriving DecidableEq, Repr

namespace Throttle

/-- Automatic with a floor of twenty. -/
def standard : Throttle := ⟨.auto, 20⟩

/-- The limit for a task with `jobs` jobs. -/
def limit (t : Throttle) (jobs : Nat) : Nat :=
  match t.mode with
  | .fixed count => count
  | .unbounded => jobs
  | .auto => max t.floor ((jobs + 9) / 10)

/-- In automatic mode the limit is the least number that reaches the floor and gives one script to
every ten jobs. -/
theorem limit_auto_le_iff {floor jobs c : Nat} :
    (limit ⟨.auto, floor⟩ jobs) ≤ c ↔ floor ≤ c ∧ jobs ≤ 10 * c := by
  simp only [limit, Nat.max_le]
  omega

end Throttle

end JobGraph
