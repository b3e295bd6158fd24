import JobGraph.Config.Basic

/-!
# Attempts

A call of a service is made again when it fails, up to a number of attempts. The result is the
first success, or the last failure. The time between two attempts is part of the settings, but
nothing waits here.
-/

namespace JobGraph

/-- How often a call is made at most; one attempt is always made. -/
structure Attempts where
  limit : Nat
  /-- The milliseconds between the first two attempts. -/
  backoffMs : Nat
deriving DecidableEq, Repr

namespace Attempts

/-- One attempt. -/
def once : Attempts := ⟨1, 0⟩

/-- The configured attempts. -/
def ofSettings (s : RetrySettings) : Attempts :=
  ⟨max s.attempts 1, s.backoffMs⟩

/-- The standard number of attempts. -/
def standard : Attempts := ofSettings .standard

/-- Make the call, and again up to `more` times while it fails. -/
def attempt {m : Type → Type} [Monad m] {ε α : Type} (call : m (Except ε α)) :
    Nat → m (Except ε α)
  | 0 => call
  | more + 1 => do
    match ← call with
    | .ok a => pure (.ok a)
    | .error _ => attempt call more

/-- Make the call again while it fails, up to the limit. -/
def run {m : Type → Type} [Monad m] {ε α : Type} (p : Attempts) (call : m (Except ε α)) :
    m (Except ε α) :=
  attempt call (p.limit - 1)

end Attempts

end JobGraph
