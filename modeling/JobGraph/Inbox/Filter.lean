import JobGraph.Blake3
import JobGraph.Error
import JobGraph.Glob

/-!
# Inbox filters

Which files of an inbox are requests, and which of these are new. A filter remembers the hash of
what it last admitted for each path; the same contents are not admitted twice in a row.
-/

namespace JobGraph

/-- A pattern for file names and, for each path, the hash of what was last admitted. -/
structure Inbox.Filter where
  pattern : Glob
  seen : List (List Component × String)

namespace Inbox.Filter

/-- A filter that has admitted nothing. -/
def ofPattern (pattern : String) : Except Error Inbox.Filter :=
  match Glob.parse? pattern with
  | some g => .ok ⟨g, []⟩
  | none => .error (.config (.filterPattern pattern Glob.refusal))

/-- The name that the path leads to matches the pattern. -/
def selects (f : Inbox.Filter) (p : Path) : Bool :=
  match p.fileName? with
  | some name => f.pattern.isMatch name
  | none => false

/-- The filter without its memory of a path. -/
def forget (f : Inbox.Filter) (p : Path) : Inbox.Filter :=
  { f with seen := f.seen.filter fun e => e.1 != p.components }

/-- Whether contents are new for a path, and the filter that remembers them. -/
def accept (f : Inbox.Filter) (p : Path) (contents : ByteArray) : Bool × Inbox.Filter :=
  let hash := Blake3.hash contents
  if f.seen.lookup p.components = some hash then (false, f)
  else (true, { f with seen := (p.components, hash) :: (f.forget p).seen })

end Inbox.Filter

end JobGraph
