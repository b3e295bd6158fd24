import JobGraph.Error
import JobGraph.FailureNotice
import JobGraph.Placement.Basic
import JobGraph.Dashboard

/-!
# Effects

What a compilation may ask of the world, as data: file operations and calls of the placement
service, the monitoring dashboard and the task status store.
-/

namespace JobGraph

/-- One thing that is asked of the world. -/
inductive Effect where
  | file (op : FileOp)
  /-- Ask the placement service for the URLs of logical paths at sites. -/
  | resolve (sites paths : List String)
  | enterTask (record : Dashboard.TaskEntry)
  | enterJob (record : Dashboard.JobEntry)
  | noteFailure (record : FailureNotice)

/-- What the world answers. -/
abbrev Effect.Answer : Effect → Type
  | .file op => op.Answer
  | .resolve _ _ => Except Error UrlMap
  | .enterTask _ => Except Error Unit
  | .enterJob _ => Except Error Unit
  | .noteFailure _ => Except Error Unit

end JobGraph
