import JobGraph.Artifact.Context
import JobGraph.PlannedJob

/-!
# The table of sites

A line for each job says at which sites it may run.
-/

namespace JobGraph.SiteTable

/-- A list of texts: quoted, between braces. -/
def braced (texts : List String) : String :=
  "\x7b " ++ ", ".intercalate (texts.map Json.quote) ++ " \x7d"

/-- The line of a job. -/
def line (job : PlannedJob) : String :=
  s!"    Job{job.sequence} = " ++ braced job.sites.toList ++ ";\n"

/-- The text of the table. -/
def text (jobs : List PlannedJob) : String :=
  "[\n" ++ String.join (jobs.map line) ++ "]\n"

end JobGraph.SiteTable
