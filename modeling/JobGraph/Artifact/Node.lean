import JobGraph.Artifact.Context
import JobGraph.PlannedJob

/-!
# Nodes of the graph

A job is a node of the graph: six statements, one a line, about the job, the scripts before and
after it, its attempts, its variables, and when it ends the whole graph. Statements are read by
position, so every value in them is a single word, save those of the variables, which are quoted.
-/

namespace JobGraph.Node

/-- How often a job is tried. -/
def maxRetries : Nat := 10

/-- The exit status after which a job is not tried again. -/
def permanentFailureExit : Nat := 2

/-- The exit status of the script before a job that ends the whole graph. -/
def abortExit : Nat := 3

/-- The script that runs before and after a job. -/
def hookScript : String := "dag_bootstrap.sh"

/-- What stands before the first node. -/
def header : String := "NODE_STATUS_FILE node_state 30\n\n"

/-- The name of the node of a job. -/
def name (sequence : Nat) : String := s!"Job{sequence}"

/-- The words of the statement about the script before the job; the first one ends in a blank. -/
def preWords (ctx : WorkerContext) (task : Task) (job : PlannedJob) : List String :=
  ["SCRIPT PRE ", name job.sequence, hookScript, "PREJOB", "$RETRY", toString job.sequence,
    task.name, ctx.backendHost]

/-- The words of the statement about the script after the job. -/
def postWords (ctx : WorkerContext) (task : Task) (job : PlannedJob) : List String :=
  ["SCRIPT POST", name job.sequence, hookScript, "POSTJOB", "$JOBID", "$RETURN", "$RETRY",
    "$MAX_RETRIES", ctx.restInstance, ctx.restUrl, task.name, toString job.sequence,
    task.publishName, task.jobSw, task.asyncDest, job.directories.temp, job.directories.dest,
    job.logName] ++ job.outputNames

/-- A character of JSON text inside a variable: a quote is written twice, each behind a
backslash. -/
def escapeChar (c : Char) : List Char :=
  if c = '"' then ['\\', '"', '\\', '"'] else [c]

/-- JSON text inside a variable. -/
def escaped (d : Document) : String :=
  String.ofList ((Json.renderChars d).flatMap escapeChar)

/-- A number that may be missing. -/
def optional : Option Nat → String
  | none => "None"
  | some n => toString n

/-- A truth value. -/
def truth (b : Bool) : String := if b then "True" else "False"

/-- A text as the value of an attribute: between quotes behind backslashes. -/
def quotedValue (text : String) : String := "\\\"" ++ text ++ "\\\""

/-- The outputs as pairs of names. -/
def outputPairs (job : PlannedJob) : String :=
  ", ".intercalate (job.outputs.map fun o => s!"{o.here}={o.remote}")

/-- The variables of the job and what stands between the quotes of each. -/
def vars (job : PlannedJob) : List (String × String) :=
  [("count", toString job.sequence),
    ("runAndLumiMask", escaped job.mask.runsToDocument),
    ("lheInputFiles", truth job.lheInput),
    ("firstEvent", optional job.mask.firstEvent),
    ("firstLumi", optional job.mask.firstLumi),
    ("lastEvent", optional job.mask.lastEvent),
    ("firstRun", optional job.mask.firstRun),
    ("seeding", "AutomaticSeeding"),
    ("inputFiles", escaped (.list (job.inputFiles.map .text))),
    ("+CRAB_localOutputFiles", quotedValue (outputPairs job)),
    ("+CRAB_DataBlock", quotedValue job.block),
    ("+CRAB_Destination", quotedValue (", ".intercalate job.urls))]

/-- A variable and its value between quotes. -/
def assignment (v : String × String) : String := v.1 ++ "=\"" ++ v.2 ++ "\""

/-- The six statements about the job. -/
def statements (ctx : WorkerContext) (task : Task) (job : PlannedJob) : List String :=
  let node := name job.sequence
  [s!"JOB {node} {Artifact.submitFile}",
    " ".intercalate (preWords ctx task job),
    " ".intercalate (postWords ctx task job),
    s!"RETRY {node} {maxRetries} UNLESS-EXIT {permanentFailureExit}",
    s!"VARS {node} " ++ " ".intercalate ((vars job).map assignment),
    s!"ABORT-DAG-ON {node} {abortExit}"]

/-- The text of the node: its statements between empty lines. -/
def text (ctx : WorkerContext) (task : Task) (job : PlannedJob) : String :=
  "\n" ++ "\n".intercalate (statements ctx task job) ++ "\n\n"

/-- The text of the graph: the header and the nodes in order. -/
def graphText (ctx : WorkerContext) (task : Task) (jobs : List PlannedJob) : String :=
  header ++ String.join (jobs.map (text ctx task))

end JobGraph.Node
