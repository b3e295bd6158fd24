import JobGraph.Assembly
import JobGraph.Emission
import JobGraph.FailureReport
import JobGraph.Plan

/-!
# Compilation

A request is planned, the URLs of its outputs are asked for, its artifacts are made and written,
and they are entered at the dashboard. Only planning and writing can fail; a service that cannot
be reached is a warning.
-/

namespace JobGraph

/-- What is needed to compile requests. -/
structure Compiler where
  rules : SiteRules
  context : WorkerContext
  throttle : Throttle
  scratchDir : Path
  retry : Attempts
  services : Services

/-- A compiled task. -/
structure Compilation where
  taskName : String
  workDir : Path
  jobCount : Nat
  throttle : Nat
  warnings : List Warning
deriving DecidableEq, Repr

namespace Compiler

/-- The compiler of a configuration. -/
def ofConfig (c : Config) (services : Services) : Compiler :=
  { rules := c.siteRules
    context := .ofConfig c
    throttle := c.throttle
    scratchDir := c.worker.scratchDir
    retry := .ofSettings c.retry
    services }

/-- The working directory of a task. -/
def workDir (c : Compiler) (taskName : String) : Path :=
  c.scratchDir.join ⟨taskName⟩

/-- The plan of a request. -/
def plan (c : Compiler) (r : Request) : Except Error Plan :=
  Plan.ofRequest c.rules c.throttle r

/-- The name of the placement service. -/
def placementName : String := "placement"

/-- Ask for the URLs of a job's files at a site. -/
def askUrls (c : Compiler) (site : String) (job : PlannedJob) :
    Program (Except Error Placement.Resolved) :=
  c.services.locate site job.directories.dest job.manifest

/-- The warning about files without a URL, if there are any. -/
def unplacedWarnings (site : String) (job : PlannedJob) (r : Placement.Resolved) :
    List Warning :=
  if r.unresolved.isEmpty then [] else [.unplaced job.sequence site r.unresolved]

/-- The jobs with their URLs at a site, and the warnings. Once the service fails, the jobs that are
left go without. -/
def resolveUrls (c : Compiler) (site : String) :
    List PlannedJob → Program (List PlannedJob × List Warning)
  | [] => pure ([], [])
  | job :: jobs => do
    match ← c.retry.run (c.askUrls site job) with
    | .error e => pure (job :: jobs, [.degraded placementName e.message])
    | .ok r =>
      let (jobs, warnings) ← c.resolveUrls site jobs
      pure ({ job with urls := r.urls } :: jobs, unplacedWarnings site job r ++ warnings)

/-- The error of a call that failed. -/
def errorOf {α : Type} : Except Error α → Option Error
  | .ok _ => none
  | .error e => some e

/-- Enter jobs at the dashboard one after another; the errors of those that were not accepted. -/
def enterJobs (c : Compiler) : List Dashboard.JobEntry → Program (List Error)
  | [] => pure []
  | r :: rs => do
    let outcome ← c.retry.run (c.services.enterJob r)
    let errors ← c.enterJobs rs
    pure ((errorOf outcome).toList ++ errors)

/-- Enter a task and its jobs at the dashboard; the warning if some entries were not accepted. -/
def enterAll (c : Compiler) (a : Assembly) : Program (List Warning) := do
  let outcome ← c.retry.run (c.services.enterTask a.taskEntry)
  let jobErrors ← c.enterJobs a.jobEntries
  let errors := (errorOf outcome).toList ++ jobErrors
  match errors.getLast? with
  | none => pure []
  | some last =>
    let total := a.jobEntries.length + 1
    pure [.degraded Dashboard.service
      s!"{errors.length} of {total} records not delivered: {last.message}"]

/-- Make, write and enter what was planned. -/
def carryOut (c : Compiler) (token : String) (p : Plan) :
    Program (Except Error Compilation) := do
  let (jobs, placementWarnings) ← c.resolveUrls p.task.asyncDest p.jobs
  match Assembly.ofJobs c.context p.task c.throttle jobs with
  | .error e => pure (.error e)
  | .ok assembly =>
    let dir := c.workDir p.task.name
    match ← Emission.writeAll dir token assembly.artifacts with
    | .error e => pure (.error (.other e))
    | .ok () =>
      let dashboardWarnings ← c.enterAll assembly
      pure (.ok {
        taskName := p.task.name
        workDir := dir
        jobCount := jobs.length
        throttle := assembly.throttle
        warnings := placementWarnings ++ dashboardWarnings })

/-- Compile a request; the token tells this compilation's staging files from those of others. -/
def compile (c : Compiler) (token : String) (r : Request) :
    Program (Except Error Compilation) :=
  FailureReport.guarded c.services.noteFailure c.retry r.task
    (match c.plan r with
    | .error e => pure (.error e)
    | .ok p => c.carryOut token p)

/-- The request in a file. -/
def readRequest (file : Path) : Program (Except Error Request) := do
  let answer : Except FileError String ← Program.file (.read file)
  match answer with
  | .error e => pure (.error (.other (.file e)))
  | .ok text =>
    match Request.parse? text with
    | some r => pure (.ok r)
    | none => pure (.error (.json (Request.refusal text)))

end Compiler

end JobGraph
