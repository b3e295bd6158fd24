import JobGraph.Artifact.Node
import JobGraph.Artifact.SiteTable
import JobGraph.Artifact.SubmitFile
import JobGraph.Error
import JobGraph.Dashboard

/-!
# Assemblies

Everything that is made for a task: its three files and the entries for the dashboard.
-/

namespace JobGraph

/-- Everything that is made for a task. -/
structure Assembly where
  artifacts : List Artifact
  throttle : Nat
  taskEntry : Dashboard.TaskEntry
  jobEntries : List Dashboard.JobEntry
deriving DecidableEq, Repr

/-- The entry of a task. -/
def Dashboard.TaskEntry.ofTask (ctx : WorkerContext) (task : Task) : Dashboard.TaskEntry :=
  let user := task.identity.username
  { tool := "crab3"
    submissionType := "direct"
    toolUi := ctx.backendHost
    scheduler := "GLIDEIN"
    gridName := task.identity.dn
    applicationVersion := task.jobSw
    taskType := ctx.dashboardTaskType
    vo := task.identity.vo.getD "cms"
    cmsUser := user
    user
    taskId := task.name
    datasetFull := task.inputDataset.getD ""
    resubmitter := user
    exe := "cmsRun"
    jobId := "TaskMeta" }

/-- The entry of a job of a task. -/
def Dashboard.JobEntry.ofJob (ctx : WorkerContext) (task : Task) (job : PlannedJob) :
    Dashboard.JobEntry :=
  let n := toString job.sequence
  let address := s!"{ctx.jobUrlBase}/{n}/{task.dashboardName}"
  { jobId := s!"{n}_{address}_0"
    sid := address
    broker := ctx.backendHost
    bossId := n
    targetSe := s!"{job.sites.size}_Selected_SE"
    localId := ""
    statusValue := "pending" }

namespace Assembly

/-- The files of a task with these jobs. -/
def artifactsOf (ctx : WorkerContext) (task : Task) (throttle : Nat) (jobs : List PlannedJob) :
    List Artifact :=
  [⟨Artifact.graphFile, Node.graphText ctx task jobs⟩,
    ⟨Artifact.submitFile, SubmitFile.text ctx task (Destinations.ofTask task).temp throttle⟩,
    ⟨Artifact.siteFile, SiteTable.text jobs⟩]

/-- What is made for a task with these jobs; they are all of its jobs, in order. -/
def ofJobs (ctx : WorkerContext) (task : Task) (throttle : Throttle) (jobs : List PlannedJob) :
    Except Error Assembly :=
  if jobs.isEmpty then .error (.noJobs task.name)
  else
    let limit := throttle.limit jobs.length
    .ok {
      artifacts := artifactsOf ctx task limit jobs
      throttle := limit
      taskEntry := .ofTask ctx task
      jobEntries := jobs.map (.ofJob ctx task) }

end Assembly

end JobGraph
