import JobGraph.Document

/-!
# The dashboard

What the monitoring dashboard is told: one entry about a task and one about each of its jobs.
-/

namespace JobGraph

/-- The entry of a task. -/
structure Dashboard.TaskEntry where
  tool : String
  submissionType : String
  toolUi : String
  scheduler : String
  gridName : String
  applicationVersion : String
  taskType : String
  vo : String
  cmsUser : String
  user : String
  taskId : String
  datasetFull : String
  resubmitter : String
  exe : String
  jobId : String
deriving DecidableEq, Repr

/-- The entry of a job that has not started. -/
structure Dashboard.JobEntry where
  jobId : String
  sid : String
  broker : String
  /-- The number of the job. -/
  bossId : String
  targetSe : String
  localId : String
  statusValue : String
deriving DecidableEq, Repr

/-- The name of the service that keeps the entries. -/
def Dashboard.service : String := "monitoring"

/-- A table of texts. -/
def Document.ofTexts (entries : List (String × String)) : Document :=
  .table (entries.map fun e => (e.1, .text e.2))

/-- The entry as a table. -/
def Dashboard.TaskEntry.toDocument (r : Dashboard.TaskEntry) : Document :=
  .ofTexts [("tool", r.tool), ("SubmissionType", r.submissionType), ("tool_ui", r.toolUi),
    ("scheduler", r.scheduler), ("GridName", r.gridName),
    ("ApplicationVersion", r.applicationVersion), ("taskType", r.taskType), ("vo", r.vo),
    ("CMSUser", r.cmsUser), ("user", r.user), ("taskId", r.taskId),
    ("datasetFull", r.datasetFull), ("resubmitter", r.resubmitter), ("exe", r.exe),
    ("jobId", r.jobId)]

/-- The entry as a table. -/
def Dashboard.JobEntry.toDocument (r : Dashboard.JobEntry) : Document :=
  .ofTexts [("jobId", r.jobId), ("sid", r.sid), ("broker", r.broker), ("bossId", r.bossId),
    ("TargetSE", r.targetSe), ("localId", r.localId), ("StatusValue", r.statusValue)]

end JobGraph
