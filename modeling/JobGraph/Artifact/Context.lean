import JobGraph.Config.Basic
import JobGraph.Text.Basic

/-!
# Artifacts

The files that are made for a task, and what they say about the machine that made them.
-/

namespace JobGraph

/-- A file by its name in the working directory. -/
structure Artifact where
  name : String
  contents : String
deriving DecidableEq, Repr

/-- The name of the graph of jobs. -/
def Artifact.graphFile : String := "RunJobs.dag"

/-- The name of the submit file. -/
def Artifact.submitFile : String := "Job.submit"

/-- The name of the table of sites. -/
def Artifact.siteFile : String := "site.ad"

/-- What artifacts and the dashboard's entries say about the machine that made them. -/
structure WorkerContext where
  workerName : String
  backendHost : String
  restInstance : String
  restUrl : String
  dashboardTaskType : String
  jobUrlBase : String
deriving DecidableEq, Repr

/-- The context of a configured machine. The base of job addresses loses the slashes at its end. -/
def WorkerContext.ofConfig (c : Config) : WorkerContext :=
  { workerName := c.worker.name
    backendHost := c.worker.backendHost
    restInstance := c.worker.restInstance
    restUrl := c.worker.restUrl
    dashboardTaskType := c.worker.dashboardTaskType
    jobUrlBase :=
      String.ofList (c.jobUrlBase.toList.reverse.dropWhile (· == '/')).reverse }

end JobGraph
