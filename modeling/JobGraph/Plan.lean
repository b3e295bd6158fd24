import JobGraph.Error
import JobGraph.PlannedJob
import JobGraph.Task.Reading
import JobGraph.Throttle

/-!
# Plans

What a request comes to before anything outside is asked or written: the checked task, the sites of
every group that has jobs, and the numbered jobs. A request that cannot be planned fails at its
first defect, and within a group its names come before its sites.
-/

namespace JobGraph

/-- A group that has jobs, with its sites. -/
structure GroupPlan where
  block : String
  sites : EligibleSites
  jobCount : Nat
deriving DecidableEq, Repr

/-- What a request comes to. -/
structure Plan where
  task : Task
  groups : List GroupPlan
  jobs : List PlannedJob
  throttle : Nat
deriving DecidableEq, Repr

namespace Plan

/-- The number of jobs. -/
def jobCount (p : Plan) : Nat := p.jobs.length

/-- The planned jobs of a group, numbered from `first` on. -/
def number (task : Task) (prefixes : Destinations) (block : String) (sites : EligibleSites) :
    Nat → List Job → List PlannedJob
  | _, [] => []
  | first, job :: jobs =>
    .ofJob task prefixes first block sites job
      :: number task prefixes block sites (first + 1) jobs

/-- The sites of a group of a task. -/
def groupSites (rules : SiteRules) (task : Task) (g : JobGroup) :
    Except Error EligibleSites :=
  (Site.eligible g.block.locations rules task.sitePreferences).mapError (.noSite task.name)

/-- The groups that have jobs and all jobs. Groups are counted from `index`, jobs from `first`. -/
def ofGroups (rules : SiteRules) (task : Task) (prefixes : Destinations) :
    Nat → Nat → List JobGroup → Except Error (List GroupPlan × List PlannedJob)
  | _, _, [] => .ok ([], [])
  | index, first, g :: gs =>
    match g.defect? index with
    | some cause => .error (.malformed cause)
    | none =>
      if g.jobs.isEmpty then ofGroups rules task prefixes (index + 1) first gs
      else do
        let sites ← groupSites rules task g
        let (groups, jobs) ←
          ofGroups rules task prefixes (index + 1) (first + g.jobs.length) gs
        pure (⟨g.block.name, sites, g.jobs.length⟩ :: groups,
          number task prefixes g.block.name sites first g.jobs ++ jobs)

/-- The plan of a checked task. -/
def ofTask (rules : SiteRules) (throttle : Throttle) (task : Task) (groups : List JobGroup) :
    Except Error Plan := do
  let (groups, jobs) ← ofGroups rules task (.ofTask task) 0 1 groups
  if jobs.isEmpty then throw (.noJobs task.name)
  pure { task, groups, jobs, throttle := throttle.limit jobs.length }

/-- The plan of a request. -/
def ofRequest (rules : SiteRules) (throttle : Throttle) (r : Request) :
    Except Error Plan := do
  let task ← (Task.ofRecord r.task).mapError .malformed
  ofTask rules throttle task r.groups

end Plan

end JobGraph
