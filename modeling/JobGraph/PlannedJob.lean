import JobGraph.LogicalPath
import JobGraph.Request
import JobGraph.Site.Eligible

/-!
# Planned jobs

Jobs with everything that was worked out for them. The jobs of a task are numbered from one, and
the number of a job goes into the names of its outputs.
-/

namespace JobGraph

/-- A file that a job writes, by its name at the job and its name at the destination. -/
structure OutputName where
  here : String
  remote : String
deriving DecidableEq, Repr

/-- A name with the number of a job before its extension, or at its end if it has none. -/
def OutputName.remoteName (name : String) (sequence : Nat) : String :=
  match Text.cutLast? '.' name.toList with
  | some (stem, ext) => s!"{String.ofList stem}_{sequence}.{String.ofList ext}"
  | none => s!"{name}_{sequence}"

/-- A job with everything that was worked out for it. -/
structure PlannedJob where
  /-- The number of the job in its task; below `2 ^ 32` jobs it fits 32 bits. -/
  sequence : Nat
  inputFiles : List String
  mask : Mask
  lheInput : Bool
  /-- The block that the job reads from. -/
  block : String
  /-- Where the job may run. -/
  sites : EligibleSites
  outputs : List OutputName
  directories : Destinations
  /-- The URLs of the job's files, as far as they are known. -/
  urls : List String
deriving DecidableEq, Repr

namespace PlannedJob

/-- A job of a task with its number, its sites, and the names and directories of its outputs. -/
def ofJob (task : Task) (prefixes : Destinations) (sequence : Nat) (block : String)
    (sites : EligibleSites) (job : Job) : PlannedJob :=
  { sequence
    inputFiles := job.inputFiles
    mask := job.mask
    lheInput := job.lheInput
    block
    sites
    outputs := task.outputs.all.map fun name => ⟨name, OutputName.remoteName name sequence⟩
    directories := prefixes.forJob sequence
    urls := [] }

/-- The archive of the job's logs. -/
def logName (s : PlannedJob) : String :=
  s!"cmsRun_{s.sequence}.log.tar.gz"

/-- The outputs under their names at the destination. -/
def outputNames (s : PlannedJob) : List String :=
  s.outputs.map OutputName.remote

/-- The files that go to the destination: the log archive and the outputs. -/
def manifest (s : PlannedJob) : List String :=
  s!"log/{s.logName}" :: s.outputNames

end PlannedJob

end JobGraph
