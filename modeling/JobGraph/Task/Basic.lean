import JobGraph.NameSet
import JobGraph.SettingError
import JobGraph.Site.Rules
import JobGraph.Stageout

/-!
# Tasks

What a submitter asks for, once the record of it has been read and checked.
-/

namespace JobGraph

/-- How a task's work is cut into jobs. -/
inductive SplitMode where
  | byFile
  | byEvent
  | byLumi
deriving DecidableEq, Repr

namespace SplitMode

/-- The name of the algorithm. -/
def text : SplitMode → String
  | .byFile => "FileBased"
  | .byEvent => "EventBased"
  | .byLumi => "LumiBased"

/-- The argument that says how many units go into one job. -/
def unitKey : SplitMode → String
  | .byFile => "files_per_job"
  | .byEvent => "events_per_job"
  | .byLumi => "lumis_per_job"

/-- The algorithm of a name; white space around it does not matter. -/
def parse (s : String) : Except SettingError SplitMode :=
  match Text.trim s with
  | "FileBased" => .ok .byFile
  | "EventBased" => .ok .byEvent
  | "LumiBased" => .ok .byLumi
  | other => .error (.splitMode other)

end SplitMode

/-- The split that produced a task's jobs. -/
structure Split where
  algorithm : SplitMode
  unitsPerJob : Nat
deriving DecidableEq, Repr

/-- Who submitted a task. -/
structure Identity where
  username : String
  /-- The distinguished name of the certificate. -/
  dn : String
  group : Option String
  role : Option String
  vo : Option String
deriving DecidableEq, Repr

/-- The files that every job writes, by kind. -/
structure Outputs where
  additional : List String
  tfile : List String
  edm : List String
deriving DecidableEq, Repr

namespace Outputs

/-- All files in the order of declaration. -/
def all (o : Outputs) : List String :=
  o.additional ++ o.tfile ++ o.edm

/-- The number of files. -/
def size (o : Outputs) : Nat :=
  o.all.length

end Outputs

/-- The options of a task. -/
structure TaskOptions where
  /-- The version of the options' form. -/
  version : Nat
  /-- Jobs need not run where their data is. -/
  ignoreLocality : Bool
  /-- With how many failed jobs the task counts as failed. -/
  failLimit : Nat
  /-- Directories between the submitter's directory and the outputs. -/
  lfnPrefix : String
  saveOutput : Bool
  oneEventMode : Bool
  asoUrl : String
  stageout : Stageout
deriving DecidableEq, Repr

namespace TaskOptions

/-- The version that is understood. -/
def currentVersion : Nat := 1

/-- The options of a task that gives none. -/
def standard : TaskOptions :=
  ⟨currentVersion, false, 10, "", true, false, "", .standard⟩

end TaskOptions

/-- A checked task. -/
structure Task where
  /-- Date, time and the submitter's name for it. -/
  name : String
  identity : Identity
  jobSw : String
  jobArch : String
  inputDataset : Option String
  publishName : String
  siteWhitelist : NameSet
  siteBlacklist : NameSet
  outputs : Outputs
  split : Split
  publication : Bool
  /-- The storage site of the final outputs. -/
  asyncDest : String
  cacheUrl : String
  sandbox : String
  dbsUrl : Option String
  publishDbsUrl : Option String
  arguments : TaskOptions
deriving DecidableEq, Repr

namespace Task

/-- The task's name as the monitoring dashboard spells it: with colons for underscores. -/
def dashboardName (t : Task) : String :=
  String.ofList (t.name.toList.map fun c => if c = '_' then ':' else c)

/-- The submitter's site lists. -/
def sitePreferences (t : Task) : SitePreferences :=
  ⟨t.siteWhitelist, t.siteBlacklist, t.arguments.ignoreLocality⟩

end Task

end JobGraph
