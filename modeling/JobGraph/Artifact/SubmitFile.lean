import JobGraph.Artifact.Context
import JobGraph.Json.Printer
import JobGraph.Task.Basic

/-!
# The submit file

The file that all nodes of a task share: an attribute a line, an empty line, and a fixed rest, in
which only the requirement on the operating system depends on the task.
-/

namespace JobGraph.SubmitFile

/-- The value of an attribute. -/
inductive Value where
  | text (s : String)
  | optional (s : Option String)
  | texts (l : List String)
  | number (n : Nat)
  | truth (b : Bool)
  /-- A word that is written as it is. -/
  | word (s : String)
  /-- JSON text inside a text. -/
  | json (d : Document)
deriving Repr

/-- The text of a value. -/
def Value.render : Value → String
  | .text s => Json.quote s
  | .optional none => "undefined"
  | .optional (some s) => Json.quote s
  | .texts l => "\x7b" ++ ", ".intercalate (l.map Json.quote) ++ "\x7d"
  | .number n => toString n
  | .truth b => if b then "true" else "false"
  | .word s => s
  | .json d => Json.quote (Json.render d)

/-- The arguments of the split, sorted by key. -/
def splitArguments (s : Split) : Document :=
  .table (Document.sortEntries [("halt_job_on_file_boundaries", .bool false),
    ("splitOnRun", .bool false), (s.algorithm.unitKey, .int s.unitsPerJob)])

/-- The attributes of a task whose outputs go to `tempDest` at first. -/
def attributes (ctx : WorkerContext) (task : Task) (tempDest : String) (throttle : Nat) :
    List (String × Value) :=
  [("+CRAB_ReqName", .text (String.ofList (task.name.toList.filter (· != '"')))),
    ("+CRAB_Workflow", .text task.name),
    ("+CRAB_JobType", .text "analysis"),
    ("+CRAB_JobSW", .text task.jobSw),
    ("+CRAB_JobArch", .text task.jobArch),
    ("+CRAB_InputData", .optional task.inputDataset),
    ("+CRAB_OutputData", .text task.publishName),
    ("+CRAB_ISB", .text task.cacheUrl),
    ("+CRAB_SiteBlacklist", .texts task.siteBlacklist.toList),
    ("+CRAB_SiteWhitelist", .texts task.siteWhitelist.toList),
    ("+CRAB_AdditionalOutputFiles", .texts task.outputs.additional),
    ("+CRAB_EDMOutputFiles", .texts task.outputs.edm),
    ("+CRAB_TFileOutputFiles", .texts task.outputs.tfile),
    ("+CRAB_SaveLogsFlag", .number 0),
    ("+CRAB_UserDN", .text task.identity.dn),
    ("+CRAB_UserHN", .text task.identity.username),
    ("+CRAB_AsyncDest", .text task.asyncDest),
    ("+CRAB_BlacklistT1", .number 0),
    ("+CRAB_StageoutPolicy", .text task.arguments.stageout.text),
    ("+CRAB_UserRole", .optional task.identity.role),
    ("+CRAB_UserGroup", .optional task.identity.group),
    ("+CRAB_TaskWorker", .text ctx.workerName),
    ("+CRAB_TaskType", .text ctx.dashboardTaskType),
    ("+CRAB_SplitAlgo", .text task.split.algorithm.text),
    ("+CRAB_AlgoArgs", .json (splitArguments task.split)),
    ("+CRAB_FailLimit", .number task.arguments.failLimit),
    ("+CRAB_SaveOutput", .truth task.arguments.saveOutput),
    ("+CRAB_MaxPost", .number throttle),
    ("CRAB_Attempt", .number 0),
    ("CRAB_ISB", .word task.cacheUrl),
    ("CRAB_AdditionalOutputFiles", .texts []),
    ("CRAB_JobSW", .word task.jobSw),
    ("CRAB_JobArch", .word task.jobArch),
    ("CRAB_Archive", .word task.sandbox),
    ("+CRAB_DBSURL", .optional task.dbsUrl),
    ("+CRAB_PublishDBSURL", .optional task.publishDbsUrl),
    ("CRAB_Publish", .truth task.publication),
    ("CRAB_Id", .word "$(count)"),
    ("+CRAB_Id", .word "$(count)"),
    ("+CRAB_Dest", .text tempDest),
    ("+CRAB_oneEventMode", .number (if task.arguments.oneEventMode then 1 else 0)),
    ("+CRAB_ASOURL", .text task.arguments.asoUrl),
    ("+TaskType", .text "Job"),
    ("+AccountingGroup", .text task.identity.username)]

/-- An attribute with its value. -/
def attributeLine (a : String × Value) : String :=
  a.1 ++ " = " ++ a.2.render

/-- The lines about the program that a job runs. -/
def programLines : List String :=
  ["+JOBGLIDEIN_CMSSite = \"$$([ifThenElse(GLIDEIN_CMSSite is undefined, \\\"Unknown\\\","
      ++ " GLIDEIN_CMSSite)])\"",
    "job_ad_information_attrs = MATCH_EXP_JOBGLIDEIN_CMSSite, JOBGLIDEIN_CMSSite, RemoteSysCpu,"
      ++ " RemoteUserCpu",
    "",
    "universe = vanilla",
    "Executable = gWMS-CMSRunAnalysis.sh",
    "Output = job_out.$(CRAB_Id)",
    "Error = job_err.$(CRAB_Id)",
    "Log = job_log",
    "",
    "Arguments = \"-a $(CRAB_Archive) --sourceURL=$(CRAB_ISB) --jobNumber=$(CRAB_Id)"
      ++ " --cmsswVersion=$(CRAB_JobSW) --scramArch=$(CRAB_JobArch) '--inputFile=$(inputFiles)'"
      ++ " '--runAndLumis=$(runAndLumiMask)' --lheInputFiles=$(lheInputFiles)"
      ++ " --firstEvent=$(firstEvent) --firstLumi=$(firstLumi) --lastEvent=$(lastEvent)"
      ++ " --firstRun=$(firstRun) --seeding=$(seeding) -o $(CRAB_AdditionalOutputFiles)\"",
    "",
    "transfer_input_files = CMSRunAnalysis.sh, cmscp.py",
    "transfer_output_files = jobReport.json.$(count)",
    "Environment = SCRAM_ARCH=$(CRAB_JobArch)",
    "should_transfer_files = YES",
    "use_x509userproxy = true"]

/-- What an architecture requires of the operating system, beyond what is always required. -/
def systemRequirement (arch : String) : String :=
  if "slc6_".toList.isPrefixOf arch.toList then
    "&& (GLIDEIN_REQUIRED_OS=?=\"rhel6\" || OpSysMajorVer =?= 6)"
  else ""

/-- The line about what a job requires. -/
def requirementsLine (arch : String) : String :=
  "Requirements = ((target.IS_GLIDEIN =!= TRUE) || (target.GLIDEIN_CMSSite =!= UNDEFINED)) "
    ++ systemRequirement arch

/-- The lines about when a held job goes on and when a job is removed. -/
def periodicLines : List String :=
  ["periodic_release = (HoldReasonCode == 28) || (HoldReasonCode == 30)"
      ++ " || (HoldReasonCode == 13) || (HoldReasonCode == 6)",
    "periodic_remove = ((JobStatus =?= 5) && (time() - EnteredCurrentStatus > 7*60)) || \\",
    "                  ((JobStatus =?= 2) && ( \\",
    "                     (MemoryUsage > RequestMemory) || \\",
    "                     (MaxWallTimeMins*60 < time() - EnteredCurrentStatus) \\",
    "                  ))",
    "+PeriodicRemoveReason = ifThenElse(MemoryUsage > RequestMemory,"
      ++ " \"Removed due to memory use\", \\",
    "                          ifThenElse(MaxWallTimeMins*60 < time() - EnteredCurrentStatus,"
      ++ " \"Removed due to wall clock limit\", \\",
    "                            \"Removed due to job being held\"))",
    "queue"]

/-- The lines behind the attributes. -/
def tailLines (arch : String) : List String :=
  programLines ++ requirementsLine arch :: periodicLines

/-- The lines of the file. -/
def lines (ctx : WorkerContext) (task : Task) (tempDest : String) (throttle : Nat) :
    List String :=
  (attributes ctx task tempDest throttle).map attributeLine ++ "" :: tailLines task.jobArch

/-- The text of the file. -/
def text (ctx : WorkerContext) (task : Task) (tempDest : String) (throttle : Nat) : String :=
  String.join ((lines ctx task tempDest throttle).map (· ++ "\n"))

end JobGraph.SubmitFile
