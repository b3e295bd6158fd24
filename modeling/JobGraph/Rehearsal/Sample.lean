import JobGraph.Config.Validity
import JobGraph.Json.Printer
import JobGraph.Request
import JobGraph.Task.Reading

/-!
# Samples

A complete task record, a group without jobs and a configuration, from which others are made by
changing parts; and a request of three groups, whose task has no more than it needs.
-/

namespace JobGraph

namespace TaskRecord

/-- The record with a structured attribute set to the JSON text of its value. -/
def setEncoded (r : TaskRecord) (field : String) (value : Document) : TaskRecord :=
  r.set field (.text (Json.render value))

/-- The record with a list of texts as a structured attribute. -/
def setTexts (r : TaskRecord) (field : String) (texts : List String) : TaskRecord :=
  r.setEncoded field (.list (texts.map .text))

/-- The record with another split. -/
def setSplit (r : TaskRecord) (algorithm key : String) (units : Nat) : TaskRecord :=
  (r.set "tm_split_algo" (.text algorithm)).setEncoded "tm_split_args" (.table [(key, .int units)])

/-- A complete record. -/
def sample : TaskRecord :=
  let texts := [("tm_taskname", "130719_090932:jdoe_crab_analysis"), ("tm_username", "jdoe"),
    ("tm_user_dn", "/DC=org/DC=example/CN=Jane Doe"), ("tm_job_sw", "CMSSW_5_3_4"),
    ("tm_job_arch", "slc6_amd64_gcc472"), ("tm_input_dataset", "/GenericTTbar/Run2012A-v1/AOD"),
    ("tm_publish_name", "analysis-4f2c9e"), ("tm_publication", "F"),
    ("tm_asyncdest", "T2_US_Nebraska"), ("tm_cache_url", "https://cache.example.org/crabcache"),
    ("tm_user_sandbox", "sandbox.tar.gz")]
  let lists := [("tm_site_whitelist", []), ("tm_site_blacklist", []), ("tm_outfiles", []),
    ("tm_tfile_outfiles", ["histo.root"]), ("tm_edm_outfiles", ["output.root"])]
  let r := texts.foldl (fun r e => r.set e.1 (.text e.2)) empty
  let r := lists.foldl (fun r e => r.setTexts e.1 e.2) r
  (r.set "tm_split_algo" (.text "LumiBased")).set "tm_split_args"
    (.text "\x7b\"lumis_per_job\": 50\x7d")

/-- A record of the attributes that are required. -/
def brief : TaskRecord :=
  ⟨[("tm_asyncdest", .text "T2_US_N"),
    ("tm_cache_url", .text "cache"),
    ("tm_job_arch", .text "slc6"),
    ("tm_job_sw", .text "CMSSW"),
    ("tm_publish_name", .text "ana-1"),
    ("tm_split_algo", .text "LumiBased"),
    ("tm_split_args", .table [("lumis_per_job", .int 50)]),
    ("tm_taskname", .text "130719_090932:x"),
    ("tm_user_dn", .text "/CN=Jane"),
    ("tm_user_sandbox", .text "box"),
    ("tm_username", .text "j")]⟩

end TaskRecord

namespace JobGroup

/-- A group without jobs. -/
def sample (block : String) (locations : List String) : JobGroup := ⟨⟨block, locations⟩, []⟩

/-- The group with one more job, which reads the files and ten sections of the first run. -/
def addJob (g : JobGroup) (files : List String) : JobGroup :=
  let first := g.jobs.length * 10 + 1
  let mask : Mask := { Mask.unrestricted with
    firstRun := some 1
    firstLumi := some first
    runAndLumis := [("1", [(first, first + 9)])] }
  { g with jobs := g.jobs ++ [⟨files, mask, false⟩] }

/-- The group with `n` more jobs, which read a file each. -/
def addJobs (g : JobGroup) : Nat → JobGroup
  | 0 => g
  | n + 1 => (g.addJob [s!"/store/data/Run2012A/file_{g.jobs.length}.root"]).addJobs n

end JobGroup

/-- A request with a group of one job, a group without jobs and a group of two jobs. -/
def Request.sample : Request :=
  { task := .brief
    groups := [(JobGroup.sample "#1" ["T2_US"]).addJob ["/f"], .sample "#2" [],
      ((JobGroup.sample "#3" ["T1_US", "T2_DE"]).addJob ["/g"]).addJob ["/h"]] }

/-- The record of the sample request is that of a task. -/
theorem Request.exists_task_sample :
    ∃ task, Task.ofRecord Request.sample.task = .ok task ∧ task.name = "130719_090932:x" :=
  exists_of_map_toOption (by decide +kernel)

/-- A configuration that does not wait between attempts. -/
def Config.sample : Config :=
  let c := Config.standard
  { c with
    worker := { c.worker with
      name := "test-worker"
      backendHost := "submit.example.org"
      restInstance := "cmsweb.example.org"
      restUrl := "/crabserver/dev/filemetadata" }
    retry := { c.retry with backoffMs := 0 } }

end JobGraph
