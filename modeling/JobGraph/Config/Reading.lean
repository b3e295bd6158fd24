import JobGraph.Config.Basic
import JobGraph.Document

/-!
# Reading configurations

A configuration is a table of sections. Sections and settings that are not given have their
standard values; a key that stands for nothing is an error.
-/

namespace JobGraph

/-- The texts of a list. -/
def Document.texts? : Document → Option (List String) :=
  Document.list? Document.text?

/-- A path. -/
def Document.path? (d : Document) : Option Path :=
  d.text?.map (⟨·⟩)

/-- The section about the machine. -/
def WorkerSettings.ofDocument? (d : Document) : Option WorkerSettings := do
  let standard := WorkerSettings.standard
  match ← d.fields? .settings
      [["name"], ["backend_host"], ["scratch_dir"], ["rest_instance"], ["rest_url"],
        ["dashboard_task_type"]] with
  | [name, backendHost, scratchDir, restInstance, restUrl, dashboardTaskType] =>
    pure {
      name := ← Document.default? standard.name Document.text? name
      backendHost := ← Document.default? standard.backendHost Document.text? backendHost
      scratchDir := ← Document.default? standard.scratchDir Document.path? scratchDir
      restInstance := ← Document.default? standard.restInstance Document.text? restInstance
      restUrl := ← Document.default? standard.restUrl Document.text? restUrl
      dashboardTaskType :=
        ← Document.default? standard.dashboardTaskType Document.text? dashboardTaskType }
  | _ => none

/-- The section about the throttle. -/
def Throttle.ofDocument? (d : Document) : Option Throttle := do
  match ← d.fields? .settings [["max_post"], ["floor"]] with
  | [mode, floor] =>
    pure {
      mode := ← Document.default? Throttle.standard.mode Throttle.Mode.ofDocument? mode
      floor := ← Document.default? Throttle.standard.floor (Document.nat? 64) floor }
  | _ => none

/-- A rule of the placement catalog. -/
def RewriteRule.ofDocument? (d : Document) : Option RewriteRule := do
  match ← d.fields? .settings [["site"], ["lfn"], ["pfn"]] with
  | [site, lfn, pfn] =>
    pure {
      site := ← Document.required? Document.text? site
      lfn := ← Document.required? Document.text? lfn
      pfn := ← Document.required? Document.text? pfn }
  | _ => none

/-- The section about attempts. -/
def RetrySettings.ofDocument? (d : Document) : Option RetrySettings := do
  let standard := RetrySettings.standard
  match ← d.fields? .settings [["attempts"], ["backoff_ms"]] with
  | [attempts, backoffMs] =>
    pure {
      attempts := ← Document.default? standard.attempts (Document.nat? 32) attempts
      backoffMs := ← Document.default? standard.backoffMs (Document.nat? 64) backoffMs }
  | _ => none

namespace Config

/-- The section about sites: the available and the banned ones. -/
def sites? (d : Document) : Option (List String × List String) := do
  match ← d.fields? .settings [["available"], ["banned"]] with
  | [available, banned] =>
    pure (← Document.default? [] Document.texts? available,
      ← Document.default? [] Document.texts? banned)
  | _ => none

/-- A section with one setting. -/
def single? {α : Type} (names : List String) (value : α) (read : Document → Option α)
    (d : Document) : Option α := do
  match ← d.fields? .settings [names] with
  | [field] => Document.default? value read field
  | _ => none

/-- The section about monitoring: the base of job addresses and the file for entries. -/
def monitoring? (d : Document) : Option (String × Option Path) := do
  match ← d.fields? .settings [["job_url_base"], ["records_file"]] with
  | [jobUrlBase, recordsFile] =>
    pure (← Document.default? standard.jobUrlBase Document.text? jobUrlBase,
      ← Document.default? none (Document.optional? Document.path?) recordsFile)
  | _ => none

/-- The configuration in a document. -/
def ofDocument? (d : Document) : Option Config := do
  match ← d.fields? .settings
      [["worker"], ["throttle"], ["sites"], ["placement"], ["monitoring"], ["status"], ["retry"],
        ["inbox"]] with
  | [worker, throttle, sites, placement, monitoring, status, retry, inbox] =>
    let rules := single? ["rules", "rule"] [] (Document.list? RewriteRule.ofDocument?)
    let failures := single? ["failures_file"] none (Document.optional? Document.path?)
    let pattern := single? ["pattern"] standard.inboxPattern Document.text?
    let (available, banned) ← Document.default? ([], []) sites? sites
    let (jobUrlBase, recordsFile) ←
      Document.default? (standard.jobUrlBase, none) monitoring? monitoring
    pure {
      worker := ← Document.default? .standard WorkerSettings.ofDocument? worker
      throttle := ← Document.default? .standard Throttle.ofDocument? throttle
      available
      banned
      rules := ← Document.default? [] rules placement
      jobUrlBase
      recordsFile
      failuresFile := ← Document.default? none failures status
      retry := ← Document.default? .standard RetrySettings.ofDocument? retry
      inboxPattern := ← Document.default? standard.inboxPattern pattern inbox }
  | _ => none

end Config

end JobGraph
