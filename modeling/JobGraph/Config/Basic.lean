import JobGraph.Path
import JobGraph.Site.Rules
import JobGraph.Throttle

/-!
# Configurations

What an operator sets for the machine that compiles tasks. Every setting has a standard value.
-/

namespace JobGraph

/-- How the machine presents itself and where it writes. -/
structure WorkerSettings where
  name : String
  backendHost : String
  /-- The directory that holds the working directories of tasks. -/
  scratchDir : Path
  restInstance : String
  restUrl : String
  dashboardTaskType : String
deriving DecidableEq, Repr

/-- How logical paths at one site are rewritten to URLs. -/
structure RewriteRule where
  site : String
  /-- The pattern that a logical path has to match. -/
  lfn : String
  /-- The template of the URL. -/
  pfn : String
deriving DecidableEq, Repr

/-- How often a call of a service is tried. -/
structure RetrySettings where
  attempts : Nat
  /-- The milliseconds between the first two attempts. -/
  backoffMs : Nat
deriving DecidableEq, Repr

/-- The operator's settings. -/
structure Config where
  worker : WorkerSettings
  throttle : Throttle
  /-- The only sites that may be used, as they are listed. -/
  available : List String
  /-- The sites that may not be used, as they are listed. -/
  banned : List String
  rules : List RewriteRule
  jobUrlBase : String
  /-- The file for entries of the dashboard. -/
  recordsFile : Option Path
  /-- The file for failure notices. -/
  failuresFile : Option Path
  retry : RetrySettings
  inboxPattern : String
deriving DecidableEq, Repr

/-- The standard machine. -/
def WorkerSettings.standard : WorkerSettings :=
  { name := "unknown"
    backendHost := "localhost"
    scratchDir := ⟨"."⟩
    restInstance := "localhost"
    restUrl := "/filemetadata"
    dashboardTaskType := "analysis" }

/-- Three attempts. -/
def RetrySettings.standard : RetrySettings := ⟨3, 200⟩

namespace Config

/-- The standard settings. -/
def standard : Config :=
  { worker := .standard
    throttle := .standard
    available := []
    banned := []
    rules := []
    jobUrlBase := "https://glidein.cern.ch"
    recordsFile := none
    failuresFile := none
    retry := .standard
    inboxPattern := "*.request.json" }

/-- The operator's site lists as sets. -/
def siteRules (c : Config) : SiteRules :=
  ⟨.ofList c.available, .ofList c.banned⟩

end Config

end JobGraph
