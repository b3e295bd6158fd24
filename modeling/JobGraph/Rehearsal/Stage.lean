import JobGraph.Compiler
import JobGraph.FileStore
import JobGraph.Rehearsal.Sample

/-!
# Rehearsals

A world for trying compilations out: files are kept in memory, and every service accepts or refuses
by a simple rule and keeps what it has accepted.
-/

namespace JobGraph

/-- A number of calls that fail before one succeeds. -/
inductive Outage where
  | first (calls : Nat)
  | always
deriving DecidableEq, Repr

/-- The call with this number, counted from zero, fails. -/
def Outage.hits (o : Outage) (call : Nat) : Bool :=
  match o with
  | .first calls => call < calls
  | .always => true

/-- What the monitoring dashboard refuses. -/
inductive MonitoringRule where
  | acceptAll
  | refuseAll
  /-- The job with this number. -/
  | refuseJob (number : String)
deriving DecidableEq, Repr

/-- How the services behave. -/
structure Script where
  /-- The sites at which every path has a URL. -/
  placementSites : List String
  placementOutage : Outage
  monitoring : MonitoringRule
  statusOutage : Outage
deriving DecidableEq, Repr

/-- The files, and what the services have received. -/
structure Stage where
  store : FileStore
  placementCalls : Nat
  statusCalls : Nat
  /-- Latest first, as are the lists below. -/
  tasks : List Dashboard.TaskEntry
  jobs : List Dashboard.JobEntry
  failures : List FailureNotice

namespace Stage

/-- No files, and nothing received. -/
def empty : Stage := ⟨.empty, 0, 0, [], [], []⟩

/-- The stage with no record received. -/
def clearRecords (s : Stage) : Stage :=
  { s with tasks := [], jobs := [], failures := [] }

/-- URLs for every path at some sites. -/
def staticUrls (sites : List String) : UrlMap :=
  ⟨fun site path => if sites.contains site then some s!"root://{site}/{path}" else none⟩

/-- Ask the placement service. -/
def resolve (script : Script) (s : Stage) : Except Error UrlMap × Stage :=
  let answer :=
    if script.placementOutage.hits s.placementCalls then
      .error (.unavailable "placement" "timed out")
    else .ok (staticUrls script.placementSites)
  (answer, { s with placementCalls := s.placementCalls + 1 })

/-- The refusal of the dashboard. -/
def unreachable : Error := .unavailable "monitoring" "dashboard unreachable"

/-- Enter a task at the dashboard. -/
def enterTask (script : Script) (r : Dashboard.TaskEntry) (s : Stage) :
    Except Error Unit × Stage :=
  if script.monitoring = .refuseAll then (.error unreachable, s)
  else (.ok (), { s with tasks := r :: s.tasks })

/-- Enter a job at the dashboard. -/
def enterJob (script : Script) (r : Dashboard.JobEntry) (s : Stage) :
    Except Error Unit × Stage :=
  if script.monitoring = .refuseAll ∨ script.monitoring = .refuseJob r.bossId then
    (.error unreachable, s)
  else (.ok (), { s with jobs := r :: s.jobs })

/-- Tell the status store about a failure. -/
def noteFailure (script : Script) (r : FailureNotice) (s : Stage) :
    Except Error Unit × Stage :=
  let called := { s with statusCalls := s.statusCalls + 1 }
  if script.statusOutage.hits s.statusCalls then
    (.error (.unavailable "status store" "connection refused"), called)
  else (.ok (), { called with failures := r :: called.failures })

/-- Answer an effect. -/
def answer (script : Script) : (e : Effect) → Stage → e.Answer × Stage
  | .file op, s =>
    let (a, store) := FileStore.perform op s.store
    (a, { s with store })
  | .resolve _ _, s => resolve script s
  | .enterTask r, s => enterTask script r s
  | .enterJob r, s => enterJob script r s
  | .noteFailure r, s => noteFailure script r s

/-- The world in which the services behave as the script says. -/
def world (script : Script) : World Stage := ⟨answer script⟩

/-- The world in which all services work, and placement knows no URLs. -/
def obliging : World Stage := world ⟨[], .first 0, .acceptAll, .first 0⟩

end Stage

/-- The compiler of the sample configuration. -/
def Compiler.sample (services : Services) : Compiler :=
  .ofConfig .sample services

/-- The sample compiler whose services keep their records in two files beside the working
directories. -/
def Compiler.filing : Compiler :=
  .sample (.ofFiles ⟨[]⟩ (some ⟨"records.jsonl"⟩) (some ⟨"failures.jsonl"⟩))

/-- A call of a service that counts itself and fails during an outage. -/
def flakyCall (service : String) (o : Outage) : StateM Nat (Except Error Nat) := fun calls =>
  let number := calls + 1
  if o.hits calls then
    (.error (.unavailable service s!"call {number} refused"), number)
  else (.ok number, number)

end JobGraph
