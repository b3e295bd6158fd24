import JobGraph.Document
import JobGraph.Json.Parser
import JobGraph.Task.Record

/-!
# Requests

What is submitted: the record of a task and the jobs into which its work was split. The jobs of a
group read from one block of data. Every part is read from a table by key or from a list by
position.
-/

namespace JobGraph

/-- The part of the data that a job processes. -/
structure Mask where
  firstEvent : Option Nat
  lastEvent : Option Nat
  firstLumi : Option Nat
  firstRun : Option Nat
  /-- For each run, sorted by its text, the ranges of its sections, both ends included. -/
  runAndLumis : List (String × List (Nat × Nat))
deriving DecidableEq, Repr

/-- A piece of a task's work. -/
structure Job where
  inputFiles : List String
  mask : Mask
  /-- The inputs are files of generated events. -/
  lheInput : Bool
deriving DecidableEq, Repr

/-- A named part of a dataset and the sites that hold it. -/
structure Block where
  name : String
  locations : List String
deriving DecidableEq, Repr

/-- The jobs that read from one block. -/
structure JobGroup where
  block : Block
  jobs : List Job
deriving DecidableEq, Repr

/-- A task record with its jobs. -/
structure Request where
  task : TaskRecord
  groups : List JobGroup
deriving Repr

namespace Mask

/-- The mask that restricts nothing. -/
def unrestricted : Mask := ⟨none, none, none, none, []⟩

/-- A range of sections: a list of its two ends. -/
def range? : Document → Option (Nat × Nat)
  | .list [a, b] => do pure (← a.nat? 64, ← b.nat? 64)
  | _ => none

/-- The mask in a document. -/
def ofDocument? (d : Document) : Option Mask := do
  let bound := Document.default? none (Document.optional? (Document.nat? 64))
  match ← d.fields? .message
      [["FirstEvent"], ["LastEvent"], ["FirstLumi"], ["FirstRun"], ["runAndLumis"]] with
  | [firstEvent, lastEvent, firstLumi, firstRun, runs] =>
    pure {
      firstEvent := ← bound firstEvent
      lastEvent := ← bound lastEvent
      firstLumi := ← bound firstLumi
      firstRun := ← bound firstRun
      runAndLumis := ← Document.default? [] (Document.map? (Document.list? range?)) runs }
  | _ => none

/-- A range of sections as a document. -/
def rangeToDocument (r : Nat × Nat) : Document :=
  .list [.int r.1, .int r.2]

/-- The runs of a mask as a document. -/
def runsToDocument (m : Mask) : Document :=
  .table (m.runAndLumis.map fun e => (e.1, .list (e.2.map rangeToDocument)))

end Mask

/-- The job in a document. -/
def Job.ofDocument? (d : Document) : Option Job := do
  match ← d.fields? .message [["input_files"], ["mask"], ["lhe_input"]] with
  | [inputFiles, mask, lheInput] =>
    pure {
      inputFiles := ← Document.default? [] (Document.list? Document.text?) inputFiles
      mask := ← Document.default? .unrestricted Mask.ofDocument? mask
      lheInput := ← Document.default? false Document.bool? lheInput }
  | _ => none

/-- The block in a document. -/
def Block.ofDocument? (d : Document) : Option Block := do
  match ← d.fields? .message [["name"], ["locations"]] with
  | [name, locations] =>
    pure {
      name := ← Document.required? Document.text? name
      locations := ← Document.default? [] (Document.list? Document.text?) locations }
  | _ => none

namespace JobGroup

/-- The group in a document. -/
def ofDocument? (d : Document) : Option JobGroup := do
  match ← d.fields? .message [["block"], ["jobs"]] with
  | [block, jobs] =>
    pure {
      block := ← Document.required? Block.ofDocument? block
      jobs := ← Document.default? [] (Document.list? Job.ofDocument?) jobs }
  | _ => none

/-- The first of the jobs, counted from `job`, that reads a file whose name is no token. -/
def badInput? (group : Nat) : Nat → List Job → Option Malformed
  | _, [] => none
  | job, j :: jobs =>
    match j.inputFiles.find? fun f => !Text.isToken f with
    | some f => some (.inputFile group job f)
    | none => badInput? group (job + 1) jobs

/-- Why a group cannot be written as lines of tokens: a name in it is no token. `index` is the place
of the group in its request. -/
def defect? (g : JobGroup) (index : Nat) : Option Malformed :=
  if !Text.isToken g.block.name then some (.blockName index g.block.name)
  else
    match g.block.locations.find? fun l => !Text.isToken l with
    | some l => some (.location index l)
    | none => badInput? index 0 g.jobs

end JobGroup

namespace Request

/-- The request in a document. -/
def ofDocument? (d : Document) : Option Request := do
  match ← d.fields? .message [["task"], ["job_groups"]] with
  | [task, groups] =>
    pure {
      task := ← Document.required? TaskRecord.ofDocument? task
      groups := ← Document.default? [] (Document.list? JobGroup.ofDocument?) groups }
  | _ => none

/-- The request that a JSON text holds. -/
def parse? (text : String) : Option Request :=
  (Json.parse? text).bind ofDocument?

/-- What is said of a text that holds no request. -/
def refusal (text : String) : String :=
  if (Json.parse? text).isNone then Json.refusal else Document.refusal

end Request

end JobGraph
