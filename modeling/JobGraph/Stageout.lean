import JobGraph.Document
import JobGraph.SettingError
import JobGraph.Text.Basic
import JobGraph.Unicode.Lowercase

/-!
# Stage-out

In which order a job tries the ways to copy its outputs away. The order is written as its steps
separated by commas.
-/

namespace JobGraph

/-- One way to copy outputs away. -/
inductive Stageout.Step where
  /-- To the storage of the site where the job runs. -/
  | nearby
  /-- Straight to the destination. -/
  | remote
deriving DecidableEq, Repr

namespace Stageout.Step

/-- The word for a step. -/
def text : Stageout.Step → String
  | .nearby => "local"
  | .remote => "remote"

/-- The step that a text names; case and white space around it do not matter. -/
def parse (s : String) : Except SettingError Stageout.Step :=
  match Unicode.lower (Text.trim s) with
  | "local" => .ok .nearby
  | "remote" => .ok .remote
  | other => .error (.stageoutStep other)

/-- The step of a word in its exact form. -/
def ofWord? : String → Option Stageout.Step
  | "local" => some .nearby
  | "remote" => some .remote
  | _ => none

/-- The step that a document names: its word, or a table with the word as its only key and nothing
as the value. -/
def ofDocument? : Document → Option Stageout.Step
  | .text s => ofWord? s
  | .table [(k, .null)] => ofWord? k
  | _ => none

end Stageout.Step

/-- The steps that are tried, in order. -/
structure Stageout where
  steps : List Stageout.Step
deriving DecidableEq, Repr

namespace Stageout

/-- First nearby, then to the destination. -/
def standard : Stageout := ⟨[.nearby, .remote]⟩

/-- The steps separated by commas. -/
def text (p : Stageout) : String :=
  ",".intercalate (p.steps.map Stageout.Step.text)

/-- The steps of a text; blank parts between the commas are passed over. -/
def parse (s : String) : Except SettingError Stageout := do
  let parts := (Text.split ',' s).filter fun part => !Text.isBlank part
  let steps ← parts.mapM Stageout.Step.parse
  if steps.isEmpty then throw .noStageoutStep else pure ⟨steps⟩

/-- The steps of a document: a text, or a list of texts that are read as if commas joined them. -/
def ofDocument? : Document → Option Stageout
  | .text s => (parse s).toOption
  | .list items => do
    let parts ← items.mapM Document.text?
    (parse (",".intercalate parts)).toOption
  | _ => none

end Stageout

end JobGraph
