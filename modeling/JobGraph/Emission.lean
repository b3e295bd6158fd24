import JobGraph.Artifact.Context
import JobGraph.Program

/-!
# Emission

Artifacts are written all or none. Each one is first staged beside its place under a hidden name
that carries the token of the call; then all are renamed into place. When a step fails, what the
call has staged or placed is removed again.
-/

namespace JobGraph.Emission

/-- The staging file of an artifact. -/
def hiddenPath (dir : Path) (token name : String) : Path :=
  dir.join ⟨s!".{name}.{token}.tmp"⟩

/-- The place of an artifact. -/
def place (dir : Path) (name : String) : Path :=
  dir.join ⟨name⟩

/-- Remove those of the files that exist; what cannot be removed stays. -/
def discard : List Path → Program Unit
  | [] => pure ()
  | p :: ps => do
    let found : Bool ← Program.file (.exists p)
    if found then
      let _ ← Program.file (.remove p)
    discard ps

/-- Stage artifacts; `staged` has been staged before. -/
def stage (dir : Path) (token : String) :
    List Path → List Artifact → Program (Except Failure (List Path))
  | staged, [] => pure (.ok staged)
  | staged, a :: as => do
    let path := hiddenPath dir token a.name
    let answer : Except FileError Unit ← Program.file (.write path a.contents.toUTF8)
    match answer with
    | .ok () => stage dir token (staged ++ [path]) as
    | .error e =>
      discard staged
      pure (.error (.staging a.name e))

/-- Rename staged artifacts into place; `placed` has been placed before. -/
def put (dir : Path) : List Path → List (Artifact × Path) → Program (Except Failure Unit)
  | _, [] => pure (.ok ())
  | placed, (a, path) :: rest => do
    let target := place dir a.name
    let answer : Except FileError Unit ← Program.file (.rename path target)
    match answer with
    | .ok () => put dir (placed ++ [target]) rest
    | .error e =>
      discard placed
      discard (path :: rest.map (·.2))
      pure (.error (.placing a.name e))

/-- Write artifacts into a directory, all of them or none. -/
def writeAll (dir : Path) (token : String) (artifacts : List Artifact) :
    Program (Except Failure Unit) := do
  let created : Except FileError Unit ← Program.file (.makeDir dir)
  match created with
  | .error e => pure (.error (.workDir dir e))
  | .ok () =>
    match ← stage dir token [] artifacts with
    | .error e => pure (.error e)
    | .ok staged => put dir [] (artifacts.zip staged)

end JobGraph.Emission
