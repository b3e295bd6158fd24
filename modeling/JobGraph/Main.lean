import JobGraph.Session

/-!
# The program

The command line over the files of the operating system. Programs are run effect by effect; what
they decide, they have decided before. The events of a watched inbox come in on standard input, one
a line.
-/

namespace JobGraph

/-- The fault that an error of the operating system stands for. -/
def DiskFault.ofSystem : IO.Error → DiskFault
  | .noFileOrDirectory .. => .noSuchFile
  | .alreadyExists .. => .exists
  | .inappropriateType _ code _ => if code = 21 then .isADirectory else .notADirectory
  | .invalidArgument .. => .invalidArgument
  | e => .other (toString e)

/-- Try something with a file. -/
def attempting {α : Type} (attempt : DiskAttempt) (act : IO α) : IO (Except FileError α) := do
  try
    return .ok (← act)
  catch e => return .error (.disk attempt (.ofSystem e))

/-- Whether an action succeeds. -/
def succeeds {α : Type} (act : IO α) : IO Bool := do
  try
    discard act
    return true
  catch _ => return false

/-- Create a directory and those above it. -/
def makeDirs (p : Path) : IO (Except FileError Unit) :=
  if p.text.isEmpty then return .ok ()
  else attempting (.creatingDir p) (IO.FS.createDirAll p.text)

/-- Write to a file in some way, with the directories above it. -/
def writeBelow (attempt : DiskAttempt) (p : Path) (act : IO Unit) : IO (Except FileError Unit) := do
  match ← (p.holder?.map makeDirs).getD (return .ok ()) with
  | .error e => return .error e
  | .ok () => attempting attempt act

/-- Carry out a file operation. -/
def FileOp.carryOut : (op : FileOp) → IO op.Answer
  | .read p => do
    match ← attempting (.reading p) (IO.FS.readBinFile p.text) with
    | .error e => return .error e
    | .ok bytes =>
      match String.fromUTF8? bytes with
      | some text => return .ok text
      | none => return .error (.disk (.reading p) .notText)
  | .write p contents => writeBelow (.creatingFile p) p (IO.FS.writeBinFile p.text contents)
  | .append p contents =>
    writeBelow (.opening p) p (IO.FS.withFile p.text .append fun h => h.write contents)
  | .rename source target =>
    attempting (.renaming source target) (IO.FS.rename source.text target.text)
  | .remove p => attempting (.removing p) (IO.FS.removeFile p.text)
  | .makeDir p => makeDirs p
  | .exists p => succeeds (IO.FS.realPath p.text)
  | .isFile p => succeeds (IO.FS.readBinFile p.text)

/-- Answer an effect; no services are connected. -/
def Effect.carryOut : (e : Effect) → IO e.Answer
  | .file op => op.carryOut
  | .resolve _ _ => return .error (.unavailable "placement" "not connected")
  | .enterTask _ => return .error (.unavailable Dashboard.service "not connected")
  | .enterJob _ => return .error (.unavailable Dashboard.service "not connected")
  | .noteFailure _ => return .error (.unavailable FailureNotice.service "not connected")

/-- Run a program. -/
def Program.carryOut {α : Type} : Program α → IO α
  | .done a => return a
  | .step e next => do
    let answer ← e.carryOut
    (next answer).carryOut

/-- Handle the events of an inbox as they come in. -/
partial def watchLines (c : Compiler) (token : String) (dir : Path) (input : IO.FS.Stream)
    (number : Nat) (f : Inbox.Filter) : IO Unit := do
  let line ← input.getLine
  if line.isEmpty then return
  match Inbox.Event.ofLine? dir (String.ofList (line.toList.filter (· != '\n'))) with
  | none => watchLines c token dir input number f
  | some e =>
    let f ← (Inbox.handle c s!"{token}.{number}" f e).carryOut
    watchLines c token dir input (number + 1) f

/-- Watch an inbox. -/
def watch (config : Option Path) (token : String) (dir : Path) :
    IO (Except Error Unit) := do
  match ← (Session.openInbox config).carryOut with
  | .error e => return .error e
  | .ok (c, f) =>
    watchLines c token dir (← IO.getStdin) 0 f
    return .ok ()

/-- Run a command. -/
def CommandLine.carryOut (l : CommandLine) (token : String) : IO (Except Error Unit) := do
  match l.command with
  | .compile requests dryRun =>
    let (lines, outcome) ←
      (Session.runCompile l.config token requests dryRun).carryOut
    for line in lines do
      IO.println line
    return outcome
  | .watch inbox => watch l.config token inbox

end JobGraph

open JobGraph in
/-- Read the arguments, run the command and tell by the exit status what came of it. -/
def main (args : List String) : IO UInt32 := do
  match CommandLine.parse args with
  | .error .displayVersion =>
    IO.println CommandLine.version
    return 0
  | .error .displayHelp =>
    IO.println CommandLine.usage
    return 0
  | .error _ =>
    IO.eprintln CommandLine.usage
    return 2
  | .ok l =>
    match ← l.carryOut (toString (← IO.monoNanosNow)) with
    | .ok () => return 0
    | .error e =>
      IO.eprintln s!"taskdag error: {e.message}"
      return 1
