import JobGraph.CommandLine
import JobGraph.Config.Validity
import JobGraph.Inbox.Watch

/-!
# Sessions

What the program does with its arguments: it reads the configuration and then compiles requests,
shows what would be compiled, or compiles what is in an inbox. The lines for the user come with the
outcome.
-/

namespace JobGraph.Session

/-- The configuration in a file, or the standard one. -/
def loadConfig (file : Option Path) : Program (Except Error Config) :=
  match file with
  | none => pure (.ok .standard)
  | some p => do
    let answer : Except FileError String ← Program.file (.read p)
    match answer with
    | .error e => pure (.error (.io e.cause))
    | .ok text => pure (Config.load text)

/-- The compiler of a configuration, with the services that the configuration describes. -/
def compilerOf (c : Config) : Except Error Compiler := do
  pure (.ofConfig c (← Services.ofConfig c))

/-- The lines about a group of a plan. -/
def groupLines (g : GroupPlan) : List String :=
  [s!"  - {g.block}", s!"      jobs: {g.jobCount}", s!"      sites: {g.sites.listed}"]

/-- The lines about the plan of a request file. -/
def planLines (file : Path) (p : Plan) : List String :=
  [s!"taskdag dry-run: {file.text}",
    s!"  task = {p.task.name}",
    s!"  jobs = {p.jobCount}",
    s!"  throttle = {p.throttle}",
    s!"groups ({p.groups.length}):"]
    ++ p.groups.flatMap groupLines

/-- The lines about a compiled task. -/
def compiledLines (t : Compilation) : List String :=
  (s!"{t.taskName}: {t.jobCount} jobs, throttle {t.throttle}, {t.warnings.length} warning(s) -> "
      ++ t.workDir.text)
    :: t.warnings.map fun w => s!"  warning: {w.text}"

/-- Show the plans of request files, up to the first that has none. -/
def showPlans (c : Compiler) : List Path → Program (List String × Except Error Unit)
  | [] => pure ([], .ok ())
  | file :: files => do
    match ← Compiler.readRequest file with
    | .error e => pure ([], .error e)
    | .ok r =>
      match c.plan r with
      | .error e => pure ([], .error e)
      | .ok p =>
        let (lines, outcome) ← showPlans c files
        pure (planLines file p ++ lines, outcome)

/-- Compile the request in a file. -/
def compileFile (c : Compiler) (token : String) (file : Path) :
    Program (Except Error Compilation) := do
  match ← Compiler.readRequest file with
  | .error e => pure (.error e)
  | .ok r => c.compile token r

/-- Compile request files one after another: the lines about those that compile, and how many do
not. Tokens are numbered from `first`. -/
def compileFiles (c : Compiler) (token : String) : Nat → List Path → Program (List String × Nat)
  | _, [] => pure ([], 0)
  | first, file :: files => do
    let outcome ← compileFile c s!"{token}.{first}" file
    let (lines, failed) ← compileFiles c token (first + 1) files
    match outcome with
    | .ok t => pure (compiledLines t ++ lines, failed)
    | .error _ => pure (lines, failed + 1)

/-- Compile request files, or show what would be compiled. -/
def compileRequests (c : Compiler) (token : String) (files : List Path) (dryRun : Bool) :
    Program (List String × Except Error Unit) := do
  if dryRun then showPlans c files
  else
    let (lines, failed) ← compileFiles c token 0 files
    if failed = 0 then pure (lines, .ok ())
    else pure (lines, .error (.other (.requests failed files.length)))

/-- Compile the requests that an inbox holds, in the order of their names. -/
def compileInbox (c : Compiler) (token : String) (f : Inbox.Filter) (dir : Path)
    (names : List String) : Program Inbox.Filter :=
  Inbox.handleAll c token 0 f (names.map fun name => .created (dir.join ⟨name⟩))

/-- The compiler of a configuration, and a filter for its inboxes. -/
def inboxOf (c : Config) : Except Error (Compiler × Inbox.Filter) := do
  let compiler ← compilerOf c
  pure (compiler, ← Inbox.Filter.ofPattern c.inboxPattern)

/-- Get ready to watch an inbox. -/
def openInbox (config : Option Path) : Program (Except Error (Compiler × Inbox.Filter)) := do
  match ← loadConfig config with
  | .error e => pure (.error e)
  | .ok c => pure (inboxOf c)

/-- Run the command for compiling. -/
def runCompile (config : Option Path) (token : String) (files : List Path) (dryRun : Bool) :
    Program (List String × Except Error Unit) := do
  match ← loadConfig config with
  | .error e => pure ([], .error e)
  | .ok cfg =>
    match compilerOf cfg with
    | .error e => pure ([], .error e)
    | .ok c => compileRequests c token files dryRun

end JobGraph.Session
