import JobGraph.Path
import JobGraph.Text.Basic

/-!
# Command lines

The arguments of the program: options for everything, a command, and the command's own arguments.
An option takes the argument that follows it or what stands behind its equals sign. After two
hyphens alone every argument is a plain value.
-/

namespace JobGraph

/-- How much is logged. -/
inductive LogLevel where
  | error
  | warn
  | info
  | debug
  | trace
deriving DecidableEq, Repr

namespace LogLevel

/-- All levels. -/
def all : List LogLevel := [.error, .warn, .info, .debug, .trace]

/-- The word for a level. -/
def text : LogLevel → String
  | .error => "error"
  | .warn => "warn"
  | .info => "info"
  | .debug => "debug"
  | .trace => "trace"

/-- The level that a word stands for. -/
def ofText? (s : String) : Option LogLevel :=
  all.find? fun l => l.text == s

end LogLevel

/-- What the program is to do. -/
inductive Command where
  /-- Compile request files, or only show what would be compiled. -/
  | compile (requests : List Path) (dryRun : Bool)
  /-- Compile what appears in a directory. -/
  | watch (inbox : Path)
deriving DecidableEq, Repr

/-- The arguments of the program. -/
structure CommandLine where
  config : Option Path
  logLevel : Option LogLevel
  command : Command
deriving DecidableEq, Repr

/-- Why arguments are refused, or what is shown instead. -/
inductive UsageError where
  | displayHelp
  | displayVersion
  | displayHelpOnMissingArgument
  | missingCommand
  | invalidCommand
  | unknownArgument
  | missingArgument
  | invalidValue
  | tooManyValues
  | repeatedArgument
deriving DecidableEq, Repr

namespace CommandLine

/-- The name and the version of the program. -/
def version : String := "taskdag 0.1.0"

/-- How the program is called. -/
def usage : String :=
  "Usage: taskdag [--config PATH] [--log-level LEVEL] compile [--dry-run] REQUEST...\n"
    ++ "       taskdag [--config PATH] [--log-level LEVEL] watch --inbox DIR"

/-- Whose arguments are being read. -/
inductive Scope where
  | program
  | compile
  | watch
deriving DecidableEq, Repr

/-- What takes values. -/
inductive Slot where
  | config
  | logLevel
  | inbox
  | requests
deriving DecidableEq, Repr

/-- The arguments read so far. -/
structure Reading where
  config : Option Path
  logLevel : Option LogLevel
  inbox : Option Path
  requests : List Path
  dryRun : Bool
  /-- A slot whose values are still coming in, and those that have. -/
  pending : Option (Slot × List String)

namespace Reading

/-- Nothing read. -/
def empty : Reading := ⟨none, none, none, [], false, none⟩

/-- A path in an argument; it may not be empty. -/
def path (s : String) : Except UsageError Path :=
  if s.isEmpty then .error .invalidValue else .ok ⟨s⟩

/-- A level in an argument. -/
def level (s : String) : Except UsageError LogLevel :=
  match LogLevel.ofText? s with
  | some l => .ok l
  | none => .error .invalidValue

/-- A value for a slot that takes one value once. -/
def once {α : Type} (old : Option α) (read : String → Except UsageError α) :
    List String → Except UsageError (Option α)
  | [s] => do
    if old.isSome then throw .repeatedArgument
    pure (some (← read s))
  | _ => .error .invalidValue

/-- Put values into a slot. -/
def fill (r : Reading) : Slot → List String → Except UsageError Reading
  | .config, values => do pure { r with config := ← once r.config path values }
  | .logLevel, values => do pure { r with logLevel := ← once r.logLevel level values }
  | .inbox, values => do pure { r with inbox := ← once r.inbox path values }
  | .requests, values => do pure { r with requests := r.requests ++ (← values.mapM path) }

/-- Put the pending values into their slot. -/
def settle (r : Reading) : Except UsageError Reading :=
  match r.pending with
  | none => .ok r
  | some (slot, values) => fill { r with pending := none } slot values

/-- The option that waits for its value. -/
def waiting? (r : Reading) : Option Slot :=
  match r.pending with
  | some (.requests, _) => none
  | some (slot, []) => some slot
  | _ => none

/-- Take a plain value that is a request. -/
def addRequest (r : Reading) (s : String) : Except UsageError Reading :=
  match r.pending with
  | some (.requests, values) => .ok { r with pending := some (.requests, values ++ [s]) }
  | _ => do
    let r ← r.settle
    pure { r with pending := some (.requests, [s]) }

end Reading

/-- The option with a name that takes a value. -/
def slot? (scope : Scope) (name : String) : Option Slot :=
  if name = "config" then some .config
  else if name = "log-level" then some .logLevel
  else if name = "inbox" ∧ scope = .watch then some .inbox
  else none

/-- An option without a value: what it does to the reading. -/
def switch? (scope : Scope) (name : String) : Option (Reading → Except UsageError Reading) :=
  if name = "help" then some fun _ => .error .displayHelp
  else if name = "version" ∧ scope = .program then some fun _ => .error .displayVersion
  else if name = "dry-run" ∧ scope = .compile then
    some fun r => if r.dryRun then .error .repeatedArgument else .ok { r with dryRun := true }
  else none

/-- An option by its full name, and the value behind its equals sign. -/
def longOption (scope : Scope) (r : Reading) (name : String) (value : Option String) :
    Except UsageError Reading :=
  match slot? scope name with
  | some slot => do
    let r ← r.settle
    match value with
    | some v => r.fill slot [v]
    | none => pure { r with pending := some (slot, []) }
  | none =>
    match switch? scope name with
    | none => .error .unknownArgument
    | some act =>
      if value.isSome then .error .tooManyValues
      else r.settle >>= act

/-- An option by its letter. -/
def shortOption (scope : Scope) (r : Reading) (letter : Char) : Except UsageError Reading :=
  let name := if letter = 'h' then "help" else if letter = 'V' then "version" else ""
  match switch? scope name with
  | none => .error .unknownArgument
  | some act => r.settle >>= act

/-- What an argument is by its form. -/
inductive Form where
  | hyphens
  | long (name : String) (value : Option String)
  | short (letters : List Char)
  | plain

/-- The form of an argument. -/
def form (arg : String) : Form :=
  match arg.toList with
  | ['-', '-'] => .hyphens
  | '-' :: '-' :: rest =>
    match Text.cutFirst? '=' rest with
    | some (name, value) => .long (String.ofList name) (some (String.ofList value))
    | none => .long (String.ofList rest) none
  | '-' :: c :: rest => .short (c :: rest)
  | _ => .plain

/-- The scope of a command. -/
def scope? (name : String) : Option Scope :=
  if name = "compile" then some .compile
  else if name = "watch" then some .watch
  else none

/-- Whether a word names a command; the one for help counts. -/
def isCommand (name : String) : Bool :=
  name == "help" || (scope? name).isSome

/-- What is shown for a request for help on commands. -/
def helpOn : List String → UsageError
  | [] => .displayHelp
  | [name] => if isCommand name then .displayHelp else .invalidCommand
  | _ => .invalidCommand

/-- Take a plain value where no option waits for one. -/
def plainValue (scope : Scope) (trailing : Bool) (r : Reading) (arg : String) :
    Except UsageError Reading :=
  match scope with
  | .compile => r.addRequest arg
  | .watch => .error .unknownArgument
  | .program => .error (if trailing && isCommand arg then .unknownArgument else .invalidCommand)

/-- Read arguments up to a command; the rest after the command is left. -/
def read (scope : Scope) :
    Bool → Reading → List String → Except UsageError (Reading × Option (Scope × List String))
  | _, r, [] => .ok (r, none)
  | true, r, arg :: args => do read scope true (← plainValue scope true r arg) args
  | false, r, arg :: args =>
    if scope = .program ∧ r.waiting?.isNone ∧ arg = "help" then .error (helpOn args)
    else
      match if scope = .program ∧ r.waiting?.isNone then scope? arg else none with
      | some command => .ok (r, some (command, args))
      | none =>
        match form arg with
        | .hyphens => read scope true r args
        | .long name value => do read scope false (← longOption scope r name value) args
        | .short letters => do
          read scope false (← letters.foldlM (shortOption scope) r) args
        | .plain =>
          match r.waiting? with
          | some slot => read scope false { r with pending := some (slot, [arg]) } args
          | none => do read scope false (← plainValue scope false r arg) args

/-- The command in a scope whose arguments were read. -/
def commandOf (scope : Scope) (r : Reading) : Except UsageError Command :=
  match scope with
  | .watch =>
    match r.inbox with
    | some dir => .ok (.watch dir)
    | none => .error .missingArgument
  | _ => if r.requests.isEmpty then .error .missingArgument else .ok (.compile r.requests r.dryRun)

/-- The command line that arguments stand for. -/
def parse (args : List String) : Except UsageError CommandLine := do
  let (r, rest) ← read .program false .empty args
  match rest with
  | none =>
    let r ← r.settle
    if r.config.isNone ∧ r.logLevel.isNone then throw .displayHelpOnMissingArgument
    throw .missingCommand
  | some (scope, args) =>
    let (own, _) ← read scope false .empty args
    let own ← own.settle
    let command ← commandOf scope own
    let r ← r.settle
    pure {
      config := own.config <|> r.config
      logLevel := own.logLevel <|> r.logLevel
      command }

end CommandLine

end JobGraph
