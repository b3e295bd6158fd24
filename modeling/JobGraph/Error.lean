import JobGraph.FileOp
import JobGraph.Site.Shortage
import JobGraph.Task.Malformed

/-!
# Failures

Why a request is not compiled, and what may have gone wrong with a request that is.
-/

namespace JobGraph

/-- Why a configuration is refused. The `cause` is what the reader of a pattern said. -/
inductive ConfigError where
  | workerToken (key value : String)
  | zeroFloor
  | zeroMaxPost
  | zeroAttempts
  | contradictedSite (site : String)
  | blankSite
  | ruleSite (index : Nat)
  | rulePattern (index : Nat) (site cause : String)
  | inboxPattern (pattern cause : String)
  | catalogPattern (site cause : String)
  | filterPattern (pattern cause : String)
  /-- A refusal that another party described. -/
  | stated (text : String)
deriving DecidableEq, Repr

/-- The message of a refusal. -/
def ConfigError.message : ConfigError → String
  | .workerToken key value =>
    s!"[worker].{key} must be a non-empty value without whitespace or quotes"
      ++ s!" (got {Text.quoted value})"
  | .zeroFloor => "[throttle].floor must be >= 1 (got 0)"
  | .zeroMaxPost =>
    "[throttle].max_post must be >= 1; use \"unbounded\" to disable throttling"
  | .zeroAttempts => "[retry].attempts must be >= 1 (got 0)"
  | .contradictedSite site =>
    s!"site '{site}' is listed in both [sites].available and [sites].banned"
  | .blankSite => "[sites] entries must not be empty"
  | .ruleSite index => s!"[[placement.rules]] #{index} has an empty site"
  | .rulePattern index site cause =>
    s!"[[placement.rules]] #{index} for site '{site}' has an invalid lfn regex: {cause}"
  | .inboxPattern pattern cause => s!"[inbox].pattern '{pattern}' is not a valid glob: {cause}"
  | .catalogPattern site cause => s!"placement rule for {site}: {cause}"
  | .filterPattern pattern cause => s!"invalid inbox pattern '{pattern}': {cause}"
  | .stated text => text

/-- What fails for reasons outside the request and the configuration. -/
inductive Failure where
  | file (error : FileError)
  | workDir (dir : Path) (cause : FileError)
  | staging (name : String) (cause : FileError)
  | placing (name : String) (cause : FileError)
  | watching (dir : Path)
  | requests (failed total : Nat)
  /-- A failure that another party described. -/
  | stated (text : String)
deriving DecidableEq, Repr

/-- The message of a failure, without its cause. -/
def Failure.message : Failure → String
  | .file error => error.message
  | .workDir dir _ => s!"creating working directory {Text.quoted dir.text}"
  | .staging name _ => s!"staging {name}"
  | .placing name _ => s!"placing {name}"
  | .watching dir => s!"watching inbox {Text.quoted dir.text}"
  | .requests failed total => s!"{failed} of {total} request(s) failed to compile"
  | .stated text => text

/-- Why a request is not compiled. -/
inductive Error where
  | malformed (cause : Malformed)
  | noSite (task : String) (cause : SiteShortage)
  | noJobs (task : String)
  | unavailable (service message : String)
  | config (cause : ConfigError)
  /-- The configuration cannot be read. -/
  | io (cause : String)
  /-- The configuration is not well formed. -/
  | toml (cause : String)
  /-- The request is not well formed. -/
  | json (cause : String)
  | other (cause : Failure)
deriving Repr

/-- The message of an error. -/
def Error.message : Error → String
  | .malformed cause => s!"Malformed task: {cause.message}"
  | .noSite task cause => s!"No site available ({cause.restriction.text}): {cause.message task}"
  | .noJobs task => s!"Task {task} has no jobs to submit"
  | .unavailable service message => s!"{service} unavailable: {message}"
  | .config cause => s!"Configuration error: {cause.message}"
  | .io cause => s!"IO error: {cause}"
  | .toml cause => s!"TOML parsing error: {cause}"
  | .json cause => s!"JSON error: {cause}"
  | .other cause => cause.message

/-- What went wrong without keeping a request from being compiled. -/
inductive Warning where
  /-- Some outputs of a job have no URL. -/
  | unplaced (job : Nat) (site : String) (unresolved : List String)
  /-- A service could not be reached. -/
  | degraded (service message : String)
deriving DecidableEq, Repr

/-- The text of a warning. -/
def Warning.text : Warning → String
  | .unplaced job site unresolved =>
    s!"job {job}: unable to map {unresolved.length} file(s) at site {site}: "
      ++ ", ".intercalate unresolved
  | .degraded service message => s!"{service} degraded: {message}"

/-! ### Results and errors -/

theorem exists_of_isOk {ε α : Type} {x : Except ε α} (h : x.isOk = true) : ∃ a, x = .ok a := by
  cases x with
  | ok a => exact ⟨a, rfl⟩
  | error e => cases h

theorem exists_of_not_isOk {ε α : Type} {x : Except ε α} (h : x.isOk = false) :
    ∃ e, x = .error e := by
  cases x with
  | ok a => cases h
  | error e => exact ⟨e, rfl⟩

/-- A result is there if something can be told of it. -/
theorem exists_of_map_toOption {ε α β : Type} {x : Except ε α} {f : α → β} {b : β}
    (h : x.toOption.map f = some b) : ∃ a, x = .ok a ∧ f a = b := by
  cases x with
  | ok a => exact ⟨a, rfl, Option.some.inj h⟩
  | error e => cases h

end JobGraph
