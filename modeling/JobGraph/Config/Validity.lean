import JobGraph.Error
import JobGraph.Config.Reading
import JobGraph.Glob
import JobGraph.Regex.Parser
import JobGraph.Toml.Parser

/-!
# Validity of configurations

A configuration is used only if its values can stand where they will be written: tokens of command
lines, positive numbers, readable patterns, and site lists that do not contradict each other. The
first defect, in a fixed order, is reported.
-/

namespace JobGraph.Config

/-- The first defect of the values that become tokens. -/
def workerDefect? (c : Config) : Option ConfigError :=
  let tokens := [("name", c.worker.name), ("backend_host", c.worker.backendHost),
    ("rest_instance", c.worker.restInstance), ("rest_url", c.worker.restUrl)]
  (tokens.find? fun e => !Text.isToken e.2).map fun e => .workerToken e.1 e.2

/-- The first defect of the throttle. -/
def throttleDefect? (c : Config) : Option ConfigError :=
  if c.throttle.floor = 0 then some .zeroFloor
  else if c.throttle.mode = .fixed 0 then some .zeroMaxPost
  else none

/-- The first defect of the site lists. -/
def sitesDefect? (c : Config) : Option ConfigError :=
  let available := NameSet.ofList c.available
  let banned := NameSet.ofList c.banned
  match (available.filter banned.contains).toList with
  | site :: _ => some (.contradictedSite site)
  | [] =>
    if (available.toList ++ banned.toList).any Text.isBlank then some .blankSite else none

/-- The first defect of placement rules, counted from `index`. -/
def rulesDefect? : Nat → List RewriteRule → Option ConfigError
  | _, [] => none
  | index, rule :: rules =>
    if Text.isBlank rule.site then some (.ruleSite index)
    else if (Regex.Pattern.parse? rule.lfn).isNone then
      some (.rulePattern index rule.site Regex.refusal)
    else rulesDefect? (index + 1) rules

/-- The first defect of the configuration. -/
def defect? (c : Config) : Option ConfigError :=
  workerDefect? c
    <|> throttleDefect? c
    <|> (if c.retry.attempts = 0 then some .zeroAttempts else none)
    <|> sitesDefect? c
    <|> rulesDefect? 0 c.rules
    <|> (if (Glob.parse? c.inboxPattern).isNone then
          some (.inboxPattern c.inboxPattern Glob.refusal)
        else none)

/-- The configuration, unless it has a defect. -/
def check (c : Config) : Except Error Config :=
  match c.defect? with
  | some e => .error (.config e)
  | none => .ok c

/-- The configuration without defects that a text holds. -/
def load (text : String) : Except Error Config :=
  match Toml.parse? text with
  | none => .error (.toml Toml.refusal)
  | some d =>
    match ofDocument? d with
    | none => .error (.toml Document.refusal)
    | some c => c.check

end JobGraph.Config
