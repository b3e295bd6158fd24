import JobGraph.Json.Printer
import JobGraph.SettingError
import JobGraph.Task.Basic
import JobGraph.Text.Quoted

/-!
# Malformed requests

Why a task record or a job group is refused, and the message about it.
-/

namespace JobGraph

/-- Why a request is refused. -/
inductive Malformed where
  | missing (field : String)
  | notText (field : String) (value : Document)
  | taskName (name : String)
  | username (name : String)
  | notToken (field : String)
  | dataset (name : String)
  | publishName (name : String)
  | siteName (field name : String)
  | outputName (field name : String)
  | publicationFlag (value : Document)
  | destination (site : String)
  /-- The value of the attribute is not of its form; `cause` is what its reader said. -/
  | undecodable (field cause : String)
  | setting (error : SettingError)
  | unitCount (algorithm : SplitMode)
  | argumentsVersion (version : Nat)
  | lfnPrefix (text : String)
  | blockName (group : Nat) (name : String)
  | location (group : Nat) (name : String)
  | inputFile (group job : Nat) (name : String)
  /-- A refusal that another party described. -/
  | stated (text : String)
deriving Repr

/-- The message of a refusal. -/
def Malformed.message : Malformed → String
  | .missing field => s!"missing required field '{field}'"
  | .notText field value => s!"field '{field}' must be a string, got {Json.render value}"
  | .taskName name => s!"tm_taskname '{name}' does not look like YYMMDD_HHMMSS:<name>"
  | .username name => s!"tm_username '{name}' contains characters not allowed in a path"
  | .notToken field => s!"field '{field}' must not contain whitespace or quotes"
  | .dataset name => s!"tm_input_dataset '{name}' is not of the form /primary/processed/tier"
  | .publishName name =>
    s!"tm_publish_name '{name}' contains whitespace, quotes or separators"
  | .siteName field name => s!"{field}: '{name}' is not a valid site name"
  | .outputName field name =>
    s!"{field}: output file name {Text.quoted name} must be a plain file name"
  | .publicationFlag (.text s) => s!"tm_publication has invalid flag value {Text.quoted s}"
  | .publicationFlag value => s!"tm_publication has invalid flag value {Json.render value}"
  | .destination site => s!"tm_asyncdest '{site}' is not a valid site name"
  | .undecodable field cause => s!"field '{field}' could not be decoded: {cause}"
  | .setting error => error.message
  | .unitCount algorithm =>
    s!"tm_split_args must set a positive integer '{algorithm.unitKey}' for {algorithm.text}"
  | .argumentsVersion version =>
    s!"tm_arguments version {version} is not supported (expected {TaskOptions.currentVersion})"
  | .lfnPrefix text => s!"tm_arguments.lfnprefix '{text}' is not a valid relative path"
  | .blockName group name =>
    s!"job group {group}: block name {Text.quoted name} contains whitespace or quotes"
  | .location group name =>
    s!"job group {group}: location {Text.quoted name} is not a valid site name"
  | .inputFile group job name =>
    s!"job group {group}, job {job}: input file {Text.quoted name} contains whitespace or quotes"
  | .stated text => text

end JobGraph
