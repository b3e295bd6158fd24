import JobGraph.Flag
import JobGraph.Task.Name
import JobGraph.Task.Record

/-!
# Reading tasks

A task is read from its record attribute by attribute in a fixed order; the first attribute that
is missing or not of its form is reported.
-/

namespace JobGraph

/-- The options in a document: a table of any of them, or a list of the first ones in order. -/
def TaskOptions.ofDocument? (d : Document) : Option TaskOptions := do
  let standard := TaskOptions.standard
  let fields ← d.fields? .message
    [["version"], ["ignorelocality"], ["faillimit"], ["lfnprefix"], ["saveoutput"],
      ["oneEventMode"], ["ASOURL"], ["stageoutpolicy"]]
  match fields with
  | [version, ignoreLocality, failLimit, lfnPrefix, saveOutput, oneEventMode, asoUrl, stageout] =>
    pure {
      version := ← Document.default? standard.version (Document.nat? 32) version
      ignoreLocality := ← Document.default? standard.ignoreLocality Flag.ofDocument? ignoreLocality
      failLimit := ← Document.default? standard.failLimit (Document.nat? 32) failLimit
      lfnPrefix := ← Document.default? standard.lfnPrefix Document.text? lfnPrefix
      saveOutput := ← Document.default? standard.saveOutput Flag.ofDocument? saveOutput
      oneEventMode := ← Document.default? standard.oneEventMode Flag.ofDocument? oneEventMode
      asoUrl := ← Document.default? standard.asoUrl Document.text? asoUrl
      stageout := ← Document.default? standard.stageout Stageout.ofDocument? stageout }
  | _ => none

namespace Task

/-- The value `x` if it satisfies `p`, else the error. -/
def checked {α : Type} (p : α → Bool) (error : α → Malformed) (x : α) : Except Malformed α :=
  if p x then .ok x else .error (error x)

/-- The submitter in a record. -/
def readIdentity (r : TaskRecord) : Except Malformed Identity := do
  let username ← checked isUsername .username (← r.requiredText "tm_username")
  pure {
    username
    dn := ← r.requiredText "tm_user_dn"
    group := ← r.optionalText "tm_user_group"
    role := ← r.optionalText "tm_user_role"
    vo := ← r.optionalText "tm_user_vo" }

/-- A list of texts in a record; a missing one is empty. -/
def readTexts (r : TaskRecord) (field : String) : Except Malformed (List String) := do
  pure ((← r.decoded (Document.list? Document.text?) field).getD [])

/-- A set of sites in a record. -/
def readSites (r : TaskRecord) (field : String) : Except Malformed NameSet := do
  let sites ← (← readTexts r field).mapM (checked isSiteName (.siteName field))
  pure (.ofList sites)

/-- The names of a list that are new: neither among `seen` nor earlier in the list. -/
def newNames (seen : List String) : List String → List String
  | [] => []
  | x :: xs =>
    if seen.contains x then newNames seen xs else x :: newNames (x :: seen) xs

/-- The names of one kind of output, without those that were `seen`. -/
def readOutputNames (r : TaskRecord) (seen : List String) (field : String) :
    Except Malformed (List String) := do
  let names ← (← readTexts r field).mapM (checked isOutputName (.outputName field))
  pure (newNames seen names)

/-- The outputs in a record; a name that is declared again does not count again. -/
def readOutputs (r : TaskRecord) : Except Malformed Outputs := do
  let additional ← readOutputNames r [] "tm_outfiles"
  let tfile ← readOutputNames r additional "tm_tfile_outfiles"
  let edm ← readOutputNames r (additional ++ tfile) "tm_edm_outfiles"
  pure ⟨additional, tfile, edm⟩

/-- A positive number of units among the arguments of a split. -/
def unitCount? (arguments : List (String × Document)) (key : String) : Option Nat := do
  let n ← (← arguments.lookup key).nat? 64
  if 0 < n then some n else none

/-- The split in a record. -/
def readSplit (r : TaskRecord) : Except Malformed Split := do
  let name ← r.requiredText "tm_split_algo"
  let algorithm ← (SplitMode.parse name).mapError .setting
  match ← r.decoded (Document.map? Document.canonical?) "tm_split_args" with
  | none => throw (.missing "tm_split_args")
  | some arguments =>
    match unitCount? arguments algorithm.unitKey with
    | some n => pure ⟨algorithm, n⟩
    | none => throw (.unitCount algorithm)

/-- Whether a record asks for publication. -/
def readPublication (r : TaskRecord) : Except Malformed Bool :=
  match r.get? "tm_publication" with
  | none => .ok false
  | some .null => .ok false
  | some (.bool b) => .ok b
  | some (.text s) =>
    match Flag.parse? s with
    | some b => .ok b
    | none => .error (.publicationFlag (.text s))
  | some other => .error (.publicationFlag other)

/-- The options in a record. -/
def readArguments (r : TaskRecord) : Except Malformed TaskOptions := do
  let arguments := (← r.decoded TaskOptions.ofDocument? "tm_arguments").getD .standard
  if arguments.version ≠ TaskOptions.currentVersion then
    throw (.argumentsVersion arguments.version)
  let path := String.ofList (Text.trimBy (· == '/') arguments.lfnPrefix.toList)
  if isRelativePath path then pure { arguments with lfnPrefix := path }
  else throw (.lfnPrefix arguments.lfnPrefix)

/-- The task of a record. -/
def ofRecord (r : TaskRecord) : Except Malformed Task := do
  let name ← checked isName .taskName (← r.requiredText "tm_taskname")
  let identity ← readIdentity r
  let jobSw ← r.token "tm_job_sw"
  let jobArch ← r.token "tm_job_arch"
  let inputDataset ←
    (← r.optionalText "tm_input_dataset").mapM (checked isDataset .dataset)
  let publishName ← checked isOutputName .publishName (← r.requiredText "tm_publish_name")
  let siteWhitelist ← readSites r "tm_site_whitelist"
  let siteBlacklist ← readSites r "tm_site_blacklist"
  let outputs ← readOutputs r
  let split ← readSplit r
  let publication ← readPublication r
  let asyncDest ← checked isSiteName .destination (← r.requiredText "tm_asyncdest")
  let cacheUrl ← r.token "tm_cache_url"
  let sandbox ← r.token "tm_user_sandbox"
  let dbsUrl ← r.optionalText "tm_dbs_url"
  let publishDbsUrl ← r.optionalText "tm_publish_dbs_url"
  let arguments ← readArguments r
  pure { name, identity, jobSw, jobArch, inputDataset, publishName, siteWhitelist, siteBlacklist,
         outputs, split, publication, asyncDest, cacheUrl, sandbox, dbsUrl, publishDbsUrl,
         arguments }

end Task

end JobGraph
