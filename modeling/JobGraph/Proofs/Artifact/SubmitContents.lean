import JobGraph.LogicalPath
import JobGraph.Proofs.Artifact.SiteRows
import JobGraph.Proofs.Artifact.SubmitLines
import JobGraph.Proofs.Json.RoundTrip
import JobGraph.Proofs.Task.Settings
import JobGraph.Rehearsal.Sample

/-!
# The contents of the submit file

The submit file is read line by line: what stands in front of the first equals sign between blanks
is a key, and what stands behind it is a value, which is written in one of a few forms.  Whatever
the texts of a task are, this reading gives back what the task says; some of it stands in several
lines, and these agree.  Nothing is lost, for quoted texts are JSON text, words that are not quoted
hold no white space, and the arguments of the split are JSON text inside a quoted text.

The main result is `SubmitFile.contents_read_back`.
-/

namespace JobGraph

namespace Document

variable {k key : String} {v value : Document} {entries : List (String × Document)}

lemma insertEntry_of_lt (h : key < k) :
    insertEntry key value ((k, v) :: entries) = (key, value) :: (k, v) :: entries := by
  rw [insertEntry, if_pos h]

lemma insertEntry_of_not_lt (h : ¬ key < k) (hne : key ≠ k) :
    insertEntry key value ((k, v) :: entries) = (k, v) :: insertEntry key value entries := by
  rw [insertEntry, if_neg h, if_neg hne]

end Document

namespace SubmitFile

/-! ### Reading values -/

/-- A quoted text. -/
def quoted? (value : String) : Option String :=
  (Json.parse? value).bind Document.text?

/-- A quoted text, or a word for its absence. -/
def optional? (value : String) : Option (Option String) :=
  if value = "undefined" then some none else (quoted? value).map some

/-- Quoted texts between braces. -/
def braced? (value : String) : Option (List String) :=
  match value.toList with
  | '\x7b' :: inner =>
    if inner = ['\x7d'] then some []
    else
      (SiteTable.texts? inner.length inner).bind fun (texts, rest) =>
        if rest = ['\x7d'] then some texts else none
  | _ => none

/-- A number by its digits. -/
def decimal? (value : String) : Option ℕ :=
  let (digits, rest) := Json.digits value.toList
  if digits ≠ [] ∧ rest = [] then some (Nat.ofDigitChars 10 digits 0) else none

/-- One for yes and zero for no. -/
def flag? (value : String) : Option Bool :=
  (decimal? value).bind fun n => if n = 1 then some true else if n = 0 then some false else none

def truth? (value : String) : Option Bool :=
  if value = "true" then some true else if value = "false" then some false else none

/-- A word that is not quoted. -/
def word? (value : String) : Option String :=
  if Text.isToken value then some value else none

/-- The number of units among the arguments of a split, which has no other arguments than these. -/
def units? (mode : SplitMode) (arguments : Document) : Option ℕ :=
  match arguments.fields? .settings
      [["halt_job_on_file_boundaries"], ["splitOnRun"], [mode.unitKey]] with
  | some [some (.bool false), some (.bool false), some units] => units.nat? 64
  | _ => none

/-! ### Reading lines -/

/-- The key and the value of a line. -/
def cutAttribute? (line : String) : Option (String × String) :=
  (line.toList.dropInfix? " = ".toList).map fun (key, value) =>
    (String.ofList key, String.ofList value)

/-- What is read from one line after another. -/
abbrev Reader := StateT (List (String × String)) Option

/-- The next line has this key, and its value is read. -/
def next {α : Type} (key : String) (read : String → Option α) : Reader α
  | [] => none
  | (k, value) :: rows => if k = key then (read value).map fun x => (x, rows) else none

/-- The next line has this key, and its value is read as `x`. -/
def expect {α : Type} [DecidableEq α] (key : String) (read : String → Option α) (x : α) :
    Reader Unit := do
  let y ← next key read
  if y = x then pure () else failure

/-- What the attributes of a submit file say. -/
structure Contents where
  name : String
  jobSw : String
  jobArch : String
  inputDataset : Option String
  publishName : String
  cacheUrl : String
  siteBlacklist : List String
  siteWhitelist : List String
  outputs : Outputs
  dn : String
  username : String
  asyncDest : String
  stageout : Stageout
  role : Option String
  group : Option String
  workerName : String
  dashboardTaskType : String
  split : Split
  failLimit : ℕ
  saveOutput : Bool
  throttle : ℕ
  sandbox : String
  dbsUrl : Option String
  publishDbsUrl : Option String
  publication : Bool
  tempDest : String
  oneEventMode : Bool
  asoUrl : String
deriving DecidableEq, Repr

namespace Contents

/-- The contents of attribute lines, which come in a fixed order. -/
def reader : Reader Contents := do
  let name ← next "+CRAB_ReqName" quoted?
  expect "+CRAB_Workflow" quoted? name
  expect "+CRAB_JobType" quoted? "analysis"
  let jobSw ← next "+CRAB_JobSW" quoted?
  let jobArch ← next "+CRAB_JobArch" quoted?
  let inputDataset ← next "+CRAB_InputData" optional?
  let publishName ← next "+CRAB_OutputData" quoted?
  let cacheUrl ← next "+CRAB_ISB" quoted?
  let siteBlacklist ← next "+CRAB_SiteBlacklist" braced?
  let siteWhitelist ← next "+CRAB_SiteWhitelist" braced?
  let additional ← next "+CRAB_AdditionalOutputFiles" braced?
  let edm ← next "+CRAB_EDMOutputFiles" braced?
  let tfile ← next "+CRAB_TFileOutputFiles" braced?
  expect "+CRAB_SaveLogsFlag" decimal? 0
  let dn ← next "+CRAB_UserDN" quoted?
  let username ← next "+CRAB_UserHN" quoted?
  let asyncDest ← next "+CRAB_AsyncDest" quoted?
  expect "+CRAB_BlacklistT1" decimal? 0
  let stageout ← next "+CRAB_StageoutPolicy" fun v =>
    (quoted? v).bind fun text => (Stageout.parse text).toOption
  let role ← next "+CRAB_UserRole" optional?
  let group ← next "+CRAB_UserGroup" optional?
  let workerName ← next "+CRAB_TaskWorker" quoted?
  let dashboardTaskType ← next "+CRAB_TaskType" quoted?
  let algorithm ← next "+CRAB_SplitAlgo" fun v =>
    (quoted? v).bind fun text => (SplitMode.parse text).toOption
  let unitsPerJob ← next "+CRAB_AlgoArgs" fun v =>
    (quoted? v).bind fun text => (Json.parse? text).bind (units? algorithm)
  let failLimit ← next "+CRAB_FailLimit" decimal?
  let saveOutput ← next "+CRAB_SaveOutput" truth?
  let throttle ← next "+CRAB_MaxPost" decimal?
  expect "CRAB_Attempt" decimal? 0
  expect "CRAB_ISB" word? cacheUrl
  expect "CRAB_AdditionalOutputFiles" braced? []
  expect "CRAB_JobSW" word? jobSw
  expect "CRAB_JobArch" word? jobArch
  let sandbox ← next "CRAB_Archive" word?
  let dbsUrl ← next "+CRAB_DBSURL" optional?
  let publishDbsUrl ← next "+CRAB_PublishDBSURL" optional?
  let publication ← next "CRAB_Publish" truth?
  expect "CRAB_Id" word? "$(count)"
  expect "+CRAB_Id" word? "$(count)"
  let tempDest ← next "+CRAB_Dest" quoted?
  let oneEventMode ← next "+CRAB_oneEventMode" flag?
  let asoUrl ← next "+CRAB_ASOURL" quoted?
  expect "+TaskType" quoted? "Job"
  expect "+AccountingGroup" quoted? username
  pure { name, jobSw, jobArch, inputDataset, publishName, cacheUrl, siteBlacklist, siteWhitelist,
         outputs := ⟨additional, tfile, edm⟩, dn, username, asyncDest, stageout, role, group,
         workerName, dashboardTaskType, split := ⟨algorithm, unitsPerJob⟩, failLimit, saveOutput,
         throttle, sandbox, dbsUrl, publishDbsUrl, publication, tempDest, oneEventMode, asoUrl }

/-- What the file of a task says on a configured machine, where at most `throttle` closing scripts
run at once. -/
def ofTask (c : Config) (task : Task) (throttle : ℕ) : Contents :=
  { name := task.name
    jobSw := task.jobSw
    jobArch := task.jobArch
    inputDataset := task.inputDataset
    publishName := task.publishName
    cacheUrl := task.cacheUrl
    siteBlacklist := task.siteBlacklist.toList
    siteWhitelist := task.siteWhitelist.toList
    outputs := task.outputs
    dn := task.identity.dn
    username := task.identity.username
    asyncDest := task.asyncDest
    stageout := task.arguments.stageout
    role := task.identity.role
    group := task.identity.group
    workerName := c.worker.name
    dashboardTaskType := c.worker.dashboardTaskType
    split := task.split
    failLimit := task.arguments.failLimit
    saveOutput := task.arguments.saveOutput
    throttle
    sandbox := task.sandbox
    dbsUrl := task.dbsUrl
    publishDbsUrl := task.publishDbsUrl
    publication := task.publication
    tempDest := (Destinations.ofTask task).temp
    oneEventMode := task.arguments.oneEventMode
    asoUrl := task.arguments.asoUrl }

end Contents

/-- The contents of the attribute lines of a file, and the lines behind them. -/
def read? (file : String) : Option (Contents × List String) := do
  let lines := Text.split '\n' file
  let rows ← (lines.take 44).mapM cutAttribute?
  let (contents, rest) ← Contents.reader rows
  if rest = [] then some (contents, lines.drop 44) else none

/-! ### Values are read back -/

variable {ctx : WorkerContext} {task : Task} {tempDest : String} {throttle : ℕ}

lemma quoted?_quote (s : String) : quoted? (Json.quote s) = some s := by
  rw [quoted?, Json.parse?_quote]
  rfl

lemma quoted?_render (s : String) : quoted? (Value.text s).render = some s :=
  quoted?_quote s

lemma optional?_render (s : Option String) : optional? (Value.optional s).render = some s := by
  cases s with
  | none => rfl
  | some s =>
    have hne : Json.quote s ≠ "undefined" := by
      intro h
      -- a quoted text begins with a quote
      have hchars := Json.toList_quote_append s []
      rw [h] at hchars
      simp at hchars
    rw [Value.render, optional?, if_neg hne, quoted?_quote]
    rfl

lemma braced?_render (l : List String) : braced? (Value.texts l).render = some l := by
  cases l with
  | nil => rfl
  | cons t ts =>
    set names := (", ".intercalate ((t :: ts).map Json.quote)).toList with hnames
    have htext : (Value.texts (t :: ts)).render.toList = '\x7b' :: (names ++ ['\x7d']) := by
      rw [Value.render, hnames]
      simp
    have hlength : (t :: ts).length ≤ (names ++ ['\x7d']).length := by
      have hle := SiteTable.length_le_intercalate (t :: ts)
      rw [← hnames] at hle
      rw [List.length_append]
      omega
    have hread : SiteTable.texts? (names ++ ['\x7d']).length (names ++ ['\x7d']) =
        some (t :: ts, ['\x7d']) :=
      SiteTable.texts?_append (List.cons_ne_nil t ts) hlength (by decide) []
    have hne : names ++ ['\x7d'] ≠ ['\x7d'] := by
      intro h
      have hempty : names.length = 0 := by simpa using congrArg List.length h
      have hle := SiteTable.length_le_intercalate (t :: ts)
      rw [← hnames, hempty] at hle
      simp at hle
    rw [braced?, htext]
    simp only [if_neg hne, hread, Option.bind_some, if_true]

lemma decimal?_render (n : ℕ) : decimal? (Value.number n).render = some n := by
  have hdigits : Json.digits (toString n).toList = (Nat.toDigits 10 n, []) := by
    have happend : Json.digits (Nat.toDigits 10 n ++ []) = (Nat.toDigits 10 n, []) :=
      Json.digits_append n (by simp)
    simpa using happend
  rw [Value.render, decimal?, hdigits]
  simp [Nat.toDigits_ne_nil]

lemma flag?_render (b : Bool) :
    flag? (Value.number (if b then 1 else 0)).render = some b := by
  rw [flag?, decimal?_render]
  cases b with
  | false => rfl
  | true => rfl

lemma truth?_render (b : Bool) : truth? (Value.truth b).render = some b := by
  cases b with
  | false => rfl
  | true => rfl

lemma word?_render {s : String} (h : Text.isToken s = true) :
    word? (Value.word s).render = some s :=
  if_pos h

/-- The arguments of a split are sorted by key, and so the number of units is the first or the
second one. -/
lemma splitArguments_eq (mode : SplitMode) (n : ℕ) :
    splitArguments ⟨mode, n⟩ = .table (match mode with
      | .byLumi => [("halt_job_on_file_boundaries", .bool false), (mode.unitKey, .int n),
          ("splitOnRun", .bool false)]
      | _ => [(mode.unitKey, .int n), ("halt_job_on_file_boundaries", .bool false),
          ("splitOnRun", .bool false)]) := by
  rw [splitArguments, Document.sortEntries, List.foldl_cons, List.foldl_cons, List.foldl_cons,
    List.foldl_nil, Document.insertEntry,
    Document.insertEntry_of_not_lt (by decide +kernel) (by decide), Document.insertEntry]
  cases mode with
  | byFile =>
    have hunits : "files_per_job" < "halt_job_on_file_boundaries" := by decide +kernel
    exact congrArg Document.table (Document.insertEntry_of_lt hunits)
  | byEvent =>
    have hunits : "events_per_job" < "halt_job_on_file_boundaries" := by decide +kernel
    exact congrArg Document.table (Document.insertEntry_of_lt hunits)
  | byLumi =>
    have hhalt : ¬ "lumis_per_job" < "halt_job_on_file_boundaries" := by decide +kernel
    have hunits : "lumis_per_job" < "splitOnRun" := by decide +kernel
    dsimp only [SplitMode.unitKey]
    rw [Document.insertEntry_of_not_lt hhalt (by decide), Document.insertEntry_of_lt hunits]

lemma units?_splitArguments {s : Split} (h : s.unitsPerJob < Nat.pow 2 64) :
    units? s.algorithm (splitArguments s) = some s.unitsPerJob := by
  obtain ⟨mode, n⟩ := s
  have hfields : (splitArguments ⟨mode, n⟩).fields? .settings
      [["halt_job_on_file_boundaries"], ["splitOnRun"], [mode.unitKey]] =
        some [some (.bool false), some (.bool false), some (.int n)] := by
    rw [splitArguments_eq]
    cases mode with
    | byFile => simp [Document.fields?, SplitMode.unitKey]
    | byEvent => simp [Document.fields?, SplitMode.unitKey]
    | byLumi => simp [Document.fields?, SplitMode.unitKey]
  rw [units?, hfields]
  exact Document.nat?_natCast h

lemma legible_splitArguments {s : Split} (h : s.unitsPerJob < Nat.pow 2 64) :
    (splitArguments s).Legible Json.maxDepth := by
  obtain ⟨mode, n⟩ := s
  have hn : (n : Int) < 18446744073709551616 := Int.ofNat_lt.2 h
  rw [splitArguments_eq]
  cases mode with
  | byFile => simp [Document.Legible, Document.LegibleEntries, Json.maxDepth, hn]
  | byEvent => simp [Document.Legible, Document.LegibleEntries, Json.maxDepth, hn]
  | byLumi => simp [Document.Legible, Document.LegibleEntries, Json.maxDepth, hn]

/-! ### Lines are cut -/

lemma cutAttribute?_attributeLine {a : String × Value} (ha : ' ' ∉ a.1.toList) :
    cutAttribute? (attributeLine a) = some (a.1, a.2.render) := by
  have hline : (attributeLine a).toList = a.1.toList ++ (" = ".toList ++ a.2.render.toList) := by
    rw [attributeLine, String.toList_append, String.toList_append, List.append_assoc]
  have hcut : (a.1.toList ++ (" = ".toList ++ a.2.render.toList)).dropInfix? " = ".toList =
      some (a.1.toList, a.2.render.toList) := by
    rw [List.dropInfix?_eq_some_iff]
    refine ⟨⟨" = ".toList, by simp, by simp⟩, fun front sep back h hsep => ?_⟩
    rw [beq_iff_eq] at hsep
    subst hsep
    -- a place further in front would lie in the key
    by_contra hshort
    rw [ge_iff_le, Nat.not_le] at hshort
    have hchar := congrArg (fun cs => cs[front.length]?) h
    simp only [List.append_assoc, List.getElem?_append_left hshort,
      List.getElem?_append_right (Nat.le_refl _), Nat.sub_self] at hchar
    exact ha (List.mem_of_getElem? hchar)
  rw [cutAttribute?, hline, hcut]
  simp

lemma mapM_cutAttribute?_attributes :
    ((attributes ctx task tempDest throttle).map attributeLine).mapM cutAttribute? =
      some ((attributes ctx task tempDest throttle).map fun a => (a.1, a.2.render)) :=
  mapM_map_eq_some fun _ ha => cutAttribute?_attributeLine (plain_key ha).1

lemma length_attributes : (attributes ctx task tempDest throttle).length = 44 := rfl

/-! ### The reader -/

section Reader

variable {α β : Type} (key value : String) (read : String → Option α)
  (rows : List (String × String))

lemma next_bind (f : α → Reader β) :
    (next key read >>= f) ((key, value) :: rows) = (read value).bind fun x => f x rows := by
  cases h : read value with
  | none => simp [bind, StateT.bind, next, h]
  | some x => simp [bind, StateT.bind, next, h]

lemma expect_bind [DecidableEq α] (x : α) (f : Unit → Reader β) :
    (expect key read x >>= f) ((key, value) :: rows) =
      if read value = some x then f () rows else none := by
  rw [expect, bind_assoc, next_bind]
  cases h : read value with
  | none => simp
  | some y =>
    by_cases hy : y = x
    · simp [hy]
    · simp [hy, bind, StateT.bind, failure, StateT.failure]

end Reader

/-- What a file says is read from its attributes. -/
lemma reader_attributes (c : Config) (ht : task.Checked) (hs : task.Settled) (throttle : ℕ) :
    Contents.reader ((attributes (.ofConfig c) task (Destinations.ofTask task).temp throttle).map
      fun a => (a.1, a.2.render)) = some (.ofTask c task throttle, []) := by
  have hname : String.ofList (task.name.toList.filter (· != '"')) = task.name := by
    have hquote : '"' ∉ task.name.toList :=
      (Text.plain_of_isToken (Task.isToken_of_isName ht.name)).not_mem (by decide +kernel)
    rw [List.filter_eq_self.2, String.ofList_toList]
    intro c hc
    rw [bne_iff_ne]
    rintro rfl
    exact hquote hc
  have hstageout : (Stageout.parse task.arguments.stageout.text).toOption =
      some task.arguments.stageout := by
    rw [Stageout.parse_text hs.stageout]
    rfl
  have halgorithm : (SplitMode.parse task.split.algorithm.text).toOption =
      some task.split.algorithm := by
    rw [SplitMode.parse_text]
    rfl
  have harguments : (quoted? (Value.json (splitArguments task.split)).render).bind
      (fun text => (Json.parse? text).bind (units? task.split.algorithm)) =
        some task.split.unitsPerJob := by
    rw [Value.render, quoted?_quote, Option.bind_some,
      Json.parse?_render (legible_splitArguments hs.unitsPerJob), Option.bind_some,
      units?_splitArguments hs.unitsPerJob]
  have hid : Text.isToken "$(count)" = true := by decide +kernel
  simp only [attributes, List.map_cons, List.map_nil, hname, Contents.reader, next_bind,
    expect_bind, quoted?_render, optional?_render, braced?_render, decimal?_render, flag?_render,
    truth?_render, word?_render ht.cacheUrl, word?_render ht.jobSw, word?_render ht.jobArch,
    word?_render ht.sandbox, word?_render hid, hstageout, halgorithm, harguments,
    Option.bind_some, if_true]
  rfl

/-- **The file is read back.**  Whatever a task says that has been read from a record, its submit
file says the same, and the lines behind the attributes are those for its architecture. -/
theorem contents_read_back {r : TaskRecord} (c : Config) (throttle : ℕ)
    (h : Task.ofRecord r = .ok task) :
    read? (text (.ofConfig c) task (Destinations.ofTask task).temp throttle) =
      some (.ofTask c task throttle, "" :: (tailLines task.jobArch ++ [""])) := by
  have ht := Task.checked_of_ofRecord h
  have hs := Task.settled_of_ofRecord h
  have hlength : ((attributes (.ofConfig c) task (Destinations.ofTask task).temp throttle).map
      attributeLine).length = 44 := by
    rw [List.length_map, length_attributes]
  rw [read?, split_text ht, lines, List.append_assoc, List.cons_append, List.take_left' hlength,
    List.drop_left' hlength, mapM_cutAttribute?_attributes]
  simp only [Option.bind_eq_bind, Option.bind_some, reader_attributes c ht hs throttle, if_true]

/-- The file of the sample request is read back. -/
theorem contents_read_back_sample :
    ∃ task, Task.ofRecord Request.sample.task = .ok task ∧
      read? (text (.ofConfig .sample) task (Destinations.ofTask task).temp 20) =
        some (.ofTask .sample task 20, "" :: (tailLines task.jobArch ++ [""])) := by
  obtain ⟨task, htask, -⟩ := Request.exists_task_sample
  exact ⟨task, htask, contents_read_back .sample 20 htask⟩

end SubmitFile

end JobGraph
