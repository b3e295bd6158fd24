import JobGraph.Attempts
import JobGraph.Proofs.Files.Faults
import JobGraph.Proofs.Json.RoundTrip
import JobGraph.Proofs.Text.Encoded
import JobGraph.Proofs.Text.Utf8
import JobGraph.Services

/-!
# Files of JSON lines

Entries for the dashboard and failure notices are kept as lines of a file.  A record is tried again
when it fails, and a try that fails leaves the files as they are; so the file has one line for each
record that was kept in the end, behind what it held before, and nothing for the others.

No line is broken, as the text of a record holds no line feed and no other character has the byte
of a line feed in its encoding.  The main result is `JsonLines.kept_lines`.
-/

namespace JobGraph

/-! ### Bytes of texts -/

namespace Text

/-- No character has the byte of a line feed in its encoding, unless it is one. -/
lemma eq_lineFeed_of_mem_utf8EncodeChar {c : Char} (h : 10 ∈ String.utf8EncodeChar c) :
    c = '\n' := by
  have hbyte : ∀ n : ℕ, (10 : UInt8) = UInt8.ofNat n ↔ n % 256 = 10 := by
    intro n
    rw [← UInt8.toNat_inj, UInt8.toNat_ofNat']
    exact eq_comm
  rw [String.utf8EncodeChar] at h
  split at h
  · next hascii =>
    rw [List.mem_singleton, hbyte] at h
    have hcode : c.val.toNat = 10 := by omega
    exact Char.ext (UInt32.toNat_inj.1 hcode)
  · -- all bytes of a longer encoding are at least 128
    exfalso
    repeat' split at h
    all_goals
      simp only [List.mem_cons, hbyte, List.not_mem_nil, or_false] at h
      omega

/-- A text on one line has no line feed among its bytes. -/
lemma lineFeed_not_mem_toUTF8 {s : String} (h : '\n' ∉ s.toList) : 10 ∉ s.toUTF8.data.toList := by
  rw [toList_toUTF8, List.mem_flatMap]
  rintro ⟨c, hc, hbyte⟩
  rw [eq_lineFeed_of_mem_utf8EncodeChar hbyte] at hc
  exact h hc

end Text

namespace JsonLines

/-! ### Lines of a file -/

/-- The lines of a file that are ended by a line feed. -/
def endedLines (b : ByteArray) : List (List UInt8) :=
  (b.data.toList.splitOn 10).dropLast

/-- The file is empty, or its last line is ended by a line feed. -/
def EndsLine (b : ByteArray) : Prop :=
  ∀ c ∈ b.data.toList.getLast?, c = 10

/-- What is put behind an ended line begins a new one. -/
lemma endedLines_append {a : ByteArray} (ha : EndsLine a) (b : ByteArray) :
    endedLines (a ++ b) = endedLines a ++ endedLines b := by
  rw [endedLines, endedLines, endedLines, ByteArray.data_append, Array.toList_append]
  rcases List.eq_nil_or_concat' a.data.toList with hnil | ⟨init, last, hlast⟩
  · rw [hnil]
    rfl
  · have hfeed : last = 10 := ha last (by simp [hlast])
    have hcut : ∀ rest : List UInt8,
        (init ++ 10 :: rest).splitOn 10 = init.splitOn 10 ++ rest.splitOn 10 :=
      fun rest => List.splitOnP_append_cons init rest (by decide)
    have hself : (init ++ [10]).splitOn 10 = init.splitOn 10 ++ [[]] := hcut []
    have hrest : b.data.toList.splitOn 10 ≠ [] := List.splitOnP_ne_nil _ _
    rw [hlast, hfeed, hself, List.append_assoc, List.singleton_append, hcut,
      List.dropLast_append_of_ne_nil hrest, List.dropLast_concat]

lemma toList_jsonLine (d : Document) :
    (Services.jsonLine d).data.toList = (Json.render d).toUTF8.data.toList ++ [10] := by
  rw [Services.jsonLine, Text.toList_toUTF8, String.toList_append, List.flatMap_append,
    ← Text.toList_toUTF8]
  rfl

lemma endsLine_append_jsonLine (a : ByteArray) (d : Document) :
    EndsLine (a ++ Services.jsonLine d) := by
  intro c hc
  rw [ByteArray.data_append, Array.toList_append, toList_jsonLine] at hc
  simpa [eq_comm] using hc

/-- The text of a document makes one line. -/
lemma endedLines_jsonLine {d : Document} {depth : ℕ} (hd : d.Legible depth) :
    endedLines (Services.jsonLine d) = [(Json.render d).toUTF8.data.toList] := by
  have hline : '\n' ∉ (Json.render d).toList := by
    rw [Json.render, String.toList_ofList]
    exact Json.lineFeed_not_mem_renderChars d hd
  rw [endedLines, toList_jsonLine, List.splitOn, List.splitOnP_append_cons _ _ (by decide),
    ← List.splitOn, List.splitOn_eq_singleton (Text.lineFeed_not_mem_toUTF8 hline)]
  rfl

/-! ### Records -/

/-- What is kept as a line of a file. -/
inductive Record where
  | task (r : Dashboard.TaskEntry)
  | job (r : Dashboard.JobEntry)
  | notice (r : FailureNotice)
deriving DecidableEq, Repr

namespace Record

/-- The record as a table. -/
def toDocument : Record → Document
  | .task r => r.toDocument
  | .job r => r.toDocument
  | .notice r => r.toDocument

/-- The service is told of the record. -/
def enter (v : Services) : Record → Program (Except Error Unit)
  | .task r => v.enterTask r
  | .job r => v.enterJob r
  | .notice r => v.noteFailure r

/-- The number in a notice has 64 bits. -/
def IsRegular : Record → Prop
  | .notice r => -(Nat.pow 2 63 : Int) ≤ r.subjobdef ∧ r.subjobdef < (Nat.pow 2 63 : Int)
  | _ => True

/-- The notice of a failed compilation is regular. -/
lemma isRegular_ofReason (taskName submitter reason : String) :
    (notice (.ofReason taskName submitter reason)).IsRegular := by
  constructor
  · show -(Nat.pow 2 63 : Int) ≤ -1
    decide
  · show (-1 : Int) < (Nat.pow 2 63 : Int)
    decide

/-- The value of a key of a table. -/
def field? (d : Document) (key : String) : Option Document :=
  match d with
  | .table entries => entries.lookup key
  | _ => none

/-- The text under a key of a table. -/
def text? (d : Document) (key : String) : Option String :=
  (field? d key).bind Document.text?

/-- The entry of a task, read key by key. -/
def readTask? (d : Document) : Option Dashboard.TaskEntry := do
  pure
    { tool := ← text? d "tool"
      submissionType := ← text? d "SubmissionType"
      toolUi := ← text? d "tool_ui"
      scheduler := ← text? d "scheduler"
      gridName := ← text? d "GridName"
      applicationVersion := ← text? d "ApplicationVersion"
      taskType := ← text? d "taskType"
      vo := ← text? d "vo"
      cmsUser := ← text? d "CMSUser"
      user := ← text? d "user"
      taskId := ← text? d "taskId"
      datasetFull := ← text? d "datasetFull"
      resubmitter := ← text? d "resubmitter"
      exe := ← text? d "exe"
      jobId := ← text? d "jobId" }

/-- The entry of a job, read key by key. -/
def readJob? (d : Document) : Option Dashboard.JobEntry := do
  pure
    { jobId := ← text? d "jobId"
      sid := ← text? d "sid"
      broker := ← text? d "broker"
      bossId := ← text? d "bossId"
      targetSe := ← text? d "TargetSE"
      localId := ← text? d "localId"
      statusValue := ← text? d "StatusValue" }

/-- The notice of a failure, read key by key. -/
def readNotice? (d : Document) : Option FailureNotice := do
  match ← field? d "subjobdef" with
  | .int n =>
    pure
      { workflow := ← text? d "workflow"
        substatus := ← text? d "substatus"
        subjobdef := n
        subuser := ← text? d "subuser"
        subfailure := ← text? d "subfailure" }
  | _ => none

/-- The record that a table holds.  Entries of tasks and notices have keys that no other record
has. -/
def ofDocument? (d : Document) : Option Record :=
  if (field? d "tool").isSome then (readTask? d).map .task
  else if (field? d "workflow").isSome then (readNotice? d).map .notice
  else (readJob? d).map .job

/-- No field of a record is lost in its table. -/
lemma ofDocument?_toDocument (r : Record) : ofDocument? r.toDocument = some r := by
  cases r with
  | task r => rfl
  | job r => rfl
  | notice r => rfl

/-- Every record can be read back from the text of its table. -/
lemma legible_toDocument {r : Record} (hr : r.IsRegular) : r.toDocument.Legible Json.maxDepth := by
  have htexts : ∀ entries, (Document.ofTexts entries).Legible Json.maxDepth := by
    intro entries
    refine ⟨by decide, Document.legibleEntries_iff.2 fun e he => ?_⟩
    obtain ⟨entry, -, rfl⟩ := List.mem_map.1 he
    trivial
  cases r with
  | task r => exact htexts _
  | job r => exact htexts _
  | notice r =>
    obtain ⟨hlow, hhigh⟩ := hr
    have hnumber : (Document.int r.subjobdef).Legible (Json.maxDepth - 1) :=
      ⟨hlow, by simp only [Nat.pow_eq] at hhigh ⊢; omega⟩
    exact ⟨by decide, trivial, trivial, hnumber, trivial, trivial, trivial⟩

/-- The record that a line of a file holds. -/
def readLine? (line : List UInt8) : Option Record := do
  let text ← String.fromUTF8? ⟨⟨line⟩⟩
  let d ← Json.parse? text
  ofDocument? d

/-- The line of a record. -/
def line (r : Record) : List UInt8 :=
  (Json.render r.toDocument).toUTF8.data.toList

lemma readLine?_line {r : Record} (hr : r.IsRegular) : readLine? r.line = some r := by
  have htext : String.fromUTF8? ⟨⟨r.line⟩⟩ = some (Json.render r.toDocument) :=
    Text.fromUTF8?_toUTF8 (Json.render r.toDocument)
  rw [readLine?, htext, Option.bind_eq_bind, Option.bind_some,
    Json.parse?_render (legible_toDocument hr)]
  exact ofDocument?_toDocument r

end Record

/-! ### Keeping records -/

/-- Records are entered one after another, each of them with so many attempts; what has come of
each is noted beside it. -/
def enterAll (v : Services) : List (Record × Attempts) → Program (List (Record × Except Error Unit))
  | [] => pure []
  | (r, retry) :: records => do
    let outcome ← retry.run (r.enter v)
    let outcomes ← enterAll v records
    pure ((r, outcome) :: outcomes)

/-- The records that were entered in the end. -/
def kept (outcomes : List (Record × Except Error Unit)) : List Record :=
  (outcomes.filter (·.2.isOk)).map Prod.fst

/-- What a file holds; a file that is missing holds nothing. -/
def held (file : Path) (s : FileStore) : ByteArray :=
  (s.contents? file).getD .empty

/-- The store with one more line in a file. -/
def extend (file : Path) (s : FileStore) (r : Record) : FileStore :=
  s.put file (held file s ++ Services.jsonLine r.toDocument)

variable {faults : ℕ → Option FileError} {file : Path}

/-- A call makes one line for a record, or it fails and the store is what it was. -/
def Makes (faults : ℕ → Option FileError) (file : Path) (r : Record)
    (call : Program (Except Error Unit)) : Prop :=
  ∀ s, (∃ e n, (World.withFaults faults).run call s = (.error e, s.1, n)) ∨
    ∃ n, (World.withFaults faults).run call s = (.ok (), extend file s.1 r, n)

/-- Whichever service keeps the record, it appends its line. -/
lemma makes_enter (faults : ℕ → Option FileError) (catalog : Catalog) (file : Path) (r : Record) :
    Makes faults file r (r.enter (.ofFiles catalog (some file) (some file))) := by
  have happend : ∀ service,
      Makes faults file r (Services.appendLine service file r.toDocument) := by
    intro service s
    rw [Services.appendLine, World.run_bind]
    rcases World.withFaults_append faults s file (Services.jsonLine r.toDocument) with
      ⟨e, n, h⟩ | ⟨n, h⟩
    · have hrun : (World.withFaults faults).run
          (Program.file (.append file (Services.jsonLine r.toDocument))) s = (.error e, s.1, n) := h
      rw [hrun]
      exact Or.inl ⟨_, n, rfl⟩
    · have hrun : (World.withFaults faults).run
          (Program.file (.append file (Services.jsonLine r.toDocument))) s =
            (.ok (), extend file s.1 r, n) := h
      rw [hrun]
      exact Or.inr ⟨n, rfl⟩
  cases r with
  | task r => exact happend _
  | job r => exact happend _
  | notice r => exact happend _

/-- A call that is made again after it failed makes one line at most. -/
lemma Makes.attempt {r : Record} {call : Program (Except Error Unit)}
    (h : Makes faults file r call) (more : ℕ) :
    Makes faults file r (Attempts.attempt call more) := by
  induction more with
  | zero => exact h
  | succ more ih =>
    intro s
    rw [Attempts.attempt, World.run_bind]
    rcases h s with ⟨e, n, hrun⟩ | ⟨n, hrun⟩
    · rw [hrun]
      exact ih (s.1, n)
    · rw [hrun]
      exact Or.inr ⟨n, rfl⟩

/-- Records are entered as if those that were not kept had not been tried. -/
lemma run_enterAll (faults : ℕ → Option FileError) (catalog : Catalog) (file : Path)
    (records : List (Record × Attempts)) (s : FileStore × ℕ) :
    ∃ outcomes n, (World.withFaults faults).run
        (enterAll (.ofFiles catalog (some file) (some file)) records) s =
          (outcomes, (kept outcomes).foldl (extend file) s.1, n) ∧
      outcomes.map Prod.fst = records.map Prod.fst := by
  induction records generalizing s with
  | nil => exact ⟨[], s.2, rfl, rfl⟩
  | cons e records ih =>
    obtain ⟨r, retry⟩ := e
    rw [enterAll, World.run_bind]
    rcases (makes_enter faults catalog file r).attempt (retry.limit - 1) s with
      ⟨e, n, hrun⟩ | ⟨n, hrun⟩
    · obtain ⟨outcomes, m, hothers, hrecords⟩ := ih (s.1, n)
      refine ⟨(r, .error e) :: outcomes, m, ?_, by simp [hrecords]⟩
      rw [Attempts.run, hrun, World.run_bind, hothers]
      rfl
    · obtain ⟨outcomes, m, hothers, hrecords⟩ := ih (extend file s.1 r, n)
      refine ⟨(r, .ok ()) :: outcomes, m, ?_, by simp [hrecords]⟩
      rw [Attempts.run, hrun, World.run_bind, hothers]
      rfl

/-- What keeping records in a file makes of a store. -/
structure Logs (file : Path) (records : List Record) (s t : FileStore) : Prop where
  /-- Behind what the file held there is a line for each record, in order. -/
  contents : (held file t).data.toList =
    (held file s).data.toList ++ records.flatMap fun r => r.line ++ [10]
  /-- These are lines of the file, and all lines of the file are ended again. -/
  lines : endedLines (held file t) = endedLines (held file s) ++ records.map Record.line
  ends : EndsLine (held file t)
  elsewhere : ∀ q : Path, q.components ≠ file.components → t.contents? q = s.contents? q
  /-- Without a record nothing has happened. -/
  untouched : records = [] → t = s

lemma held_extend (s : FileStore) (r : Record) :
    held file (extend file s r) = held file s ++ Services.jsonLine r.toDocument := by
  rw [held, ← FileStore.view_components, extend, FileStore.view_put, Function.update_self]
  rfl

/-- One record after another adds its line. -/
lemma logs_foldl {records : List Record} (hregular : ∀ r ∈ records, r.IsRegular) {s : FileStore}
    (hends : EndsLine (held file s)) : Logs file records s (records.foldl (extend file) s) := by
  induction records generalizing s with
  | nil =>
    exact
      { contents := by simp
        lines := by simp
        ends := hends
        elsewhere := fun _ _ => rfl
        untouched := fun _ => rfl }
  | cons r records ih =>
    rw [List.forall_mem_cons] at hregular
    have hline := endedLines_jsonLine (Record.legible_toDocument hregular.1)
    have hrest : Logs file records (extend file s r)
        (records.foldl (extend file) (extend file s r)) := by
      refine ih hregular.2 ?_
      rw [held_extend]
      exact endsLine_append_jsonLine _ _
    exact
      { contents := by
          rw [List.foldl_cons, hrest.contents, held_extend, ByteArray.data_append,
            Array.toList_append, toList_jsonLine, List.flatMap_cons]
          simp [Record.line]
        lines := by
          rw [List.foldl_cons, hrest.lines, held_extend, endedLines_append hends, hline]
          simp [Record.line]
        ends := hrest.ends
        elsewhere := by
          intro q hq
          rw [List.foldl_cons, hrest.elsewhere q hq, ← FileStore.view_components, extend,
            FileStore.view_put, Function.update_of_ne hq, FileStore.view_components]
        untouched := nofun }

/-- **Files of JSON lines.**  Entries and notices are kept in one file that is missing, empty or
ends a line, each of them tried as often as one likes, whichever of the operations on the file
fail.  Then the file has what it held before and a line for each record that was kept in the end,
in order, and each of these lines is read as its record; and there is no trace of the others. -/
theorem kept_lines {faults : ℕ → Option FileError} {catalog : Catalog} {file : Path}
    {records : List (Record × Attempts)} {s t : FileStore × ℕ}
    {outcomes : List (Record × Except Error Unit)}
    (hregular : ∀ e ∈ records, e.1.IsRegular) (hends : EndsLine (held file s.1))
    (hrun : (World.withFaults faults).run
      (enterAll (.ofFiles catalog (some file) (some file)) records) s = (outcomes, t)) :
    outcomes.map Prod.fst = records.map Prod.fst ∧
      Logs file (kept outcomes) s.1 t.1 ∧
      ∀ r ∈ kept outcomes, Record.readLine? r.line = some r := by
  obtain ⟨outcomes', n, hrun', hrecords⟩ := run_enterAll faults catalog file records s
  rw [hrun] at hrun'
  cases hrun'
  have hkept : ∀ r ∈ kept outcomes, r.IsRegular := by
    intro r hr
    obtain ⟨outcome, houtcome, rfl⟩ := List.mem_map.1 hr
    have hmem : outcome.1 ∈ records.map Prod.fst := by
      rw [← hrecords]
      exact List.mem_map_of_mem (List.mem_of_mem_filter houtcome)
    obtain ⟨e, he, heq⟩ := List.mem_map.1 hmem
    rw [← heq]
    exact hregular e he
  exact ⟨hrecords, logs_foldl hkept hends, fun r hr => Record.readLine?_line (hkept r hr)⟩

/-- An entry of a job whose identifier has a line feed and a quote in it. -/
def awkwardJob : Record :=
  .job ⟨"1\n\"2\"", "sid", "broker", "1", "T2_CH_CERN", "", "PENDING"⟩

/-- A notice whose reason goes over two lines. -/
def awkwardNotice : Record :=
  .notice (.ofReason "task" "jane" "No\nsite")

/-- The first and the third operation fail. -/
def unsteady (n : ℕ) : Option FileError :=
  if n = 0 ∨ n = 2 then some (.writeRefused ⟨"log"⟩) else none

/-- An entry that is tried twice, the same entry again, and a notice. -/
def awkwardRecords : List (Record × Attempts) :=
  [(awkwardJob, ⟨2, 0⟩), (awkwardJob, .once), (awkwardNotice, .once)]

/-- A store with a file of one line. -/
def oneLine : FileStore :=
  FileStore.empty.put ⟨"log"⟩ "x\n".toUTF8

/-- The entry is kept at its second attempt, the same entry is not kept at its only one, and the
notice is kept at once. -/
theorem kept_lines_awkward :
    ∃ outcomes t,
      (World.withFaults unsteady).run
        (enterAll (.ofFiles ⟨[]⟩ (some ⟨"log"⟩) (some ⟨"log"⟩)) awkwardRecords) (oneLine, 0) =
          (outcomes, t) ∧
      kept outcomes = [awkwardJob, awkwardNotice] ∧
      endedLines (held ⟨"log"⟩ t.1) =
        ["x".toUTF8.data.toList, awkwardJob.line, awkwardNotice.line] ∧
      Record.readLine? awkwardJob.line = some awkwardJob ∧
      Record.readLine? awkwardNotice.line = some awkwardNotice := by
  have hregular : ∀ e ∈ awkwardRecords, e.1.IsRegular := by
    intro e he
    simp only [awkwardRecords, List.mem_cons, List.not_mem_nil, or_false] at he
    rcases he with rfl | rfl | rfl
    · trivial
    · trivial
    · exact Record.isRegular_ofReason ..
  have hends : EndsLine (held ⟨"log"⟩ oneLine) := by
    have hlast : (held ⟨"log"⟩ oneLine).data.toList.getLast? = some 10 := by decide +kernel
    intro c hc
    rw [hlast] at hc
    exact (Option.some.inj hc).symm
  have hstart : endedLines (held ⟨"log"⟩ oneLine) = ["x".toUTF8.data.toList] := by
    decide +kernel
  have hkept : kept ((World.withFaults unsteady).run
      (enterAll (.ofFiles ⟨[]⟩ (some ⟨"log"⟩) (some ⟨"log"⟩)) awkwardRecords) (oneLine, 0)).1 =
        [awkwardJob, awkwardNotice] := by
    decide +kernel
  rcases hrun : (World.withFaults unsteady).run
    (enterAll (.ofFiles ⟨[]⟩ (some ⟨"log"⟩) (some ⟨"log"⟩)) awkwardRecords) (oneLine, 0) with
      ⟨outcomes, t⟩
  rw [hrun] at hkept
  obtain ⟨-, hlogs, hread⟩ := kept_lines hregular hends hrun
  have hlines := hlogs.lines
  rw [hkept] at hlines hread
  rw [hstart] at hlines
  exact ⟨outcomes, t, rfl, hkept, hlines, hread _ (by simp), hread _ (by simp)⟩

end JsonLines

end JobGraph
