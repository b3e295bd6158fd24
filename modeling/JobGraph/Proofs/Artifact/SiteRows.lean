import Mathlib.Data.List.TakeDrop
import JobGraph.Assembly
import JobGraph.Proofs.Json.Layout
import JobGraph.Proofs.Json.Reading
import JobGraph.Proofs.Plan.Tokens
import JobGraph.Proofs.Program.Fallible

/-!
# The rows of the table of sites

The table of sites is read line by line: the number of a job, and a list of quoted names between
braces.  Whatever the names are, a line gives back the number of its job and the sites of the job,
for line feeds are escaped inside the quotes, and what separates the names stands outside of them.

So the number of a job is the same in its node, in the table and in its entry at the dashboard, and
the three follow the jobs in the same order.  The main result is `SiteTable.views_agree`.
-/

namespace JobGraph.SiteTable

/-! ### Reading the table -/

/-- Quoted texts with a comma and a blank between them, and what stands behind the last one.  The
first argument bounds their number. -/
def texts? : ℕ → List Char → Option (List String × List Char)
  | fuel + 1, '"' :: cs =>
    match Json.stringBody? cs with
    | some (some text, ',' :: ' ' :: rest) =>
      (texts? fuel rest).map fun (texts, rest) => (String.ofList text :: texts, rest)
    | some (some text, rest) => some ([String.ofList text], rest)
    | _ => none
  | _, _ => none

/-- The number of the job and the sites that a line lists. -/
def readRow? (row : String) : Option (ℕ × List String) := do
  let afterName ← Json.afterWord? "    Job".toList row.toList
  let (number, afterNumber) := Json.digits afterName
  let inner ← Json.afterWord? " = \x7b ".toList afterNumber
  let (sites, rest) ← texts? inner.length inner
  if number ≠ [] ∧ rest = " \x7d;".toList then some (Nat.ofDigitChars 10 number 0, sites)
  else none

/-- The rows of a table, which stand between a line for each bracket. -/
def read? (table : String) : Option (List (ℕ × List String)) :=
  match Text.split '\n' table with
  | first :: rows =>
    if first = "[" ∧ rows.drop (rows.length - 2) = ["]", ""] then
      (rows.take (rows.length - 2)).mapM readRow?
    else none
  | [] => none

/-! ### Lines -/

/-- The line of a job without its line feed. -/
def row (job : PlannedJob) : String :=
  s!"    Job{job.sequence} = " ++ braced job.sites.toList ++ ";"

variable {jobs : List PlannedJob}

lemma text_eq (jobs : List PlannedJob) :
    text jobs = String.join (("[" :: jobs.map row ++ ["]"]).map (· ++ "\n")) := by
  have hline : ∀ job, line job = row job ++ "\n" := by
    intro job
    have hend : ";\n" = ";" ++ "\n" := rfl
    simp only [line, row, hend, String.append_assoc]
  have hlines : jobs.map line = (jobs.map row).map (· ++ "\n") := by
    rw [List.map_map]
    exact List.map_congr_left fun job _ => hline job
  rw [text, hlines, ← String.toList_inj]
  simp

/-- No name brings a line feed into its line. -/
lemma lineFeed_not_mem_row (job : PlannedJob) : '\n' ∉ (row job).toList := by
  have hnames : '\n' ∉ (", ".intercalate (job.sites.toList.map Json.quote)).toList := by
    rw [Text.not_mem_toList_intercalate (by decide), List.forall_mem_map]
    exact fun site _ => Json.lineFeed_not_mem_quote site
  have hnumber : '\n' ∉ (toString job.sequence).toList := by
    simpa using Text.not_mem_toDigits (by decide) job.sequence
  have happend : row job = "    Job" ++ toString job.sequence ++ " = " ++ ("\x7b " ++
      ", ".intercalate (job.sites.toList.map Json.quote) ++ " \x7d") ++ ";" := rfl
  rw [happend]
  simp only [String.toList_append, List.mem_append, not_or]
  exact ⟨⟨⟨⟨by decide, hnumber⟩, by decide⟩, ⟨⟨by decide, hnames⟩, by decide⟩⟩, by decide⟩

/-- The lines of the table are those of its brackets and the rows. -/
lemma split_text (jobs : List PlannedJob) :
    Text.split '\n' (text jobs) = "[" :: (jobs.map row ++ ["]", ""]) := by
  rw [text_eq, Text.split_lines]
  · simp
  · simp only [List.cons_append, List.forall_mem_cons, List.forall_mem_append, List.forall_mem_map]
    exact ⟨by decide, fun job _ => lineFeed_not_mem_row job, by decide, by simp⟩

/-! ### Rows -/

/-- A quoted text in front of others is read first. -/
lemma texts?_cons (t : String) {fuel : ℕ} {cs : List Char} {texts : List String}
    {rest : List Char} (h : texts? fuel cs = some (texts, rest)) :
    texts? (fuel + 1) ((Json.quote t).toList ++ ',' :: ' ' :: cs) = some (t :: texts, rest) := by
  rw [Json.toList_quote_append, texts?, Json.stringBody?_escape]
  simp [h]

/-- Quoted texts are read back, if what stands behind them does not begin with a comma. -/
lemma texts?_append {texts : List String} (hne : texts ≠ []) {fuel : ℕ}
    (hfuel : texts.length ≤ fuel) {c : Char} (hc : c ≠ ',') (rest : List Char) :
    texts? fuel ((", ".intercalate (texts.map Json.quote)).toList ++ c :: rest) =
      some (texts, c :: rest) := by
  induction texts generalizing fuel with
  | nil => exact absurd rfl hne
  | cons t texts ih =>
    rw [List.length_cons] at hfuel
    obtain ⟨n, rfl⟩ : ∃ n, fuel = n + 1 := ⟨fuel - 1, by omega⟩
    cases texts with
    | nil =>
      -- the last text is the one that no comma follows
      rw [List.map_singleton, String.intercalate_singleton, Json.toList_quote_append, texts?,
        Json.stringBody?_escape]
      simp [hc]
    | cons t' texts =>
      have hread := ih (List.cons_ne_nil t' texts) (Nat.le_of_succ_le_succ hfuel)
      have hcons : (", ".intercalate ((t :: t' :: texts).map Json.quote)).toList ++ c :: rest =
          (Json.quote t).toList ++ ',' :: ' ' ::
            ((", ".intercalate ((t' :: texts).map Json.quote)).toList ++ c :: rest) := by
        rw [List.map_cons, Text.intercalate_cons (by simp), String.toList_append,
          String.toList_append, List.append_assoc, List.append_assoc]
        rfl
      rw [hcons, texts?_cons t hread]

/-- Separators and escaped characters in the texts do not get in the way. -/
example : texts? 2 (", ".intercalate (["a\", \"b", "\\c\n"].map Json.quote) ++ " ").toList =
    some (["a\", \"b", "\\c\n"], [' ']) := by
  decide +kernel

/-- There are no more texts than characters. -/
lemma length_le_intercalate (texts : List String) :
    texts.length ≤ (", ".intercalate (texts.map Json.quote)).toList.length := by
  induction texts with
  | nil => simp
  | cons t texts ih =>
    have hquote : 1 ≤ (Json.quote t).toList.length := by
      rw [Json.quote, String.toList_ofList, Json.renderText]
      simp
    cases texts with
    | nil => simpa using hquote
    | cons t' texts =>
      rw [List.map_cons, Text.intercalate_cons (by simp), String.toList_append,
        String.toList_append, List.length_append, List.length_append, List.length_cons]
      omega

/-- **Reading a row.**  The line of a job gives back its number and its sites. -/
theorem readRow?_row (job : PlannedJob) :
    readRow? (row job) = some (job.sequence, job.sites.toList) := by
  have hsites : job.sites.toList ≠ [] := by
    intro hnil
    have hempty : job.sites.names.isEmpty = true := List.isEmpty_iff.2 hnil
    rw [job.sites.nonempty] at hempty
    cases hempty
  set names := (", ".intercalate (job.sites.toList.map Json.quote)).toList with hnames
  have hrow : (row job).toList = "    Job".toList ++ (Nat.toDigits 10 job.sequence ++
      ' ' :: ("= \x7b ".toList ++ (names ++ " \x7d;".toList))) := by
    have happend : row job = "    Job" ++ toString job.sequence ++ " = " ++ ("\x7b " ++
        ", ".intercalate (job.sites.toList.map Json.quote) ++ " \x7d") ++ ";" := rfl
    rw [happend, hnames]
    simp
  have hword : Json.afterWord? " = \x7b ".toList (' ' :: ("= \x7b ".toList ++
      (names ++ " \x7d;".toList))) = some (names ++ " \x7d;".toList) :=
    Json.afterWord?_append " = \x7b ".toList _
  have hfuel : job.sites.toList.length ≤ (names ++ " \x7d;".toList).length := by
    have hlength : job.sites.toList.length ≤ names.length := length_le_intercalate _
    rw [List.length_append]
    omega
  have hread : texts? (names ++ " \x7d;".toList).length (names ++ " \x7d;".toList) =
      some (job.sites.toList, " \x7d;".toList) := texts?_append hsites hfuel (by decide) _
  have hdigits : Json.digits (Nat.toDigits 10 job.sequence ++ ' ' :: ("= \x7b ".toList ++
      (names ++ " \x7d;".toList))) = (Nat.toDigits 10 job.sequence, ' ' :: ("= \x7b ".toList ++
      (names ++ " \x7d;".toList))) := Json.digits_append _ (by simp)
  rw [readRow?, hrow, Json.afterWord?_append]
  simp only [Option.bind_eq_bind, Option.bind_some, hdigits, hword, hread]
  rw [if_pos ⟨Nat.toDigits_ne_nil, trivial⟩, Nat.ofDigitChars_toDigits (by decide) (by decide)]

/-- **Reading the table.**  The table gives back the number of every job and its sites, in the order
of the jobs. -/
theorem read?_text (jobs : List PlannedJob) :
    read? (text jobs) = some (jobs.map fun job => (job.sequence, job.sites.toList)) := by
  have hrows : (jobs.map row).mapM readRow? =
      some (jobs.map fun job => (job.sequence, job.sites.toList)) :=
    mapM_map_eq_some fun job _ => readRow?_row job
  have hlength : (jobs.map row ++ ["]", ""]).length - 2 = (jobs.map row).length := by
    rw [List.length_append]
    rfl
  rw [read?, split_text]
  dsimp only
  rw [hlength, List.drop_left, List.take_left, if_pos ⟨rfl, rfl⟩, hrows]

/-! ### Three views of the jobs -/

/-- The row lists the sites of the group of a job, as they were worked out for that group. -/
def Lists (rules : SiteRules) (task : Task) (e : JobGroup × Job) (row : ℕ × List String) : Prop :=
  ∃ sites, Plan.sitesOf rules task e.1 = .ok sites ∧ row.2 = sites.toList

/-- The entry of the job tells how many sites the row lists. -/
def Counts (row : ℕ × List String) (entry : Dashboard.JobEntry) : Prop :=
  entry.targetSe = s!"{row.2.length}_Selected_SE"

/-- **Three views of the jobs.**  Whatever URLs the jobs of a plan are given, their assembly is made.
Its graph has the nodes of these jobs, in order.  Its table of sites can be read; the numbers in it,
those of the jobs and those of the entries at the dashboard are one to the number of jobs, in this
order, and fit 32 bits below `2 ^ 32` jobs; each row lists exactly the sites of the group of its
job, each of them once and in order; and each entry tells how many sites the row of its job
lists. -/
theorem views_agree (c : Compiler) (r : Request) (p : Plan) (urls : ℕ → List String)
    (hplan : c.plan r = .ok p) :
    ∃ a table rows, Assembly.ofJobs c.context p.task c.throttle (p.placed urls) = .ok a ∧
      a.artifacts.find? (·.name == Artifact.graphFile) =
        some ⟨Artifact.graphFile, Node.graphText c.context p.task (p.placed urls)⟩ ∧
      a.artifacts.find? (·.name == Artifact.siteFile) = some ⟨Artifact.siteFile, table⟩ ∧
      read? table = some rows ∧
      (p.placed urls).map (·.sequence) = List.range' 1 p.jobs.length ∧
      rows.map Prod.fst = List.range' 1 p.jobs.length ∧
      a.jobEntries.map (·.bossId) = (List.range' 1 p.jobs.length).map toString ∧
      List.Forall₂ (Lists c.rules p.task) (Plan.entries r.groups) rows ∧
      (∀ row ∈ rows, row.2.Pairwise (· < ·)) ∧
      List.Forall₂ Counts rows a.jobEntries := by
  have hne : (p.placed urls).isEmpty = false := by
    obtain ⟨-, -, hjobs⟩ := Plan.of_plan_eq_ok hplan
    simpa [Plan.placed] using hjobs
  have hnumbers : (p.placed urls).map (·.sequence) = List.range' 1 p.jobs.length := by
    rw [Plan.map_sequence_placed hplan, Plan.placed, List.length_map]
  have hassembly : Assembly.ofJobs c.context p.task c.throttle (p.placed urls) = .ok
      { artifacts := Assembly.artifactsOf c.context p.task
          (c.throttle.limit (p.placed urls).length) (p.placed urls)
        throttle := c.throttle.limit (p.placed urls).length
        taskEntry := .ofTask c.context p.task
        jobEntries := (p.placed urls).map (.ofJob c.context p.task) } := by
    rw [Assembly.ofJobs, hne]
    rfl
  refine ⟨_, text (p.placed urls), _, hassembly, rfl, rfl, read?_text _, hnumbers, ?_, ?_, ?_,
    ?_, ?_⟩
  · rw [List.map_map]
    exact hnumbers
  · rw [← hnumbers, List.map_map, List.map_map]
    rfl
  · -- the URLs of a job do not matter for its sites
    obtain ⟨-, hacc⟩ := Plan.accounts_of_plan_eq_ok hplan
    rw [Plan.placed, List.map_map, List.forall₂_map_right_iff]
    exact hacc.carried.imp fun _ s hcarries => ⟨s.sites, hcarries.sites, rfl⟩
  · rw [List.forall_mem_map]
    exact fun s _ => s.sites.names.sorted
  · rw [List.forall₂_map_left_iff, List.forall₂_map_right_iff, List.forall₂_same]
    exact fun s _ => rfl

/-- The three views of the jobs of the sample request. -/
theorem views_agree_sample :
    ∃ p a table rows, (Compiler.sample .external).plan .sample = .ok p ∧
      a.artifacts.find? (·.name == Artifact.siteFile) = some ⟨Artifact.siteFile, table⟩ ∧
      Assembly.ofJobs (Compiler.sample .external).context p.task (Compiler.sample .external).throttle
        (p.placed fun _ => []) = .ok a ∧
      read? table = some rows ∧ rows.map Prod.fst = [1, 2, 3] ∧
      a.jobEntries.map (·.bossId) = ["1", "2", "3"] ∧ List.Forall₂ Counts rows a.jobEntries := by
  have hlength : ((Compiler.sample .external).plan .sample).toOption.map
      (fun p => p.jobs.length) = some 3 := by decide +kernel
  obtain ⟨p, hp, hthree⟩ := exists_of_map_toOption hlength
  obtain ⟨a, table, rows, ha, -, htable, hread, -, hrows, hentries, -, -, hcounts⟩ :=
    views_agree (Compiler.sample .external) .sample p (fun _ => []) hp
  rw [hthree] at hrows hentries
  refine ⟨p, a, table, rows, hp, htable, ha, hread, hrows, ?_, hcounts⟩
  rw [hentries]
  decide +kernel

end JobGraph.SiteTable
