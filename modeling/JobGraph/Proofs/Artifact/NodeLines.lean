import JobGraph.Config.Validity
import JobGraph.Proofs.Artifact.Variables

/-!
# The lines of the graph

The graph is read line by line, and a statement about a script is read word by word.  Everything in
a graph is on one line, provided that the URLs are: so its text comes apart into the statements
about its jobs.  Everything in a statement about a script is a token, and so each word stands where
it is looked for.

The main result is `Node.graph_read`.
-/

namespace JobGraph

/-- The values of a worker without defects are tokens. -/
lemma Config.isToken_of_workerDefect? {c : Config} (h : c.workerDefect? = none) :
    Text.isToken c.worker.backendHost = true ∧ Text.isToken c.worker.restInstance = true ∧
      Text.isToken c.worker.restUrl = true := by
  rw [workerDefect?, Option.map_eq_none_iff, List.find?_eq_none] at h
  have htokens : Text.isToken c.worker.name = true ∧ Text.isToken c.worker.backendHost = true ∧
      Text.isToken c.worker.restInstance = true ∧ Text.isToken c.worker.restUrl = true := by
    simpa using h
  exact htokens.2

namespace Node

variable {ctx : WorkerContext} {task : Task} {s : PlannedJob} {jobs : List PlannedJob}

/-- The lines of the graph: the header, and the statements about each job, all between empty
lines. -/
def graphLines (ctx : WorkerContext) (task : Task) (jobs : List PlannedJob) : List String :=
  "NODE_STATUS_FILE node_state 30" :: "" ::
    jobs.flatMap fun s => "" :: statements ctx task s ++ [""]

lemma graphText_eq :
    graphText ctx task jobs = String.join ((graphLines ctx task jobs).map (· ++ "\n")) := by
  have htext : ∀ s, (text ctx task s).toList =
      ("" :: statements ctx task s ++ [""]).flatMap fun l => (l ++ "\n").toList := by
    intro s
    simp [text, statements, String.toList_intercalate]
  rw [← String.toList_inj]
  simp [graphText, graphLines, header, htext, List.flatMap_map, List.flatMap_assoc]

/-- The six lines are the statements about the job.  They are given by their words, save for the
variables, which are quoted and not read word by word. -/
inductive Reads (c : Config) (task : Task) (s : PlannedJob) : List String → Prop
  | statements {job pre post retry vars abort : String}
      (hjob : Text.words job = ["JOB", name s.sequence, "Job.submit"])
      (hpre : Text.words pre =
        ["SCRIPT", "PRE", name s.sequence, "dag_bootstrap.sh", "PREJOB", "$RETRY",
          toString s.sequence, task.name, c.worker.backendHost])
      (hpost : Text.words post =
        ["SCRIPT", "POST", name s.sequence, "dag_bootstrap.sh", "POSTJOB", "$JOBID", "$RETURN",
          "$RETRY", "$MAX_RETRIES", c.worker.restInstance, c.worker.restUrl, task.name,
          toString s.sequence, task.publishName, task.jobSw, task.asyncDest, s.directories.temp,
          s.directories.dest, s!"cmsRun_{s.sequence}.log.tar.gz"] ++ s.outputs.map (·.remote))
      (hretry : Text.words retry = ["RETRY", name s.sequence, "10", "UNLESS-EXIT", "2"])
      (hvars : (Text.words vars).take 2 = ["VARS", name s.sequence])
      (habort : Text.words abort = ["ABORT-DAG-ON", name s.sequence, "3"]) :
      Reads c task s [job, pre, post, retry, vars, abort]

lemma isToken_name (n : ℕ) : Text.isToken (name n) = true := by
  have hname : name n = "Job" ++ toString n := rfl
  rw [hname]
  refine Text.isToken_of_mem (c := 'J') (by simp) ?_
  rw [Text.plain_append]
  exact ⟨by decide, Text.plain_toString n⟩

/-! ### Statements as words -/

lemma job_eq (n : ℕ) :
    s!"JOB {name n} {Artifact.submitFile}" = " ".intercalate ["JOB", name n, "Job.submit"] := rfl

lemma retry_eq (n : ℕ) :
    s!"RETRY {name n} {maxRetries} UNLESS-EXIT {permanentFailureExit}" =
      " ".intercalate ["RETRY", name n, "10", "UNLESS-EXIT", "2"] := by
  have hten : toString maxRetries = "10" := by decide
  have htwo : toString permanentFailureExit = "2" := by decide
  calc s!"RETRY {name n} {maxRetries} UNLESS-EXIT {permanentFailureExit}"
      = "RETRY" ++ " " ++ name n ++ " " ++ toString maxRetries ++ (" " ++ ("UNLESS-EXIT" ++ " ")) ++
          toString permanentFailureExit := rfl
    _ = "RETRY" ++ " " ++ name n ++ " " ++ "10" ++ " " ++ "UNLESS-EXIT" ++ " " ++ "2" := by
      rw [hten, htwo]
      simp only [String.append_assoc]
    _ = " ".intercalate ["RETRY", name n, "10", "UNLESS-EXIT", "2"] := rfl

lemma vars_eq (s : PlannedJob) :
    s!"VARS {name s.sequence} " ++ " ".intercalate ((vars s).map assignment) =
      " ".intercalate ("VARS" :: name s.sequence :: (vars s).map assignment) := by
  rw [Text.intercalate_cons (List.cons_ne_nil _ _), Text.intercalate_cons (by simp [vars])]
  have happend : s!"VARS {name s.sequence} " = "VARS" ++ " " ++ name s.sequence ++ " " := rfl
  rw [happend]
  simp only [String.append_assoc]

lemma abort_eq (n : ℕ) :
    s!"ABORT-DAG-ON {name n} {abortExit}" = " ".intercalate ["ABORT-DAG-ON", name n, "3"] := rfl

/-- The six statements are lines of words. -/
lemma statements_eq (ctx : WorkerContext) (task : Task) (s : PlannedJob) :
    statements ctx task s =
      [["JOB", name s.sequence, "Job.submit"], preWords ctx task s, postWords ctx task s,
        ["RETRY", name s.sequence, "10", "UNLESS-EXIT", "2"],
        "VARS" :: name s.sequence :: (vars s).map assignment,
        ["ABORT-DAG-ON", name s.sequence, "3"]].map " ".intercalate := by
  rw [statements, job_eq, retry_eq, vars_eq, abort_eq]
  rfl

/-! ### Reading statements -/

lemma lineFeed_not_mem_intercalate {ws : List String} (h : ∀ w ∈ ws, '\n' ∉ w.toList) :
    '\n' ∉ (" ".intercalate ws).toList := by
  exact (Text.not_mem_toList_intercalate (by decide)).2 h

/-- What the statements about scripts take from the configuration and from the task are tokens. -/
structure Tokens (ctx : WorkerContext) (task : Task) : Prop where
  backendHost : Text.isToken ctx.backendHost = true
  restInstance : Text.isToken ctx.restInstance = true
  restUrl : Text.isToken ctx.restUrl = true
  name : Text.isToken task.name = true
  publishName : Text.isToken task.publishName = true
  jobSw : Text.isToken task.jobSw = true
  asyncDest : Text.isToken task.asyncDest = true

lemma isToken_of_mem_preWords (h : Tokens ctx task) :
    ∀ w ∈ (preWords ctx task s).tail, Text.isToken w = true := by
  simp only [preWords, List.tail_cons, List.forall_mem_cons, List.not_mem_nil, false_imp_iff,
    implies_true, and_true]
  exact ⟨isToken_name _, by decide, by decide, by decide, Text.isToken_toString _, h.name,
    h.backendHost⟩

lemma isToken_of_mem_postWords (h : Tokens ctx task) (hs : s.Tokens) :
    ∀ w ∈ (postWords ctx task s).tail, Text.isToken w = true := by
  have houtputs : ∀ w ∈ s.outputNames, Text.isToken w = true := by
    rw [PlannedJob.outputNames, List.forall_mem_map]
    exact hs.remote
  simp only [postWords, List.cons_append, List.nil_append, List.tail_cons, List.forall_mem_cons]
  exact ⟨isToken_name _, by decide, by decide, by decide, by decide, by decide, by decide,
    h.restInstance, h.restUrl, h.name, Text.isToken_toString _, h.publishName, h.jobSw,
    h.asyncDest, hs.temp, hs.dest, s.isToken_logName, houtputs⟩

/-- Variables are on one line if the URLs are. -/
lemma lineFeed_not_mem_assignment (hs : s.Tokens) (hurls : ∀ url ∈ s.urls, '\n' ∉ url.toList) :
    ∀ v ∈ vars s, '\n' ∉ (assignment v).toList := by
  have hnames : ∀ k ∈ varNames, '\n' ∉ k.toList := by decide
  have hvalues : ∀ v ∈ vars s, '\n' ∉ v.2.toList := by
    rw [vars_eq_append, List.forall_mem_append, List.forall_mem_singleton]
    refine ⟨fun v hv => (framed_of_mem_vars hs v hv).lineFeed_not_mem, ?_⟩
    have hlist : '\n' ∉ (", ".intercalate s.urls).toList :=
      (Text.not_mem_toList_intercalate (by decide)).2 hurls
    simpa [quotedValue] using hlist
  intro v hv
  simpa [assignment] using ⟨hnames v.1 (mem_varNames hv), hvalues v hv⟩

/-- All statements are on one line. -/
lemma lineFeed_not_mem_statements (h : Tokens ctx task) (hs : s.Tokens)
    (hurls : ∀ url ∈ s.urls, '\n' ∉ url.toList) :
    ∀ l ∈ statements ctx task s, '\n' ∉ l.toList := by
  have htokens : ∀ ws : List String, (∀ w ∈ ws, Text.isToken w = true) →
      '\n' ∉ (" ".intercalate ws).toList := fun ws hws =>
    lineFeed_not_mem_intercalate fun w hw => Text.lineFeed_not_mem_of_isToken (hws w hw)
  have hname := isToken_name s.sequence
  rw [statements_eq, List.forall_mem_map]
  simp only [List.forall_mem_cons, List.not_mem_nil, false_imp_iff, implies_true, and_true]
  refine ⟨htokens _ ?_, lineFeed_not_mem_intercalate ?_, lineFeed_not_mem_intercalate ?_,
    htokens _ ?_, lineFeed_not_mem_intercalate ?_, htokens _ ?_⟩
  · simpa using ⟨by decide, hname, by decide⟩
  · exact List.forall_mem_cons.2 ⟨by decide, fun w hw =>
      Text.lineFeed_not_mem_of_isToken (isToken_of_mem_preWords h w hw)⟩
  · exact List.forall_mem_cons.2 ⟨by decide, fun w hw =>
      Text.lineFeed_not_mem_of_isToken (isToken_of_mem_postWords h hs w hw)⟩
  · simpa using ⟨by decide, hname, by decide, by decide, by decide⟩
  · rw [List.forall_mem_cons, List.forall_mem_cons, List.forall_mem_map]
    exact ⟨by decide, Text.lineFeed_not_mem_of_isToken hname, lineFeed_not_mem_assignment hs hurls⟩
  · simpa using ⟨by decide, hname, by decide⟩

/-- The statements about a job read as they are documented. -/
lemma reads_statements {c : Config} (h : Tokens (.ofConfig c) task) (hs : s.Tokens) :
    Reads c task s (statements (.ofConfig c) task s) := by
  have hname := isToken_name s.sequence
  have hpre : Text.words "SCRIPT PRE " = ["SCRIPT", "PRE"] := by decide
  have hpost : Text.words "SCRIPT POST" = ["SCRIPT", "POST"] := by decide
  rw [statements_eq]
  refine .statements ?_ ?_ ?_ ?_ ?_ ?_
  · exact Text.words_intercalate_of_isToken (by simpa using ⟨by decide, hname, by decide⟩)
  · exact (Text.words_intercalate_cons _ (isToken_of_mem_preWords h)).trans (by rw [hpre]; rfl)
  · exact (Text.words_intercalate_cons _ (isToken_of_mem_postWords h hs)).trans
      (by rw [hpost]; rfl)
  · exact Text.words_intercalate_of_isToken
      (by simpa using ⟨by decide, hname, by decide, by decide, by decide⟩)
  · rw [Text.words_intercalate, List.flatMap_cons, List.flatMap_cons,
      Text.words_of_isToken hname, Text.words_of_isToken (by decide)]
    rfl
  · exact Text.words_intercalate_of_isToken (by simpa using ⟨by decide, hname, by decide⟩)

/-- A line that has words is not empty. -/
lemma Reads.ne_empty {c : Config} {ls : List String} (h : Reads c task s ls) :
    ∀ l ∈ ls, l ≠ "" := by
  have hempty : Text.words "" = [] := by decide
  cases h with
  | statements hjob hpre hpost hretry hvars habort =>
    simp only [List.forall_mem_cons, List.not_mem_nil, false_imp_iff, implies_true, and_true]
    refine ⟨?_, ?_, ?_, ?_, ?_, ?_⟩
    · rintro rfl
      rw [hempty] at hjob
      cases hjob
    · rintro rfl
      rw [hempty] at hpre
      cases hpre
    · rintro rfl
      rw [hempty] at hpost
      cases hpost
    · rintro rfl
      rw [hempty] at hretry
      cases hretry
    · rintro rfl
      rw [hempty] at hvars
      cases hvars
    · rintro rfl
      rw [hempty] at habort
      cases habort

/-! ### Reading graphs -/

/-- **The text and its lines.**  The text of a graph comes apart at its line feeds into its lines;
behind the last one there is nothing. -/
theorem split_graphText (h : Tokens ctx task) (hs : ∀ s ∈ jobs, s.Tokens)
    (hurls : ∀ s ∈ jobs, ∀ url ∈ s.urls, '\n' ∉ url.toList) :
    Text.split '\n' (graphText ctx task jobs) = graphLines ctx task jobs ++ [""] := by
  rw [graphText_eq]
  refine Text.split_lines ?_
  rw [graphLines, List.forall_mem_cons, List.forall_mem_cons]
  refine ⟨by decide, by decide, fun l hl => ?_⟩
  obtain ⟨s, hmem, hl⟩ := List.mem_flatMap.1 hl
  rw [List.cons_append, List.mem_cons, List.mem_append, List.mem_singleton] at hl
  rcases hl with rfl | hl | rfl
  · decide
  · exact lineFeed_not_mem_statements h (hs s hmem) (hurls s hmem) l hl
  · decide

/-- The lines that are not empty are the header and the statements. -/
lemma filter_graphLines {c : Config} (h : Tokens (.ofConfig c) task) (hs : ∀ s ∈ jobs, s.Tokens) :
    (graphLines (.ofConfig c) task jobs ++ [""]).filter (fun l => !l.isEmpty) =
      "NODE_STATUS_FILE node_state 30" :: jobs.flatMap (statements (.ofConfig c) task) := by
  have hjobs : (jobs.flatMap fun s => "" :: statements (.ofConfig c) task s ++ [""]).filter
      (fun l => !l.isEmpty) = jobs.flatMap (statements (.ofConfig c) task) := by
    rw [List.filter_flatMap]
    refine List.flatMap_congr fun s hmem => ?_
    have hkeep : ∀ l ∈ statements (.ofConfig c) task s, (!l.isEmpty) = true := by
      intro l hl
      simpa using (reads_statements h (hs s hmem)).ne_empty l hl
    rw [List.cons_append, List.filter_cons_of_neg (by simp), List.filter_append,
      List.filter_eq_self.2 hkeep]
    rfl
  rw [graphLines, List.cons_append, List.filter_cons_of_pos (by decide), List.cons_append,
    List.filter_cons_of_neg (by decide), List.filter_append, hjobs]
  simp

/-- What a plan and a configuration bring to the statements are tokens. -/
lemma tokens_of_plan_eq_ok {c : Config} {services : Services} {r : Request} {p : Plan}
    (hc : c.workerDefect? = none) (hplan : (Compiler.ofConfig c services).plan r = .ok p) :
    Tokens (.ofConfig c) p.task := by
  have ht : p.task.Checked := Task.checked_of_ofRecord (Plan.of_plan_eq_ok hplan).1
  obtain ⟨hhost, hinstance, hurl⟩ := Config.isToken_of_workerDefect? hc
  exact
    { backendHost := hhost
      restInstance := hinstance
      restUrl := hurl
      name := Task.isToken_of_isName ht.name
      publishName := Task.isToken_of_isOutputName ht.publishName
      jobSw := ht.jobSw
      asyncDest := Task.isToken_of_isSiteName ht.asyncDest }

/-- **Reading a graph.**  Let the worker of a configuration have no defects, let a request have a
plan, and let its files have URLs without line feeds.  Of the lines of the graph, those that are not
empty are the header and six for each job, in the order of the jobs' numbers, which begin with one
and, below `2 ^ 32` jobs, fit 32 bits.  The six lines are the statements about that job, and those
about its scripts, read word by word, hold the values of the configuration, the task and the job one
by one at their places. -/
theorem graph_read (c : Config) (services : Services) (r : Request) (p : Plan)
    (urls : ℕ → List String) (hc : c.workerDefect? = none)
    (hplan : (Compiler.ofConfig c services).plan r = .ok p)
    (hurls : ∀ n, ∀ url ∈ urls n, '\n' ∉ url.toList) :
    (Text.split '\n' (graphText (.ofConfig c) p.task (p.placed urls))).filter
        (fun l => !l.isEmpty) =
      "NODE_STATUS_FILE node_state 30" ::
        (p.placed urls).flatMap (statements (.ofConfig c) p.task) ∧
    (p.placed urls).map (·.sequence) = List.range' 1 p.jobs.length ∧
    ∀ s ∈ p.placed urls, Reads c p.task s (statements (.ofConfig c) p.task s) := by
  have htokens := tokens_of_plan_eq_ok hc hplan
  have hjobs : ∀ s ∈ p.placed urls, s.Tokens := Plan.tokens_of_mem_placed hplan
  have hplaced : ∀ s ∈ p.placed urls, ∀ url ∈ s.urls, '\n' ∉ url.toList := by
    intro s hs
    obtain ⟨s, -, rfl⟩ := List.mem_map.1 hs
    exact hurls s.sequence
  refine ⟨?_, ?_, fun s hs => reads_statements htokens (hjobs s hs)⟩
  · rw [split_graphText htokens hjobs hplaced, filter_graphLines htokens hjobs]
  · rw [Plan.map_sequence_placed hplan, Plan.placed, List.length_map]

/-- The graph of the sample request is about three jobs. -/
theorem graph_read_sample :
    ∃ p, (Compiler.ofConfig .sample .external).plan .sample = .ok p ∧
      (p.placed fun n => [s!"root://se/{n}"]).map (·.sequence) = [1, 2, 3] ∧
      ∀ s ∈ p.placed fun n => [s!"root://se/{n}"],
        Reads .sample p.task s (statements (.ofConfig .sample) p.task s) := by
  have hlength : ((Compiler.ofConfig .sample .external).plan .sample).toOption.map
      (fun p => p.jobs.length) = some 3 := by decide +kernel
  obtain ⟨p, hp, hthree⟩ := exists_of_map_toOption hlength
  have hurls : ∀ n : ℕ, ∀ url ∈ [s!"root://se/{n}"], '\n' ∉ url.toList := by
    intro n url hurl
    have happend : url = "root://se/" ++ toString n := List.mem_singleton.1 hurl
    have hplain : Text.Plain url := by
      rw [happend, Text.plain_append]
      exact ⟨by decide, Text.plain_toString n⟩
    exact hplain.not_mem (by decide)
  obtain ⟨-, hnumbers, hreads⟩ := graph_read .sample .external .sample p
    (fun n => [s!"root://se/{n}"]) (by decide +kernel) hp hurls
  rw [hthree] at hnumbers
  exact ⟨p, hp, hnumbers, hreads⟩

end Node

end JobGraph
