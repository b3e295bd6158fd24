import JobGraph.Proofs.Emission.Outcome
import JobGraph.Proofs.Plan.Numbering

/-!
# The stages of a compilation

A compilation plans, asks for URLs, emits the artifacts and enters them at the dashboard; when it
fails, it tells the status store.  Only the emission touches files that are not a service's own.
`Compiler.run_compile_cases` takes a compilation apart into what was planned, how its emission
ended, and what the services may have changed after that.
-/

namespace JobGraph

/-- The names of the three artifacts of a task. -/
def Artifact.names : List String := [graphFile, submitFile, siteFile]

namespace Compiler

open World (ChangesOnly Confined)

variable {σ : Type} {w : World σ} {store : σ → FileStore} {c : Compiler}
  {records notices : Path → Prop}

/-- The jobs of a plan, with the URLs that the placement service has for them. -/
def located (w : World σ) (c : Compiler) (p : Plan) (s : σ) : List PlannedJob :=
  (w.run (c.resolveUrls p.task.asyncDest p.jobs) s).1.1

/-- The warnings about URLs that the placement service does not have. -/
def placementWarnings (w : World σ) (c : Compiler) (p : Plan) (s : σ) : List Warning :=
  (w.run (c.resolveUrls p.task.asyncDest p.jobs) s).1.2

/-- The artifacts of a plan, as they are made for it in a state of the world. -/
def rendered (w : World σ) (c : Compiler) (p : Plan) (s : σ) : List Artifact :=
  Assembly.artifactsOf c.context p.task p.throttle (c.located w p s)

/-- What is made for a plan: its artifacts, and the entries for the dashboard. -/
def assembled (w : World σ) (c : Compiler) (p : Plan) (s : σ) : Assembly :=
  { artifacts := c.rendered w p s
    throttle := p.throttle
    taskEntry := .ofTask c.context p.task
    jobEntries := (c.located w p s).map (.ofJob c.context p.task) }

/-- What the emission of a plan answers, and the state of the world after it. -/
def emitted (w : World σ) (c : Compiler) (token : String) (p : Plan) (s : σ) :
    Except Failure Unit × σ :=
  w.run (Emission.writeAll (c.workDir p.task.name) token (c.rendered w p s))
    (w.run (c.resolveUrls p.task.asyncDest p.jobs) s).2

/-- The result of a compilation, of which the process and the number in it are given, and the state
of the world after it. -/
def compiled (w : World σ) (c : Compiler) (process call : Nat) (r : Request) (s : σ) :
    Except Error Compilation × σ :=
  w.run (c.compile (Emission.token process call) r) s

/-! ### Names -/

lemma map_name_artifactsOf (ctx : WorkerContext) (task : Task) (throttle : Nat)
    (jobs : List PlannedJob) :
    (Assembly.artifactsOf ctx task throttle jobs).map (·.name) = Artifact.names := rfl

lemma isName_of_mem_names {n : String} (h : n ∈ Artifact.names) : Path.IsName n := by
  simp only [Artifact.names, List.mem_cons, List.not_mem_nil, or_false] at h
  rcases h with rfl | rfl | rfl
  all_goals exact ⟨by decide, by decide, by decide, by decide⟩

lemma visible_of_mem_names {n : String} (h : n ∈ Artifact.names) :
    n.toList.head? ≠ some '.' := by
  simp only [Artifact.names, List.mem_cons, List.not_mem_nil, or_false] at h
  rcases h with rfl | rfl | rfl
  all_goals decide

/-- The three artifacts of a task can stand side by side. -/
lemma orderly_rendered (w : World σ) (c : Compiler) (p : Plan) (s : σ) :
    Emission.Orderly (c.rendered w p s) :=
  { isName := fun _ ha => isName_of_mem_names (List.mem_map_of_mem (f := Artifact.name) ha)
    visible := fun _ ha => visible_of_mem_names (List.mem_map_of_mem (f := Artifact.name) ha)
    nodup := by
      rw [rendered, map_name_artifactsOf]
      decide }

/-! ### Services -/

/-- Asking for URLs leaves all files alone. -/
lemma changesOnly_resolveUrls (hv : Confined w store c.services records notices) (site : String)
    (jobs : List PlannedJob) :
    ChangesOnly w store (fun _ => False) (c.resolveUrls site jobs) := by
  induction jobs with
  | nil => exact World.changesOnly_pure _
  | cons job jobs ih =>
    have hask : ChangesOnly w store (fun _ => False) (c.askUrls site job) := by
      refine (hv.resolve _ _).bind fun answer => ?_
      cases answer <;> exact World.changesOnly_pure _
    refine (hask.retry c.retry).bind fun answer => ?_
    cases answer with
    | error e => exact World.changesOnly_pure _
    | ok r => exact ih.bind fun _ => World.changesOnly_pure _

lemma changesOnly_enterJobs (hv : Confined w store c.services records notices)
    (entries : List Dashboard.JobEntry) : ChangesOnly w store records (c.enterJobs entries) := by
  induction entries with
  | nil => exact World.changesOnly_pure _
  | cons r rs ih =>
    refine ((hv.enterJob r).retry c.retry).bind fun _ => ?_
    exact ih.bind fun _ => World.changesOnly_pure _

/-- Entering a task at the dashboard changes the files of the dashboard at most. -/
lemma changesOnly_enterAll (hv : Confined w store c.services records notices) (a : Assembly) :
    ChangesOnly w store records (c.enterAll a) := by
  refine ((hv.enterTask a.taskEntry).retry c.retry).bind fun _ => ?_
  refine (changesOnly_enterJobs hv _).bind fun _ => ?_
  dsimp only
  split <;> exact World.changesOnly_pure _

/-- Telling about a failure changes the files of the status store at most. -/
lemma changesOnly_report (hv : Confined w store c.services records notices) (r : TaskRecord)
    (e : Error) :
    ChangesOnly w store notices (FailureReport.report c.services.noteFailure c.retry r e) := by
  rw [FailureReport.report]
  split
  · exact World.changesOnly_pure _
  · exact ((hv.noteFailure _).retry c.retry).bind fun _ => World.changesOnly_pure _

/-! ### The jobs -/

/-- Asking for URLs changes nothing else about the jobs. -/
lemma map_resolveUrls (w : World σ) (c : Compiler) (site : String) (jobs : List PlannedJob)
    (s : σ) :
    (w.run (c.resolveUrls site jobs) s).1.1.map (fun job => { job with urls := [] }) =
      jobs.map fun job => { job with urls := [] } := by
  induction jobs generalizing s with
  | nil => rfl
  | cons job jobs ih =>
    rw [resolveUrls, World.run_bind]
    split
    · rfl
    · rw [World.run_bind, World.run_pure, List.map_cons, ih, List.map_cons]

lemma length_resolveUrls (w : World σ) (c : Compiler) (site : String) (jobs : List PlannedJob)
    (s : σ) : (w.run (c.resolveUrls site jobs) s).1.1.length = jobs.length := by
  simpa using congrArg List.length (map_resolveUrls w c site jobs s)

/-- Asking for URLs warns of files without any, and of the placement service. -/
lemma mem_warnings_resolveUrls (site : String) (jobs : List PlannedJob) (s : σ) {warning : Warning}
    (h : warning ∈ (w.run (c.resolveUrls site jobs) s).1.2) :
    (∃ job unresolved, warning = .unplaced job site unresolved) ∨
      ∃ message, warning = .degraded placementName message := by
  induction jobs generalizing s with
  | nil => cases h
  | cons job jobs ih =>
    rw [resolveUrls, World.run_bind] at h
    split at h
    · exact Or.inr ⟨_, List.mem_singleton.1 h⟩
    · rw [World.run_bind, World.run_pure, List.mem_append] at h
      rcases h with h | h
      · rw [unplacedWarnings] at h
        split at h
        · cases h
        · exact Or.inl ⟨_, _, List.mem_singleton.1 h⟩
      · exact ih _ h

/-- Entering a task at the dashboard warns of the dashboard. -/
lemma mem_warnings_enterAll (a : Assembly) (s : σ) {warning : Warning}
    (h : warning ∈ (w.run (c.enterAll a) s).1) :
    ∃ message, warning = .degraded Dashboard.service message := by
  rw [enterAll, World.run_bind, World.run_bind] at h
  dsimp only at h
  split at h
  · cases h
  · exact ⟨_, List.mem_singleton.1 h⟩

/-- The jobs are those of the plan, in order. -/
lemma map_sequence_located (w : World σ) (c : Compiler) (p : Plan) (s : σ) :
    (c.located w p s).map (·.sequence) = p.jobs.map (·.sequence) := by
  have hjobs := congrArg (List.map (·.sequence)) (map_resolveUrls w c p.task.asyncDest p.jobs s)
  rw [List.map_map, List.map_map] at hjobs
  exact hjobs

/-! ### The stages -/

/-- Work that succeeds is not reported. -/
lemma run_guarded_ok {α : Type} {put : FailureNotice → Program (Except Error Unit)}
    {retry : Attempts} {r : TaskRecord} {work : Program (Except Error α)} {s : σ} {a : α}
    (h : (w.run work s).1 = .ok a) :
    w.run (FailureReport.guarded put retry r work) s = (.ok a, (w.run work s).2) := by
  rw [FailureReport.guarded, World.run_bind, h]
  rfl

/-- Work that fails is reported, and fails all the same. -/
lemma run_guarded_error {α : Type} {put : FailureNotice → Program (Except Error Unit)}
    {retry : Attempts} {r : TaskRecord} {work : Program (Except Error α)} {s : σ} {e : Error}
    (h : (w.run work s).1 = .error e) :
    w.run (FailureReport.guarded put retry r work) s =
      (.error e, (w.run (FailureReport.report put retry r e) (w.run work s).2).2) := by
  rw [FailureReport.guarded, World.run_bind, h]
  dsimp only
  rw [World.run_bind, World.run_pure]

/-- The artifacts of a plan are made, as it has a job. -/
lemma ofJobs_located {p : Plan} (hjobs : p.jobs ≠ [])
    (hlimit : p.throttle = c.throttle.limit p.jobs.length) (s : σ) :
    Assembly.ofJobs c.context p.task c.throttle (c.located w p s) = .ok (c.assembled w p s) := by
  have hlen : (c.located w p s).length = p.jobs.length := length_resolveUrls w c _ _ s
  have hsome : (c.located w p s).isEmpty = false := by
    rw [List.isEmpty_eq_false_iff, ← List.length_pos_iff, hlen, List.length_pos_iff]
    exact hjobs
  rw [Assembly.ofJobs, hsome, assembled, rendered, hlimit, hlen]
  rfl

/-- What is left to do for a plan fails as its emission does. -/
lemma run_carryOut_of_error {token : String} {p : Plan} (hjobs : p.jobs ≠ [])
    (hlimit : p.throttle = c.throttle.limit p.jobs.length) {s s' : σ} {f : Failure}
    (h : c.emitted w token p s = (.error f, s')) :
    w.run (c.carryOut token p) s = (.error (.other f), s') := by
  rw [carryOut, World.run_bind]
  dsimp only
  rw [← located, ofJobs_located hjobs hlimit]
  dsimp only
  rw [World.run_bind]
  dsimp only [assembled]
  rw [← emitted, h]
  rfl

/-- If the emission of a plan succeeds, then what was made is entered at the dashboard, and the
warnings of the placement service are followed by those of the dashboard. -/
lemma run_carryOut_of_emitted {token : String} {p : Plan} (hjobs : p.jobs ≠ [])
    (hlimit : p.throttle = c.throttle.limit p.jobs.length) {s s' : σ}
    (h : c.emitted w token p s = (.ok (), s')) :
    w.run (c.carryOut token p) s =
      (.ok ⟨p.task.name, c.workDir p.task.name, p.jobCount, p.throttle,
        c.placementWarnings w p s ++ (w.run (c.enterAll (c.assembled w p s)) s').1⟩,
        (w.run (c.enterAll (c.assembled w p s)) s').2) := by
  have hlen : (c.located w p s).length = p.jobCount := length_resolveUrls w c _ _ s
  rw [carryOut, World.run_bind]
  dsimp only
  rw [← located, ofJobs_located hjobs hlimit]
  dsimp only
  rw [World.run_bind]
  dsimp only [assembled]
  rw [← emitted, h]
  dsimp only
  rw [World.run_bind, World.run_pure, hlen, placementWarnings]

/-- If the emission of a plan succeeds, then only the dashboard is told, whatever it answers. -/
lemma run_carryOut_of_ok {token : String} {p : Plan} (hjobs : p.jobs ≠ [])
    (hlimit : p.throttle = c.throttle.limit p.jobs.length) {s s' : σ}
    (h : c.emitted w token p s = (.ok (), s')) :
    ∃ warnings, w.run (c.carryOut token p) s =
      (.ok ⟨p.task.name, c.workDir p.task.name, p.jobCount, p.throttle, warnings⟩,
        (w.run (c.enterAll (c.assembled w p s)) s').2) :=
  ⟨_, run_carryOut_of_emitted hjobs hlimit h⟩

/-- A request with a plan is compiled as its artifacts are emitted, with the warnings of the
placement service and then those of the dashboard. -/
lemma run_compile_of_plan (token : String) {r : Request} {p : Plan} (h : c.plan r = .ok p)
    (s : σ) :
    (w.run (c.compile token r) s).1 =
      ((c.emitted w token p s).1.mapError Error.other).map fun _ =>
        ⟨p.task.name, c.workDir p.task.name, p.jobCount, p.throttle, c.placementWarnings w p s ++
          (w.run (c.enterAll (c.assembled w p s)) (c.emitted w token p s).2).1⟩ := by
  obtain ⟨-, hlimit, hjobs⟩ := Plan.of_plan_eq_ok h
  rw [compile, h]
  cases hemitted : c.emitted w token p s with
  | mk answer s' =>
    cases answer with
    | error f =>
      have hrun := run_carryOut_of_error hjobs hlimit hemitted
      rw [run_guarded_error (by rw [hrun])]
      rfl
    | ok u =>
      have hrun := run_carryOut_of_emitted hjobs hlimit hemitted
      rw [run_guarded_ok (by rw [hrun])]
      rfl

/-- What is left to do for a plan fails as its emission does; and if the emission succeeds, only
the dashboard is told of it. -/
lemma run_carryOut (hv : Confined w store c.services records notices) (token : String) {p : Plan}
    (hjobs : p.jobs ≠ []) (hlimit : p.throttle = c.throttle.limit p.jobs.length) (s : σ) :
    ∃ s', (store s').view = (store s).view ∧
      ((∃ f s'', w.run (Emission.writeAll (c.workDir p.task.name) token (c.rendered w p s)) s' =
            (.error f, s'') ∧
          w.run (c.carryOut token p) s = (.error (.other f), s'')) ∨
        (∃ s'' k, w.run (Emission.writeAll (c.workDir p.task.name) token (c.rendered w p s)) s' =
            (.ok (), s'') ∧
          (w.run (c.carryOut token p) s).1 = .ok k ∧ k.workDir = c.workDir p.task.name ∧
          ∀ q, ¬ records q → (store (w.run (c.carryOut token p) s).2).contents? q =
            (store s'').contents? q)) := by
  refine ⟨(w.run (c.resolveUrls p.task.asyncDest p.jobs) s).2, ?_, ?_⟩
  · exact FileStore.view_ext fun q => changesOnly_resolveUrls hv _ _ s q id
  cases hemitted : c.emitted w token p s with
  | mk answer s'' =>
    cases answer with
    | error f => exact Or.inl ⟨f, s'', hemitted, run_carryOut_of_error hjobs hlimit hemitted⟩
    | ok u =>
      obtain ⟨warnings, hrun⟩ := run_carryOut_of_ok hjobs hlimit hemitted
      rw [hrun]
      exact Or.inr ⟨s'', _, hemitted, rfl, rfl, fun q hq => changesOnly_enterAll hv _ s'' q hq⟩

/-- **A compilation, taken apart.**  A request that has no plan is given up at once.  Otherwise the
artifacts that are made for its plan are emitted, the files being as before; if that fails, so does
the compilation, and if it succeeds, so does the compilation.  What happens after that concerns the
files of the status store in the first two cases and those of the dashboard in the third. -/
theorem run_compile_cases (hw : w.Filed store)
    (hv : Confined w store c.services records notices) {token : String} (ht : '/' ∉ token.toList)
    (r : Request) (s : σ) :
    (∃ e, c.plan r = .error e ∧ (w.run (c.compile token r) s).1 = .error e ∧
      ∀ q, ¬ notices q →
        (store (w.run (c.compile token r) s).2).contents? q = (store s).contents? q) ∨
    (∃ p f after, c.plan r = .ok p ∧
      Emission.Outcome (c.workDir p.task.name) token (c.rendered w p s) (store s).view (.error f)
        after ∧
      (w.run (c.compile token r) s).1 = .error (.other f) ∧
      ∀ q, ¬ notices q →
        (store (w.run (c.compile token r) s).2).contents? q = after q.components) ∨
    (∃ p k after, c.plan r = .ok p ∧
      Emission.Outcome (c.workDir p.task.name) token (c.rendered w p s) (store s).view (.ok ())
        after ∧
      (w.run (c.compile token r) s).1 = .ok k ∧ k.workDir = c.workDir p.task.name ∧
      ∀ q, ¬ records q →
        (store (w.run (c.compile token r) s).2).contents? q = after q.components) := by
  rw [compile]
  cases hp : c.plan r with
  | error e =>
    -- without a plan nothing is asked, and only the status store is told
    dsimp only
    rw [run_guarded_error rfl]
    exact Or.inl ⟨e, rfl, rfl, fun q hq => changesOnly_report hv r.task e s q hq⟩
  | ok p =>
    dsimp only
    obtain ⟨-, hlimit, hjobs⟩ := Plan.of_plan_eq_ok hp
    obtain ⟨s', hview, hemit⟩ := run_carryOut hv token hjobs hlimit s
    have houtcome := Emission.writeAll_outcome hw ht (orderly_rendered w c p s)
      (c.workDir p.task.name) s'
    rw [hview] at houtcome
    rcases hemit with ⟨f, s'', hwrite, hcarry⟩ | ⟨s'', k, hwrite, hok, hdir, hrecords⟩
    · rw [hwrite] at houtcome
      have herror : (w.run (c.carryOut token p) s).1 = .error (.other f) := by rw [hcarry]
      rw [run_guarded_error herror, hcarry]
      exact Or.inr (Or.inl ⟨p, f, _, rfl, houtcome, rfl,
        fun q hq => changesOnly_report hv r.task _ s'' q hq⟩)
    · rw [hwrite] at houtcome
      rw [run_guarded_ok hok]
      exact Or.inr (Or.inr ⟨p, k, _, rfl, houtcome, rfl, hdir, hrecords⟩)

end Compiler

end JobGraph
