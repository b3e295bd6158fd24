import JobGraph.Proofs.Compilation.Stages
import JobGraph.Proofs.Emission.Restart
import JobGraph.Proofs.Program.Trying

/-!
# What a compilation asks for

A stage of a compilation asks for what its service asks for, and the emission asks for file
operations: `Compiler.within_carryOut`.  What is asked for by a compilation is what its stages ask
for, one after the other; it ends with the dashboard if the artifacts have been emitted
(`Compiler.history_compile_of_emitted`), and with the status store if they have not
(`Compiler.history_compile_of_refused`).
-/

namespace JobGraph.Compiler

variable {σ : Type} {w : World σ} {c : Compiler} {E : Effect → Prop}

/-! ### Single stages -/

lemma within_resolveUrls
    (h : ∀ sites paths, (c.services.resolve sites paths).Within E fun _ => True) (site : String)
    (jobs : List PlannedJob) : (c.resolveUrls site jobs).Within E fun _ => True := by
  induction jobs with
  | nil => exact Program.within_pure trivial
  | cons job jobs ih =>
    have hask : (c.askUrls site job).Within E fun _ => True := by
      refine (h _ _).bind fun answer _ => ?_
      cases answer <;> exact Program.within_pure trivial
    refine (hask.retry c.retry).bind fun answer _ => ?_
    cases answer with
    | error e => exact Program.within_pure trivial
    | ok r => exact ih.bind fun _ _ => Program.within_pure trivial

lemma within_enterJobs (h : ∀ entry, (c.services.enterJob entry).Within E fun _ => True)
    (entries : List Dashboard.JobEntry) : (c.enterJobs entries).Within E fun _ => True := by
  induction entries with
  | nil => exact Program.within_pure trivial
  | cons r rs ih =>
    refine ((h r).retry c.retry).bind fun _ _ => ?_
    exact ih.bind fun _ _ => Program.within_pure trivial

lemma within_enterAll (htask : ∀ entry, (c.services.enterTask entry).Within E fun _ => True)
    (hjob : ∀ entry, (c.services.enterJob entry).Within E fun _ => True) (a : Assembly) :
    (c.enterAll a).Within E fun _ => True := by
  refine ((htask a.taskEntry).retry c.retry).bind fun _ _ => ?_
  refine (within_enterJobs hjob _).bind fun _ _ => ?_
  dsimp only
  split <;> exact Program.within_pure trivial

lemma within_writeAll (h : ∀ op, E (.file op)) (dir : Path) (token : String)
    (artifacts : List Artifact) :
    (Emission.writeAll dir token artifacts).Within E fun _ => True := by
  refine (Emission.within_writeAll dir token artifacts).mono fun e he => ?_
  -- an emission asks for file operations and for nothing else
  cases e with
  | file op => exact h op
  | _ => exact absurd he id

lemma within_report (h : ∀ notice, (c.services.noteFailure notice).Within E fun _ => True)
    (r : TaskRecord) (e : Error) :
    (FailureReport.report c.services.noteFailure c.retry r e).Within E fun _ => True := by
  rw [FailureReport.report]
  split
  · exact Program.within_pure trivial
  · exact ((h _).retry c.retry).bind fun _ _ => Program.within_pure trivial

/-- Work that is reported if it fails asks for what it asks for itself, and for what the status
store asks for. -/
lemma within_guarded {α : Type}
    (h : ∀ notice, (c.services.noteFailure notice).Within E fun _ => True) (r : TaskRecord)
    {work : Program (Except Error α)} (hwork : work.Within E fun _ => True) :
    (FailureReport.guarded c.services.noteFailure c.retry r work).Within E fun _ => True := by
  refine hwork.bind fun answer _ => ?_
  cases answer with
  | ok a => exact Program.within_pure trivial
  | error e => exact (within_report h r e).bind fun _ _ => Program.within_pure trivial

/-- What is left to do for a plan once its jobs have their URLs. -/
def carryOn (c : Compiler) (token : String) (p : Plan) :
    List PlannedJob × List Warning → Program (Except Error Compilation)
  | (jobs, placementWarnings) =>
    match Assembly.ofJobs c.context p.task c.throttle jobs with
    | .error e => pure (.error e)
    | .ok assembly => do
      let dir := c.workDir p.task.name
      match ← Emission.writeAll dir token assembly.artifacts with
      | .error e => pure (.error (.other e))
      | .ok () =>
        let dashboardWarnings ← c.enterAll assembly
        pure (.ok {
          taskName := p.task.name
          workDir := dir
          jobCount := jobs.length
          throttle := assembly.throttle
          warnings := placementWarnings ++ dashboardWarnings })

lemma carryOut_eq_bind (c : Compiler) (token : String) (p : Plan) :
    c.carryOut token p = c.resolveUrls p.task.asyncDest p.jobs >>= c.carryOn token p := rfl

/-- A request with a plan is compiled by asking for URLs, and then by what is left to do, which is
reported if it fails. -/
lemma compile_eq_bind (token : String) {r : Request} {p : Plan} (hp : c.plan r = .ok p) :
    c.compile token r = c.resolveUrls p.task.asyncDest p.jobs >>= fun located =>
      FailureReport.guarded c.services.noteFailure c.retry r.task (c.carryOn token p located) := by
  rw [compile, hp]
  dsimp only
  rw [carryOut_eq_bind, FailureReport.guarded, bind_assoc]
  rfl

/-- Once the jobs have their URLs, what is asked for is what the dashboard asks for, and file
operations. -/
lemma within_carryOn (htask : ∀ entry, (c.services.enterTask entry).Within E fun _ => True)
    (hjob : ∀ entry, (c.services.enterJob entry).Within E fun _ => True)
    (hfile : ∀ op, E (.file op)) (token : String) (p : Plan)
    (located : List PlannedJob × List Warning) :
    (c.carryOn token p located).Within E fun _ => True := by
  rw [carryOn]
  split
  · exact Program.within_pure trivial
  · refine (within_writeAll hfile _ _ _).bind fun answer _ => ?_
    cases answer with
    | error e => exact Program.within_pure trivial
    | ok u => exact (within_enterAll htask hjob _).bind fun _ _ => Program.within_pure trivial

/-- What is left to do for a plan asks for what placement and dashboard ask for, and for file
operations. -/
lemma within_carryOut
    (hresolve : ∀ sites paths, (c.services.resolve sites paths).Within E fun _ => True)
    (htask : ∀ entry, (c.services.enterTask entry).Within E fun _ => True)
    (hjob : ∀ entry, (c.services.enterJob entry).Within E fun _ => True)
    (hfile : ∀ op, E (.file op)) (token : String) (p : Plan) :
    (c.carryOut token p).Within E fun _ => True := by
  rw [carryOut_eq_bind]
  exact (within_resolveUrls hresolve _ _).bind fun located _ =>
    within_carryOn htask hjob hfile token p located

/-! ### One stage after the other -/

/-- What is asked for a plan until its emission has been answered: URLs, and file operations. -/
def prepared (w : World σ) (c : Compiler) (token : String) (p : Plan) (s : σ) : List Event :=
  w.history (c.resolveUrls p.task.asyncDest p.jobs) s ++
    w.history (Emission.writeAll (c.workDir p.task.name) token (c.rendered w p s))
      (w.run (c.resolveUrls p.task.asyncDest p.jobs) s).2

/-- Until the emission has been answered, no service but that of placement is asked. -/
lemma filterMap_prepared {γ : Type} {f : Event → Option γ}
    (hfile : ∀ op, (Effect.file op).Unseen f) (token : String) (p : Plan) (s : σ) :
    (c.prepared w token p s).filterMap f =
      w.seen f (c.resolveUrls p.task.asyncDest p.jobs) s := by
  have hwrite := World.seen_eq_nil (w := w) (within_writeAll hfile (c.workDir p.task.name) token
    (c.rendered w p s)) (w.run (c.resolveUrls p.task.asyncDest p.jobs) s).2
  rw [World.seen] at hwrite
  rw [prepared, List.filterMap_append, hwrite, List.append_nil, World.seen]

/-- What a plan asks for after its emission depends on the answer: what was made is entered at the
dashboard, or nothing is asked any more. -/
lemma history_carryOut (token : String) {p : Plan} (hjobs : p.jobs ≠ [])
    (hlimit : p.throttle = c.throttle.limit p.jobs.length) (s : σ) :
    w.history (c.carryOut token p) s = c.prepared w token p s ++
      match c.emitted w token p s with
      | (.ok (), s') => w.history (c.enterAll (c.assembled w p s)) s'
      | (.error _, _) => [] := by
  rw [carryOut, World.history_bind]
  dsimp only
  rw [← located, ofJobs_located hjobs hlimit]
  dsimp only
  rw [World.history_bind, prepared, List.append_assoc]
  dsimp only [assembled]
  rw [← emitted]
  obtain ⟨answer, s'⟩ := c.emitted w token p s
  cases answer with
  | error f => rfl
  | ok u =>
    dsimp only
    rw [World.history_bind, World.history_pure, List.append_nil]

/-- If the artifacts have been emitted, what was made is entered at the dashboard, and that is the
end. -/
theorem history_compile_of_emitted {token : String} {r : Request} {p : Plan}
    (hp : c.plan r = .ok p) {s s' : σ} (h : c.emitted w token p s = (.ok (), s')) :
    w.history (c.compile token r) s =
      c.prepared w token p s ++ w.history (c.enterAll (c.assembled w p s)) s' := by
  obtain ⟨-, hlimit, hjobs⟩ := Plan.of_plan_eq_ok hp
  rw [compile, hp, FailureReport.guarded, World.history_bind]
  dsimp only
  rw [history_carryOut token hjobs hlimit, run_carryOut_of_emitted hjobs hlimit h, h]
  exact List.append_nil _

/-- If the emission has failed, the failure is reported, and that is the end. -/
theorem history_compile_of_refused {token : String} {r : Request} {p : Plan}
    (hp : c.plan r = .ok p) {s s' : σ} {f : Failure}
    (h : c.emitted w token p s = (.error f, s')) :
    w.history (c.compile token r) s = c.prepared w token p s ++
      w.history (FailureReport.report c.services.noteFailure c.retry r.task (.other f)) s' := by
  obtain ⟨-, hlimit, hjobs⟩ := Plan.of_plan_eq_ok hp
  rw [compile, hp, FailureReport.guarded, World.history_bind]
  dsimp only
  rw [history_carryOut token hjobs hlimit, run_carryOut_of_error hjobs hlimit h, h]
  dsimp only
  rw [World.history_bind, World.history_pure, List.append_nil, List.append_nil]

end JobGraph.Compiler
