import JobGraph.Proofs.Artifact.SubmitLines
import JobGraph.Proofs.Compilation.Asking

/-!
# Predicting compilations

Whether a request is compiled, and to what, is settled by its plan and by the emission of its
artifacts.  The services may answer what they like: the placement service decides on URLs, the
dashboard on warnings, and the status store on nothing.

The main result is `Compiler.compile_predicted`.
-/

namespace JobGraph.Compiler

open World (Filed)

variable {σ : Type} {w : World σ} {c : Compiler} {r : Request} {s : σ}

/-- The submit file of a plan is among its artifacts, with the limit of the plan. -/
lemma exists_submit_mem_rendered (w : World σ) (c : Compiler) {p : Plan} (s : σ)
    (ht : p.task.Checked) :
    ∃ text, ⟨Artifact.submitFile, text⟩ ∈ c.rendered w p s ∧
      (Text.split '\n' text).filter (fun l => SubmitFile.key l = "+CRAB_MaxPost") =
        ["+CRAB_MaxPost = " ++ toString p.throttle] := by
  refine ⟨SubmitFile.text c.context p.task (Destinations.ofTask p.task).temp p.throttle, ?_,
    SubmitFile.filter_maxPost ht⟩
  rw [rendered, Assembly.artifactsOf]
  exact List.mem_cons_of_mem _ List.mem_cons_self

/-- Where files are kept, an emission that succeeds has put every artifact in its place. -/
lemma contents?_emitted {store : σ → FileStore} (hw : w.Filed store) {token : String}
    (ht : '/' ∉ token.toList) {p : Plan}
    (h : (c.emitted w token p s).1 = .ok ()) {a : Artifact}
    (ha : a ∈ c.rendered w p s) :
    (store (c.emitted w token p s).2).contents? (Emission.place (c.workDir p.task.name) a.name) =
      some a.contents.toUTF8 := by
  have horderly := orderly_rendered w c p s
  have houtcome := Emission.writeAll_outcome hw ht horderly (c.workDir p.task.name)
    (w.run (c.resolveUrls p.task.asyncDest p.jobs) s).2
  rw [← emitted, h] at houtcome
  have hplace := houtcome.at_place horderly ha
  rwa [FileStore.view_components] at hplace

/-- A request without a plan is given up with the error of planning, and the status store is all
that is asked before that. -/
lemma within_compile_of_error (token : String) {E : Effect → Prop} {e : Error}
    (h : c.plan r = .error e)
    (hnote : ∀ notice, (c.services.noteFailure notice).Within E fun _ => True) :
    (c.compile token r).Within E fun result => result = .error e := by
  rw [compile, h, FailureReport.guarded]
  -- the work itself asks for nothing and ends with the error
  refine (Program.within_pure rfl : Program.Within E (fun x => x = .error e) _).bind ?_
  rintro _ rfl
  exact (within_report hnote _ e).bind fun _ _ => Program.within_pure rfl

/-- A request with a plan is compiled as its artifacts are emitted. -/
lemma run_compile_of_ok (token : String) {p : Plan} (h : c.plan r = .ok p) :
    ∃ warnings, (w.run (c.compile token r) s).1 =
      ((c.emitted w token p s).1.mapError Error.other).map fun _ =>
        ⟨p.task.name, c.workDir p.task.name, p.jobCount, p.throttle, warnings⟩ :=
  ⟨_, run_compile_of_plan token h s⟩

/-- After an emission that succeeds, a compilation enters what it has made at the dashboard, and does
nothing else. -/
lemma run_compile_after_emission (token : String) {p : Plan} (h : c.plan r = .ok p)
    (hok : (c.emitted w token p s).1 = .ok ()) :
    (w.run (c.compile token r) s).2 =
      (w.run (c.enterAll (c.assembled w p s)) (c.emitted w token p s).2).2 := by
  obtain ⟨-, hlimit, hjobs⟩ := Plan.of_plan_eq_ok h
  obtain ⟨warnings, hrun⟩ := run_carryOut_of_ok hjobs hlimit (Prod.ext hok rfl)
  rw [compile, h, run_guarded_ok (by rw [hrun]), hrun]

/-- **A plan predicts the compilation.**  In every world, whatever it answers, and for all services.
A request that cannot be planned fails with the error of planning, and nothing is asked for but what
telling the status store asks for: no file of an artifact is touched.  A request that can be planned
is compiled if its artifacts are emitted, and fails with the error of the emission otherwise; the
task, the number of jobs and the limit on closing scripts are those of the plan.  The submit file
among these artifacts has exactly one line with the key of that limit, and it holds the limit of the
plan; where files are kept, it is in its place after the emission, and all that comes after that is
to enter the task and its jobs at the dashboard. -/
theorem compile_predicted (w : World σ) (c : Compiler) (process call : Nat) (r : Request) (s : σ) :
    (∀ e, c.plan r = .error e →
      (compiled w c process call r s).1 = .error e ∧
      ∀ E : Effect → Prop, (∀ notice, (c.services.noteFailure notice).Within E fun _ => True) →
        (c.compile (Emission.token process call) r).Within E fun result => result = .error e) ∧
    (∀ p, c.plan r = .ok p →
      (∃ warnings, (compiled w c process call r s).1 =
        ((c.emitted w (Emission.token process call) p s).1.mapError Error.other).map fun _ =>
          ⟨p.task.name, c.workDir p.task.name, p.jobCount, p.throttle, warnings⟩) ∧
      ∃ text, ⟨Artifact.submitFile, text⟩ ∈ c.rendered w p s ∧
        (Text.split '\n' text).filter (fun l => SubmitFile.key l = "+CRAB_MaxPost") =
          ["+CRAB_MaxPost = " ++ toString p.throttle] ∧
        ((c.emitted w (Emission.token process call) p s).1 = .ok () →
          (compiled w c process call r s).2 =
            (w.run (c.enterAll (c.assembled w p s))
              (c.emitted w (Emission.token process call) p s).2).2 ∧
          ∀ store : σ → FileStore, w.Filed store →
            (store (c.emitted w (Emission.token process call) p s).2).contents?
              (Emission.place (c.workDir p.task.name) Artifact.submitFile) =
                some text.toUTF8)) := by
  refine ⟨fun e he => ⟨?_, fun E hnote => within_compile_of_error _ he hnote⟩, fun p hp => ?_⟩
  · have hwithin := within_compile_of_error (Emission.token process call) he fun notice =>
      (c.services.noteFailure notice).within_true
    exact hwithin.run w s
  · have ht : p.task.Checked := Task.checked_of_ofRecord (Plan.of_plan_eq_ok hp).1
    obtain ⟨text, hmem, hline⟩ := exists_submit_mem_rendered w c s ht
    refine ⟨run_compile_of_ok _ hp, text, hmem, hline, fun hok => ?_⟩
    refine ⟨run_compile_after_emission _ hp hok, fun store hw => ?_⟩
    have hplace := contents?_emitted hw (Emission.slash_not_mem_token process call) hok hmem
    exact hplace

/-- In a world that keeps files and has no services, the sample request is compiled as planned, and
a request with an empty record fails as planned. -/
theorem compile_predicted_absent :
    (∃ p k, (sample .external).plan .sample = .ok p ∧
      (compiled (.ofFiles FileStore.perform) (sample .external) 1 0 .sample .empty).1 = .ok k ∧
      k.taskName = p.task.name ∧ k.jobCount = p.jobCount ∧ k.throttle = p.throttle ∧
      ∃ text, (Text.split '\n' text).filter (fun l => SubmitFile.key l = "+CRAB_MaxPost") =
          ["+CRAB_MaxPost = " ++ toString p.throttle] ∧
        ((sample .external).emitted (.ofFiles FileStore.perform) (Emission.token 1 0) p
          .empty).2.contents? (Emission.place ((sample .external).workDir p.task.name)
            Artifact.submitFile) = some text.toUTF8) ∧
    ∃ e, (sample .external).plan ⟨.empty, []⟩ = .error e ∧
      (compiled (.ofFiles FileStore.perform) (sample .external) 1 0 ⟨.empty, []⟩ .empty).1 =
        .error e := by
  have hplanned : ((sample .external).plan .sample).isOk = true := by decide +kernel
  have hcompiled : (compiled (.ofFiles FileStore.perform) (sample .external) 1 0 .sample
      .empty).1.isOk = true := by decide +kernel
  have hunplanned : ((sample .external).plan ⟨.empty, []⟩).isOk = false := by decide +kernel
  refine ⟨?_, ?_⟩
  · obtain ⟨p, hp⟩ := exists_of_isOk hplanned
    obtain ⟨⟨warnings, hrun⟩, text, -, hline, hemission⟩ :=
      (compile_predicted (.ofFiles FileStore.perform) (sample .external) 1 0 .sample .empty).2 p hp
    cases hemitted : ((sample .external).emitted (.ofFiles FileStore.perform) (Emission.token 1 0)
        p .empty).1 with
    | error f =>
      rw [hrun, hemitted] at hcompiled
      cases hcompiled
    | ok u =>
      rw [hemitted] at hrun
      obtain ⟨-, hfile⟩ := hemission hemitted
      exact ⟨p, _, hp, hrun, rfl, rfl, rfl, text, hline, hfile id World.filed_ofFiles⟩
  · obtain ⟨e, he⟩ := exists_of_not_isOk hunplanned
    exact ⟨e, he, ((compile_predicted (.ofFiles FileStore.perform) (sample .external) 1 0
      ⟨.empty, []⟩ .empty).1 e he).1⟩

end JobGraph.Compiler
