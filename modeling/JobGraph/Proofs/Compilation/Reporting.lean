import JobGraph.Proofs.Compilation.Asking
import JobGraph.Proofs.Text.Encoded

/-!
# What the status store is told

The status store is called when a compilation has failed, and by nothing else.  It is then told of
the failure in one notice, again and again until it accepts it or the attempts are used up, provided
that the task's record names the task.  What the compilation comes to has been settled before that,
so no answer of the store changes it.

The main result is `Compiler.failure_reported`.
-/

namespace JobGraph

/-- The effect is no call of the status store. -/
def Effect.SparesStore (e : Effect) : Prop := ∀ notice, e ≠ .noteFailure notice

/-- The notice that the status store was told in an event, with its answer. -/
def Event.note? : Event → Option (FailureNotice × Except Error Unit)
  | ⟨.noteFailure notice, answer⟩ => some (notice, answer)
  | _ => none

/-- The calls of the status store during a run, with their answers. -/
def World.notes {σ α : Type} (w : World σ) (p : Program α) (s : σ) :
    List (FailureNotice × Except Error Unit) :=
  (w.history p s).filterMap Event.note?

/-- Failures are reported to the status store of the world, and no other service calls it. -/
structure Services.Reporting (v : Services) : Prop where
  noteFailure : ∀ notice, v.noteFailure notice = .perform (.noteFailure notice)
  resolve : ∀ sites paths, (v.resolve sites paths).Within Effect.SparesStore fun _ => True
  enterTask : ∀ entry, (v.enterTask entry).Within Effect.SparesStore fun _ => True
  enterJob : ∀ entry, (v.enterJob entry).Within Effect.SparesStore fun _ => True

variable {σ α β : Type} {w : World σ}

/-- An attribute is given by a text that is not blank. -/
lemma TaskRecord.given?_eq_some_iff {r : TaskRecord} {field text : String} :
    r.given? field = some text ↔
      r.get? field = some (.text text) ∧ Text.isBlank text = false := by
  rw [TaskRecord.given?]
  split
  · next s hs =>
    rw [hs]
    by_cases hblank : Text.isBlank s = true
    · rw [if_pos hblank]
      simp only [Option.some.injEq, Document.text.injEq, reduceCtorEq, false_iff, not_and]
      rintro rfl
      simp [hblank]
    · rw [if_neg hblank]
      simp only [Option.some.injEq, Document.text.injEq]
      constructor
      · rintro rfl
        exact ⟨rfl, by simpa using hblank⟩
      · rintro ⟨rfl, -⟩
        rfl
  · next hnot =>
    simp only [reduceCtorEq, false_iff, not_and]
    intro h
    exact absurd h (hnot text)

/-! ### Calls of the store -/

namespace World

@[simp]
lemma notes_pure (a : α) (s : σ) : w.notes (pure a) s = [] := rfl

lemma notes_bind (p : Program α) (f : α → Program β) (s : σ) :
    w.notes (p >>= f) s = w.notes p s ++ w.notes (f (w.run p s).1) (w.run p s).2 :=
  seen_bind p f s

/-- A program that spares the store does not call it. -/
lemma notes_eq_nil {P : α → Prop} {p : Program α} (hp : p.Within Effect.SparesStore P) (s : σ) :
    w.notes p s = [] := by
  have hunseen : ∀ e : Effect, e.SparesStore → e.Unseen Event.note? := by
    intro e he answer
    cases e with
    | noteFailure notice => exact absurd rfl (he notice)
    | _ => rfl
  exact seen_eq_nil (hp.mono hunseen) s

end World

namespace FailureReport

/-- The calls tell the store one notice: at least once, within the limit, not again after it has
been accepted, and up to the limit if it never is. -/
structure Told (limit : ℕ) (notice : FailureNotice)
    (calls : List (FailureNotice × Except Error Unit)) : Prop where
  same : ∀ call ∈ calls, call.1 = notice
  pos : 1 ≤ calls.length
  le : calls.length ≤ limit
  refused : ∀ call ∈ calls.dropLast, call.2.isOk = false
  exhausted : (∀ call ∈ calls, call.2.isOk = false) → calls.length = limit

variable {limit : ℕ} {notice : FailureNotice} {calls : List (FailureNotice × Except Error Unit)}

/-- To tell the store one notice is to try one query. -/
lemma told_iff_tried : Told limit notice calls ↔ Attempts.Tried limit notice calls :=
  ⟨fun h => ⟨h.same, h.pos, h.le, h.refused, h.exhausted⟩,
    fun h => ⟨h.same, h.pos, h.le, h.refused, h.exhausted⟩⟩

/-- A store that accepts a call is left with the notice, once. -/
lemma Told.accepted (h : Told limit notice calls) (hok : ∃ call ∈ calls, call.2.isOk = true) :
    (calls.filter fun call => call.2.isOk).map Prod.fst = [notice] := by
  have hanswered : Attempts.isAnswered calls = true := List.any_eq_true.2 hok
  rw [(told_iff_tried.1 h).map_filter_isOk, if_pos hanswered]

/-- A failure is told once the record names its task, and is not told otherwise. -/
lemma notes_report {v : Services} (hv : v.Reporting) (retry : Attempts) (r : TaskRecord)
    (e : Error) (s : σ) :
    (record? r e = none ∧ w.notes (report v.noteFailure retry r e) s = []) ∨
    ∃ notice, record? r e = some notice ∧
      Told (max 1 retry.limit) notice (w.notes (report v.noteFailure retry r e) s) := by
  rw [report]
  cases record? r e with
  | none => exact Or.inl ⟨rfl, rfl⟩
  | some notice =>
    refine Or.inr ⟨notice, rfl, ?_⟩
    have hcall : ∀ s, ∃ answer : Except Error Unit,
        w.seen Event.note? (Program.perform (.noteFailure notice)) s = [(notice, answer)] ∧
          (w.run (Program.perform (.noteFailure notice)) s).1 = answer.map id := by
      intro s
      exact ⟨(w.answer (.noteFailure notice) s).1, rfl, by rw [Except.map_id]; rfl⟩
    rw [World.notes_bind, World.notes_pure, List.append_nil, hv.noteFailure]
    exact told_iff_tried.2 (Attempts.tried_run hcall retry s).1

end FailureReport

/-! ### The work that is reported -/

namespace Compiler

variable {c : Compiler}

lemma sparesStore_file (op : FileOp) : (Effect.file op).SparesStore := by
  intro notice h
  cases h

/-- What a compilation does before a failure of it is reported. -/
def unreported (c : Compiler) (token : String) (r : Request) :
    Program (Except Error Compilation) :=
  match c.plan r with
  | .error e => pure (.error e)
  | .ok p => c.carryOut token p

lemma compile_eq_guarded (c : Compiler) (token : String) (r : Request) :
    c.compile token r =
      FailureReport.guarded c.services.noteFailure c.retry r.task (c.unreported token r) := rfl

/-- The work spares the store, whatever comes of it. -/
lemma spares_unreported (hv : c.services.Reporting) (token : String) (r : Request) :
    (c.unreported token r).Within Effect.SparesStore fun _ => True := by
  rw [unreported]
  split
  · exact Program.within_pure trivial
  · exact within_carryOut hv.resolve hv.enterTask hv.enterJob sparesStore_file token _

/-! ### Reports -/

/-- The store is called for a failure, and for nothing else. -/
lemma notes_compile (hv : c.services.Reporting) (token : String) (r : Request) (s : σ) :
    (∀ k, (w.run (c.unreported token r) s).1 = .ok k →
      (w.run (c.compile token r) s).1 = .ok k ∧ w.notes (c.compile token r) s = []) ∧
    (∀ e, (w.run (c.unreported token r) s).1 = .error e →
      (w.run (c.compile token r) s).1 = .error e ∧
      w.notes (c.compile token r) s =
        w.notes (FailureReport.report c.services.noteFailure c.retry r.task e)
          (w.run (c.unreported token r) s).2) := by
  have hspares := World.notes_eq_nil (w := w) (spares_unreported hv token r) s
  rw [compile_eq_guarded]
  refine ⟨fun k hk => ?_, fun e he => ?_⟩
  · refine ⟨by rw [run_guarded_ok hk], ?_⟩
    rw [FailureReport.guarded, World.notes_bind, hspares, hk]
    rfl
  · refine ⟨by rw [run_guarded_error he], ?_⟩
    rw [FailureReport.guarded, World.notes_bind, hspares, he, List.nil_append]
    dsimp only
    rw [World.notes_bind, World.notes_pure, List.append_nil]

/-- **Failures are reported.**  In every world, whatever its status store answers.  A compilation
that succeeds never calls the store.  One that fails calls it if the record names its task by a text that
is not blank, and not otherwise; all calls are of one notice, which is about this task and holds the
message of the error, there is at least one of them and at most as many as there are attempts, none
follows one that was accepted, and the attempts are used up if none is accepted.  So a store that
accepts is left with this one notice.  The result is that of the work itself, and it is the same in
every world that differs in what the store answers. -/
theorem failure_reported (w : World σ) (c : Compiler) (hv : c.services.Reporting)
    (process call : ℕ) (r : Request) (s : σ) :
    (∀ k, (compiled w c process call r s).1 = .ok k →
      w.notes (c.compile (Emission.token process call) r) s = []) ∧
    (∀ e, (compiled w c process call r s).1 = .error e →
      (∀ name, r.task.get? "tm_taskname" = some (.text name) → Text.isBlank name = false →
        ∃ notice : FailureNotice, notice.workflow = name ∧ notice.reason? = some e.message ∧
          FailureReport.Told (max 1 c.retry.limit) notice
            (w.notes (c.compile (Emission.token process call) r) s) ∧
          ((∃ n ∈ w.notes (c.compile (Emission.token process call) r) s, n.2.isOk = true) →
            ((w.notes (c.compile (Emission.token process call) r) s).filter
              fun n => n.2.isOk).map Prod.fst = [notice])) ∧
      ((∀ name, r.task.get? "tm_taskname" = some (.text name) → Text.isBlank name = true) →
        w.notes (c.compile (Emission.token process call) r) s = [])) ∧
    (compiled w c process call r s).1 =
      (w.run (c.unreported (Emission.token process call) r) s).1 ∧
    ∀ w' : World σ, (∀ e s, e.SparesStore → w'.answer e s = w.answer e s) →
      (compiled w' c process call r s).1 = (compiled w c process call r s).1 := by
  have hresult : ∀ w : World σ, (compiled w c process call r s).1 =
      (w.run (c.unreported (Emission.token process call) r) s).1 := by
    intro w
    obtain ⟨hok, herror⟩ := notes_compile (w := w) hv (Emission.token process call) r s
    cases hwork : (w.run (c.unreported (Emission.token process call) r) s).1 with
    | ok k => exact (hok k hwork).1
    | error e => exact (herror e hwork).1
  obtain ⟨hok, herror⟩ := notes_compile (w := w) hv (Emission.token process call) r s
  refine ⟨fun k hk => ?_, fun e he => ?_, hresult w, fun w' hw' => ?_⟩
  · rw [hresult w] at hk
    exact (hok k hk).2
  · rw [hresult w] at he
    rw [(herror e he).2]
    have hreport := FailureReport.notes_report (w := w) hv c.retry r.task e
      (w.run (c.unreported (Emission.token process call) r) s).2
    refine ⟨fun name hname hblank => ?_, fun hnone => ?_⟩
    · have hgiven : r.task.given? "tm_taskname" = some name :=
        TaskRecord.given?_eq_some_iff.2 ⟨hname, hblank⟩
      rcases hreport with ⟨hrecord, -⟩ | ⟨notice, hrecord, htold⟩
      · rw [FailureReport.record?, hgiven] at hrecord
        cases hrecord
      · rw [FailureReport.record?, hgiven, Option.map_some, Option.some.injEq] at hrecord
        subst hrecord
        exact ⟨_, rfl, FailureNotice.reason?_ofReason _ _ _, htold, htold.accepted⟩
    · have hgiven : r.task.given? "tm_taskname" = none := by
        rw [Option.eq_none_iff_forall_ne_some]
        intro name hname
        obtain ⟨htext, hblank⟩ := TaskRecord.given?_eq_some_iff.1 hname
        rw [hnone name htext] at hblank
        cases hblank
      rcases hreport with ⟨-, hcalls⟩ | ⟨notice, hrecord, -⟩
      · exact hcalls
      · rw [FailureReport.record?, hgiven] at hrecord
        cases hrecord
  · rw [hresult w, hresult w', (spares_unreported hv _ r).run_congr hw']

lemma reporting_external : Services.external.Reporting :=
  { noteFailure := fun _ => rfl
    resolve := fun _ _ => Program.within_perform fun _ h => by cases h
    enterTask := fun _ => Program.within_perform fun _ h => by cases h
    enterJob := fun _ => Program.within_perform fun _ h => by cases h }

/-- A request without jobs fails, and the store, which refuses the first call, is told of it by the
second one. -/
theorem failure_reported_refusedOnce :
    (sample .external).services.Reporting ∧
    ∃ e, (compiled (Stage.world ⟨[], .always, .refuseAll, .first 1⟩) (sample .external) 1 0
        ⟨.brief, []⟩ .empty).1 = .error e ∧
      ∃ notice, notice.workflow = "130719_090932:x" ∧ notice.reason? = some e.message ∧
        (((Stage.world ⟨[], .always, .refuseAll, .first 1⟩).notes
          ((sample .external).compile (Emission.token 1 0) ⟨.brief, []⟩) .empty).filter
            fun n => n.2.isOk).map Prod.fst = [notice] := by
  have hv : (sample .external).services.Reporting := reporting_external
  have hfails : (compiled (Stage.world ⟨[], .always, .refuseAll, .first 1⟩) (sample .external) 1 0
      ⟨.brief, []⟩ .empty).1.isOk = false := by decide +kernel
  have haccepted : ((Stage.world ⟨[], .always, .refuseAll, .first 1⟩).notes
      ((sample .external).compile (Emission.token 1 0) ⟨.brief, []⟩) .empty).map
        (fun n => n.2.isOk) = [false, true] := by decide +kernel
  refine ⟨hv, ?_⟩
  obtain ⟨e, he⟩ := exists_of_not_isOk hfails
  obtain ⟨notice, hname, hreason, -, hleft⟩ :=
    ((failure_reported (Stage.world ⟨[], .always, .refuseAll, .first 1⟩) (sample .external) hv 1 0
      ⟨.brief, []⟩ .empty).2.1 e he).1 "130719_090932:x" rfl (by decide)
  refine ⟨e, he, notice, hname, hreason, hleft ?_⟩
  have hmem : true ∈ ((Stage.world ⟨[], .always, .refuseAll, .first 1⟩).notes
      ((sample .external).compile (Emission.token 1 0) ⟨.brief, []⟩) .empty).map
        (fun n => n.2.isOk) := by simp [haccepted]
  simpa using hmem

end Compiler

end JobGraph
