import JobGraph.Proofs.Compilation.Reporting
import JobGraph.Proofs.Task.Checks
import JobGraph.Proofs.Text.Cutting

/-!
# Under which names failures are filed

A task is read from its record with the white space at the ends of its name and of its submitter
trimmed off.  A failure of it is filed under the two texts as the record gives them.  So the notice
names the task and its submitter as the artifacts and the dashboard do if, and only if, neither text
has white space at its ends.

The main result is `Compiler.filed_as_task_iff`.
-/

namespace JobGraph

variable {σ : Type} {w : World σ} {r : TaskRecord}

/-- A text that was read as a required one is given, and reading has trimmed it. -/
lemma TaskRecord.given?_of_requiredText {field s : String} (h : r.requiredText field = .ok s) :
    ∃ text, r.get? field = some (.text text) ∧ r.given? field = some text ∧ Text.trim text = s := by
  obtain ⟨text, hget, hblank, htrim⟩ := Task.requiredText_eq_ok.1 h
  exact ⟨text, hget, given?_eq_some_iff.2 ⟨hget, hblank⟩, htrim⟩

namespace Compiler

variable {c : Compiler}

/-- A compilation that fails tells the status store what can be said about the error, if the record
names its task. -/
lemma told_of_compiled_error (hv : c.services.Reporting) (process call : ℕ) (r : Request) (s : σ)
    {e : Error} (he : (compiled w c process call r s).1 = .error e) {notice : FailureNotice}
    (hnotice : FailureReport.record? r.task e = some notice) :
    FailureReport.Told (max 1 c.retry.limit) notice
      (w.notes (c.compile (Emission.token process call) r) s) := by
  obtain ⟨hok, herror⟩ := notes_compile (w := w) hv (Emission.token process call) r s
  cases hwork : (w.run (c.unreported (Emission.token process call) r) s).1 with
  | ok k =>
    have hcontra : (.error e : Except Error Compilation) = .ok k := he.symm.trans (hok k hwork).1
    cases hcontra
  | error e' =>
    obtain ⟨hresult, hnotes⟩ := herror e' hwork
    cases hresult.symm.trans he
    rw [hnotes]
    rcases FailureReport.notes_report (w := w) hv c.retry r.task e
      (w.run (c.unreported (Emission.token process call) r) s).2 with
      ⟨hnone, -⟩ | ⟨notice', hrecord, htold⟩
    · rw [hnone] at hnotice
      cases hnotice
    · rw [hrecord] at hnotice
      cases hnotice
      exact htold

/-- **Under which names failures are filed.**  In every world, let a compilation fail whose record
is that of a task.  The record gives the name and the submitter of the task by two texts, which
reading has trimmed.  The status store is told of the failure, and whatever it is told names the
task and the submitter by these texts as they are given.  These are the names that the entry of the
task at the dashboard has if and only if neither of the two texts has white space at its ends. -/
theorem filed_as_task_iff (w : World σ) (c : Compiler) (hv : c.services.Reporting)
    (process call : ℕ) (r : Request) (s : σ) (t : Task) (e : Error)
    (ht : Task.ofRecord r.task = .ok t) (he : (compiled w c process call r s).1 = .error e) :
    ∃ name submitter, r.task.get? "tm_taskname" = some (.text name) ∧
      r.task.get? "tm_user_dn" = some (.text submitter) ∧
      Text.trim name = t.name ∧ Text.trim submitter = t.identity.dn ∧
      w.notes (c.compile (Emission.token process call) r) s ≠ [] ∧
      ∀ note ∈ w.notes (c.compile (Emission.token process call) r) s,
        note.1.workflow = name ∧ note.1.subuser = submitter ∧
        (note.1.workflow = (Dashboard.TaskEntry.ofTask c.context t).taskId ∧
            note.1.subuser = (Dashboard.TaskEntry.ofTask c.context t).gridName ↔
          Text.IsTrimmed name ∧ Text.IsTrimmed submitter) := by
  obtain ⟨hname, hsubmitter⟩ := Task.identity_of_ofRecord ht
  obtain ⟨name, hget, hgiven, htrim⟩ := TaskRecord.given?_of_requiredText hname
  obtain ⟨submitter, hget', hgiven', htrim'⟩ := TaskRecord.given?_of_requiredText hsubmitter
  have hrecord : FailureReport.record? r.task e = some (.ofReason name submitter e.message) := by
    rw [FailureReport.record?, hgiven, hgiven']
    rfl
  have htold := told_of_compiled_error hv process call r s he hrecord
  refine ⟨name, submitter, hget, hget', htrim, htrim', List.ne_nil_of_length_pos htold.pos, ?_⟩
  intro note hnote
  have hworkflow : note.1.workflow = name := by rw [htold.same note hnote]; rfl
  have hsubuser : note.1.subuser = submitter := by rw [htold.same note hnote]; rfl
  have hentry : (Dashboard.TaskEntry.ofTask c.context t).taskId = Text.trim name := htrim.symm
  have hentry' : (Dashboard.TaskEntry.ofTask c.context t).gridName = Text.trim submitter :=
    htrim'.symm
  refine ⟨hworkflow, hsubuser, ?_⟩
  rw [hworkflow, hsubuser, hentry, hentry', eq_comm, Text.trim_eq_self_iff, eq_comm,
    Text.trim_eq_self_iff]

/-- The brief record with the name of its task given by another text. -/
def named (name : String) : Request :=
  ⟨TaskRecord.brief.set "tm_taskname" (.text name), []⟩

/-- What the status store is told about a request without jobs, if every service accepts. -/
def told (r : Request) : List (FailureNotice × Except Error Unit) :=
  Stage.obliging.notes ((sample .external).compile (Emission.token 1 0) r) .empty

/-- Without white space around its name, a task that has no jobs is filed under its name. -/
theorem filed_as_task_iff_bare :
    ∃ t e, Task.ofRecord (named "130719_090932:x").task = .ok t ∧
      (compiled Stage.obliging (sample .external) 1 0 (named "130719_090932:x") .empty).1 =
        .error e ∧
      told (named "130719_090932:x") ≠ [] ∧
      ∀ note ∈ told (named "130719_090932:x"),
        note.1.workflow = t.name ∧ note.1.subuser = t.identity.dn := by
  have hread : (Task.ofRecord (named "130719_090932:x").task).isOk = true := by decide +kernel
  have hfails : (compiled Stage.obliging (sample .external) 1 0
      (named "130719_090932:x") .empty).1.isOk = false := by decide +kernel
  obtain ⟨t, ht⟩ := exists_of_isOk hread
  obtain ⟨e, he⟩ := exists_of_not_isOk hfails
  obtain ⟨name, submitter, hname, hsubmitter, -, -, hne, hnotes⟩ :=
    filed_as_task_iff Stage.obliging (sample .external) reporting_external 1 0
      (named "130719_090932:x") .empty t e ht he
  have hgiven : (named "130719_090932:x").task.get? "tm_taskname" =
      some (.text "130719_090932:x") := rfl
  have hgiven' : (named "130719_090932:x").task.get? "tm_user_dn" =
      some (.text "/CN=Jane") := rfl
  rw [hgiven] at hname
  rw [hgiven'] at hsubmitter
  cases hname
  cases hsubmitter
  refine ⟨t, e, ht, he, hne, fun note hnote => ?_⟩
  have htrimmed : Text.IsTrimmed "130719_090932:x" ∧ Text.IsTrimmed "/CN=Jane" :=
    ⟨Text.trim_eq_self_iff.1 (by decide +kernel), Text.trim_eq_self_iff.1 (by decide +kernel)⟩
  exact (hnotes note hnote).2.2.2 htrimmed

/-- With white space around its name, the same task is filed under another name. -/
theorem not_filed_as_task_padded :
    ¬ ∀ (r : Request) (t : Task) (e : Error), Task.ofRecord r.task = .ok t →
      (compiled Stage.obliging (sample .external) 1 0 r .empty).1 = .error e →
      ∀ note ∈ told r, note.1.workflow = t.name ∧ note.1.subuser = t.identity.dn := by
  intro h
  have hread : (Task.ofRecord (named " 130719_090932:x").task).toOption.map (·.name) =
      some "130719_090932:x" := by decide +kernel
  have hfails : (compiled Stage.obliging (sample .external) 1 0
      (named " 130719_090932:x") .empty).1.isOk = false := by decide +kernel
  have htold : (told (named " 130719_090932:x")).map (·.1.workflow) = [" 130719_090932:x"] := by
    decide +kernel
  obtain ⟨t, ht, hname⟩ := exists_of_map_toOption hread
  obtain ⟨e, he⟩ := exists_of_not_isOk hfails
  have hmem : " 130719_090932:x" ∈ (told (named " 130719_090932:x")).map (·.1.workflow) := by
    simp [htold]
  obtain ⟨note, hnote, hworkflow⟩ := List.mem_map.1 hmem
  have hsame := (h _ t e ht he note hnote).1
  rw [hworkflow, hname] at hsame
  revert hsame
  decide

end Compiler

end JobGraph
