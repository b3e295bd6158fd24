import JobGraph.Assembly
import JobGraph.Proofs.Plan.Tokens
import JobGraph.Rehearsal.Sample

/-!
# Entries of jobs at the dashboard

The entry of a job is kept under its number and the name of its task as the dashboard spells it,
with a colon for each underscore.  The number stands in front of an underscore and behind a slash,
and neither is a digit; so both can be told from what an entry is kept under, whatever the address
of the jobs is.  But the name of the task cannot always be told from how the dashboard spells it.

The main result is `Dashboard.keys_eq_iff`.
-/

namespace JobGraph

namespace Dashboard

/-! ### Names at the dashboard -/

/-- The characters that the dashboard does not tell apart. -/
def IsMark (c : Char) : Prop := c = '_' ∨ c = ':'

/-- The names are the same but for underscores and colons. -/
def SameName (name name' : String) : Prop :=
  List.Forall₂ (fun c c' => c = c' ∨ IsMark c ∧ IsMark c') name.toList name'.toList

lemma spelled_eq_iff {c c' : Char} :
    ((if c = '_' then ':' else c) = if c' = '_' then ':' else c') ↔
      c = c' ∨ IsMark c ∧ IsMark c' := by
  unfold IsMark
  split
  · next hc =>
    subst hc
    split
    · next hc' => simp [hc']
    · next hc' => simp [hc', eq_comm]
  · next hc =>
    split
    · next hc' => simp [hc', hc]
    · next hc' =>
      constructor
      · exact Or.inl
      · rintro (h | ⟨h, h'⟩)
        · exact h
        · rw [h.resolve_left hc, h'.resolve_left hc']

/-- The dashboard spells the names of two tasks alike if and only if they are the same but for
underscores and colons. -/
lemma dashboardName_eq_iff {task task' : Task} :
    task.dashboardName = task'.dashboardName ↔ SameName task.name task'.name := by
  rw [Task.dashboardName, Task.dashboardName, ← String.toList_inj, String.toList_ofList,
    String.toList_ofList, SameName, ← List.forall₂_eq_eq_eq, List.forall₂_map_left_iff,
    List.forall₂_map_right_iff]
  simp only [spelled_eq_iff]

/-! ### What entries are kept under -/

/-- A number in front of a character that is no digit can be told from what follows. -/
lemma toDigits_append_inj {sep : Char} (hsep : sep.isDigit = false) {m n : ℕ} {cs ds : List Char}
    (h : Nat.toDigits 10 m ++ sep :: cs = Nat.toDigits 10 n ++ sep :: ds) : m = n ∧ cs = ds := by
  have hcut := Text.cutFirst?_append (b := cs) (Text.not_mem_toDigits hsep m)
  rw [h, Text.cutFirst?_append (Text.not_mem_toDigits hsep n), Option.some.injEq,
    Prod.mk.injEq] at hcut
  exact ⟨(Text.toDigits_inj hcut.1).symm, hcut.2.symm⟩

section

variable {ctx : WorkerContext} {task task' : Task} {job job' : PlannedJob}

lemma toList_sid :
    (JobEntry.ofJob ctx task job).sid.toList = ctx.jobUrlBase.toList ++
      '/' :: (Nat.toDigits 10 job.sequence ++ '/' :: task.dashboardName.toList) := by
  have hsid : (JobEntry.ofJob ctx task job).sid =
      ctx.jobUrlBase ++ "/" ++ toString job.sequence ++ "/" ++ task.dashboardName := rfl
  rw [hsid]
  simp

lemma toList_jobId :
    (JobEntry.ofJob ctx task job).jobId.toList = Nat.toDigits 10 job.sequence ++
      '_' :: ((JobEntry.ofJob ctx task job).sid.toList ++ ['_', '0']) := by
  have hid : (JobEntry.ofJob ctx task job).jobId =
      toString job.sequence ++ "_" ++ (JobEntry.ofJob ctx task job).sid ++ "_0" := rfl
  rw [hid]
  simp

/-- What the addresses of two jobs agree in. -/
lemma sid_eq_iff :
    (JobEntry.ofJob ctx task job).sid = (JobEntry.ofJob ctx task' job').sid ↔
      job.sequence = job'.sequence ∧ task.dashboardName = task'.dashboardName := by
  rw [← String.toList_inj, toList_sid, toList_sid]
  constructor
  · intro h
    have hback := (List.cons.inj (List.append_cancel_left h)).2
    obtain ⟨hsequence, hname⟩ := toDigits_append_inj (by decide) hback
    exact ⟨hsequence, String.toList_inj.1 hname⟩
  · rintro ⟨hsequence, hname⟩
    rw [hsequence, hname]

lemma jobId_eq_iff :
    (JobEntry.ofJob ctx task job).jobId = (JobEntry.ofJob ctx task' job').jobId ↔
      (JobEntry.ofJob ctx task job).sid = (JobEntry.ofJob ctx task' job').sid := by
  rw [← String.toList_inj, toList_jobId, toList_jobId]
  constructor
  · intro h
    obtain ⟨-, hback⟩ := toDigits_append_inj (by decide) h
    exact String.toList_inj.1 (List.append_cancel_right hback)
  · intro h
    rw [h, (sid_eq_iff.1 h).1]

end

/-- **What entries are kept under.**  The entries of two jobs are kept under the same id, or the
same address, if and only if the jobs have the same number and the names of their tasks are the same
but for underscores and colons. -/
theorem keys_eq_iff (ctx : WorkerContext) (task task' : Task) (job job' : PlannedJob) :
    ((JobEntry.ofJob ctx task job).jobId = (JobEntry.ofJob ctx task' job').jobId ↔
      job.sequence = job'.sequence ∧ SameName task.name task'.name) ∧
    ((JobEntry.ofJob ctx task job).sid = (JobEntry.ofJob ctx task' job').sid ↔
      job.sequence = job'.sequence ∧ SameName task.name task'.name) := by
  rw [jobId_eq_iff, sid_eq_iff, dashboardName_eq_iff]
  exact ⟨Iff.rfl, Iff.rfl⟩

/-- The record of the sample task under another name. -/
def named (name : String) : TaskRecord :=
  TaskRecord.brief.set "tm_taskname" (.text name)

/-- Two tasks whose names are the same but for an underscore: their jobs of the same number share an
entry. -/
theorem not_keys_inj :
    ∃ task task', Task.ofRecord (named "130719_090932:a_b") = .ok task ∧
      Task.ofRecord (named "130719_090932:a:b") = .ok task' ∧ task.name ≠ task'.name ∧
      ∀ (ctx : WorkerContext) (job : PlannedJob),
        (JobEntry.ofJob ctx task job).jobId = (JobEntry.ofJob ctx task' job).jobId ∧
        (JobEntry.ofJob ctx task job).sid = (JobEntry.ofJob ctx task' job).sid := by
  have hname : (Task.ofRecord (named "130719_090932:a_b")).toOption.map (·.name) =
      some "130719_090932:a_b" := by decide +kernel
  have hname' : (Task.ofRecord (named "130719_090932:a:b")).toOption.map (·.name) =
      some "130719_090932:a:b" := by decide +kernel
  obtain ⟨task, htask, hname⟩ := exists_of_map_toOption hname
  obtain ⟨task', htask', hname'⟩ := exists_of_map_toOption hname'
  have hspelled : task.dashboardName = task'.dashboardName := by
    rw [Task.dashboardName, Task.dashboardName, hname, hname']
    decide
  refine ⟨task, task', htask, htask', by rw [hname, hname']; decide, fun ctx job => ?_⟩
  have hsid : (JobEntry.ofJob ctx task job).sid = (JobEntry.ofJob ctx task' job).sid :=
    sid_eq_iff.2 ⟨rfl, hspelled⟩
  exact ⟨jobId_eq_iff.2 hsid, hsid⟩

end Dashboard

/-- The jobs of one task do not share an entry. -/
theorem Plan.nodup_jobId {c : Compiler} {r : Request} {p : Plan} (h : c.plan r = .ok p)
    (ctx : WorkerContext) (urls : ℕ → List String) :
    ((p.placed urls).map fun job => (Dashboard.JobEntry.ofJob ctx p.task job).jobId).Nodup := by
  have hnumbers : ((p.placed urls).map (·.sequence)).Nodup := by
    rw [Plan.map_sequence_placed h]
    exact List.nodup_range'
  rw [List.Nodup, List.pairwise_map] at hnumbers ⊢
  exact hnumbers.imp fun hne heq =>
    hne (Dashboard.sid_eq_iff.1 (Dashboard.jobId_eq_iff.1 heq)).1

end JobGraph
