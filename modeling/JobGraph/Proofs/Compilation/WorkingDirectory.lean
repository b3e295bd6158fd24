import JobGraph.Proofs.Compilation.AllOrNone
import JobGraph.Proofs.Compilation.Prediction

/-!
# Working directories of tasks

The working directory of a task is its name, seen from the scratch directory.  A name without
slashes is one step: the working directory is the child of the scratch directory that is called as
the task, nothing that is written for the task lies outside the scratch directory, and no task gets
in the way of another one.

But a name may hold slashes.  Then it is several steps, some of which may lead upwards, or it is
another spelling of where another name leads.

The main result is `Setting.workDir_characterized`; the names for which it promises nothing are in
`Setting.workDir_not_child`.
-/

namespace JobGraph

/-! ### Paths without dots -/

namespace Path

/-- Where one more component leads.  A single dot leads nowhere; two dots take a name back, and
stay where they are at the root. -/
def climb (front : List Component) : Component → List Component
  | .here => front
  | .up =>
    match front.getLast? with
    | some (.name _) => front.dropLast
    | some .root => front
    | _ => front ++ [.up]
  | component => front ++ [component]

/-- The components of a path, the dots in it being resolved. -/
def resolved (p : Path) : List Component :=
  p.components.foldl climb []

/-- The path leads to something below the directory: resolved, it has the components of the
directory and then names. -/
def Holds (dir p : Path) : Prop :=
  ∃ names : List String, names ≠ [] ∧ p.resolved = dir.resolved ++ names.map .name

lemma foldl_climb_names (front : List Component) (names : List String) :
    (names.map Component.name).foldl climb front = front ++ names.map .name := by
  induction names generalizing front with
  | nil => simp
  | cons n names ih =>
    rw [List.map_cons, List.foldl_cons, ih]
    simp [climb]

/-- What is reached by names from a directory is below it. -/
lemma Holds.of_components {dir p : Path} {names : List String} (hne : names ≠ [])
    (h : p.components = dir.components ++ names.map .name) : dir.Holds p := by
  refine ⟨names, hne, ?_⟩
  rw [resolved, h, List.foldl_append, foldl_climb_names, resolved]

end Path

/-! ### Names of tasks -/

namespace Task

/-- A name that has been read begins with a digit, and has more than that. -/
lemma exists_digit_of_isName {name : String} (h : isName name = true) :
    ∃ c d s, name.toList = c :: d :: s ∧ Unicode.isDigit c = true ∧ Unicode.isDigit d = true := by
  simp only [isName, Bool.and_eq_true, beq_iff_eq] at h
  obtain ⟨⟨⟨⟨⟨⟨hlen, hdigits⟩, -⟩, -⟩, -⟩, -⟩, -⟩ := h
  rw [List.all_eq_true] at hdigits
  match hname : name.toList with
  | [] => simp [hname] at hlen
  | [c] => simp [hname] at hlen
  | c :: d :: s =>
    rw [hname] at hdigits
    exact ⟨c, d, s, rfl, hdigits c (by simp), hdigits d (by simp)⟩

lemma ne_of_isDigit {c d : Char} (hc : Unicode.isDigit c = true) (hd : Unicode.isDigit d = false) :
    c ≠ d := by
  rintro rfl
  rw [hc] at hd
  cases hd

/-- A name that has been read is a relative path, and is not spelled from a single dot. -/
lemma isRelative_of_isName {name : String} (h : isName name = true) :
    (⟨name⟩ : Path).isAbsolute = false ∧
      (Text.pieces '/' name.toList).head? ≠ some ['.'] := by
  obtain ⟨c, d, s, hname, hc, hd⟩ := exists_digit_of_isName h
  have hslash : c ≠ '/' := ne_of_isDigit hc (by decide)
  have hdot : c ≠ '.' := ne_of_isDigit hc (by decide)
  refine ⟨?_, ?_⟩
  · rw [Path.isAbsolute, hname]
    simpa using hslash
  · rw [hname, Text.pieces, if_neg hslash]
    split
    · simpa using hdot
    · simp [hdot]

/-- A name that has been read is one step of a path if it has no slash. -/
lemma isName_of_slash_not_mem {name : String} (h : isName name = true) (hs : '/' ∉ name.toList) :
    Path.IsName name := by
  obtain ⟨c, d, s, hname, hc, hd⟩ := exists_digit_of_isName h
  have hdot : c ≠ '.' := ne_of_isDigit hc (by decide)
  exact ⟨hs, by simp [hname], by simp [hname], by simp [hname, hdot]⟩

end Task

/-! ### Working directories -/

namespace Compiler

variable {c : Compiler} {name : String}

/-- The working directory of a task is reached by the steps of its name. -/
lemma components_workDir (h : Task.isName name = true) :
    (c.workDir name).components = c.scratchDir.components ++ Path.steps name := by
  obtain ⟨habs, hhead⟩ := Task.isRelative_of_isName h
  exact Path.components_join_steps habs hhead c.scratchDir

/-- The working directory is the child that is called as the task if and only if the name has no
slash. -/
lemma components_workDir_iff (h : Task.isName name = true) :
    (c.workDir name).components = c.scratchDir.components ++ [.name name] ↔
      '/' ∉ name.toList := by
  rw [components_workDir h, List.append_cancel_left_eq]
  constructor
  · intro hsteps
    -- the name is then one of its own pieces, and these have no slash
    have hmem : Component.name name ∈ Path.steps name := by
      rw [hsteps]
      exact List.mem_singleton_self _
    obtain ⟨piece, hpiece, hcomponent⟩ := List.mem_filterMap.1 hmem
    have heq : piece = name.toList := by
      rw [Path.componentOf?] at hcomponent
      split at hcomponent
      · cases hcomponent
      · split at hcomponent
        · cases hcomponent
        · rw [← Component.name.inj (Option.some.inj hcomponent), String.toList_ofList]
    rw [← heq]
    exact Text.sep_not_mem_of_mem_pieces hpiece
  · intro hs
    exact (Task.isName_of_slash_not_mem h hs).steps

/-- Without slashes in the name, what is written for a task is below the scratch directory. -/
lemma holds_place (h : Task.isName name = true) (hs : '/' ∉ name.toList) {n : String}
    (hn : Path.IsName n) : c.scratchDir.Holds (Emission.place (c.workDir name) n) := by
  refine Path.Holds.of_components (List.cons_ne_nil name [n]) ?_
  rw [Emission.components_place hn, (components_workDir_iff h).2 hs, List.append_assoc]
  rfl

lemma holds_hiddenPath (h : Task.isName name = true) (hs : '/' ∉ name.toList) {n token : String}
    (ht : '/' ∉ token.toList) (hn : '/' ∉ n.toList) :
    c.scratchDir.Holds (Emission.hiddenPath (c.workDir name) token n) := by
  refine Path.Holds.of_components (List.cons_ne_nil name [Emission.hiddenName token n]) ?_
  rw [Emission.components_hiddenPath ht hn, (components_workDir_iff h).2 hs, List.append_assoc]
  rfl

/-- Names that differ and have no slashes have working directories that differ. -/
lemma components_workDir_ne {other : String} (h : Task.isName name = true)
    (hs : '/' ∉ name.toList) (h' : Task.isName other = true) (hs' : '/' ∉ other.toList)
    (hne : other ≠ name) : (c.workDir other).components ≠ (c.workDir name).components := by
  rw [(components_workDir_iff h).2 hs, (components_workDir_iff h').2 hs']
  exact fun heq => hne (Path.name_inj heq)

end Compiler

namespace Setting

variable {τ : Type}

/-- A compilation leaves the artifacts in other working directories than that of its task alone. -/
lemma compile_of_components_ne (e : Setting τ) {r : Request} {dir : Path}
    (hdir : e.compiler.IsTaskDir dir)
    (hne : ∀ p, e.compiler.plan r = .ok p →
      (e.compiler.workDir p.task.name).components ≠ dir.components)
    (s : Course τ) {n : String} (hn : n ∈ Artifact.names) :
    (e.compile s r).2.1.contents? (Emission.place dir n) =
      s.world.1.contents? (Emission.place dir n) := by
  rcases e.compile_cases s r hdir with hkeep | ⟨p, k, hp, hk, hwork, -⟩ | ⟨p, f, hp, -, -, hwork⟩
  · exact hkeep n hn
  · -- a compilation that succeeds was in the directory of its task
    obtain ⟨warnings, hrun⟩ := Compiler.run_compile_of_ok (w := e.world) (s := s.world)
      (Emission.token e.process s.calls) hp
    rw [compile, Compiler.compiled, hrun] at hk
    cases hemitted : (e.compiler.emitted e.world (Emission.token e.process s.calls) p s.world).1 with
    | error f =>
      rw [hemitted] at hk
      cases hk
    | ok u =>
      rw [hemitted] at hk
      cases hk
      exact absurd hwork (hne p hp)
  · exact absurd hwork (hne p hp)

/-- **Working directories of tasks.**  The working directory of a task is the child of the scratch
directory that is called as the task if and only if there is no slash in its name.  And if there is
none, then, dots being resolved, all artifacts and staging files of its compilations are below the
scratch directory; and another task without a slash in its name has another working directory, and a
compilation of the one leaves the artifacts of the other as they are. -/
theorem workDir_characterized (e : Setting τ) (r : Request) (task : Task)
    (htask : Task.ofRecord r.task = .ok task) :
    ((e.compiler.workDir task.name).components =
        e.compiler.scratchDir.components ++ [.name task.name] ↔ '/' ∉ task.name.toList) ∧
    ('/' ∉ task.name.toList →
      (∀ n ∈ Artifact.names,
        e.compiler.scratchDir.Holds (Emission.place (e.compiler.workDir task.name) n) ∧
        ∀ call, e.compiler.scratchDir.Holds (Emission.hiddenPath (e.compiler.workDir task.name)
          (Emission.token e.process call) n)) ∧
      ∀ other otherTask, Task.ofRecord other = .ok otherTask → '/' ∉ otherTask.name.toList →
        otherTask.name ≠ task.name →
        (e.compiler.workDir otherTask.name).same (e.compiler.workDir task.name) = false ∧
        ∀ s : Course τ, ∀ n ∈ Artifact.names,
          (e.compile s r).2.1.contents?
              (Emission.place (e.compiler.workDir otherTask.name) n) =
            s.world.1.contents? (Emission.place (e.compiler.workDir otherTask.name) n)) := by
  have hname : Task.isName task.name = true := (Task.checked_of_ofRecord htask).name
  refine ⟨Compiler.components_workDir_iff hname, fun hslash => ⟨fun n hn => ?_, ?_⟩⟩
  · have hplain := Compiler.isName_of_mem_names hn
    refine ⟨Compiler.holds_place hname hslash hplain, fun call => ?_⟩
    exact Compiler.holds_hiddenPath hname hslash (Emission.slash_not_mem_token e.process call)
      hplain.slash
  · intro other otherTask hother hslash' hne
    have hname' : Task.isName otherTask.name = true := (Task.checked_of_ofRecord hother).name
    have hcomponents : (e.compiler.workDir otherTask.name).components ≠
        (e.compiler.workDir task.name).components :=
      Compiler.components_workDir_ne hname hslash hname' hslash' hne
    refine ⟨?_, fun s n hn => ?_⟩
    · rw [Bool.eq_false_iff]
      exact fun hsame => hcomponents (Path.same_iff.1 hsame)
    · refine e.compile_of_components_ne ⟨other, otherTask, hother, rfl⟩ (fun p hp => ?_) s hn
      have hsameTask : p.task = task := by
        have hplan := (Plan.of_plan_eq_ok hp).1
        rw [htask] at hplan
        exact (Except.ok.inj hplan).symm
      rw [hsameTask]
      exact hcomponents.symm

/-! ### Names with slashes -/

/-- A record of a task that is called by this name. -/
def called (name : String) : TaskRecord :=
  TaskRecord.brief.set "tm_taskname" (.text name)

lemma exists_task_called (name : String)
    (h : (Task.ofRecord (called name)).toOption.map (·.name) = some name) :
    ∃ task, Task.ofRecord (called name) = .ok task ∧ task.name = name :=
  exists_of_map_toOption h

/-- The working directory of the sample task is a child of the scratch directory, and so is that of
another task, which stays as it is. -/
theorem workDir_characterized_sample :
    ∃ task otherTask, Task.ofRecord Request.sample.task = .ok task ∧
      Task.ofRecord (called "130719_090932:y") = .ok otherTask ∧
      (filing.compiler.workDir task.name).components =
        filing.compiler.scratchDir.components ++ [.name task.name] ∧
      filing.compiler.scratchDir.Holds
        (Emission.place (filing.compiler.workDir task.name) Artifact.graphFile) ∧
      (filing.compile ⟨(.empty, ()), 0⟩ .sample).2.1.contents?
        (Emission.place (filing.compiler.workDir otherTask.name) Artifact.graphFile) = none := by
  obtain ⟨task, htask, hname⟩ := Request.exists_task_sample
  obtain ⟨otherTask, hother, hname'⟩ :=
    exists_task_called "130719_090932:y" (by decide +kernel)
  obtain ⟨hchild, hplain⟩ := workDir_characterized filing .sample task htask
  have hslash : '/' ∉ task.name.toList := by
    rw [hname]
    decide
  have hslash' : '/' ∉ otherTask.name.toList := by
    rw [hname']
    decide
  have hne : otherTask.name ≠ task.name := by
    rw [hname, hname']
    decide
  have hgraph : Artifact.graphFile ∈ Artifact.names := by decide
  obtain ⟨hbelow, hothers⟩ := hplain hslash
  obtain ⟨-, hkeep⟩ := hothers (called "130719_090932:y") otherTask hother hslash' hne
  exact ⟨task, otherTask, htask, hother, hchild.2 hslash, (hbelow _ hgraph).1,
    hkeep ⟨(.empty, ()), 0⟩ _ hgraph⟩

/-- There are tasks that leave the scratch directory, and tasks of different names that share their
working directory. -/
theorem workDir_not_child :
    (∃ task, Task.ofRecord (called "130719_090932:x/../../y") = .ok task ∧
      ∀ n ∈ Artifact.names, ¬ filing.compiler.scratchDir.Holds
        (Emission.place (filing.compiler.workDir task.name) n)) ∧
    ∃ task task', Task.ofRecord (called "130719_090932:x") = .ok task ∧
      Task.ofRecord (called "130719_090932:x/") = .ok task' ∧ task.name ≠ task'.name ∧
      (filing.compiler.workDir task.name).same (filing.compiler.workDir task'.name) = true := by
  obtain ⟨outside, houtside, hname⟩ :=
    exists_task_called "130719_090932:x/../../y" (by decide +kernel)
  obtain ⟨task, htask, hname'⟩ :=
    exists_task_called "130719_090932:x" (by decide +kernel)
  obtain ⟨task', htask', hname''⟩ :=
    exists_task_called "130719_090932:x/" (by decide +kernel)
  refine ⟨⟨outside, houtside, fun n hn => ?_⟩, task, task', htask, htask', ?_, ?_⟩
  · -- resolved, the path begins with two dots, and no name is two dots
    rintro ⟨names, -, heq⟩
    have hup : ∀ n ∈ Artifact.names, (Emission.place (filing.compiler.workDir
        "130719_090932:x/../../y") n).resolved.head? = some .up := by decide +kernel
    have hscratch : filing.compiler.scratchDir.resolved = [] := by decide +kernel
    have hhead := hup n hn
    rw [← hname, heq, hscratch, List.nil_append] at hhead
    cases names with
    | nil => cases hhead
    | cons n names => cases hhead
  · rw [hname', hname'']
    decide
  · rw [hname', hname'']
    decide +kernel

end Setting

end JobGraph
