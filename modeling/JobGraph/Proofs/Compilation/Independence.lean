import JobGraph.Proofs.Compilation.Stages
import JobGraph.Proofs.Emission.Tokens

/-!
# Tasks that do not disturb each other

Requests are compiled with services that keep nothing and write no files, and their working
directories are different paths.  A compilation then touches files directly in its working directory
only, so in whatever order the compilations take turns, each of them comes to what it comes to
alone; and so it does if they are run one after another.

The two ways to compile the requests use different tokens, as these are handed out in the order in
which they are asked for.  If the store does not tell tokens apart, this makes no difference but for
the name of a staging file that is refused (`Batch.SameResult`), and for a file that has been in the
place of a staging file from the beginning: it is gone if its token is handed out to the request in
whose directory it is.  The main result is `Batch.independent`.
-/

namespace JobGraph

open World (Secluded)

/-- The services ask the world for nothing: what they answer depends on what they are asked. -/
structure Services.Stateless (v : Services) : Prop where
  resolve : ∀ sites paths, ∃ answer, v.resolve sites paths = pure answer
  enterTask : ∀ r, ∃ answer, v.enterTask r = pure answer
  enterJob : ∀ r, ∃ answer, v.enterJob r = pure answer
  noteFailure : ∀ r, ∃ answer, v.noteFailure r = pure answer

/-- A catalog keeps nothing, and neither do a dashboard and a status store without files. -/
lemma Services.stateless_ofFiles (catalog : Catalog) :
    (Services.ofFiles catalog none none).Stateless :=
  ⟨fun _ _ => ⟨_, rfl⟩, fun _ => ⟨_, rfl⟩, fun _ => ⟨_, rfl⟩, fun _ => ⟨_, rfl⟩⟩

namespace Compiler

variable {c : Compiler}

/-! ### Compiling without services -/

lemma exists_resolveUrls_eq_pure (hv : c.services.Stateless) (site : String)
    (jobs : List PlannedJob) : ∃ located, c.resolveUrls site jobs = pure located := by
  induction jobs with
  | nil => exact ⟨_, rfl⟩
  | cons job jobs ih =>
    obtain ⟨located, hjobs⟩ := ih
    have hask : ∃ answer, c.askUrls site job = pure answer := by
      obtain ⟨answer, hanswer⟩ := hv.resolve (Placement.variants site)
        (Placement.logicalPaths job.directories.dest job.manifest)
      rw [askUrls, Services.locate, hanswer, pure_bind]
      cases answer with
      | ok m => exact ⟨_, rfl⟩
      | error e => exact ⟨_, rfl⟩
    obtain ⟨answer, hask⟩ := hask
    rw [resolveUrls, hask, Attempts.run_pure, pure_bind, hjobs]
    cases answer with
    | ok r => exact ⟨_, rfl⟩
    | error e => exact ⟨_, rfl⟩

lemma exists_enterAll_eq_pure (hv : c.services.Stateless) (a : Assembly) :
    ∃ warnings, c.enterAll a = pure warnings := by
  have hjobs : ∀ entries, ∃ errors, c.enterJobs entries = pure errors := by
    intro entries
    induction entries with
    | nil => exact ⟨_, rfl⟩
    | cons r rs ih =>
      obtain ⟨errors, hrest⟩ := ih
      obtain ⟨answer, hanswer⟩ := hv.enterJob r
      rw [enterJobs, hanswer, Attempts.run_pure, pure_bind, hrest]
      exact ⟨_, rfl⟩
  obtain ⟨answer, hanswer⟩ := hv.enterTask a.taskEntry
  obtain ⟨errors, herrors⟩ := hjobs a.jobEntries
  rw [enterAll, hanswer, Attempts.run_pure, pure_bind, herrors, pure_bind]
  dsimp only
  split
  · exact ⟨_, rfl⟩
  · exact ⟨_, rfl⟩

lemma report_eq_pure (hv : c.services.Stateless) (r : TaskRecord) (e : Error) :
    FailureReport.report c.services.noteFailure c.retry r e = pure () := by
  rw [FailureReport.report]
  split
  · rfl
  · next notice _ =>
    obtain ⟨answer, hanswer⟩ := hv.noteFailure notice
    rw [hanswer, Attempts.run_pure, pure_bind]

/-- The result of a compilation whose emission has been answered. -/
def resultOf (k : Compilation) (answer : Except Failure Unit) : Except Error Compilation :=
  (answer.mapError Error.other).map fun _ => k

/-- **Compiling without services.**  A compilation is given up at once, or it is an emission into
the working directory of its task, of artifacts that do not depend on the token, and nothing
besides. -/
theorem compile_eq_emission (hv : c.services.Stateless) (r : Request) :
    (∃ e, c.plan r = .error e ∧ ∀ token, c.compile token r = pure (.error e)) ∨
    ∃ p artifacts k, c.plan r = .ok p ∧ Emission.Orderly artifacts ∧
      artifacts.map (·.name) = Artifact.names ∧
      ∀ token, c.compile token r =
        Emission.writeAll (c.workDir p.task.name) token artifacts >>= fun answer =>
          pure (resultOf k answer) := by
  cases hp : c.plan r with
  | error e =>
    refine Or.inl ⟨e, rfl, fun token => ?_⟩
    rw [compile, hp, FailureReport.guarded, pure_bind]
    dsimp only
    rw [report_eq_pure hv, pure_bind]
  | ok p =>
    obtain ⟨-, hlimit, hjobs⟩ := Plan.of_plan_eq_ok hp
    obtain ⟨located, hlocated⟩ := exists_resolveUrls_eq_pure hv p.task.asyncDest p.jobs
    -- what is made of the jobs does not depend on the world, so any will do
    have hassembled := ofJobs_located (w := World.ofFiles FileStore.perform) hjobs hlimit .empty
    have hlocated' : c.located (World.ofFiles FileStore.perform) p .empty = located.1 := by
      rw [Compiler.located, hlocated, World.run_pure]
    rw [hlocated'] at hassembled
    have horderly := orderly_rendered (World.ofFiles FileStore.perform) c p .empty
    obtain ⟨warnings, hwarnings⟩ := exists_enterAll_eq_pure hv
      (c.assembled (World.ofFiles FileStore.perform) p .empty)
    refine Or.inr ⟨p, c.rendered (World.ofFiles FileStore.perform) p .empty,
      ⟨p.task.name, c.workDir p.task.name, located.1.length, p.throttle, located.2 ++ warnings⟩,
      rfl, horderly, rfl, fun token => ?_⟩
    rw [compile, hp]
    dsimp only
    rw [carryOut, hlocated, pure_bind]
    dsimp only
    rw [hassembled, FailureReport.guarded]
    dsimp only
    rw [bind_assoc]
    refine congrArg _ (funext fun answer => ?_)
    cases answer with
    | ok u =>
      dsimp only
      rw [hwarnings, pure_bind, pure_bind]
      rfl
    | error f =>
      dsimp only
      rw [pure_bind]
      dsimp only
      rw [report_eq_pure hv, pure_bind]
      rfl

end Compiler

/-! ### Any number of requests -/

/-- Requests that are compiled with services that keep nothing, in working directories that differ
by their components. -/
structure Batch (ι : Type) where
  compiler : Compiler
  request : ι → Request
  stateless : compiler.services.Stateless
  apart : ∀ i j p q, i ≠ j → compiler.plan (request i) = .ok p →
    compiler.plan (request j) = .ok q →
    (compiler.workDir p.task.name).components ≠ (compiler.workDir q.task.name).components

namespace Batch

variable {ι σ : Type} (b : Batch ι)

/-- The compilation of a request, under a token with the number of the process and one of its
own. -/
def program (process : ℕ) (call : ι → ℕ) (i : ι) : Program (Except Error Compilation) :=
  b.compiler.compile (Emission.token process (call i)) (b.request i)

/-- The directory is the working directory of the request's task. -/
def WorksIn (i : ι) (dir : Path) : Prop :=
  ∃ p, b.compiler.plan (b.request i) = .ok p ∧ dir = b.compiler.workDir p.task.name

/-- The paths directly in the working directory of a request. -/
def area (i : ι) : Set (List Component) :=
  {k | ∃ dir, b.WorksIn i dir ∧ k ∈ Emission.inside dir}

/-- The results are the same; or both say that an artifact could not be staged, and each of them
names the staging file of its own token. -/
inductive SameResult (token token' : String) :
    Except Error Compilation → Except Error Compilation → Prop where
  | same (r : Except Error Compilation) : SameResult token token' r r
  | staging (dir : Path) (n : String) : SameResult token token'
      (.error (.other (.staging n (.writeRefused (Emission.hiddenPath dir token n)))))
      (.error (.other (.staging n (.writeRefused (Emission.hiddenPath dir token' n)))))

/-- The path is that of a staging file of a request under a token. -/
def IsStaging (i : ι) (token : String) (q : Path) : Prop :=
  ∃ dir, b.WorksIn i dir ∧ ∃ n ∈ Artifact.names,
    q.components = (Emission.hiddenPath dir token n).components

variable {b} {i j : ι} {w : World σ} {store : σ → FileStore}

/-- The same compilation, or the same failure with the same message. -/
lemma SameResult.mapError_message {token token' : String} {r r' : Except Error Compilation}
    (h : SameResult token token' r r') :
    r.mapError Error.message = r'.mapError Error.message := by
  cases h with
  | same r => rfl
  | staging dir n => rfl

lemma worksIn_iff {p : Plan} (hp : b.compiler.plan (b.request i) = .ok p) {dir : Path} :
    b.WorksIn i dir ↔ dir = b.compiler.workDir p.task.name := by
  constructor
  · rintro ⟨p', hp', rfl⟩
    rw [hp] at hp'
    rw [Except.ok.inj hp']
  · rintro rfl
    exact ⟨p, hp, rfl⟩

lemma area_eq {p : Plan} (hp : b.compiler.plan (b.request i) = .ok p) :
    b.area i = Emission.inside (b.compiler.workDir p.task.name) := by
  ext k
  simp [area, worksIn_iff hp]

lemma disjoint_area (hij : i ≠ j) : Disjoint (b.area i) (b.area j) := by
  rw [Set.disjoint_left]
  rintro k ⟨dir, ⟨p, hp, rfl⟩, hk⟩ ⟨dir', ⟨q, hq, rfl⟩, hk'⟩
  have hapart := Emission.disjoint_inside (b.apart i j p q hij hp hq)
  exact Set.disjoint_left.1 hapart hk hk'

/-- A compilation keeps to the paths directly in its working directory. -/
lemma secluded_program (hw : w.Filed store) (process : ℕ) (call : ι → ℕ) (i : ι) :
    Secluded w store (b.area i) (b.program process call i) := by
  rcases Compiler.compile_eq_emission b.stateless (b.request i) with
    ⟨e, -, hcompile⟩ | ⟨p, artifacts, k, hp, horderly, -, hcompile⟩
  · rw [program, hcompile]
    exact .pure _
  · have ht := Emission.slash_not_mem_token process (call i)
    rw [program, hcompile, area_eq hp]
    exact (Emission.secluded_writeAll hw _ ht horderly).bind fun _ => .pure _

/-- A compilation ends. -/
lemma endsWithin_program (b : Batch ι) (process : ℕ) (call : ι → ℕ) (i : ι) :
    (b.program process call i).EndsWithin (1 + 6 * Artifact.names.length) := by
  rcases Compiler.compile_eq_emission b.stateless (b.request i) with
    ⟨e, -, hcompile⟩ | ⟨p, artifacts, k, -, -, hnames, hcompile⟩
  · rw [program, hcompile]
    trivial
  · have hlength : artifacts.length = Artifact.names.length := by
      rw [← hnames, List.length_map]
    have hemission := Emission.endsWithin_writeAll (b.compiler.workDir p.task.name)
      (Emission.token process (call i)) artifacts
    rw [program, hcompile, ← hlength]
    refine Program.EndsWithin.mono (m := 1 + 6 * artifacts.length + 0) ?_ (by omega)
    exact hemission.bind fun _ => trivial

/-- **The same compilation under two tokens.**  From the same state, it has the same result and
leaves the same files, but for those that have been in the place of a staging file. -/
lemma run_program_tokens (hw : w.Filed store) (s : σ) (process process' : ℕ) (call call' : ι → ℕ)
    (hs : Emission.token process (call i) ≠ Emission.token process' (call' i) →
      ∀ dir, b.WorksIn i dir → ∀ n ∈ Artifact.names, Emission.IgnoresTokens (store s) dir n) :
    let first := w.run (b.program process call i) s
    let second := w.run (b.program process' call' i) s
    SameResult (Emission.token process (call i)) (Emission.token process' (call' i)) first.1
      second.1 ∧
    ∀ q : Path, (Emission.token process (call i) ≠ Emission.token process' (call' i) →
        b.IsStaging i (Emission.token process (call i)) q ∨
          b.IsStaging i (Emission.token process' (call' i)) q → (store s).contents? q = none) →
      (store first.2).contents? q = (store second.2).contents? q := by
  intro first second
  by_cases htoken : Emission.token process (call i) = Emission.token process' (call' i)
  · -- under the same token it is the same program
    have hsame : first = second := by
      rw [show first = w.run (b.compiler.compile _ _) s from rfl, htoken]
      rfl
    rw [hsame]
    exact ⟨.same _, fun _ _ => rfl⟩
  replace hs := hs htoken
  rcases Compiler.compile_eq_emission b.stateless (b.request i) with
    ⟨e, -, hcompile⟩ | ⟨p, artifacts, k, hp, horderly, hnames, hcompile⟩
  · have hfirst : first = (.error e, s) := by
      simp [first, program, hcompile]
    have hsecond : second = (.error e, s) := by
      simp [second, program, hcompile]
    rw [hfirst, hsecond]
    exact ⟨.same _, fun _ _ => rfl⟩
  · obtain ⟨hanswer, hfiles⟩ := Emission.run_writeAll_tokens hw horderly s process (call i)
      process' (call' i) fun a ha => hs _ ⟨p, hp, rfl⟩ a.name (hnames ▸ List.mem_map_of_mem ha)
    have hrun : ∀ process call, w.run (b.program process call i) s =
        (Compiler.resultOf k (w.run (Emission.writeAll (b.compiler.workDir p.task.name)
            (Emission.token process (call i)) artifacts) s).1,
          (w.run (Emission.writeAll (b.compiler.workDir p.task.name)
            (Emission.token process (call i)) artifacts) s).2) := by
      intro process call
      rw [program, hcompile, World.run_bind, World.run_pure]
    have hfirst := hrun process call
    have hsecond := hrun process' call'
    rw [show first = _ from hfirst, show second = _ from hsecond]
    refine ⟨?_, fun q hq => hfiles q.components fun hk => hq htoken ?_⟩
    · generalize (w.run (Emission.writeAll _ (Emission.token process (call i)) artifacts) s).1 =
        answer at hanswer ⊢
      generalize (w.run (Emission.writeAll _ (Emission.token process' (call' i)) artifacts) s).1 =
        answer' at hanswer ⊢
      cases hanswer with
      | same _ => exact .same _
      | staging n => exact .staging _ n
    · have hstaging : ∀ token, q.components ∈ (Emission.hiddenPaths
          (b.compiler.workDir p.task.name) token artifacts).map Path.components →
          b.IsStaging i token q := by
        intro token hq
        obtain ⟨hidden, hhidden, heq⟩ := List.mem_map.1 hq
        obtain ⟨a, ha, rfl⟩ := List.mem_map.1 hhidden
        exact ⟨_, ⟨p, hp, rfl⟩, a.name, hnames ▸ List.mem_map_of_mem ha, heq.symm⟩
      rw [List.map_append, List.mem_append] at hk
      exact hk.imp (hstaging _) (hstaging _)

variable [DecidableEq ι]

/-- **Requests that do not disturb each other.**  Compile requests with services that keep nothing,
in working directories that differ.  Let the store not tell tokens apart where a request has one
token if the requests take turns, and another one if they are compiled one after another.  Whatever
the order of turns, every request has a result after so many turns of its own; and it is the result
that it has if the requests are compiled one after another, in any order, save for the token in the
name of a staging file that is refused.  When all requests have been compiled, the files are the
same in the two cases, but for those that were in the place of a staging file of such a request from
the beginning. -/
theorem independent (b : Batch ι) (hw : w.Filed store) (s : σ) (process process' : ℕ)
    (call call' : ι → ℕ)
    (hs : ∀ i, Emission.token process (call i) ≠ Emission.token process' (call' i) →
      ∀ dir, b.WorksIn i dir → ∀ n ∈ Artifact.names, Emission.IgnoresTokens (store s) dir n)
    (schedule order : List ι) :
    let now := w.interleaved schedule (b.program process call) s
    let after := w.inTurn order (b.program process' call') s
    (∀ i, 1 + 6 * Artifact.names.length ≤ schedule.count i → ∃ r, now.1 i = .done r) ∧
    (∀ i ∈ order, ∀ r, now.1 i = .done r → ∃ r', after.1 i = .done r' ∧
      SameResult (Emission.token process (call i)) (Emission.token process' (call' i)) r r') ∧
    ((∀ i, i ∈ order ∧ ∃ r, now.1 i = .done r) → ∀ q : Path,
      (∀ i, Emission.token process (call i) ≠ Emission.token process' (call' i) →
          b.IsStaging i (Emission.token process (call i)) q ∨
            b.IsStaging i (Emission.token process' (call' i)) q → (store s).contents? q = none) →
        (store now.2).contents? q = (store after.2).contents? q) := by
  intro now after
  have hapart : Pairwise fun i j => Disjoint (b.area i) (b.area j) :=
    fun _ _ hij => disjoint_area hij
  have hnow : w.Undisturbed store b.area (b.program process call) s now :=
    World.undisturbed_interleaved hw hapart (secluded_program hw process call) schedule s
  have hafter : w.Undisturbed store b.area (b.program process' call') s after :=
    World.undisturbed_inTurn hw hapart (secluded_program hw process' call') order s
  refine ⟨fun i hturns => ?_, fun i hi r hr => ?_, fun hall q hq => ?_⟩
  · exact World.exists_done_of_count (b.endsWithin_program process call i) w s hturns
  · obtain ⟨r', hr'⟩ := w.inTurn_done hi (b.program process' call') s
    refine ⟨r', hr', ?_⟩
    rw [(hnow.of_done hr).1, (hafter.of_done hr').1]
    exact (run_program_tokens hw s process process' call call' (hs i)).1
  · by_cases harea : ∃ i, q.components ∈ b.area i
    · -- the file is as the request leaves it that works in its directory
      obtain ⟨i, hi⟩ := harea
      obtain ⟨horder, r, hr⟩ := hall i
      obtain ⟨r', hr'⟩ := w.inTurn_done horder (b.program process' call') s
      have hsame := (run_program_tokens hw s process process' call call' (hs i)).2 q (hq i)
      have hleft := (hnow.of_done hr).2 q.components hi
      have hright := (hafter.of_done hr').2 q.components hi
      exact (hleft.trans hsame).trans hright.symm
    · have hnone : q.components ∉ ⋃ i, b.area i := by
        simpa using harea
      exact (hnow.elsewhere.view _ hnone).trans (hafter.elsewhere.view _ hnone).symm

/-! ### Two requests that take turns -/

/-- The compiler of the sample configuration, with services that keep nothing. -/
def alone : Compiler :=
  .ofConfig .sample (.ofFiles ⟨[]⟩ none none)

/-- Requests for tasks of two names. -/
def named : Bool → Request
  | false => { Request.sample with
      task := TaskRecord.brief.set "tm_taskname" (.text "130719_090932:x") }
  | true => { Request.sample with
      task := TaskRecord.brief.set "tm_taskname" (.text "130719_090932:y") }

/-- The working directory of each of the two, as far as there is a plan. -/
def dirOf (i : Bool) : Option (List Component) :=
  (alone.plan (named i)).toOption.map fun p => (alone.workDir p.task.name).components

lemma dirOf_ne : dirOf false ≠ none ∧ dirOf true ≠ none ∧ dirOf false ≠ dirOf true := by
  decide +kernel

lemma dirOf_eq {i : Bool} {p : Plan} (hp : alone.plan (named i) = .ok p) :
    dirOf i = some (alone.workDir p.task.name).components := by
  rw [dirOf, hp]
  rfl

/-- Two requests whose working directories differ. -/
def pair : Batch Bool where
  compiler := alone
  request := named
  stateless := Services.stateless_ofFiles _
  apart := by
    intro i j p q hij hp hq heq
    have hsame : dirOf i = dirOf j := by
      rw [dirOf_eq hp, dirOf_eq hq, heq]
    obtain ⟨-, -, hne⟩ := dirOf_ne
    cases i with
    | false =>
      cases j with
      | false => exact hij rfl
      | true => exact hne hsame
    | true =>
      cases j with
      | false => exact hne hsame.symm
      | true => exact hij rfl

lemma exists_worksIn (i : Bool) : ∃ dir, pair.WorksIn i dir := by
  have hplanned : ∀ i, dirOf i ≠ none := Bool.forall_bool.2 ⟨dirOf_ne.1, dirOf_ne.2.1⟩
  cases hp : alone.plan (named i) with
  | error e =>
    refine absurd ?_ (hplanned i)
    rw [dirOf, hp]
    rfl
  | ok p => exact ⟨_, p, hp, rfl⟩

/-- Two requests take turns, and in the directory of one of them no file can be renamed to the
submit file; or they are compiled in the reverse order, under each other's tokens.  Either way, both
have results, which are the same, and so are all files. -/
theorem independent_pair :
    let store := FileStore.empty.refuseRenames ⟨"./130719_090932:y/Job.submit"⟩
    let w := World.ofFiles FileStore.perform
    let now := w.interleaved (List.replicate 19 [false, true]).flatten
      (pair.program 4711 Bool.toNat) store
    let after := w.inTurn [true, false] (pair.program 4711 (1 - ·.toNat)) store
    (∀ i, (∃ dir, pair.WorksIn i dir) ∧ ∃ r r', now.1 i = .done r ∧ after.1 i = .done r' ∧
      r.mapError Error.message = r'.mapError Error.message) ∧
    ∀ q : Path, now.2.contents? q = after.2.contents? q := by
  intro store w now after
  have hw : w.Filed fun s => s := World.filed_ofFiles
  have hwrites : ∀ q, store.refusesWrite q = false := fun q => rfl
  have htokens : ∀ i, Emission.token 4711 i.toNat ≠ Emission.token 4711 (1 - i.toNat) →
      ∀ dir, pair.WorksIn i dir → ∀ n ∈ Artifact.names, Emission.IgnoresTokens store dir n :=
    fun _ _ _ _ _ _ => .of_const hwrites
  obtain ⟨hend, hsame, hfiles⟩ := independent pair hw store 4711 4711 Bool.toNat
    (1 - ·.toNat) htokens (List.replicate 19 [false, true]).flatten [true, false]
  have horder : ∀ i : Bool, i ∈ [true, false] := by decide
  have hturns : ∀ i : Bool, 1 + 6 * Artifact.names.length ≤
      (List.replicate 19 [false, true]).flatten.count i := by decide
  have hdone : ∀ i, ∃ r, now.1 i = .done r := fun i => hend i (hturns i)
  refine ⟨fun i => ⟨exists_worksIn i, ?_⟩, fun q => ?_⟩
  · obtain ⟨r, hr⟩ := hdone i
    obtain ⟨r', hr', hresult⟩ := hsame i (horder i) r hr
    exact ⟨r, r', hr, hr', hresult.mapError_message⟩
  · have hnone : store.contents? q = none := rfl
    exact hfiles (fun i => ⟨horder i, hdone i⟩) q fun _ _ _ => hnone

/-- A file in the directory of the first request, under the token of the first call in the
process. -/
def leftover : Path := ⟨"./130719_090932:x/.RunJobs.dag.4711.0.tmp"⟩

/-- A store that holds this file and no other. -/
def littered : FileStore :=
  FileStore.empty.put leftover .empty

/-- The first request has all of its turns before the second one, and so the first token. -/
def ahead (s : FileStore) : (Bool → Program (Except Error Compilation)) × FileStore :=
  (World.ofFiles FileStore.perform).interleaved (List.replicate 19 false ++ List.replicate 19 true)
    (pair.program 4711 Bool.toNat) s

/-- The second request is compiled before the first one, and so it has the first token. -/
def behind (s : FileStore) : (Bool → Program (Except Error Compilation)) × FileStore :=
  (World.ofFiles FileStore.perform).inTurn [true, false] (pair.program 4711 (1 - ·.toNat)) s

/-- The path of the staging file that is refused. -/
def refusedPath? : Except Error Compilation → Option Path
  | .error (.other (.staging _ (.writeRefused p))) => some p
  | _ => none

/-- The order is not always without traces.  If the first token is that of a file which was there
from the beginning, the file is gone or stays as the token goes to the one request or to the other;
and if all writing is refused, each request is told of a staging file under its own token. -/
theorem not_independent_pair :
    (¬ ∀ s, (∀ dir n, Emission.IgnoresTokens s dir n) →
      (∀ i, ∃ r r', (ahead s).1 i = .done r ∧ (behind s).1 i = .done r') →
      ∀ q : Path, (ahead s).2.contents? q = (behind s).2.contents? q) ∧
    ¬ ∀ s, (∀ dir n, Emission.IgnoresTokens s dir n) → ∀ i r r',
      (ahead s).1 i = .done r → (behind s).1 i = .done r' → r = r' := by
  constructor
  · intro h
    have htokens : ∀ dir n, Emission.IgnoresTokens littered dir n :=
      fun _ _ => .of_const fun _ => rfl
    obtain ⟨hresults, hgone, hkept⟩ :
        (∀ i, (((ahead littered).1 i).result?).isSome = true ∧
          (((behind littered).1 i).result?).isSome = true) ∧
        ((ahead littered).2.contents? leftover).isSome = false ∧
        ((behind littered).2.contents? leftover).isSome = true := by
      decide +kernel
    have hdone : ∀ i, ∃ r r', (ahead littered).1 i = .done r ∧
        (behind littered).1 i = .done r' := by
      intro i
      obtain ⟨r, hr⟩ := Option.isSome_iff_exists.1 (hresults i).1
      obtain ⟨r', hr'⟩ := Option.isSome_iff_exists.1 (hresults i).2
      exact ⟨r, r', Program.result?_eq_some.1 hr, Program.result?_eq_some.1 hr'⟩
    rw [h _ htokens hdone leftover, hkept] at hgone
    cases hgone
  · intro h
    have htokens : ∀ dir n, Emission.IgnoresTokens (FileStore.empty.refuseWritesFrom "") dir n :=
      fun _ _ => .of_const fun _ => rfl
    have hpaths :
        ((ahead (FileStore.empty.refuseWritesFrom "")).1 false).result?.map refusedPath? =
          some (some leftover) ∧
        ((behind (FileStore.empty.refuseWritesFrom "")).1 false).result?.map refusedPath? =
          some (some ⟨"./130719_090932:x/.RunJobs.dag.4711.1.tmp"⟩) := by
      decide +kernel
    obtain ⟨r, hr, hpath⟩ := Option.map_eq_some_iff.1 hpaths.1
    obtain ⟨r', hr', hpath'⟩ := Option.map_eq_some_iff.1 hpaths.2
    have hsame := h _ htokens false r r' (Program.result?_eq_some.1 hr)
      (Program.result?_eq_some.1 hr')
    rw [← hsame, hpath] at hpath'
    revert hpath'
    decide

end Batch

end JobGraph
