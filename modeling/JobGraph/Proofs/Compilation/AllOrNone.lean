import Mathlib.Data.List.Induction
import JobGraph.Proofs.Compilation.Files

/-!
# All artifacts or none

Over a run of compilations, with refusals put in between, a working directory holds the three
artifacts of one compilation or none at all, until a compilation spoils it.  A compilation spoils
its directory if the artifacts of an earlier one are there and, the first of the new ones having
taken its place, another one is refused: what has been placed is then removed, but what it has
replaced does not come back.

The main result is `Setting.whole_iff`, which says that there is no other way to spoil a directory.
-/

namespace JobGraph

open World (Confined)

namespace Compiler

/-- The working directory of some task. -/
def IsTaskDir (c : Compiler) (dir : Path) : Prop :=
  ∃ r task, Task.ofRecord r = .ok task ∧ dir = c.workDir task.name

lemma isTaskDir_of_plan (c : Compiler) {r : Request} {p : Plan} (hp : c.plan r = .ok p) :
    c.IsTaskDir (c.workDir p.task.name) :=
  ⟨r.task, p.task, (Plan.of_plan_eq_ok hp).1, rfl⟩

end Compiler

/-- Where a run takes place: a world with files, and a compiler whose services keep their own files
outside all working directories. -/
structure Setting (τ : Type) where
  world : World (FileStore × τ)
  compiler : Compiler
  /-- The number of the process, by which staging files are named. -/
  process : Nat
  records : Path → Prop
  notices : Path → Prop
  filed : world.Filed Prod.fst
  confined : Confined world Prod.fst compiler.services records notices
  outside : ∀ dir, compiler.IsTaskDir dir → ∀ q, records q ∨ notices q → q.isIn dir = false

/-- The state of the world, and the number of compilations so far. -/
structure Course (τ : Type) where
  world : FileStore × τ
  calls : Nat

/-- What may happen in a run. -/
inductive Move where
  | refuseWrites (p : Path)
  | refuseWritesFrom (start : String)
  | refuseRenames (p : Path)
  | compile (r : Request)

namespace Setting

open Compiler (Bare)

variable {τ : Type} (e : Setting τ)

/-- The result of a compilation and the state of the world after it. -/
def compile (s : Course τ) (r : Request) : Except Error Compilation × (FileStore × τ) :=
  e.compiler.compiled e.world e.process s.calls r s.world

/-- The state after a move. -/
def step (s : Course τ) : Move → Course τ
  | .refuseWrites p => { s with world := (s.world.1.refuseWrites p, s.world.2) }
  | .refuseWritesFrom start => { s with world := (s.world.1.refuseWritesFrom start, s.world.2) }
  | .refuseRenames p => { s with world := (s.world.1.refuseRenames p, s.world.2) }
  | .compile r => ⟨(e.compile s r).2, s.calls + 1⟩

/-- The state after some moves. -/
def run (s : Course τ) (moves : List Move) : Course τ :=
  moves.foldl e.step s

/-- The artifacts were made for the directory by one of the moves, a compilation that succeeded. -/
def Made (start : Course τ) (moves : List Move) (dir : Path) (as : List Artifact) : Prop :=
  ∃ before r after p k, moves = before ++ .compile r :: after ∧
    (e.compile (e.run start before) r).1 = .ok k ∧ k.workDir.components = dir.components ∧
    e.compiler.plan r = .ok p ∧ as = e.compiler.rendered e.world p (e.run start before).world

/-- The artifacts are in their places in the directory. -/
def Holds (files : FileStore) (dir : Path) (as : List Artifact) : Prop :=
  ∀ a ∈ as, files.contents? (Emission.place dir a.name) = some a.contents.toUTF8

/-- After the moves, every working directory holds all three artifacts of one compilation, or none
of the three. -/
def Whole (start : Course τ) (moves : List Move) : Prop :=
  ∀ dir, e.compiler.IsTaskDir dir →
    Bare (e.run start moves).world.1 dir ∨
      ∃ as, e.Made start moves dir as ∧ Holds (e.run start moves).world.1 dir as

/-- What failed is placing an artifact other than the first. -/
def IsLate (f : Failure) : Prop :=
  ∃ n cause, f = .placing n cause ∧ n ≠ Artifact.graphFile

/-- The compilation fails late, and its working directory is not without artifacts. -/
def Spoils (s : Course τ) (r : Request) : Prop :=
  ∃ p f, e.compiler.plan r = .ok p ∧ (e.compile s r).1 = .error (.other f) ∧ IsLate f ∧
    ¬ Bare s.world.1 (e.compiler.workDir p.task.name)

/-! ### One compilation -/

/-- The artifact at which a list of artifacts is cut is the first; or the first is before it, and
the last is not. -/
lemma rendered_eq_append {w : World (FileStore × τ)} {c : Compiler} {p : Plan} {s : FileStore × τ}
    {done rest : List Artifact} {a : Artifact} (h : c.rendered w p s = done ++ a :: rest) :
    (done = [] ∧ a.name = Artifact.graphFile) ∨
    (a.name ≠ Artifact.graphFile ∧ (∃ b ∈ done, b.name = Artifact.graphFile) ∧
      ∀ b ∈ done, b.name ≠ Artifact.siteFile) := by
  have hnames : Artifact.names = done.map (·.name) ++ a.name :: rest.map (·.name) := by
    rw [← List.map_cons, ← List.map_append, ← h]
    rfl
  rw [Artifact.names] at hnames
  cases done with
  | nil => exact Or.inl ⟨rfl, (List.cons.inj hnames).1.symm⟩
  | cons b done =>
    have hb : Artifact.graphFile = b.name := (List.cons.inj hnames).1
    have htail : [Artifact.submitFile, Artifact.siteFile] =
        done.map (·.name) ++ a.name :: rest.map (·.name) := (List.cons.inj hnames).2
    refine Or.inr ⟨?_, ⟨b, List.mem_cons_self, hb.symm⟩, ?_⟩
    · have ha : a.name ∈ [Artifact.submitFile, Artifact.siteFile] := by
        rw [htail]
        simp
      intro heq
      rw [heq] at ha
      exact absurd ha (by decide)
    · rw [List.forall_mem_cons, ← hb]
      refine ⟨by decide, fun d hd => ?_⟩
      -- there is room for one more artifact before the last
      cases done with
      | nil => cases hd
      | cons b' done =>
        have hb' : Artifact.submitFile = b'.name := (List.cons.inj htail).1
        have hlen := congrArg List.length htail
        simp only [List.length_cons, List.length_nil, List.length_append, List.length_map] at hlen
        have hnil : done = [] := List.eq_nil_of_length_eq_zero (by omega)
        rw [hnil, List.mem_singleton] at hd
        rw [hd, ← hb']
        decide

/-- What an emission that fails makes of the artifacts in its directory: if it fails late, the first
is missing, the last is as before, and nothing has come up; else nothing has changed. -/
lemma at_names_of_error {w : World (FileStore × τ)} {c : Compiler} {p : Plan}
    {s : FileStore × τ} {dir : Path} {token : String} (ht : '/' ∉ token.toList) {f : Failure}
    {before after : FileStore.Contents}
    (h : Emission.Outcome dir token (c.rendered w p s) before (.error f) after) :
    (¬ IsLate f ∧ ∀ n ∈ Artifact.names, after (Emission.place dir n).components =
      before (Emission.place dir n).components) ∨
    (IsLate f ∧ after (Emission.place dir Artifact.graphFile).components = none ∧
      after (Emission.place dir Artifact.siteFile).components =
        before (Emission.place dir Artifact.siteFile).components ∧
      ∀ n ∈ Artifact.names, before (Emission.place dir n).components = none →
        after (Emission.place dir n).components = none) := by
  rcases h.at_place_of_error ht (Compiler.orderly_rendered w c p s) with
    ⟨n, cause, rfl, hkeep⟩ | ⟨done, a, rest, cause, hsplit, rfl, hdone, hkeep⟩
  · refine Or.inl ⟨?_, fun m hm => hkeep m (Compiler.isName_of_mem_names hm)
      (Compiler.visible_of_mem_names hm)⟩
    rintro ⟨n', cause', heq, -⟩
    cases heq
  · rcases rendered_eq_append hsplit with ⟨rfl, ha⟩ | ⟨ha, ⟨b, hb, hgraph⟩, hsite⟩
    · refine Or.inl ⟨?_, fun m hm => hkeep m (Compiler.isName_of_mem_names hm)
        (Compiler.visible_of_mem_names hm) (by simp)⟩
      rintro ⟨n', cause', heq, hne⟩
      cases heq
      exact hne ha
    · have hmem : Artifact.siteFile ∈ Artifact.names := by decide
      refine Or.inr ⟨⟨a.name, cause, rfl, ha⟩, hgraph ▸ hdone b hb, ?_, fun m hm hnone => ?_⟩
      · exact hkeep _ (Compiler.isName_of_mem_names hmem) (Compiler.visible_of_mem_names hmem) hsite
      · by_cases hm' : ∃ d ∈ done, d.name = m
        · obtain ⟨d, hd, rfl⟩ := hm'
          exact hdone d hd
        · push Not at hm'
          rw [hkeep m (Compiler.isName_of_mem_names hm) (Compiler.visible_of_mem_names hm) hm']
          exact hnone

/-- No place of an artifact in a working directory belongs to a service. -/
lemma place_not_own {dir : Path} (hdir : e.compiler.IsTaskDir dir) {n : String}
    (hn : n ∈ Artifact.names) :
    ¬ e.records (Emission.place dir n) ∧ ¬ e.notices (Emission.place dir n) := by
  have hin := Emission.isIn_place (Compiler.isName_of_mem_names hn) dir
  rw [← not_or]
  intro ho
  rw [e.outside dir hdir _ ho] at hin
  cases hin

/-- What a compilation that fails in its emission makes of the artifacts in its directory. -/
lemma compile_failed (s : Course τ) {r : Request} {p : Plan} {f : Failure}
    (hp : e.compiler.plan r = .ok p) (hf : (e.compile s r).1 = .error (.other f)) :
    (¬ IsLate f ∧ ∀ n ∈ Artifact.names,
      (e.compile s r).2.1.contents? (Emission.place (e.compiler.workDir p.task.name) n) =
        s.world.1.contents? (Emission.place (e.compiler.workDir p.task.name) n)) ∨
    (IsLate f ∧
      (e.compile s r).2.1.contents?
        (Emission.place (e.compiler.workDir p.task.name) Artifact.graphFile) = none ∧
      (e.compile s r).2.1.contents?
          (Emission.place (e.compiler.workDir p.task.name) Artifact.siteFile) =
        s.world.1.contents?
          (Emission.place (e.compiler.workDir p.task.name) Artifact.siteFile) ∧
      (Bare s.world.1 (e.compiler.workDir p.task.name) →
        Bare (e.compile s r).2.1 (e.compiler.workDir p.task.name))) := by
  have ht := Emission.slash_not_mem_token e.process s.calls
  have hdir := e.compiler.isTaskDir_of_plan hp
  rcases Compiler.run_compile_cases e.filed e.confined ht r s.world with
    ⟨cause, hp', -⟩ | ⟨p', f', after, hp', houtcome, hresult, hfiles⟩ |
      ⟨p', k, after, hp', houtcome, hresult, -⟩
  · rw [hp] at hp'
    cases hp'
  · rw [hp] at hp'
    cases hp'
    rw [compile, Compiler.compiled, hresult] at hf
    cases hf
    have hat : ∀ n ∈ Artifact.names,
        (e.compile s r).2.1.contents? (Emission.place (e.compiler.workDir p.task.name) n) =
          after (Emission.place (e.compiler.workDir p.task.name) n).components :=
      fun n hn => hfiles _ (e.place_not_own hdir hn).2
    rcases at_names_of_error ht houtcome with ⟨hlate, hkeep⟩ | ⟨hlate, hgraph, hsite, hnone⟩
    · refine Or.inl ⟨hlate, fun n hn => ?_⟩
      rw [hat n hn]
      exact hkeep n hn
    · refine Or.inr ⟨hlate, ?_, ?_, fun hbare n hn => ?_⟩
      · rw [hat _ (by decide), hgraph]
      · rw [hat _ (by decide)]
        exact hsite
      · rw [hat n hn]
        exact hnone n hn (hbare n hn)
  · rw [compile, Compiler.compiled, hresult] at hf
    cases hf

/-- What a compilation makes of the artifacts in a working directory: nothing; or it has made all of
those that are there; or it fails late, in the directory of its own task. -/
lemma compile_cases (s : Course τ) (r : Request) {dir : Path} (hdir : e.compiler.IsTaskDir dir) :
    (∀ n ∈ Artifact.names, (e.compile s r).2.1.contents? (Emission.place dir n) =
        s.world.1.contents? (Emission.place dir n)) ∨
    (∃ p k, e.compiler.plan r = .ok p ∧ (e.compile s r).1 = .ok k ∧
      k.workDir.components = dir.components ∧
      Holds (e.compile s r).2.1 dir (e.compiler.rendered e.world p s.world)) ∨
    ∃ p f, e.compiler.plan r = .ok p ∧ (e.compile s r).1 = .error (.other f) ∧ IsLate f ∧
      (e.compiler.workDir p.task.name).components = dir.components := by
  have ht := Emission.slash_not_mem_token e.process s.calls
  rcases Compiler.run_compile_cases e.filed e.confined ht r s.world with
    ⟨cause, hp, hresult, hfiles⟩ | ⟨p, f, after, hp, houtcome, hresult, hfiles⟩ |
      ⟨p, k, after, hp, houtcome, hresult, hwork, hfiles⟩
  · exact Or.inl fun n hn => hfiles _ (e.place_not_own hdir hn).2
  · by_cases hd : (e.compiler.workDir p.task.name).components = dir.components
    · rcases e.compile_failed s hp hresult with ⟨-, hkeep⟩ | ⟨hlate, -⟩
      · refine Or.inl fun n hn => ?_
        rw [← Compiler.contents?_place_congr hd hn, ← Compiler.contents?_place_congr hd hn]
        exact hkeep n hn
      · exact Or.inr (Or.inr ⟨p, f, hp, hresult, hlate, hd⟩)
    · refine Or.inl fun n hn => (hfiles _ (e.place_not_own hdir hn).2).trans ?_
      exact houtcome.eq_of_dir_ne ht (Compiler.orderly_rendered _ _ _ _) (Ne.symm hd)
        (Compiler.isName_of_mem_names hn)
  · by_cases hd : (e.compiler.workDir p.task.name).components = dir.components
    · refine Or.inr (Or.inl ⟨p, k, hp, hresult, by rw [hwork, hd], fun a ha => ?_⟩)
      have hn : a.name ∈ Artifact.names := List.mem_map_of_mem (f := Artifact.name) ha
      rw [← Compiler.contents?_place_congr hd hn]
      refine (hfiles _ ?_).trans (houtcome.at_place (Compiler.orderly_rendered _ _ _ _) ha)
      exact (e.place_not_own (e.compiler.isTaskDir_of_plan hp) hn).1
    · refine Or.inl fun n hn => (hfiles _ (e.place_not_own hdir hn).1).trans ?_
      exact houtcome.eq_of_dir_ne ht (Compiler.orderly_rendered _ _ _ _) (Ne.symm hd)
        (Compiler.isName_of_mem_names hn)

/-! ### A run of moves -/

lemma run_append_singleton (s : Course τ) (moves : List Move) (m : Move) :
    e.run s (moves ++ [m]) = e.step (e.run s moves) m := by
  rw [run, List.foldl_append]
  rfl

variable {e} {start : Course τ} {moves : List Move}

lemma Made.append {dir : Path} {as : List Artifact} (h : e.Made start moves dir as) (m : Move) :
    e.Made start (moves ++ [m]) dir as := by
  obtain ⟨before, r, after, p, k, rfl, hmade⟩ := h
  exact ⟨before, r, after ++ [m], p, k, by simp, hmade⟩

/-- Artifacts that were made are the three, in order. -/
lemma Made.names_eq {dir : Path} {as : List Artifact} (h : e.Made start moves dir as) :
    as.map (·.name) = Artifact.names := by
  obtain ⟨before, r, after, p, k, -, -, -, -, rfl⟩ := h
  rfl

lemma Made.exists_mem {dir : Path} {as : List Artifact} (h : e.Made start moves dir as)
    {n : String} (hn : n ∈ Artifact.names) : ∃ a ∈ as, a.name = n := by
  rw [← h.names_eq] at hn
  exact List.mem_map.1 hn

/-- Working directories stay as they are if their artifacts do. -/
lemma Whole.of_unchanged (h : e.Whole start moves) {m : Move} {dir : Path}
    (hdir : e.compiler.IsTaskDir dir)
    (hkeep : ∀ n ∈ Artifact.names,
      (e.run start (moves ++ [m])).world.1.contents? (Emission.place dir n) =
        (e.run start moves).world.1.contents? (Emission.place dir n)) :
    Bare (e.run start (moves ++ [m])).world.1 dir ∨
      ∃ as, e.Made start (moves ++ [m]) dir as ∧
        Holds (e.run start (moves ++ [m])).world.1 dir as := by
  rcases h dir hdir with hbare | ⟨as, hmade, hholds⟩
  · refine Or.inl fun n hn => ?_
    rw [hkeep n hn]
    exact hbare n hn
  · refine Or.inr ⟨as, hmade.append m, fun a ha => ?_⟩
    rw [hkeep a.name (hmade.names_eq ▸ List.mem_map_of_mem ha)]
    exact hholds a ha

/-- A move that does not spoil its directory leaves all directories whole. -/
lemma Whole.append (h : e.Whole start moves) {m : Move}
    (hm : ∀ r, m = .compile r → ¬ e.Spoils (e.run start moves) r) :
    e.Whole start (moves ++ [m]) := by
  intro dir hdir
  have hstep := e.run_append_singleton start moves m
  cases m with
  | refuseWrites p => exact h.of_unchanged hdir fun n _ => by rw [hstep]; rfl
  | refuseWritesFrom text => exact h.of_unchanged hdir fun n _ => by rw [hstep]; rfl
  | refuseRenames p => exact h.of_unchanged hdir fun n _ => by rw [hstep]; rfl
  | compile r =>
    rcases e.compile_cases (e.run start moves) r hdir with
      hkeep | ⟨p, k, hp, hk, hwork, hholds⟩ | ⟨p, f, hp, hf, hlate, hwork⟩
    · refine h.of_unchanged hdir fun n hn => ?_
      rw [hstep]
      exact hkeep n hn
    · refine Or.inr ⟨_, ⟨moves, r, [], p, k, rfl, hk, hwork, hp, rfl⟩, ?_⟩
      rw [hstep]
      exact hholds
    · -- as the compilation does not spoil the directory, there was nothing to lose
      have hbare : Bare (e.run start moves).world.1 (e.compiler.workDir p.task.name) := by
        by_contra hbare
        exact hm r rfl ⟨p, f, hp, hf, hlate, hbare⟩
      rw [hstep]
      rcases e.compile_failed (e.run start moves) hp hf with ⟨hnot, -⟩ | ⟨-, -, -, hnone⟩
      · exact absurd hlate hnot
      · exact Or.inl ((hnone hbare).congr hwork)

/-- A compilation that spoils its directory does not leave it whole. -/
lemma Whole.not_append_of_spoils (h : e.Whole start moves) {r : Request}
    (hr : e.Spoils (e.run start moves) r) : ¬ e.Whole start (moves ++ [.compile r]) := by
  obtain ⟨p, f, hp, hf, hlate, hbare⟩ := hr
  have hdir := e.compiler.isTaskDir_of_plan hp
  rcases e.compile_failed (e.run start moves) hp hf with ⟨hnot, -⟩ | ⟨-, hgraph, hsite, -⟩
  · exact absurd hlate hnot
  intro hwhole
  rcases h _ hdir with hbare' | ⟨as, hmade, hholds⟩
  · exact hbare hbare'
  -- the last artifact of the earlier compilation is still there, and the first of none
  obtain ⟨a, ha, haname⟩ := hmade.exists_mem (by decide : Artifact.siteFile ∈ Artifact.names)
  have hlast := hholds a ha
  rw [haname, ← hsite] at hlast
  have hafter := hwhole _ hdir
  rw [run_append_singleton] at hafter
  rcases hafter with hbare' | ⟨as', hmade', hholds'⟩
  · have hnone := hbare' Artifact.siteFile (by decide)
    rw [step, hlast] at hnone
    cases hnone
  · obtain ⟨b, hb, hbname⟩ := hmade'.exists_mem (by decide : Artifact.graphFile ∈ Artifact.names)
    have hfirst := hholds' b hb
    rw [hbname, step, hgraph] at hfirst
    cases hfirst

/-- At the start all working directories are whole, as there is nothing in them. -/
lemma whole_nil (hstart : ∀ dir, e.compiler.IsTaskDir dir → Bare start.world.1 dir) :
    e.Whole start [] :=
  fun dir hdir => Or.inl (hstart dir hdir)

/-- **All or none, and when not.**  Start without artifacts in any working directory.  In every
state that a run goes through, every working directory holds all three artifacts of one compilation
or none of the three, if and only if no compilation of the run spoils its directory. -/
theorem whole_iff (e : Setting τ) (start : Course τ)
    (hstart : ∀ dir, e.compiler.IsTaskDir dir → Bare start.world.1 dir) (moves : List Move) :
    (∀ before after, moves = before ++ after → e.Whole start before) ↔
      ∀ before r after, moves = before ++ .compile r :: after →
        ¬ e.Spoils (e.run start before) r := by
  constructor
  · -- the state before a compilation that spoils its directory is whole, the one after it is not
    intro hwhole before r after heq hr
    refine (hwhole before _ heq).not_append_of_spoils hr ?_
    exact hwhole (before ++ [.compile r]) after (by rw [heq, List.append_assoc]; rfl)
  · -- each move keeps the directories whole, from the start of the run on
    intro hspoils before
    induction before using List.reverseRecOn with
    | nil => exact fun _ _ => whole_nil hstart
    | append_singleton before m ih =>
      intro after heq
      rw [List.append_assoc, List.singleton_append] at heq
      refine (ih _ heq).append ?_
      rintro r rfl
      exact hspoils before r after heq

/-! ### A run that spoils a directory -/

/-- The compiler that keeps its records in two files, without other services. -/
def filing : Setting Unit :=
  { world := World.ofFiles fun op s =>
      ((FileStore.perform op s.1).1, ((FileStore.perform op s.1).2, s.2))
    compiler := .filing
    process := 1
    records := fun q => ∃ f ∈ some (⟨"records.jsonl"⟩ : Path), q.same f
    notices := fun q => ∃ f ∈ some (⟨"failures.jsonl"⟩ : Path), q.same f
    filed := ⟨fun _ _ => rfl, fun _ _ => rfl⟩
    confined := World.confined_ofFiles ⟨fun _ _ => rfl, fun _ _ => rfl⟩ ⟨[]⟩ _ _
    outside := by
      rintro dir ⟨r, task, -, rfl⟩ q (⟨f, hf, hq⟩ | ⟨f, hf, hq⟩)
      all_goals
        cases hf
        exact Compiler.isIn_workDir_filing ⟨by decide, by decide, by decide, by decide⟩ hq _ }

/-- Nothing is lost in a directory without artifacts, though placing one of them is refused. -/
theorem whole_iff_refused :
    (∀ dir, filing.compiler.IsTaskDir dir → Bare FileStore.empty dir) ∧
    ∀ before after,
      [.refuseRenames ⟨"./130719_090932:x/Job.submit"⟩, .compile .sample] = before ++ after →
        filing.Whole ⟨(.empty, ()), 0⟩ before := by
  have hstart : ∀ dir, filing.compiler.IsTaskDir dir → Bare FileStore.empty dir :=
    fun _ _ _ _ => rfl
  refine ⟨hstart, (whole_iff filing ⟨(.empty, ()), 0⟩ hstart _).2 ?_⟩
  rintro before r after heq ⟨p, f, -, -, -, hbare⟩
  cases before with
  | nil => cases heq
  | cons m before =>
    cases before with
    | nil =>
      cases heq
      exact hbare fun _ _ => rfl
    | cons m' before =>
      have hlen := congrArg List.length heq
      simp at hlen

/-- Compile the sample request, refuse its submit file, and compile it again. -/
def spoiling : List Move :=
  [.compile .sample, .refuseRenames ⟨"./130719_090932:x/Job.submit"⟩, .compile .sample]

/-- In the end the graph file is gone, and the submit file is still that of the first
compilation. -/
theorem not_whole_spoiling :
    (∀ dir, filing.compiler.IsTaskDir dir → Bare FileStore.empty dir) ∧
    ¬ filing.Whole ⟨(.empty, ()), 0⟩ spoiling := by
  refine ⟨fun _ _ _ _ => rfl, fun h => ?_⟩
  have hleft : [Artifact.graphFile, Artifact.submitFile].map (fun n =>
      ((filing.run ⟨(.empty, ()), 0⟩ spoiling).world.1.contents?
        (Emission.place (Compiler.filing.workDir "130719_090932:x") n)).isSome) =
      [false, true] := by decide +kernel
  obtain ⟨task, htask, hname⟩ := Request.exists_task_sample
  obtain ⟨hgraph, hsubmit⟩ := List.cons.inj hleft
  rcases h (Compiler.filing.workDir task.name) ⟨_, task, htask, rfl⟩ with hbare | ⟨as, hmade, hholds⟩
  · rw [hname] at hbare
    rw [List.map_cons, hbare Artifact.submitFile (by decide)] at hsubmit
    cases hsubmit
  · rw [hname] at hholds
    obtain ⟨a, ha, haname⟩ := hmade.exists_mem (by decide : Artifact.graphFile ∈ Artifact.names)
    have hholds' := hholds a ha
    rw [haname] at hholds'
    dsimp only at hgraph
    rw [hholds'] at hgraph
    cases hgraph

end Setting

end JobGraph
