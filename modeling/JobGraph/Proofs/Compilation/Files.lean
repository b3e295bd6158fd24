import JobGraph.Proofs.Compilation.Stages

/-!
# The files after a compilation

A compilation that fails leaves every file as it was, if the working directory held none of the
artifacts, and a compilation that succeeds changes its artifacts and nothing else; the files of the
services are their own affair.  Neither is so of a file that bears the name of a staging file of
this very compilation: it is taken for the compilation's own, written over, and gone in the end.
The number of the call in a token begins at zero in every process, the numbers of processes come
again, and a process that is cut off leaves its staging files behind, so there may be such a file.

The main result is `Compiler.compile_files`; it holds in every world that keeps its files in a store,
and so for every state of the files, every refusal and every service.
-/

namespace JobGraph.Compiler

open World (Confined)

variable {σ : Type} {w : World σ} {store : σ → FileStore} {c : Compiler}
  {records notices : Path → Prop}

/-- None of the paths is directly in the working directory of the requested task. -/
def Outside (c : Compiler) (r : Request) (own : Path → Prop) : Prop :=
  ∀ p, c.plan r = .ok p → ∀ q, own q → q.isIn (c.workDir p.task.name) = false

/-- The directory holds none of the artifacts. -/
def Bare (files : FileStore) (dir : Path) : Prop :=
  ∀ n ∈ Artifact.names, files.contents? (Emission.place dir n) = none

/-- The working directory of the requested task holds none of the artifacts. -/
def Vacant (c : Compiler) (r : Request) (files : FileStore) : Prop :=
  ∀ p, c.plan r = .ok p → Bare files (c.workDir p.task.name)

/-- The path bears the name of a staging file of this call. -/
def IsStaging (c : Compiler) (token : String) (r : Request) (q : Path) : Prop :=
  ∃ p, c.plan r = .ok p ∧ ∃ n ∈ Artifact.names,
    q.same (Emission.hiddenPath (c.workDir p.task.name) token n) = true

/-- Directories count as one if their components are the same. -/
lemma contents?_place_congr {d dir : Path} (hd : d.components = dir.components) {n : String}
    (hn : n ∈ Artifact.names) (files : FileStore) :
    files.contents? (Emission.place d n) = files.contents? (Emission.place dir n) := by
  have hname := isName_of_mem_names hn
  refine FileStore.contents?_congr ?_ files
  rw [Emission.components_place hname, Emission.components_place hname, hd]

lemma Bare.congr {files : FileStore} {d dir : Path} (hd : d.components = dir.components)
    (h : Bare files d) : Bare files dir := by
  intro n hn
  rw [← contents?_place_congr hd hn]
  exact h n hn

/-- A path at which an artifact of a plan is placed or staged bears the name of one. -/
lemma mem_components_iff {f : String → Path} {p : Plan} {s : σ} {q : Path} :
    q.components ∈ ((c.rendered w p s).map fun a => f a.name).map Path.components ↔
      ∃ n ∈ Artifact.names, q.same (f n) = true := by
  have hmap : ((c.rendered w p s).map fun a => f a.name).map Path.components =
      Artifact.names.map fun n => (f n).components := rfl
  rw [hmap, List.mem_map]
  refine exists_congr fun n => and_congr_right fun _ => ?_
  rw [Path.same_iff, eq_comm]

lemma exists_mem_rendered {p : Plan} {s : σ} {n : String} (hn : n ∈ Artifact.names) :
    ∃ a ∈ c.rendered w p s, a.name = n :=
  List.mem_map.1 (show n ∈ (c.rendered w p s).map (·.name) from hn)

lemma Outside.not_own {own : Path → Prop} {r : Request} (h : Outside c r own) {p : Plan}
    (hp : c.plan r = .ok p) {q : Path} (hq : q.isIn (c.workDir p.task.name) = true) : ¬ own q := by
  intro ho
  rw [h p hp q ho] at hq
  cases hq

/-- **The files after a compilation.**  Let the services change their own files at most, and let
those of the dashboard be outside the working directory.  If a compilation fails, for whatever
reason, and the working directory held none of the artifacts, then all files but those of the
status store are as before, save that a file which bears the name of a staging file of this call may
be gone.  If a compilation succeeds, then there was a plan, and each artifact holds the text that
was made for it, there is no staging file of this call, whatever there was under such a name, and
all other files but those of the dashboard are as before. -/
theorem compile_files (hw : w.Filed store) (hv : Confined w store c.services records notices)
    (process call : Nat) (r : Request) (hout : Outside c r records) (s : σ) :
    (∀ e, (c.compiled w process call r s).1 = .error e → Vacant c r (store s) →
      ∀ q, ¬ notices q →
        (store (c.compiled w process call r s).2).contents? q = (store s).contents? q ∨
        IsStaging c (Emission.token process call) r q ∧
          (store (c.compiled w process call r s).2).contents? q = none) ∧
    (∀ k, (c.compiled w process call r s).1 = .ok k →
      ∃ p, c.plan r = .ok p ∧ k.workDir = c.workDir p.task.name ∧
        (∀ a ∈ c.rendered w p s,
          (store (c.compiled w process call r s).2).contents? (Emission.place k.workDir a.name) =
            some a.contents.toUTF8) ∧
        (∀ q, IsStaging c (Emission.token process call) r q →
          (store (c.compiled w process call r s).2).contents? q = none) ∧
        ∀ q, ¬ records q → ¬ IsStaging c (Emission.token process call) r q →
          (∀ n ∈ Artifact.names, q.same (Emission.place k.workDir n) = false) →
          (store (c.compiled w process call r s).2).contents? q = (store s).contents? q) := by
  rw [compiled]
  have ht := Emission.slash_not_mem_token process call
  rcases run_compile_cases hw hv ht r s with
    ⟨e, hp, he, hfiles⟩ | ⟨p, f, after, hp, houtcome, he, hfiles⟩ |
      ⟨p, k, after, hp, houtcome, hk, hdir, hfiles⟩
  · rw [he]
    exact ⟨fun _ _ _ q hq => Or.inl (hfiles q hq), by simp⟩
  · -- what the emission took away at its places and staging files was its own, or seemed to be
    rw [he]
    refine ⟨fun _ _ hvacant q hq => ?_, by simp⟩
    rw [hfiles q hq]
    rw [← FileStore.view_components]
    rcases houtcome.eq_or_none q.components with hsame | ⟨hnone, hk | hk⟩
    · exact Or.inl hsame
    · obtain ⟨n, hn, hsame⟩ := mem_components_iff.1 hk
      rw [hnone, FileStore.view_components, FileStore.contents?_congr (Path.same_iff.1 hsame)]
      exact Or.inl (hvacant p hp n hn).symm
    · exact Or.inr ⟨⟨p, hp, mem_components_iff.1 hk⟩, hnone⟩
  · rw [hk]
    refine ⟨by simp, fun k' hk' => ?_⟩
    cases hk'
    rw [hdir]
    refine ⟨p, hp, rfl, fun a ha => ?_, ?_, fun q hq hstaging hplace => ?_⟩
    -- the dashboard comes after the emission, and touches nothing in the working directory
    · have hname := isName_of_mem_names (List.mem_map_of_mem (f := Artifact.name) ha)
      rw [hfiles _ (hout.not_own hp (Emission.isIn_place hname _))]
      exact houtcome.at_place (orderly_rendered w c p s) ha
    · rintro q ⟨p', hp', n, hn, hsame⟩
      cases hp.symm.trans hp'
      obtain ⟨a, ha, rfl⟩ := exists_mem_rendered hn
      have hslash := (isName_of_mem_names hn).slash
      rw [FileStore.contents?_congr (Path.same_iff.1 hsame),
        hfiles _ (hout.not_own hp (Emission.isIn_hiddenPath ht hslash _))]
      exact houtcome.at_hiddenPath ht (orderly_rendered w c p s) (Emission.hiddenPath_mem ha)
    · rw [hfiles q hq, ← FileStore.view_components]
      refine houtcome.eq_of_ok ht (orderly_rendered w c p s) (fun hk => ?_) fun hk => ?_
      · obtain ⟨n, hn, hsame⟩ := mem_components_iff.1 hk
        rw [hplace n hn] at hsame
        cases hsame
      · exact absurd ⟨p, hp, mem_components_iff.1 hk⟩ hstaging

/-! ### A compiler that keeps its records in files -/

/-- A working directory of the compiler is below the current directory. -/
lemma components_workDir_filing (name : String) : (filing.workDir name).components ≠ [] := by
  have hjoin : filing.workDir name =
      if (⟨name⟩ : Path).isAbsolute then ⟨name⟩ else ⟨"." ++ "/" ++ name⟩ := by
    rw [workDir, Path.join]
    rfl
  rw [hjoin]
  split
  · next h =>
    rw [Path.components, if_pos h]
    exact List.cons_ne_nil _ _
  · have habs : (⟨"." ++ "/" ++ name⟩ : Path).isAbsolute = false := by simp [Path.isAbsolute]
    have hpieces : Text.pieces '/' ("." ++ "/" ++ name).toList =
        ['.'] :: Text.pieces '/' name.toList := by
      rw [String.toList_append]
      exact Text.pieces_append '/' ['.'] name.toList
    rw [Path.components, habs]
    dsimp only
    rw [hpieces]
    simp

/-- A file of the current directory is outside all working directories. -/
lemma isIn_workDir_filing {q : Path} {f : String} (hf : Path.IsName f) (hq : q.same ⟨f⟩ = true)
    (name : String) : q.isIn (filing.workDir name) = false := by
  rw [Path.isIn, Path.parent?, Path.same_iff.1 hq, hf.components]
  simp [components_workDir_filing name]

/-- The sample request is compiled if nothing is refused; and if renaming to one of its artifacts is
refused, no file is left but the notice of it. -/
theorem compile_files_sample :
    (∃ k p, (filing.compiled (.ofFiles FileStore.perform) 1 0 .sample .empty).1 = .ok k ∧
      filing.plan .sample = .ok p ∧
      ∀ a ∈ filing.rendered (.ofFiles FileStore.perform) p .empty,
        (filing.compiled (.ofFiles FileStore.perform) 1 0 .sample .empty).2.contents?
          (Emission.place k.workDir a.name) = some a.contents.toUTF8) ∧
    (filing.compiled (.ofFiles FileStore.perform) 1 0 .sample
      (FileStore.empty.refuseRenames ⟨"./130719_090932:x/Job.submit"⟩)).1.isOk = false ∧
    ∀ q, q.same ⟨"failures.jsonl"⟩ = false →
      (filing.compiled (.ofFiles FileStore.perform) 1 0 .sample
        (FileStore.empty.refuseRenames ⟨"./130719_090932:x/Job.submit"⟩)).2.contents? q =
          none := by
  have hv := World.confined_ofFiles World.filed_ofFiles ⟨[]⟩ (some ⟨"records.jsonl"⟩)
    (some ⟨"failures.jsonl"⟩)
  have hout : Outside filing .sample fun q => ∃ f ∈ some ⟨"records.jsonl"⟩, q.same f := by
    rintro p - q ⟨f, hf, hq⟩
    cases hf
    exact isIn_workDir_filing ⟨by decide, by decide, by decide, by decide⟩ hq _
  have hfiles := compile_files (c := filing) World.filed_ofFiles hv 1 0 .sample hout
  have hok : (filing.compiled (.ofFiles FileStore.perform) 1 0 .sample .empty).1.isOk = true := by
    decide +kernel
  have hfail : (filing.compiled (.ofFiles FileStore.perform) 1 0 .sample
      (FileStore.empty.refuseRenames ⟨"./130719_090932:x/Job.submit"⟩)).1.isOk = false := by
    decide +kernel
  refine ⟨?_, hfail, fun q hq => ?_⟩
  · obtain ⟨k, hk⟩ := exists_of_isOk hok
    obtain ⟨p, hp, -, hplace, -⟩ := (hfiles .empty).2 k hk
    exact ⟨k, p, hk, hp, hplace⟩
  · obtain ⟨e, he⟩ := exists_of_not_isOk hfail
    have hnotices : ¬ ∃ f ∈ some ⟨"failures.jsonl"⟩, q.same f = true := by
      rintro ⟨f, hf, hsame⟩
      cases hf
      rw [hq] at hsame
      cases hsame
    rcases (hfiles _).1 e he (fun _ _ _ _ => rfl) q hnotices with hsame | ⟨-, hnone⟩
    · exact hsame
    · exact hnone

/-- A staging file in the directory of the sample request, under the token of the first call in the
first process. -/
def leftover : Path := ⟨"./130719_090932:x/.RunJobs.dag.1.0.tmp"⟩

/-- A store that holds what another first process left behind when it was cut off. -/
def littered : FileStore :=
  FileStore.empty.put leftover "JOB Job1 Job.submit\n".toUTF8

lemma vacant_littered (refused : Path) : Vacant filing .sample (littered.refuseRenames refused) := by
  have hbare : (filing.plan .sample).toOption.map (fun p => Artifact.names.all fun n =>
      (littered.contents? (Emission.place (filing.workDir p.task.name) n)).isNone) =
      some true := by
    decide +kernel
  intro p hp n hn
  obtain ⟨p', hp', hall⟩ := exists_of_map_toOption hbare
  cases hp.symm.trans hp'
  exact Option.isNone_iff_eq_none.1 (List.all_eq_true.1 hall n hn)

/-- Not all other files are always as before.  A file in the place of a staging file of this call is
gone in the end, whether the compilation fails or succeeds. -/
theorem not_files_kept_littered :
    let w := World.ofFiles FileStore.perform
    (¬ ∀ (process call : Nat) (s : FileStore) (e : Error),
      (filing.compiled w process call .sample s).1 = .error e → Vacant filing .sample s →
      ∀ q, q.same ⟨"failures.jsonl"⟩ = false →
        (filing.compiled w process call .sample s).2.contents? q = s.contents? q) ∧
    ¬ ∀ (process call : Nat) (s : FileStore) (k : Compilation),
      (filing.compiled w process call .sample s).1 = .ok k →
      ∀ q, q.same ⟨"records.jsonl"⟩ = false →
        (∀ n ∈ Artifact.names, q.same (Emission.place k.workDir n) = false) →
        (filing.compiled w process call .sample s).2.contents? q = s.contents? q := by
  intro w
  constructor
  · intro h
    obtain ⟨hfail, hgone⟩ :
        (filing.compiled w 1 0 .sample
          (littered.refuseRenames ⟨"./130719_090932:x/Job.submit"⟩)).1.isOk = false ∧
        ((filing.compiled w 1 0 .sample
          (littered.refuseRenames ⟨"./130719_090932:x/Job.submit"⟩)).2.contents?
            leftover).isSome = false := by
      decide +kernel
    obtain ⟨e, he⟩ := exists_of_not_isOk hfail
    have hstays : ((littered.refuseRenames ⟨"./130719_090932:x/Job.submit"⟩).contents?
        leftover).isSome = true := by
      decide +kernel
    rw [h 1 0 _ e he (vacant_littered _) leftover (by decide +kernel), hstays] at hgone
    cases hgone
  · intro h
    obtain ⟨hok, hgone⟩ :
        (filing.compiled w 1 0 .sample littered).1.toOption.map (fun k =>
          Artifact.names.all fun n => !leftover.same (Emission.place k.workDir n)) = some true ∧
        ((filing.compiled w 1 0 .sample littered).2.contents? leftover).isSome = false := by
      decide +kernel
    obtain ⟨k, hk, hplaces⟩ := exists_of_map_toOption hok
    have hplace : ∀ n ∈ Artifact.names, leftover.same (Emission.place k.workDir n) = false := by
      intro n hn
      simpa using List.all_eq_true.1 hplaces n hn
    have hstays : (littered.contents? leftover).isSome = true := by
      decide +kernel
    rw [h 1 0 _ k hk leftover (by decide +kernel) hplace, hstays] at hgone
    cases hgone

end JobGraph.Compiler
