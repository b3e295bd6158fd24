import JobGraph.Proofs.Emission.Outcome
import JobGraph.Proofs.Files.Alike

/-!
# Emissions that are made again

An emission touches its places and its staging files (`Emission.within_writeAll`), and it comes to
the same from any two stores that differ there (`Emission.run_writeAll_alike`): its staging files
are written before they are read, and its places are never read at all.  So an emission that was
cut off, at any point, can be made again.  The staging files that it had written and not yet renamed
stay, for they are named for the call that was cut off; nothing else tells the two ways apart.
The main result is `Emission.rerun_characterized`.
-/

namespace JobGraph.Emission

open FileStore (Alike Calm)
open JobGraph.Path (keys)

variable {σ : Type} {w : World σ} {store : σ → FileStore} {dir : Path} {token : String}
  {D : Set (List Component)}

/-! ### What an emission touches -/

lemma within_discard {ps : List Path} (h : ∀ p ∈ ps, p.components ∈ D) :
    (discard ps).Within (Effect.Touches D) fun _ => True := by
  induction ps with
  | nil => exact Program.within_pure trivial
  | cons p ps ih =>
    rw [List.forall_mem_cons] at h
    have hexists : (Program.file (.exists p)).Within (Effect.Touches D) fun _ => True :=
      Program.within_file (by simp [FileOp.touched])
    have hremove : (Program.file (.remove p)).Within (Effect.Touches D) fun _ => True :=
      Program.within_file (by simpa [FileOp.touched] using h.1)
    refine hexists.bind fun found _ => ?_
    dsimp only
    split
    · exact hremove.bind fun _ _ => ih h.2
    · exact ih h.2

/-- Staging touches the staging files, those that have been staged before included, and answers
with all of them if it does not fail. -/
lemma within_stage {staged : List Path} {as : List Artifact}
    (hstaged : ∀ p ∈ staged, p.components ∈ D)
    (has : ∀ a ∈ as, (hiddenPath dir token a.name).components ∈ D) :
    (stage dir token staged as).Within (Effect.Touches D) fun answer =>
      ∀ paths, answer = .ok paths → paths = staged ++ hiddenPaths dir token as := by
  induction as generalizing staged with
  | nil =>
    refine Program.within_pure fun paths hpaths => ?_
    cases hpaths
    rw [hiddenPaths, List.map_nil, List.append_nil]
  | cons a as ih =>
    rw [List.forall_mem_cons] at has
    have hwrite : (Program.file (.write (hiddenPath dir token a.name) a.contents.toUTF8)).Within
        (Effect.Touches D) fun _ => True :=
      Program.within_file (by simpa [FileOp.touched] using has.1)
    refine hwrite.bind fun answer _ => ?_
    cases answer with
    | error e => exact (within_discard hstaged).bind fun _ _ => Program.within_pure (by simp)
    | ok u =>
      have hstaged' : ∀ p ∈ staged ++ [hiddenPath dir token a.name], p.components ∈ D := by
        simpa [or_imp, forall_and] using ⟨hstaged, has.1⟩
      have hnext := ih hstaged' has.2
      rw [List.append_assoc] at hnext
      exact hnext

/-- Placing touches the staging files and the places, those that have been placed before
included. -/
lemma within_put {placed : List Path} {es : List (Artifact × Path)}
    (hplaced : ∀ p ∈ placed, p.components ∈ D)
    (hes : ∀ e ∈ es, e.2.components ∈ D ∧ (place dir e.1.name).components ∈ D) :
    (put dir placed es).Within (Effect.Touches D) fun _ => True := by
  induction es generalizing placed with
  | nil => exact Program.within_pure trivial
  | cons e es ih =>
    obtain ⟨a, path⟩ := e
    rw [List.forall_mem_cons] at hes
    obtain ⟨⟨hpath, hplace⟩, hes⟩ := hes
    have hrename : (Program.file (.rename path (place dir a.name))).Within
        (Effect.Touches D) fun _ => True :=
      Program.within_file (by simpa [FileOp.touched] using ⟨hpath, hplace⟩)
    refine hrename.bind fun answer _ => ?_
    cases answer with
    | ok u =>
      refine ih ?_ hes
      simpa [or_imp, forall_and] using ⟨hplaced, hplace⟩
    | error e =>
      have hrest : ∀ p ∈ path :: es.map (·.2), p.components ∈ D := by
        rw [List.forall_mem_cons, List.forall_mem_map]
        exact ⟨hpath, fun e he => (hes e he).1⟩
      refine (within_discard hplaced).bind fun _ _ => ?_
      exact (within_discard hrest).bind fun _ _ => Program.within_pure trivial

/-- The paths at which an emission may change a file: its staging files and its places. -/
def own (dir : Path) (token : String) (artifacts : List Artifact) : Set (List Component) :=
  keys (hiddenPaths dir token artifacts) ∪ keys (places dir artifacts)

/-- An emission asks for nothing but operations on its own files. -/
lemma within_writeAll (dir : Path) (token : String) (artifacts : List Artifact) :
    (writeAll dir token artifacts).Within (Effect.Touches (own dir token artifacts))
      fun _ => True := by
  have hhidden : ∀ a ∈ artifacts,
      (hiddenPath dir token a.name).components ∈ own dir token artifacts :=
    fun a ha => Or.inl (Path.mem_keys (hiddenPath_mem ha))
  have hplace : ∀ a ∈ artifacts, (place dir a.name).components ∈ own dir token artifacts :=
    fun a ha => Or.inr (Path.mem_keys (place_mem ha))
  have hdir : (Program.file (.makeDir dir)).Within
      (Effect.Touches (own dir token artifacts)) fun _ => True :=
    Program.within_file (by simp [FileOp.touched])
  refine hdir.bind fun answer _ => ?_
  cases answer with
  | error e => exact Program.within_pure trivial
  | ok u =>
    refine (within_stage (by simp) hhidden).bind fun answer hpaths => ?_
    cases answer with
    | error e => exact Program.within_pure trivial
    | ok paths =>
      have hes : ∀ e ∈ artifacts.zip paths, e.2.components ∈ own dir token artifacts ∧
          (place dir e.1.name).components ∈ own dir token artifacts := by
        intro e he
        obtain ⟨ha, hpath⟩ := List.of_mem_zip he
        rw [hpaths paths rfl, List.nil_append] at hpath
        exact ⟨Or.inl (Path.mem_keys hpath), hplace _ ha⟩
      exact within_put (by simp) hes

/-- Wherever an emission is cut off, it leaves a store that is as before but for its own files. -/
lemma alike_stopped (hw : w.Filed store) (dir : Path) (token : String) (artifacts : List Artifact)
    (n : Nat) (s : σ) :
    Alike (own dir token artifacts)
      (store (w.stopped n (writeAll dir token artifacts) s)) (store s) :=
  (within_writeAll dir token artifacts).stopped
    (I := fun s' => Alike (own dir token artifacts) (store s') (store s))
    (hw.alike_answer s) n (.refl _ _)

/-- An emission leaves a store that is as before but for its own files. -/
lemma alike_run (hw : w.Filed store) (dir : Path) (token : String) (artifacts : List Artifact)
    (s : σ) :
    Alike (own dir token artifacts)
      (store (w.run (writeAll dir token artifacts) s).2) (store s) :=
  (within_writeAll dir token artifacts).after
    (I := fun s' => Alike (own dir token artifacts) (store s') (store s))
    (hw.alike_answer s) (.refl _ _)

/-! ### The same emission from two stores -/

/-- From stores that are alike, staging fails alike, or it ends in stores that differ in none of the
staging files. -/
lemma run_stage_alike (hw : w.Filed store) (staged : List Path) (as : List Artifact) {s t : σ}
    (h : Alike D (store s) (store t)) :
    (∃ e, (w.run (stage dir token staged as) s).1 = .error e ∧
      (w.run (stage dir token staged as) t).1 = .error e) ∨
    ∃ s' t', w.run (stage dir token staged as) s = (.ok (staged ++ hiddenPaths dir token as), s') ∧
      w.run (stage dir token staged as) t = (.ok (staged ++ hiddenPaths dir token as), t') ∧
      Alike (D \ keys (hiddenPaths dir token as)) (store s') (store t') := by
  induction as generalizing D staged s t with
  | nil =>
    rw [stage, World.run_pure, World.run_pure, hiddenPaths, List.map_nil, List.append_nil,
      Path.diff_keys_nil]
    exact Or.inr ⟨s, t, rfl, rfl, h⟩
  | cons a as ih =>
    obtain ⟨s₁, hs₁, hwrite⟩ :=
      hw.run_file_bind (.write (hiddenPath dir token a.name) a.contents.toUTF8) _ s
    obtain ⟨t₁, ht₁, hwrite'⟩ :=
      hw.run_file_bind (.write (hiddenPath dir token a.name) a.contents.toUTF8) _ t
    rw [stage, hwrite, hwrite']
    rcases h.write (hiddenPath dir token a.name) a.contents.toUTF8 with ⟨hs, ht⟩ | ⟨hs, ht⟩
    · rw [hs, ht]
      exact Or.inl ⟨_, by rw [World.run_bind, World.run_pure], by rw [World.run_bind, World.run_pure]⟩
    · have h₁ : Alike (D \ {(hiddenPath dir token a.name).components}) (store s₁) (store t₁) := by
        rw [hs₁, ht₁, hs, ht]
        exact h.put _ _
      rw [hs, ht]
      have hpaths : staged ++ hiddenPaths dir token (a :: as) =
          staged ++ [hiddenPath dir token a.name] ++ hiddenPaths dir token as := by
        rw [List.append_assoc]
        rfl
      rw [hpaths]
      rcases ih (staged ++ [hiddenPath dir token a.name]) h₁ with
        herror | ⟨s', t', hok, hok', h'⟩
      · exact Or.inl herror
      · rw [← Path.diff_keys_cons] at h'
        exact Or.inr ⟨s', t', hok, hok', h'⟩

/-- From stores that differ in none of the staging files, placing fails alike, or it ends in stores
that differ in none of the places. -/
lemma run_put_alike (hw : w.Filed store) (placed : List Path) (as : List Artifact) {s t : σ}
    (hD : ∀ a ∈ as, (hiddenPath dir token a.name).components ∉ D)
    (h : Alike D (store s) (store t)) :
    (∃ e, (w.run (put dir placed (as.zip (hiddenPaths dir token as))) s).1 = .error e ∧
      (w.run (put dir placed (as.zip (hiddenPaths dir token as))) t).1 = .error e) ∨
    ∃ s' t', w.run (put dir placed (as.zip (hiddenPaths dir token as))) s = (.ok (), s') ∧
      w.run (put dir placed (as.zip (hiddenPaths dir token as))) t = (.ok (), t') ∧
      Alike (D \ keys (places dir as)) (store s') (store t') := by
  induction as generalizing D placed s t with
  | nil =>
    rw [places, List.map_nil, Path.diff_keys_nil]
    exact Or.inr ⟨s, t, rfl, rfl, h⟩
  | cons a as ih =>
    have hzip : (a :: as).zip (hiddenPaths dir token (a :: as)) =
        (a, hiddenPath dir token a.name) :: as.zip (hiddenPaths dir token as) := rfl
    obtain ⟨s₁, hs₁, hrename⟩ :=
      hw.run_file_bind (.rename (hiddenPath dir token a.name) (place dir a.name)) _ s
    obtain ⟨t₁, ht₁, hrename'⟩ :=
      hw.run_file_bind (.rename (hiddenPath dir token a.name) (place dir a.name)) _ t
    rw [List.forall_mem_cons] at hD
    rw [hzip, put, hrename, hrename']
    rcases h.rename hD.1 (place dir a.name) with ⟨e, hs, ht⟩ | ⟨b, hs, ht⟩
    · rw [hs, ht]
      refine Or.inl ⟨.placing a.name e, ?_, ?_⟩
      all_goals rw [World.run_bind, World.run_bind, World.run_pure]
    · have h₁ : Alike (D \ {(place dir a.name).components}) (store s₁) (store t₁) := by
        rw [hs₁, ht₁, hs, ht]
        exact (h.erase _).put _ _
      rw [hs, ht]
      rcases ih (placed ++ [place dir a.name]) (fun b hb hk => hD.2 b hb hk.1) h₁ with
        herror | ⟨s', t', hok, hok', h'⟩
      · exact Or.inl herror
      · rw [← Path.diff_keys_cons] at h'
        exact Or.inr ⟨s', t', hok, hok', h'⟩

/-- **The same emission from two stores.**  From stores that are alike, an emission gets the same
answer; and if it succeeds, it leaves stores that differ in none of its own files. -/
theorem run_writeAll_alike (hw : w.Filed store) (dir : Path) (token : String)
    (artifacts : List Artifact) {s t : σ} (h : Alike D (store s) (store t)) :
    (w.run (writeAll dir token artifacts) s).1 = (w.run (writeAll dir token artifacts) t).1 ∧
    ((w.run (writeAll dir token artifacts) t).1 = .ok () →
      Alike (D \ own dir token artifacts) (store (w.run (writeAll dir token artifacts) s).2)
        (store (w.run (writeAll dir token artifacts) t).2)) := by
  obtain ⟨s₁, hs₁, hdir⟩ := hw.run_file_bind (.makeDir dir) _ s
  obtain ⟨t₁, ht₁, hdir'⟩ := hw.run_file_bind (.makeDir dir) _ t
  have h₁ : Alike D (store s₁) (store t₁) := by
    rw [hs₁, ht₁]
    exact ⟨h.refusedWrites, h.refusedStarts, h.refusedRenames, h.view⟩
  rw [writeAll, hdir, hdir', FileStore.perform, FileStore.perform]
  dsimp only
  rw [World.run_bind, World.run_bind]
  rcases run_stage_alike hw [] artifacts h₁ with ⟨e, hs, ht⟩ | ⟨s₂, t₂, hs, ht, h₂⟩
  · rw [hs, ht]
    exact ⟨rfl, fun hok => by cases hok⟩
  · rw [hs, ht]
    dsimp only
    rw [List.nil_append]
    have hD : ∀ a ∈ artifacts, (hiddenPath dir token a.name).components ∉
        D \ keys (hiddenPaths dir token artifacts) :=
      fun a ha hk => hk.2 (Path.mem_keys (hiddenPath_mem ha))
    rcases run_put_alike hw [] artifacts hD h₂ with ⟨e, hs, ht⟩ | ⟨s₃, t₃, hs, ht, h₃⟩
    · rw [hs, ht]
      exact ⟨rfl, fun hok => by cases hok⟩
    · rw [hs, ht]
      refine ⟨rfl, fun _ => h₃.mono ?_⟩
      rintro k ⟨⟨hk, hhidden⟩, hplace⟩
      exact ⟨hk, not_or.2 ⟨hhidden, hplace⟩⟩

/-! ### Emissions that nothing refuses -/

/-- If nothing is refused, staging succeeds. -/
lemma run_stage_calm (hw : w.Filed store) (staged : List Path) (as : List Artifact) {s : σ}
    (hs : (store s).Calm) :
    ∃ s', w.run (stage dir token staged as) s = (.ok (staged ++ hiddenPaths dir token as), s') ∧
      (store s').Calm := by
  induction as generalizing staged s with
  | nil =>
    refine ⟨s, ?_, hs⟩
    rw [stage, World.run_pure, hiddenPaths, List.map_nil, List.append_nil]
  | cons a as ih =>
    obtain ⟨s₁, hs₁, hwrite⟩ :=
      hw.run_file_bind (.write (hiddenPath dir token a.name) a.contents.toUTF8) _ s
    have hcalm : (store s₁).Calm := hs₁ ▸ hs.perform _
    obtain ⟨s', hok, hs'⟩ := ih (staged ++ [hiddenPath dir token a.name]) hcalm
    refine ⟨s', ?_, hs'⟩
    rw [stage, hwrite, hs.write]
    dsimp only
    rw [hok, List.append_assoc]
    rfl

/-- If nothing is refused and the staging files are there, placing succeeds. -/
lemma run_put_calm (hw : w.Filed store) (ht : '/' ∉ token.toList) (placed : List Path)
    (as : List Artifact) (has : Orderly as) {s : σ} (hs : (store s).Calm)
    (hstaged : ∀ a ∈ as,
      (store s).view (hiddenPath dir token a.name).components = some a.contents.toUTF8) :
    (w.run (put dir placed (as.zip (hiddenPaths dir token as))) s).1 = .ok () := by
  induction as generalizing placed s with
  | nil => rfl
  | cons a as ih =>
    have hzip : (a :: as).zip (hiddenPaths dir token (a :: as)) =
        (a, hiddenPath dir token a.name) :: as.zip (hiddenPaths dir token as) := rfl
    obtain ⟨s₁, hs₁, hrename⟩ :=
      hw.run_file_bind (.rename (hiddenPath dir token a.name) (place dir a.name)) _ s
    have hcalm : (store s₁).Calm := hs₁ ▸ hs.perform _
    rw [List.forall_mem_cons] at hstaged
    rw [hs.rename hstaged.1] at hs₁ hrename
    have hview : (store s₁).view = Function.update
        (Function.update (store s).view (hiddenPath dir token a.name).components none)
        (place dir a.name).components (some a.contents.toUTF8) := by
      rw [hs₁, FileStore.view_put, FileStore.view_erase]
    have hrest := staged_of_renamed ht has hstaged.2 none (some a.contents.toUTF8)
    rw [← hview] at hrest
    rw [hzip, put, hrename]
    exact ih _ has.of_cons hcalm hrest

/-- An emission that nothing refuses succeeds. -/
lemma run_writeAll_calm (hw : w.Filed store) (ht : '/' ∉ token.toList) {artifacts : List Artifact}
    (h : Orderly artifacts) {s : σ} (hs : (store s).Calm) :
    (w.run (writeAll dir token artifacts) s).1 = .ok () := by
  obtain ⟨s₁, hs₁, hdir⟩ := hw.run_file_bind (.makeDir dir) _ s
  have hcalm : (store s₁).Calm := hs₁ ▸ hs.perform _
  obtain ⟨s₂, hok, hcalm'⟩ := run_stage_calm hw [] artifacts hcalm
  rw [writeAll, hdir, FileStore.perform]
  dsimp only
  rw [World.run_bind, hok]
  dsimp only
  rw [List.nil_append]
  refine run_put_calm hw ht [] artifacts h hcalm' fun a ha => ?_
  -- as staging has succeeded, its files are there
  rcases run_stage hw dir token [] artifacts s₁ with
    ⟨s₂', hok', hstaged⟩ | ⟨done, b, rest, e, s₂', -, herror, -⟩
  · rw [hok] at hok'
    cases hok'
    rw [hstaged]
    exact holding_of_mem (nodup_hiddenPaths ht h) ha _
  · rw [hok] at herror
    cases herror

/-! ### The emission that is made again -/

/-- The path is that of a staging file of an emission, and that of no file of the emission that is
made after it. -/
def IsLeftover (dir : Path) (token token' : String) (artifacts : List Artifact) (p : Path) : Prop :=
  p.components ∈ keys (hiddenPaths dir token artifacts) ∧ p.components ∉ own dir token' artifacts

/-- **An emission that is made again.**  Cut an emission off after any number of its operations, and
make it again.  The second emission is answered as if the first had never been begun; and it
succeeds if nothing is refused.  If it succeeds, then what the first one has left at its staging
files is still there, and all other files are what they would be without the first one. -/
theorem rerun_characterized (hw : w.Filed store) (dir : Path) (artifacts : List Artifact)
    (process call process' call' n : Nat) (s : σ) :
    let first := writeAll dir (Emission.token process call) artifacts
    let again := writeAll dir (Emission.token process' call') artifacts
    let cut := w.stopped n first s
    (w.run again cut).1 = (w.run again s).1 ∧
    ((store s).Calm → Orderly artifacts → (w.run again s).1 = .ok ()) ∧
    ((w.run again cut).1 = .ok () → ∀ p : Path,
      (IsLeftover dir (Emission.token process call) (Emission.token process' call') artifacts p →
        (store (w.run again cut).2).contents? p = (store cut).contents? p) ∧
      (¬ IsLeftover dir (Emission.token process call) (Emission.token process' call') artifacts p →
        (store (w.run again cut).2).contents? p = (store (w.run again s).2).contents? p)) := by
  intro first again cut
  have halike := alike_stopped hw dir (Emission.token process call) artifacts n s
  obtain ⟨hanswer, hfiles⟩ :=
    run_writeAll_alike hw dir (Emission.token process' call') artifacts halike
  refine ⟨hanswer, fun hs h => run_writeAll_calm hw (slash_not_mem_token _ _) h hs, ?_⟩
  intro hok p
  constructor
  · -- the second emission does not touch what is left of the first
    rintro ⟨-, hp⟩
    exact (alike_run hw dir _ artifacts cut).view p.components hp
  · intro hp
    refine (hfiles (hanswer ▸ hok)).view p.components ?_
    rintro ⟨hfirst, hagain⟩
    rcases hfirst with hhidden | hplace
    · exact hp ⟨hhidden, hagain⟩
    · exact hagain (Or.inr hplace)

/-- Two artifacts of a task. -/
def draft : List Artifact :=
  [⟨Artifact.graphFile, "JOB Job1 Job.submit\n"⟩, ⟨Artifact.submitFile, "queue\n"⟩]

lemma orderly_draft : Orderly draft := by
  have hisName : ∀ a ∈ draft, Path.IsName a.name := by
    intro a ha
    simp only [draft, List.mem_cons, List.not_mem_nil, or_false] at ha
    rcases ha with rfl | rfl
    all_goals exact ⟨by decide, by decide, by decide, by decide⟩
  exact ⟨hisName, by decide, by decide⟩

/-- Cut off when both staging files are there, and made again, the emission puts both artifacts in
their places, and the two staging files are still there. -/
theorem rerun_characterized_draft :
    let w := World.ofFiles FileStore.perform
    let dir : Path := ⟨"/scratch/task"⟩
    let cut := w.stopped 3 (writeAll dir (Emission.token 1 0) draft) FileStore.empty
    let after := (w.run (writeAll dir (Emission.token 1 1) draft) cut).2
    (∀ a ∈ draft, after.contents? (place dir a.name) =
      (w.run (writeAll dir (Emission.token 1 1) draft) FileStore.empty).2.contents?
        (place dir a.name)) ∧
    ∀ a ∈ draft, after.contents? (hiddenPath dir (Emission.token 1 0) a.name) =
      cut.contents? (hiddenPath dir (Emission.token 1 0) a.name) := by
  intro w dir cut after
  obtain ⟨hanswer, hcalm, hfiles⟩ :=
    rerun_characterized World.filed_ofFiles dir draft 1 0 1 1 3 FileStore.empty
  have hok := hanswer.trans (hcalm ⟨rfl, rfl, rfl⟩ orderly_draft)
  have hplace : ∀ a ∈ draft,
      ¬ IsLeftover dir (Emission.token 1 0) (Emission.token 1 1) draft (place dir a.name) :=
    fun a ha h => h.2 (Or.inr (Path.mem_keys (place_mem ha)))
  have hhidden : ∀ a ∈ draft, IsLeftover dir (Emission.token 1 0) (Emission.token 1 1) draft
      (hiddenPath dir (Emission.token 1 0) a.name) := by
    intro a ha
    have hother : ∀ a ∈ draft, (hiddenPath dir (Emission.token 1 0) a.name).components ∉
        (hiddenPaths dir (Emission.token 1 1) draft ++ places dir draft).map Path.components := by
      decide +kernel
    refine ⟨Path.mem_keys (hiddenPath_mem ha), fun hown => hother a ha ?_⟩
    rw [List.map_append, List.mem_append]
    exact hown
  exact ⟨fun a ha => (hfiles hok _).2 (hplace a ha), fun a ha => (hfiles hok _).1 (hhidden a ha)⟩

/-- An emission that is made again does not always leave the files that it would have left had it
not been cut off: here it was cut off when the first staging file was there. -/
theorem not_rerun_eq :
    ¬ ∀ (dir : Path) (artifacts : List Artifact) (n : Nat) (s : FileStore), s.Calm →
      Orderly artifacts →
      let w := World.ofFiles FileStore.perform
      let again := writeAll dir (Emission.token 1 1) artifacts
      (w.run again (w.stopped n (writeAll dir (Emission.token 1 0) artifacts) s)).2.view =
        (w.run again s).2.view := by
  intro h
  have hview := h ⟨"/scratch/task"⟩ draft 2 .empty ⟨rfl, rfl, rfl⟩ orderly_draft
  have hat := congrArg Option.isSome (congrFun hview
    [.root, .name "scratch", .name "task", .name ".RunJobs.dag.1.0.tmp"])
  revert hat
  decide +kernel

end JobGraph.Emission
