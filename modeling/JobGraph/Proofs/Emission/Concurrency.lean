import JobGraph.Proofs.Emission.Restart
import JobGraph.Proofs.Program.Interleaving

/-!
# Emissions side by side

Any number of calls emit into one directory, one file operation of one call at a time, in any order,
and nothing is refused.  A call makes the directory, stages its artifacts and puts them in their
places.  How far it has come says which of its staging files are there (`Emission.Progress`), and
one operation of it changes one file or moves one (`Emission.Move`).  As each call stages under its
own names, the operations of the others leave it where it is, so every call runs through.  The
places are shared, and what stands in a place has been put there in one piece.

The main result is `Emission.Calls.side_by_side`.
-/

namespace JobGraph.Emission

open FileStore (Calm Contents)

variable {σ : Type} {w : World σ} {store : σ → FileStore}

/-! ### One call -/

section OneCall

variable {dir : Path} {token : String} {artifacts : List Artifact}

/-- What an emission does once staging has been answered. -/
def afterStaging (dir : Path) (artifacts : List Artifact) :
    Except Failure (List Path) → Program (Except Failure Unit)
  | .error e => pure (.error e)
  | .ok staged => put dir [] (artifacts.zip staged)

/-- How far an emission has come that has not been refused anything: the number of operations done,
what is left of the program, the artifacts whose staging files are there, and those that are in
their places. -/
inductive Progress (dir : Path) (token : String) (artifacts : List Artifact) :
    ℕ → Program (Except Failure Unit) → List Artifact → List Artifact → Prop where
  | begun : Progress dir token artifacts 0 (writeAll dir token artifacts) [] []
  | staging {done rest : List Artifact} {a : Artifact} (h : artifacts = done ++ a :: rest) :
      Progress dir token artifacts (1 + done.length)
        (stage dir token (hiddenPaths dir token done) (a :: rest) >>= afterStaging dir artifacts)
        done []
  | placing {done rest : List Artifact} (h : artifacts = done ++ rest) :
      Progress dir token artifacts (1 + artifacts.length + done.length)
        (put dir (places dir done) (rest.zip (hiddenPaths dir token rest))) rest done

/-- What one operation of an emission does to the files: it makes the directory, stages an artifact,
or moves a staged one to its place.  The artifacts that are staged and those that are in their
places are given as they are before and after it. -/
inductive Move (dir : Path) (token : String) (artifacts : List Artifact) (v : Contents) :
    List Artifact → List Artifact → List Artifact → List Artifact → Contents → Prop where
  | makeDir : Move dir token artifacts v [] [] [] [] v
  | write {done rest : List Artifact} {a : Artifact} (h : artifacts = done ++ a :: rest) :
      Move dir token artifacts v done [] (done ++ [a]) []
        (Function.update v (hiddenPath dir token a.name).components (some a.contents.toUTF8))
  | rename {done rest : List Artifact} {a : Artifact} (h : artifacts = done ++ a :: rest) :
      Move dir token artifacts v (a :: rest) done rest (done ++ [a])
        (Function.update (Function.update v (hiddenPath dir token a.name).components none)
          (place dir a.name).components (some a.contents.toUTF8))

/-- The staging files of a call: those that are written and not yet moved are there, and those that
are moved are not. -/
structure StagingFiles (dir : Path) (token : String) (staged placed : List Artifact)
    (v : Contents) : Prop where
  staged : ∀ a ∈ staged, v (hiddenPath dir token a.name).components = some a.contents.toUTF8
  placed : ∀ a ∈ placed, v (hiddenPath dir token a.name).components = none

namespace Progress

/-- When all that has been begun is staged, either another artifact is to be staged or the first one
is to be put in its place. -/
lemma of_staged {done rest : List Artifact} (h : artifacts = done ++ rest) :
    Progress dir token artifacts (1 + done.length)
      (stage dir token (hiddenPaths dir token done) rest >>= afterStaging dir artifacts)
      done [] := by
  cases rest with
  | cons a rest => exact .staging h
  | nil =>
    rw [List.append_nil] at h
    subst h
    have hplacing : Progress dir token artifacts
        (1 + artifacts.length + ([] : List Artifact).length)
        (put dir (places dir []) (artifacts.zip (hiddenPaths dir token artifacts)))
        artifacts [] := .placing rfl
    exact hplacing

/-- What is staged or in its place is one of the artifacts. -/
lemma mem_artifacts {n : ℕ} {p : Program (Except Failure Unit)} {staged placed : List Artifact}
    (h : Progress dir token artifacts n p staged placed) {a : Artifact}
    (ha : a ∈ staged ∨ a ∈ placed) : a ∈ artifacts := by
  cases h with
  | begun => simp at ha
  | staging h =>
    rw [h, List.mem_append]
    exact Or.inl (ha.resolve_right List.not_mem_nil)
  | placing h =>
    rw [h, List.mem_append]
    exact ha.symm

/-- **One operation of a call.**  An emission that nothing refuses has been answered, or its next
operation brings it one step further. -/
theorem advance (hw : w.Filed store) {n : ℕ} {p : Program (Except Failure Unit)}
    {staged placed : List Artifact} (h : Progress dir token artifacts n p staged placed) {s : σ}
    (hs : (store s).Calm) (hfiles : StagingFiles dir token staged placed (store s).view) :
    (n = 1 + 2 * artifacts.length ∧ p = .done (.ok ()) ∧ placed = artifacts) ∨
    (n < 1 + 2 * artifacts.length ∧ (∀ answer, p ≠ .done answer) ∧
      (store (w.advance (p, s)).2).Calm ∧
      ∃ staged' placed', Progress dir token artifacts (n + 1) (w.advance (p, s)).1 staged' placed' ∧
        Move dir token artifacts (store s).view staged placed staged' placed'
          (store (w.advance (p, s)).2).view) := by
  cases h with
  | begun =>
    obtain ⟨s', hs', hmake⟩ := hw.advance_file_bind (.makeDir dir) _ s
    have hcalm : (store s').Calm := hs' ▸ hs.perform _
    refine Or.inr ⟨by omega, fun answer => Program.file_bind_ne_done _ _ _, ?_, [], [], ?_, ?_⟩
    · rw [writeAll, hmake]
      exact hcalm
    · have hnext : Progress dir token artifacts (1 + ([] : List Artifact).length)
          (stage dir token (hiddenPaths dir token []) artifacts >>= afterStaging dir artifacts)
          [] [] := of_staged rfl
      rw [writeAll, hmake]
      exact hnext
    · rw [writeAll, hmake, hs']
      exact .makeDir
  | @staging _ rest a h =>
    have hlength := congrArg List.length h
    rw [List.length_append, List.length_cons] at hlength
    obtain ⟨s', hs', hwrite⟩ :=
      hw.advance_file_bind (.write (hiddenPath dir token a.name) a.contents.toUTF8) _ s
    have hcalm : (store s').Calm := hs' ▸ hs.perform _
    rw [hs.write] at hs' hwrite
    refine Or.inr ⟨by omega, fun answer => ?_, ?_, staged ++ [a], [], ?_, ?_⟩
    · rw [stage, bind_assoc]
      exact Program.file_bind_ne_done _ _ _
    · rw [stage, bind_assoc, hwrite]
      exact hcalm
    · have hnext : Progress dir token artifacts (1 + (staged ++ [a]).length)
          (stage dir token (hiddenPaths dir token (staged ++ [a])) rest >>=
            afterStaging dir artifacts) (staged ++ [a]) [] :=
        of_staged (h.trans (List.append_cons staged a rest))
      rw [List.length_append, ← Nat.add_assoc, hiddenPaths, List.map_append] at hnext
      rw [stage, bind_assoc, hwrite]
      exact hnext
    · rw [stage, bind_assoc, hwrite, hs', FileStore.view_put]
      exact .write h
  | placing h =>
    have hlength := congrArg List.length h
    rw [List.length_append] at hlength
    cases staged with
    | nil =>
      refine Or.inl ⟨?_, rfl, ?_⟩
      · simp only [List.length_nil] at hlength
        omega
      · rw [h, List.append_nil]
    | cons a rest =>
      have hzip : (a :: rest).zip (hiddenPaths dir token (a :: rest)) =
          (a, hiddenPath dir token a.name) :: rest.zip (hiddenPaths dir token rest) := rfl
      obtain ⟨s', hs', hrename⟩ :=
        hw.advance_file_bind (.rename (hiddenPath dir token a.name) (place dir a.name)) _ s
      have hcalm : (store s').Calm := hs' ▸ hs.perform _
      rw [hs.rename (hfiles.staged a List.mem_cons_self)] at hs' hrename
      rw [List.length_cons] at hlength
      refine Or.inr ⟨by omega, fun answer => ?_, ?_, rest, placed ++ [a], ?_, ?_⟩
      · rw [hzip, put]
        exact Program.file_bind_ne_done _ _ _
      · rw [hzip, put, hrename]
        exact hcalm
      · have hnext : Progress dir token artifacts (1 + artifacts.length + (placed ++ [a]).length)
            (put dir (places dir (placed ++ [a])) (rest.zip (hiddenPaths dir token rest)))
            rest (placed ++ [a]) := .placing (h.trans (List.append_cons placed a rest))
        rw [List.length_append, ← Nat.add_assoc, places, List.map_append] at hnext
        rw [hzip, put, hrename]
        exact hnext
      · rw [hzip, put, hrename, hs', FileStore.view_put, FileStore.view_erase]
        exact .rename h

end Progress

namespace Move

variable {staged placed staged' placed' : List Artifact} {v v' : Contents}

/-- An operation changes no file but staging files of the call and its places. -/
lemma eq_of_ne (h : Move dir token artifacts v staged placed staged' placed' v')
    {k : List Component} (hhidden : ∀ a ∈ artifacts, k ≠ (hiddenPath dir token a.name).components)
    (hplace : ∀ a ∈ artifacts, k ≠ (place dir a.name).components) : v' k = v k := by
  cases h with
  | makeDir => rfl
  | write h =>
    have ha := h ▸ List.mem_append_cons_self
    rw [Function.update_of_ne (hhidden _ ha)]
  | rename h =>
    have ha := h ▸ List.mem_append_cons_self
    rw [Function.update_of_ne (hplace _ ha), Function.update_of_ne (hhidden _ ha)]

/-- An operation leaves the staging files of its call as they should be. -/
lemma stagingFiles (h : Move dir token artifacts v staged placed staged' placed' v')
    (ht : '/' ∉ token.toList) (horderly : Orderly artifacts)
    (hfiles : StagingFiles dir token staged placed v) :
    StagingFiles dir token staged' placed' v' := by
  -- the artifact that the operation is about is told apart from those before and after it
  have hhidden : ∀ {done rest : List Artifact} {a : Artifact}, artifacts = done ++ a :: rest →
      ∀ b ∈ done ++ rest, (hiddenPath dir token b.name).components ≠
        (hiddenPath dir token a.name).components := by
    rintro done rest a rfl b hb heq
    have hnodup : ((done ++ a :: rest).map fun b =>
        (hiddenPath dir token b.name).components).Nodup := nodup_hiddenPaths ht horderly
    rw [List.map_append, List.map_cons, List.nodup_middle, ← List.map_append] at hnodup
    exact (List.nodup_cons.1 hnodup).1 (heq ▸ List.mem_map_of_mem hb)
  cases h with
  | makeDir => exact hfiles
  | write h =>
    refine ⟨fun b hb => ?_, nofun⟩
    rcases List.mem_append.1 hb with hb | hb
    · rw [Function.update_of_ne (hhidden h b (List.mem_append_left _ hb))]
      exact hfiles.staged b hb
    · rw [List.mem_singleton.1 hb]
      exact Function.update_self ..
  | @rename _ _ a h =>
    have ha : a ∈ artifacts := h ▸ List.mem_append_cons_self
    have hplace : ∀ b ∈ artifacts,
        (hiddenPath dir token b.name).components ≠ (place dir a.name).components := by
      intro b hb
      exact ne_of_mem_of_not_mem (List.mem_map_of_mem (hiddenPath_mem hb))
        (place_not_mem_hiddenPaths dir ht horderly.isName (horderly.isName a ha)
          (horderly.visible a ha))
    have hkept : ∀ b ∈ placed ++ staged',
        Function.update (Function.update v (hiddenPath dir token a.name).components none)
          (place dir a.name).components (some a.contents.toUTF8)
          (hiddenPath dir token b.name).components =
        v (hiddenPath dir token b.name).components := by
      intro b hb
      have hb' : b ∈ artifacts := by
        rw [h, List.mem_append, List.mem_cons]
        rcases List.mem_append.1 hb with hb | hb
        · exact Or.inl hb
        · exact Or.inr (Or.inr hb)
      rw [Function.update_of_ne (hplace b hb'), Function.update_of_ne (hhidden h b hb)]
    constructor
    · intro b hb
      rw [hkept b (List.mem_append_right _ hb)]
      exact hfiles.staged b (List.mem_cons_of_mem a hb)
    · intro b hb
      rcases List.mem_append.1 hb with hb | hb
      · rw [hkept b (List.mem_append_left _ hb)]
        exact hfiles.placed b hb
      · rw [List.mem_singleton.1 hb, Function.update_of_ne (hplace a ha)]
        exact Function.update_self ..

/-- What an operation puts in a place are the contents of an artifact of that name. -/
lemma at_place (h : Move dir token artifacts v staged placed staged' placed' v')
    (ht : '/' ∉ token.toList) (horderly : Orderly artifacts) {n : String} (hn : Path.IsName n)
    (hvisible : n.toList.head? ≠ some '.') :
    v' (place dir n).components = v (place dir n).components ∨
    ∃ a ∈ artifacts, a.name = n ∧ v' (place dir n).components = some a.contents.toUTF8 := by
  have hhidden : ∀ a ∈ artifacts,
      (place dir n).components ≠ (hiddenPath dir token a.name).components := by
    intro a ha
    exact (ne_of_mem_of_not_mem (List.mem_map_of_mem (hiddenPath_mem ha))
      (place_not_mem_hiddenPaths dir ht horderly.isName hn hvisible)).symm
  cases h with
  | makeDir => exact Or.inl rfl
  | write h =>
    exact Or.inl (Function.update_of_ne (hhidden _ (h ▸ List.mem_append_cons_self)) _ _)
  | @rename _ _ a h =>
    have ha : a ∈ artifacts := h ▸ List.mem_append_cons_self
    by_cases hname : a.name = n
    · subst hname
      exact Or.inr ⟨a, ha, rfl, Function.update_self ..⟩
    · have hplace : (place dir n).components ≠ (place dir a.name).components := by
        rw [components_place hn, components_place (horderly.isName a ha)]
        exact fun heq => hname (Path.name_inj heq).symm
      refine Or.inl ?_
      rw [Function.update_of_ne hplace, Function.update_of_ne (hhidden a ha)]

/-- What an operation adds to the artifacts that are in their places is in its place. -/
lemma mem_placed (h : Move dir token artifacts v staged placed staged' placed' v') {a : Artifact}
    (ha : a ∈ placed') :
    a ∈ placed ∨ a ∈ artifacts ∧ v' (place dir a.name).components = some a.contents.toUTF8 := by
  cases h with
  | makeDir => exact Or.inl ha
  | write h => exact absurd ha List.not_mem_nil
  | rename h =>
    rcases List.mem_append.1 ha with ha | ha
    · exact Or.inl ha
    · rw [List.mem_singleton.1 ha]
      exact Or.inr ⟨h ▸ List.mem_append_cons_self, Function.update_self ..⟩

end Move

end OneCall

/-! ### Any number of calls -/

/-- Calls that emit into one directory, each under a token of its own. -/
structure Calls (ι : Type) where
  dir : Path
  process : ι → ℕ
  call : ι → ℕ
  artifacts : ι → List Artifact
  orderly : ∀ i, Orderly (artifacts i)
  apart : Function.Injective fun i => (process i, call i)

namespace Calls

variable {ι : Type} (cs : Calls ι)

/-- The token of a call. -/
def token (i : ι) : String :=
  Emission.token (cs.process i) (cs.call i)

/-- The emission of a call. -/
def program (i : ι) : Program (Except Failure Unit) :=
  writeAll cs.dir (cs.token i) (cs.artifacts i)

/-- The number of file operations of a call: it makes the directory, and it writes and renames every
artifact. -/
def operations (i : ι) : ℕ :=
  1 + 2 * (cs.artifacts i).length

/-- The staging file of an artifact of a call. -/
def stagingFile (i : ι) (a : Artifact) : Path :=
  hiddenPath cs.dir (cs.token i) a.name

/-- The place of a name holds the complete contents that one of the calls gives to it. -/
def InOnePiece (v : Contents) (n : String) : Prop :=
  ∃ j, ∃ b ∈ cs.artifacts j, b.name = n ∧ v (place cs.dir n).components = some b.contents.toUTF8

/-- A call has come so far, and the files are as it has left them. -/
structure At (n : ℕ) (i : ι) (p : Program (Except Failure Unit)) (staged placed : List Artifact)
    (v : Contents) : Prop where
  progress : Progress cs.dir (cs.token i) (cs.artifacts i) n p staged placed
  files : StagingFiles cs.dir (cs.token i) staged placed v
  placed : ∀ a ∈ placed, cs.InOnePiece v a.name

/-- What all calls have in common after turns in the order of a schedule: nothing is refused, and
every call has come as far as its turns have taken it. -/
structure Kept (store : σ → FileStore) [DecidableEq ι] (schedule : List ι)
    (now : (ι → Program (Except Failure Unit)) × σ) : Prop where
  calm : (store now.2).Calm
  reached : ∀ i, ∃ staged placed, cs.At (min (schedule.count i) (cs.operations i)) i (now.1 i)
    staged placed (store now.2).view

variable {cs} {i j : ι} {v v' : Contents} {staged placed staged' placed' : List Artifact}

lemma components_stagingFile {a : Artifact} (ha : a ∈ cs.artifacts i) :
    (cs.stagingFile i a).components =
      cs.dir.components ++ [.name (hiddenName (cs.token i) a.name)] :=
  components_hiddenPath (slash_not_mem_token _ _) ((cs.orderly i).isName a ha).slash cs.dir

/-- Different calls stage under different names, which are not those of artifacts, so the operations
of a call leave the staging files of another one alone. -/
lemma eq_at_stagingFile (hij : j ≠ i)
    (h : Move cs.dir (cs.token i) (cs.artifacts i) v staged placed staged' placed' v')
    {a : Artifact} (ha : a ∈ cs.artifacts j) :
    v' (cs.stagingFile j a).components = v (cs.stagingFile j a).components := by
  refine h.eq_of_ne (fun b hb heq => ?_) fun b hb heq => ?_
  · have hnames := Path.name_inj
      ((components_stagingFile ha).symm.trans (heq.trans (components_stagingFile hb)))
    exact hij (cs.apart (hiddenName_token_inj hnames).1)
  · rw [components_stagingFile ha, components_place ((cs.orderly i).isName b hb)] at heq
    exact hiddenName_ne ((cs.orderly i).visible b hb) (Path.name_inj heq)

/-- An operation leaves what it does not replace, and replaces it in one piece. -/
lemma InOnePiece.move
    (h : Move cs.dir (cs.token i) (cs.artifacts i) v staged placed staged' placed' v')
    {a : Artifact} (ha : a ∈ cs.artifacts j) (hv : cs.InOnePiece v a.name) :
    cs.InOnePiece v' a.name := by
  rcases h.at_place (slash_not_mem_token _ _) (cs.orderly i) ((cs.orderly j).isName a ha)
    ((cs.orderly j).visible a ha) with hsame | ⟨b, hb, hname, hput⟩
  · obtain ⟨k, b, hb, hname, hheld⟩ := hv
    exact ⟨k, b, hb, hname, hsame.trans hheld⟩
  · exact ⟨i, b, hb, hname, hput⟩

namespace At

variable {n : ℕ} {p p' : Program (Except Failure Unit)} {done rest : List Artifact}

/-- The operations of other calls leave a call where it is. -/
lemma of_other (hij : j ≠ i) (h : cs.At n j p rest done v)
    (hmove : Move cs.dir (cs.token i) (cs.artifacts i) v staged placed staged' placed' v') :
    cs.At n j p rest done v' := by
  refine ⟨h.progress, ⟨fun a ha => ?_, fun a ha => ?_⟩, fun a ha => ?_⟩
  · have hsame := eq_at_stagingFile hij hmove (h.progress.mem_artifacts (Or.inl ha))
    exact hsame.trans (h.files.staged a ha)
  · have hsame := eq_at_stagingFile hij hmove (h.progress.mem_artifacts (Or.inr ha))
    exact hsame.trans (h.files.placed a ha)
  · exact (h.placed a ha).move hmove (h.progress.mem_artifacts (Or.inr ha))

/-- An operation of a call takes it one step further. -/
lemma of_own (h : cs.At n i p staged placed v)
    (hprogress : Progress cs.dir (cs.token i) (cs.artifacts i) (n + 1) p' staged' placed')
    (hmove : Move cs.dir (cs.token i) (cs.artifacts i) v staged placed staged' placed' v') :
    cs.At (n + 1) i p' staged' placed' v' := by
  refine ⟨hprogress, hmove.stagingFiles (slash_not_mem_token _ _) (cs.orderly i) h.files, ?_⟩
  intro a ha
  rcases hmove.mem_placed ha with hplaced | ⟨hmem, hput⟩
  · exact (h.placed a hplaced).move hmove (h.progress.mem_artifacts (Or.inr hplaced))
  · exact ⟨i, a, hmem, rfl, hput⟩

end At

variable [DecidableEq ι]

/-- **One turn.**  Whichever call it is that takes its turn, all calls are where their turns have
taken them. -/
lemma Kept.turn (hw : w.Filed store) {schedule : List ι}
    {now : (ι → Program (Except Failure Unit)) × σ} (h : cs.Kept store schedule now) (i : ι) :
    cs.Kept store (schedule ++ [i]) (w.turn i now) := by
  obtain ⟨staged, placed, hi⟩ := h.reached i
  have hself : (schedule ++ [i]).count i = schedule.count i + 1 := by simp
  have hother : ∀ j ≠ i, (schedule ++ [i]).count j = schedule.count j := by
    intro j hj
    simp [hj.symm]
  rcases hi.progress.advance hw h.calm hi.files with
    ⟨hn, hp, -⟩ | ⟨hn, -, hcalm, staged', placed', hprogress, hmove⟩
  · -- a call that is done does nothing more
    have hnow : w.turn i now = now := by
      rw [World.turn, hp]
      exact Prod.ext (Function.update_eq_self_iff.2 hp.symm) rfl
    rw [hnow]
    refine ⟨h.calm, fun j => ?_⟩
    by_cases hj : j = i
    · subst hj
      have hmin : min ((schedule ++ [j]).count j) (cs.operations j) =
          min (schedule.count j) (cs.operations j) := by
        rw [operations] at hn ⊢
        omega
      rw [hmin]
      exact ⟨staged, placed, hi⟩
    · rw [hother j hj]
      exact h.reached j
  · refine ⟨hcalm, fun j => ?_⟩
    by_cases hj : j = i
    · subst hj
      have hmin : min ((schedule ++ [j]).count j) (cs.operations j) =
          min (schedule.count j) (cs.operations j) + 1 := by
        rw [operations] at hn ⊢
        omega
      rw [hmin, World.turn_self]
      exact ⟨staged', placed', hi.of_own hprogress hmove⟩
    · obtain ⟨rest, done, hj'⟩ := h.reached j
      rw [hother j hj, World.turn_of_ne w hj]
      exact ⟨rest, done, hj'.of_other hj hmove⟩

/-- After every schedule, all calls are where their turns have taken them. -/
lemma kept_interleaved (hw : w.Filed store) {s : σ} (hs : (store s).Calm) (schedule : List ι) :
    cs.Kept store schedule (w.interleaved schedule cs.program s) := by
  refine World.interleaved_induction ⟨hs, fun i => ?_⟩ (fun _ _ i h => h.turn hw i) schedule
  refine ⟨[], [], ?_, ⟨nofun, nofun⟩, nofun⟩
  rw [List.count_nil, Nat.zero_min]
  exact .begun

variable (cs)

/-- **Emissions side by side.**  Let any number of calls emit into one directory, one operation of
one call at a time, in any order, from a store that refuses nothing.  Every call is answered as soon
as it has had its turns, and it has succeeded.  No operation of a call changes or removes a staging
file of another one.  When a call is done, none of its staging files is left, and each of its places
holds the complete contents that one of the calls has for it. -/
theorem side_by_side (hw : w.Filed store) {s : σ} (hs : (store s).Calm) (schedule : List ι) :
    let now := w.interleaved schedule cs.program s
    (∀ i, (now.1 i = .done (.ok ()) ↔ cs.operations i ≤ schedule.count i) ∧
      ∀ answer, now.1 i = .done answer → answer = .ok ()) ∧
    (∀ i j, j ≠ i → ∀ a ∈ cs.artifacts j,
      (store (w.turn i now).2).contents? (cs.stagingFile j a) =
        (store now.2).contents? (cs.stagingFile j a)) ∧
    ∀ i, now.1 i = .done (.ok ()) → ∀ a ∈ cs.artifacts i,
      (store now.2).contents? (cs.stagingFile i a) = none ∧
      ∃ j, ∃ b ∈ cs.artifacts j, b.name = a.name ∧
        (store now.2).contents? (place cs.dir a.name) = some b.contents.toUTF8 := by
  intro now
  have hkept : cs.Kept store schedule now := kept_interleaved hw hs schedule
  refine ⟨fun i => ?_, fun i j hij a ha => ?_, fun i hdone a ha => ?_⟩
  · obtain ⟨staged, placed, hi⟩ := hkept.reached i
    rcases hi.progress.advance hw hkept.calm hi.files with ⟨hn, hp, -⟩ | ⟨hn, hp, -⟩
    · refine ⟨iff_of_true hp ?_, fun answer hanswer => ?_⟩
      · rw [operations] at hn ⊢
        omega
      · rw [hp] at hanswer
        exact (Program.done.inj hanswer).symm
    · refine ⟨iff_of_false (hp _) ?_, fun answer hanswer => absurd hanswer (hp answer)⟩
      rw [operations] at hn ⊢
      omega
  · obtain ⟨staged, placed, hi⟩ := hkept.reached i
    rcases hi.progress.advance hw hkept.calm hi.files with
      ⟨-, hp, -⟩ | ⟨-, -, -, staged', placed', -, hmove⟩
    · rw [World.turn, hp]
      rfl
    · exact eq_at_stagingFile hij hmove ha
  · obtain ⟨staged, placed, hi⟩ := hkept.reached i
    rcases hi.progress.advance hw hkept.calm hi.files with ⟨-, -, hplaced⟩ | ⟨-, hp, -⟩
    · subst hplaced
      exact ⟨hi.files.placed a ha, hi.placed a ha⟩
    · exact absurd hdone (hp _)

/-- Two calls of one process that emit the same artifacts. -/
def drafts : Calls (Fin 2) where
  dir := ⟨"/scratch/task"⟩
  process := fun _ => 1
  call := fun i => i
  artifacts := fun _ => draft
  orderly := fun _ => orderly_draft
  apart := fun _ _ h => Fin.ext (congrArg Prod.snd h)

/-- A schedule of two calls: the first one stages while the second one stages, and it places while
the second one places. -/
def turns : List (Fin 2) := [0, 1, 0, 1, 1, 0, 1, 0, 0, 1]

/-- Two calls that take turns both succeed, and only the artifacts are left. -/
theorem side_by_side_drafts :
    let now := (World.ofFiles FileStore.perform).interleaved turns drafts.program FileStore.empty
    (∀ i, now.1 i = .done (.ok ())) ∧
    ∀ i, ∀ a ∈ draft, now.2.contents? (drafts.stagingFile i a) = none ∧
      now.2.contents? (place drafts.dir a.name) = some a.contents.toUTF8 := by
  have hturns : ∀ i, drafts.operations i ≤ turns.count i := by decide
  have hall := drafts.side_by_side World.filed_ofFiles (s := .empty) ⟨rfl, rfl, rfl⟩ turns
  -- what the calls come to is not computed
  generalize (World.ofFiles FileStore.perform).interleaved turns drafts.program .empty = now at *
  obtain ⟨hdone, -, hfiles⟩ := hall
  have hok : ∀ i, now.1 i = .done (.ok ()) := fun i => (hdone i).1.2 (hturns i)
  refine ⟨hok, fun i a ha => ?_⟩
  obtain ⟨hnone, j, b, hb, hname, hheld⟩ := hfiles i (hok i) a ha
  -- the artifacts of the two calls are the same, and told apart by their names
  have heq : b = a := List.inj_on_of_nodup_map orderly_draft.nodup hb ha hname
  rw [heq] at hheld
  exact ⟨hnone, hheld⟩

end Calls

end JobGraph.Emission
