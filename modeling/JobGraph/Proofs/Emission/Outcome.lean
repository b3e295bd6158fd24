import Mathlib.Data.List.Nodup
import JobGraph.Proofs.Files.World

/-!
# What an emission comes to

An emission that is cut short by a refusal takes back what it has done, and an emission that runs
through leaves the artifacts and no staging file.  `Emission.Outcome` says which files there are
afterwards, for each way in which it can end, in terms of the files before.

Both loops are treated alike: the statement about a loop is an equation for the map of contents
after it, whatever has been staged or placed before.  The main result is `Emission.writeAll_outcome`;
what follows from it about single files comes after it.
-/

namespace JobGraph.Emission

open FileStore (Contents clear)

variable {σ : Type} {w : World σ} {store : σ → FileStore} {dir : Path} {token : String}

/-- The staging files of artifacts. -/
def hiddenPaths (dir : Path) (token : String) (artifacts : List Artifact) : List Path :=
  artifacts.map fun a => hiddenPath dir token a.name

/-- The places of artifacts. -/
def places (dir : Path) (artifacts : List Artifact) : List Path :=
  artifacts.map fun a => place dir a.name

lemma hiddenPath_mem {a : Artifact} {as : List Artifact} (ha : a ∈ as) :
    hiddenPath dir token a.name ∈ hiddenPaths dir token as :=
  List.mem_map.2 ⟨a, ha, rfl⟩

lemma place_mem {a : Artifact} {as : List Artifact} (ha : a ∈ as) :
    place dir a.name ∈ places dir as :=
  List.mem_map.2 ⟨a, ha, rfl⟩

/-- The contents with those of artifacts at the paths that `f` gives to their names. -/
def holding (f : String → Path) : List Artifact → Contents → Contents
  | [], v => v
  | a :: as, v => holding f as (Function.update v (f a.name).components (some a.contents.toUTF8))

/-- The ways in which an emission can end: its answer, and the contents after it.  The artifacts are
in place; or staging one of them was refused; or placing one of them was, when those before it had
been placed. -/
inductive Outcome (dir : Path) (token : String) (artifacts : List Artifact) (before : Contents) :
    Except Failure Unit → Contents → Prop where
  | written : Outcome dir token artifacts before (.ok ())
      (holding (place dir) artifacts (clear (hiddenPaths dir token artifacts) before))
  | unstaged {done rest : List Artifact} {a : Artifact} (e : FileError)
      (h : artifacts = done ++ a :: rest) :
      Outcome dir token artifacts before (.error (.staging a.name e))
        (clear (hiddenPaths dir token done) before)
  | unplaced {done rest : List Artifact} {a : Artifact} (e : FileError)
      (h : artifacts = done ++ a :: rest) :
      Outcome dir token artifacts before (.error (.placing a.name e))
        (clear (places dir done ++ hiddenPaths dir token artifacts) before)

/-! ### Paths that differ -/

lemma Orderly.of_cons {a : Artifact} {as : List Artifact} (h : Orderly (a :: as)) : Orderly as :=
  ⟨fun b hb => h.isName b (List.mem_cons_of_mem a hb),
    fun b hb => h.visible b (List.mem_cons_of_mem a hb), (List.nodup_cons.1 h.nodup).2⟩

/-- No artifact is in the place of a staging file. -/
lemma place_not_mem_hiddenPaths (dir : Path) (ht : '/' ∉ token.toList) {as : List Artifact}
    (has : ∀ a ∈ as, Path.IsName a.name) {n : String} (hn : Path.IsName n)
    (hvisible : n.toList.head? ≠ some '.') :
    (place dir n).components ∉ (hiddenPaths dir token as).map Path.components := by
  rw [hiddenPaths, List.map_map, List.mem_map]
  rintro ⟨b, hb, heq⟩
  rw [Function.comp_apply, components_place hn, components_hiddenPath ht (has b hb).slash] at heq
  exact hiddenName_ne hvisible (Path.name_inj heq)

/-- The place of another name is another place. -/
lemma place_not_mem_places (dir : Path) {as : List Artifact} (has : ∀ a ∈ as, Path.IsName a.name)
    {n : String} (hn : Path.IsName n) (h : ∀ a ∈ as, a.name ≠ n) :
    (place dir n).components ∉ (places dir as).map Path.components := by
  rw [places, List.map_map, List.mem_map]
  rintro ⟨b, hb, heq⟩
  rw [Function.comp_apply, components_place hn, components_place (has b hb)] at heq
  exact h b hb (Path.name_inj heq)

/-- If names are told apart by the paths that `f` gives them, so are artifacts. -/
lemma Orderly.nodup_components {as : List Artifact} (has : Orderly as) {f : String → Path}
    (hf : ∀ m n, Path.IsName m → Path.IsName n → (f m).components = (f n).components → m = n) :
    (as.map fun a => (f a.name).components).Nodup := by
  have hmap : (as.map fun a => (f a.name).components) =
      (as.map (·.name)).map fun n => (f n).components := by
    rw [List.map_map]
    rfl
  rw [hmap]
  refine List.Nodup.map_on ?_ has.nodup
  intro m hm n hn heq
  obtain ⟨a, ha, rfl⟩ := List.mem_map.1 hm
  obtain ⟨b, hb, rfl⟩ := List.mem_map.1 hn
  exact hf a.name b.name (has.isName a ha) (has.isName b hb) heq

/-- All artifacts have places of their own. -/
lemma nodup_places {as : List Artifact} (has : Orderly as) :
    (as.map fun a => (place dir a.name).components).Nodup := by
  refine has.nodup_components fun m n hm hn heq => ?_
  rw [components_place hm, components_place hn] at heq
  exact Path.name_inj heq

/-- All artifacts have staging files of their own. -/
lemma nodup_hiddenPaths (ht : '/' ∉ token.toList) {as : List Artifact} (has : Orderly as) :
    (as.map fun a => (hiddenPath dir token a.name).components).Nodup := by
  refine has.nodup_components fun m n hm hn heq => ?_
  rw [components_hiddenPath ht hm.slash, components_hiddenPath ht hn.slash] at heq
  exact hiddenName_injective (Path.name_inj heq)

lemma hiddenPath_not_mem (dir : Path) (ht : '/' ∉ token.toList) {a : Artifact}
    {as : List Artifact} (has : Orderly (a :: as)) :
    (hiddenPath dir token a.name).components ∉
      (hiddenPaths dir token as).map Path.components := by
  rw [hiddenPaths, List.map_map]
  exact (List.nodup_cons.1 (nodup_hiddenPaths ht has)).1

/-! ### What artifacts hold -/

lemma holding_of_not_mem {f : String → Path} {as : List Artifact} {k : List Component}
    (hk : ∀ a ∈ as, k ≠ (f a.name).components) (v : Contents) : holding f as v k = v k := by
  induction as generalizing v with
  | nil => rfl
  | cons a as ih =>
    rw [List.forall_mem_cons] at hk
    rw [holding, ih hk.2, Function.update_of_ne hk.1]

/-- If all paths differ, each artifact is where it belongs. -/
lemma holding_of_mem {f : String → Path} {as : List Artifact}
    (hf : (as.map fun a => (f a.name).components).Nodup) {a : Artifact} (ha : a ∈ as)
    (v : Contents) : holding f as v (f a.name).components = some a.contents.toUTF8 := by
  induction as generalizing v with
  | nil => cases ha
  | cons b as ih =>
    rw [List.map_cons, List.nodup_cons] at hf
    rcases List.mem_cons.1 ha with rfl | ha
    · rw [holding, holding_of_not_mem, Function.update_self]
      intro c hc heq
      exact hf.1 (heq ▸ List.mem_map_of_mem hc)
    · rw [holding, ih hf.2 ha]

/-- Clearing the paths of artifacts takes them away. -/
lemma clear_holding {f : String → Path} {as : List Artifact} {ps : List Path}
    (h : ∀ a ∈ as, f a.name ∈ ps) (v : Contents) : clear ps (holding f as v) = clear ps v := by
  induction as generalizing v with
  | nil => rfl
  | cons a as ih =>
    rw [List.forall_mem_cons] at h
    rw [holding, ih h.2, FileStore.clear_update h.1]

/-! ### Removing -/

/-- Discarding files leaves nothing at their paths. -/
lemma view_run_discard (hw : w.Filed store) (ps : List Path) (s : σ) :
    (store (w.run (discard ps) s).2).view = clear ps (store s).view := by
  induction ps generalizing s with
  | nil => rw [FileStore.clear_nil]; rfl
  | cons p ps ih =>
    obtain ⟨s₁, hs₁, hfound⟩ := hw.run_file_bind (.exists p) _ s
    rw [discard, hfound, FileStore.clear_cons]
    split
    · -- what exists may be a directory; then the removal fails, as there is no file
      obtain ⟨s₂, hs₂, hremove⟩ := hw.run_file_bind (.remove p) _ s₁
      rw [hremove, ih, hs₂, FileStore.view_perform_remove, hs₁]
      rfl
    · next h =>
      have hnone := FileStore.view_eq_none_of_perform_exists (Bool.not_eq_true _ ▸ h)
      rw [Function.update_eq_self_iff.2 hnone.symm]
      exact (ih s₁).trans (congrArg (fun t => clear ps t.view) hs₁)

/-! ### Staging -/

/-- Staging ends with all staging files written, or with none left. -/
lemma run_stage (hw : w.Filed store) (dir : Path) (token : String) (staged : List Path)
    (as : List Artifact) (s : σ) :
    (∃ s', w.run (stage dir token staged as) s = (.ok (staged ++ hiddenPaths dir token as), s') ∧
      (store s').view = holding (hiddenPath dir token) as (store s).view) ∨
    ∃ done a rest e s', as = done ++ a :: rest ∧
      w.run (stage dir token staged as) s = (.error (.staging a.name e), s') ∧
      (store s').view = clear (staged ++ hiddenPaths dir token done) (store s).view := by
  induction as generalizing staged s with
  | nil =>
    refine Or.inl ⟨s, ?_, rfl⟩
    rw [stage, World.run_pure, hiddenPaths, List.map_nil, List.append_nil]
  | cons a as ih =>
    obtain ⟨s₁, hs₁, hwrite⟩ :=
      hw.run_file_bind (.write (hiddenPath dir token a.name) a.contents.toUTF8) _ s
    rw [stage, hwrite]
    rcases FileStore.perform_write (store s) (hiddenPath dir token a.name) a.contents.toUTF8 with
      h | h
    · -- the refused file is not there, and those before it are discarded
      rw [h] at hs₁ ⊢
      refine Or.inr ⟨[], a, as, .writeRefused (hiddenPath dir token a.name),
        (w.run (discard staged) s₁).2, rfl, ?_, ?_⟩
      · rw [World.run_bind, World.run_pure]
      · rw [view_run_discard hw, hs₁, hiddenPaths, List.map_nil, List.append_nil]
    · rw [h] at hs₁ ⊢
      have hview : (store s₁).view = Function.update (store s).view
          (hiddenPath dir token a.name).components (some a.contents.toUTF8) := by
        rw [hs₁, FileStore.view_put]
      rcases ih (staged ++ [hiddenPath dir token a.name]) s₁ with
        ⟨s', hok, hafter⟩ | ⟨done, b, rest, e, s', hsplit, herr, hafter⟩
      · refine Or.inl ⟨s', ?_, ?_⟩
        · rw [hok, List.append_assoc]
          rfl
        · rw [hafter, hview]
          rfl
      · -- the file that was written here is among those that are discarded later
        refine Or.inr ⟨a :: done, b, rest, e, s', by rw [hsplit]; rfl, herr, ?_⟩
        rw [hafter, hview, FileStore.clear_update (by simp), List.append_assoc]
        rfl

/-! ### Placing -/

/-- Once a staging file is renamed, the others are still there. -/
lemma staged_of_renamed (ht : '/' ∉ token.toList) {a : Artifact} {as : List Artifact}
    (has : Orderly (a :: as)) {v : Contents}
    (hstaged : ∀ b ∈ as, v (hiddenPath dir token b.name).components = some b.contents.toUTF8)
    (x y : Option ByteArray) :
    ∀ b ∈ as, Function.update (Function.update v (hiddenPath dir token a.name).components x)
      (place dir a.name).components y (hiddenPath dir token b.name).components =
        some b.contents.toUTF8 := by
  intro b hb
  have hplace := place_not_mem_hiddenPaths dir ht has.of_cons.isName
    (has.isName a List.mem_cons_self) (has.visible a List.mem_cons_self)
  have hmem : (hiddenPath dir token b.name).components ∈
      (hiddenPaths dir token as).map Path.components :=
    List.mem_map_of_mem (hiddenPath_mem hb)
  rw [Function.update_of_ne (ne_of_mem_of_not_mem hmem hplace),
    Function.update_of_ne (ne_of_mem_of_not_mem hmem (hiddenPath_not_mem dir ht has))]
  exact hstaged b hb

/-- Placing ends with all artifacts in place and no staging file, or with none of either, provided
that the staging files are there and are told apart by their artifacts. -/
lemma run_put (hw : w.Filed store) (ht : '/' ∉ token.toList) (placed : List Path)
    (as : List Artifact) (has : Orderly as) (s : σ)
    (hstaged : ∀ a ∈ as,
      (store s).view (hiddenPath dir token a.name).components = some a.contents.toUTF8) :
    (∃ s', w.run (put dir placed (as.zip (hiddenPaths dir token as))) s = (.ok (), s') ∧
      (store s').view =
        holding (place dir) as (clear (hiddenPaths dir token as) (store s).view)) ∨
    ∃ done a rest e s', as = done ++ a :: rest ∧
      w.run (put dir placed (as.zip (hiddenPaths dir token as))) s =
        (.error (.placing a.name e), s') ∧
      (store s').view =
        clear (placed ++ places dir done ++ hiddenPaths dir token as) (store s).view := by
  induction as generalizing placed s with
  | nil =>
    refine Or.inl ⟨s, rfl, ?_⟩
    rw [hiddenPaths, List.map_nil, FileStore.clear_nil]
    rfl
  | cons a as ih =>
    obtain ⟨s₁, hs₁, hrename⟩ :=
      hw.run_file_bind (.rename (hiddenPath dir token a.name) (place dir a.name)) _ s
    have hzip : (a :: as).zip (hiddenPaths dir token (a :: as)) =
        (a, hiddenPath dir token a.name) :: as.zip (hiddenPaths dir token as) := rfl
    have hpaths : (as.zip (hiddenPaths dir token as)).map (·.2) = hiddenPaths dir token as :=
      List.map_snd_zip (by simp [hiddenPaths])
    rw [List.forall_mem_cons] at hstaged
    rw [hzip, put, hrename]
    rcases FileStore.perform_rename (store s) (hiddenPath dir token a.name) (place dir a.name) with
      ⟨e, h⟩ | ⟨b, hb, h⟩
    · -- what has been placed goes, and so do the staging files that are left
      rw [h] at hs₁ ⊢
      refine Or.inr ⟨[], a, as, e,
        (w.run (discard (hiddenPaths dir token (a :: as))) (w.run (discard placed) s₁).2).2,
        rfl, ?_, ?_⟩
      · rw [World.run_bind, World.run_bind, World.run_pure, hpaths]
        rfl
      · rw [view_run_discard hw, view_run_discard hw, hs₁, ← FileStore.clear_append, places,
          List.map_nil, List.append_nil]
    · rw [h] at hs₁ ⊢
      have hb' : b = a.contents.toUTF8 := Option.some.inj (hb.symm.trans hstaged.1)
      have hview : (store s₁).view = Function.update
          (Function.update (store s).view (hiddenPath dir token a.name).components none)
          (place dir a.name).components (some a.contents.toUTF8) := by
        rw [hs₁, FileStore.view_put, FileStore.view_erase, hb']
      have hstaged' := staged_of_renamed ht has hstaged.2 none (some a.contents.toUTF8)
      rw [← hview] at hstaged'
      rcases ih (placed ++ [place dir a.name]) has.of_cons s₁ hstaged' with
        ⟨s', hok, hafter⟩ | ⟨done, c, rest, e, s', hsplit, herr, hafter⟩
      · have hplace := place_not_mem_hiddenPaths dir ht has.of_cons.isName
          (has.isName a List.mem_cons_self) (has.visible a List.mem_cons_self)
        refine Or.inl ⟨s', hok, ?_⟩
        rw [hafter, hview, FileStore.clear_update_comm hplace, ← FileStore.clear_cons]
        rfl
      · refine Or.inr ⟨a :: done, c, rest, e, s', by rw [hsplit]; rfl, herr, ?_⟩
        rw [hafter, hview, FileStore.clear_update (by simp), ← FileStore.clear_cons]
        -- the same paths are cleared, in another order
        refine FileStore.clear_congr (fun p => ?_) _
        simp only [hiddenPaths, places, List.map_cons, List.mem_cons, List.mem_append,
          List.not_mem_nil, or_false]
        grind

/-! ### The whole emission -/

/-- **What an emission comes to.**  In a world that keeps its files in a store, an emission ends in
one of the ways of `Outcome`, whichever operations the store refuses and whatever it holds. -/
theorem writeAll_outcome (hw : w.Filed store) (ht : '/' ∉ token.toList) {artifacts : List Artifact}
    (h : Orderly artifacts) (dir : Path) (s : σ) :
    Outcome dir token artifacts (store s).view (w.run (writeAll dir token artifacts) s).1
      (store (w.run (writeAll dir token artifacts) s).2).view := by
  obtain ⟨s₁, hs₁, hdir⟩ := hw.run_file_bind (.makeDir dir) _ s
  have hview : (store s₁).view = (store s).view := by
    rw [hs₁]
    rfl
  rw [writeAll, hdir, FileStore.perform, World.run_bind, ← hview]
  rcases run_stage hw dir token [] artifacts s₁ with
    ⟨s₂, hok, hstaged⟩ | ⟨done, a, rest, e, s₂, hsplit, herr, hafter⟩
  · -- no staging file has overwritten another one
    have hfiles : ∀ a ∈ artifacts, (store s₂).view (hiddenPath dir token a.name).components =
        some a.contents.toUTF8 := by
      intro a ha
      rw [hstaged]
      exact holding_of_mem (nodup_hiddenPaths ht h) ha _
    rw [hok]
    dsimp only
    rw [List.nil_append]
    rcases run_put hw ht [] artifacts h s₂ hfiles with
      ⟨s', hok, hafter⟩ | ⟨done, a, rest, e, s', hsplit, herr, hafter⟩
    · rw [hok, hafter, hstaged, clear_holding]
      · exact .written
      · exact fun b hb => hiddenPath_mem hb
    · rw [herr, hafter, hstaged, List.nil_append, clear_holding]
      · exact .unplaced e hsplit
      · intro b hb
        exact List.mem_append_right _ (hiddenPath_mem hb)
  · rw [herr]
    dsimp only
    rw [World.run_pure, hafter, List.nil_append]
    exact .unstaged e hsplit

/-! ### Single files -/

namespace Outcome

variable {artifacts : List Artifact} {before after : Contents} {answer : Except Failure Unit}

/-- An emission that fails takes files away at places and staging files of its own, and does
nothing else. -/
lemma eq_clear {f : Failure} (h : Outcome dir token artifacts before (.error f) after) :
    ∃ ps, (∀ p ∈ ps, p ∈ places dir artifacts ∨ p ∈ hiddenPaths dir token artifacts) ∧
      after = clear ps before := by
  cases h with
  | unstaged e h =>
    refine ⟨_, fun p hp => Or.inr ?_, rfl⟩
    rw [h, hiddenPaths, List.map_append]
    exact List.mem_append_left _ hp
  | unplaced e h =>
    refine ⟨_, fun p hp => ?_, rfl⟩
    rcases List.mem_append.1 hp with hp | hp
    · rw [h, places, List.map_append]
      exact Or.inl (List.mem_append_left _ hp)
    · exact Or.inr hp

/-- An emission that succeeds leaves every artifact in its place. -/
lemma at_place (has : Orderly artifacts) (h : Outcome dir token artifacts before (.ok ()) after)
    {a : Artifact} (ha : a ∈ artifacts) :
    after (place dir a.name).components = some a.contents.toUTF8 := by
  cases h
  exact holding_of_mem (nodup_places has) ha _

/-- An emission that succeeds leaves no staging file. -/
lemma at_hiddenPath (ht : '/' ∉ token.toList) (has : Orderly artifacts)
    (h : Outcome dir token artifacts before (.ok ()) after) {p : Path}
    (hp : p ∈ hiddenPaths dir token artifacts) : after p.components = none := by
  cases h
  rw [holding_of_not_mem, FileStore.clear_of_mem hp]
  intro a ha heq
  refine place_not_mem_hiddenPaths dir ht has.isName (has.isName a ha) (has.visible a ha) ?_
  rw [← heq]
  exact List.mem_map_of_mem hp

/-- What an emission that fails does not leave as it was is gone, and is at one of its places or
staging files. -/
lemma eq_or_none {f : Failure} (h : Outcome dir token artifacts before (.error f) after)
    (k : List Component) :
    after k = before k ∨ after k = none ∧ (k ∈ (places dir artifacts).map Path.components ∨
      k ∈ (hiddenPaths dir token artifacts).map Path.components) := by
  obtain ⟨ps, hps, rfl⟩ := h.eq_clear
  by_cases hk : k ∈ ps.map Path.components
  · obtain ⟨p, hp, rfl⟩ := List.mem_map.1 hk
    exact Or.inr ⟨FileStore.clear_of_mem hp _,
      (hps p hp).imp List.mem_map_of_mem List.mem_map_of_mem⟩
  · exact Or.inl (FileStore.clear_of_not_mem hk _)

/-- An emission that succeeds changes nothing but its artifacts, save for a file in the place of a
staging file. -/
lemma eq_of_ok (ht : '/' ∉ token.toList) (has : Orderly artifacts)
    (h : Outcome dir token artifacts before (.ok ()) after) {k : List Component}
    (hplace : k ∉ (places dir artifacts).map Path.components)
    (hhidden : k ∈ (hiddenPaths dir token artifacts).map Path.components → before k = none) :
    after k = before k := by
  by_cases hk : k ∈ (hiddenPaths dir token artifacts).map Path.components
  · rw [hhidden hk]
    obtain ⟨p, hp, rfl⟩ := List.mem_map.1 hk
    exact h.at_hiddenPath ht has hp
  · cases h
    rw [holding_of_not_mem, FileStore.clear_of_not_mem hk]
    rintro a ha rfl
    exact hplace (List.mem_map_of_mem (place_mem ha))

/-- What an emission that fails makes of the files in its places: nothing if it fails in staging,
and if it fails in placing, those that have been placed are missing. -/
lemma at_place_of_error (ht : '/' ∉ token.toList) (has : Orderly artifacts) {f : Failure}
    (h : Outcome dir token artifacts before (.error f) after) :
    (∃ n cause, f = .staging n cause ∧ ∀ m, Path.IsName m → m.toList.head? ≠ some '.' →
      after (place dir m).components = before (place dir m).components) ∨
    ∃ done a rest cause, artifacts = done ++ a :: rest ∧ f = .placing a.name cause ∧
      (∀ b ∈ done, after (place dir b.name).components = none) ∧
      ∀ m, Path.IsName m → m.toList.head? ≠ some '.' → (∀ b ∈ done, b.name ≠ m) →
        after (place dir m).components = before (place dir m).components := by
  cases h with
  | @unstaged done rest a cause h =>
    have hdone : ∀ b ∈ done, Path.IsName b.name := by
      intro b hb
      exact has.isName b (h ▸ List.mem_append_left _ hb)
    refine Or.inl ⟨a.name, cause, rfl, fun m hm hvisible => ?_⟩
    exact FileStore.clear_of_not_mem (place_not_mem_hiddenPaths dir ht hdone hm hvisible) _
  | @unplaced done rest a cause h =>
    have hdone : ∀ b ∈ done, Path.IsName b.name := by
      intro b hb
      exact has.isName b (h ▸ List.mem_append_left _ hb)
    refine Or.inr ⟨done, a, rest, cause, h, rfl, fun b hb => ?_, fun m hm hvisible hne => ?_⟩
    · exact FileStore.clear_of_mem (List.mem_append_left _ (place_mem hb)) _
    · refine FileStore.clear_of_not_mem ?_ _
      rw [List.map_append, List.mem_append, not_or]
      exact ⟨place_not_mem_places dir hdone hm hne,
        place_not_mem_hiddenPaths dir ht has.isName hm hvisible⟩

/-- An emission leaves the places in other directories alone. -/
lemma eq_of_dir_ne (ht : '/' ∉ token.toList) (has : Orderly artifacts)
    (h : Outcome dir token artifacts before answer after) {d : Path}
    (hd : d.components ≠ dir.components) {n : String} (hn : Path.IsName n) :
    after (place d n).components = before (place d n).components := by
  have hplace : (place d n).components ∉ (places dir artifacts).map Path.components := by
    rw [places, List.map_map, List.mem_map]
    rintro ⟨b, hb, heq⟩
    rw [Function.comp_apply, components_place hn, components_place (has.isName b hb)] at heq
    exact hd (List.append_inj_left' heq rfl).symm
  have hhidden : (place d n).components ∉
      (hiddenPaths dir token artifacts).map Path.components := by
    rw [hiddenPaths, List.map_map, List.mem_map]
    rintro ⟨b, hb, heq⟩
    rw [Function.comp_apply, components_place hn, components_hiddenPath ht (has.isName b hb).slash]
      at heq
    exact hd (List.append_inj_left' heq rfl).symm
  cases answer with
  | ok u => exact h.eq_of_ok ht has hplace fun hk => absurd hk hhidden
  | error f =>
    rcases h.eq_or_none (place d n).components with hsame | ⟨-, hk | hk⟩
    · exact hsame
    · exact absurd hk hplace
    · exact absurd hk hhidden

end Outcome

end JobGraph.Emission
