import Mathlib.Data.List.Find
import JobGraph.Proofs.Emission.Restart
import JobGraph.Proofs.Files.Seclusion

/-!
# Emissions and their tokens

What an emission answers can be read off the refusals of the store (`Emission.answerOf`), and what
it leaves can be read off its answer (`Emission.leftBy`).  The token is in neither, but for the path
of a staging file that is refused: if the store does not tell tokens apart, an emission under one
token comes to the same as under another one, which is `Emission.run_writeAll_tokens`.

An emission keeps to the paths directly in its directory (`Emission.secluded_writeAll`), and it ends
after so many operations (`Emission.endsWithin_writeAll`).
-/

namespace JobGraph.Emission

open FileStore (Alike Contents clear)
open World (Secluded)

variable {σ : Type} {w : World σ} {store : σ → FileStore} {dir : Path} {token token' : String}
  {D : Set (List Component)} {artifacts : List Artifact}

/-! ### What an emission answers -/

/-- What an emission answers: the first artifact that it may not stage, or else the first that it
may not place, or else success. -/
def answerOf (dir : Path) (token : String) (artifacts : List Artifact) (s : FileStore) :
    Except Failure Unit :=
  match artifacts.find? fun a => s.refusesWrite (hiddenPath dir token a.name) with
  | some a => .error (.staging a.name (.writeRefused (hiddenPath dir token a.name)))
  | none =>
    match artifacts.find? fun a => s.refusedRenames.any (place dir a.name).same with
    | some a => .error (.placing a.name (.renameRefused (place dir a.name)))
    | none => .ok ()

lemma fst_run_stage (hw : w.Filed store) (staged : List Path) (as : List Artifact) (s : σ) :
    (w.run (stage dir token staged as) s).1 =
      match as.find? fun a => (store s).refusesWrite (hiddenPath dir token a.name) with
      | some a => .error (.staging a.name (.writeRefused (hiddenPath dir token a.name)))
      | none => .ok (staged ++ hiddenPaths dir token as) := by
  induction as generalizing staged s with
  | nil => simp [stage, hiddenPaths]
  | cons a as ih =>
    obtain ⟨s₁, hs₁, hwrite⟩ :=
      hw.run_file_bind (.write (hiddenPath dir token a.name) a.contents.toUTF8) _ s
    rw [stage, hwrite, List.find?_cons, FileStore.perform]
    cases hrefuses : (store s).refusesWrite (hiddenPath dir token a.name) with
    | true =>
      rw [if_pos rfl]
      dsimp only
      rw [World.run_bind, World.run_pure]
    | false =>
      -- putting a file changes nothing about the refusals
      have hsame : ∀ p, (store s₁).refusesWrite p = (store s).refusesWrite p := by
        intro p
        rw [hs₁, FileStore.perform, hrefuses]
        rfl
      have hpaths : staged ++ hiddenPaths dir token (a :: as) =
          staged ++ [hiddenPath dir token a.name] ++ hiddenPaths dir token as := by
        simp [hiddenPaths]
      have hrest := ih (staged ++ [hiddenPath dir token a.name]) s₁
      simp only [hsame] at hrest
      rw [hpaths]
      exact hrest

lemma fst_run_put (hw : w.Filed store) (ht : '/' ∉ token.toList) (placed : List Path)
    (as : List Artifact) (has : Orderly as) (s : σ)
    (hstaged : ∀ a ∈ as,
      (store s).view (hiddenPath dir token a.name).components = some a.contents.toUTF8) :
    (w.run (put dir placed (as.zip (hiddenPaths dir token as))) s).1 =
      match as.find? fun a => (store s).refusedRenames.any (place dir a.name).same with
      | some a => .error (.placing a.name (.renameRefused (place dir a.name)))
      | none => .ok () := by
  induction as generalizing placed s with
  | nil => rfl
  | cons a as ih =>
    obtain ⟨s₁, hs₁, hrename⟩ :=
      hw.run_file_bind (.rename (hiddenPath dir token a.name) (place dir a.name)) _ s
    have hzip : (a :: as).zip (hiddenPaths dir token (a :: as)) =
        (a, hiddenPath dir token a.name) :: as.zip (hiddenPaths dir token as) := rfl
    rw [List.forall_mem_cons] at hstaged
    have hheld : (store s).contents? (hiddenPath dir token a.name) = some a.contents.toUTF8 :=
      hstaged.1
    rw [hzip, put, hrename, List.find?_cons, FileStore.perform]
    cases hrefuses : (store s).refusedRenames.any (place dir a.name).same with
    | true =>
      rw [if_pos rfl]
      dsimp only
      rw [World.run_bind, World.run_bind, World.run_pure]
    | false =>
      have hmoved : store s₁ = ((store s).erase (hiddenPath dir token a.name)).put
          (place dir a.name) a.contents.toUTF8 := by
        rw [hs₁, FileStore.perform, hrefuses, hheld]
        rfl
      have hrest := staged_of_renamed ht has hstaged.2 none (some a.contents.toUTF8)
      rw [← FileStore.view_erase, ← FileStore.view_put, ← hmoved] at hrest
      have hsame : (store s₁).refusedRenames = (store s).refusedRenames := by
        rw [hmoved]
        rfl
      have hnext := ih (placed ++ [place dir a.name]) has.of_cons s₁ hrest
      rw [hsame] at hnext
      rw [hheld]
      exact hnext

/-- **The answer of an emission.**  It is what the refusals of the store say. -/
theorem fst_run_writeAll (hw : w.Filed store) (ht : '/' ∉ token.toList) (has : Orderly artifacts)
    (s : σ) :
    (w.run (writeAll dir token artifacts) s).1 = answerOf dir token artifacts (store s) := by
  obtain ⟨s₁, hs₁, hdir⟩ := hw.run_file_bind (.makeDir dir) _ s
  have hwrites : ∀ p, (store s₁).refusesWrite p = (store s).refusesWrite p := by
    intro p
    rw [hs₁]
    rfl
  have hanswer : (w.run (stage dir token [] artifacts) s₁).1 = _ :=
    fst_run_stage hw [] artifacts s₁
  simp only [hwrites] at hanswer
  rw [writeAll, hdir, FileStore.perform, World.run_bind, hanswer, answerOf]
  cases hfind : artifacts.find? fun a => (store s).refusesWrite (hiddenPath dir token a.name) with
  | some a => rfl
  | none =>
    dsimp only
    rw [hfind] at hanswer
    rcases run_stage hw dir token [] artifacts s₁ with
      ⟨s₂, hok, hstaged⟩ | ⟨done, a, rest, e, s₂, -, herror, -⟩
    · have hfiles : ∀ a ∈ artifacts, (store s₂).view (hiddenPath dir token a.name).components =
          some a.contents.toUTF8 := by
        intro a ha
        rw [hstaged]
        exact holding_of_mem (nodup_hiddenPaths ht has) ha _
      -- staging leaves the refusals as they are
      have hwithin : (stage dir token [] artifacts).Within (Effect.Touches Set.univ) _ :=
        within_stage (by simp) (by simp)
      have hsame : Alike Set.univ (store s₂) (store s₁) := by
        have hafter := hwithin.after (I := fun s' => Alike Set.univ (store s') (store s₁))
          (hw.alike_answer s₁) (.refl _ _)
        rw [hok] at hafter
        exact hafter
      have hrenames : (store s₂).refusedRenames = (store s).refusedRenames := by
        rw [hsame.refusedRenames, hs₁]
        rfl
      have hput : (w.run (put dir [] (artifacts.zip (hiddenPaths dir token artifacts))) s₂).1 = _ :=
        fst_run_put hw ht [] artifacts has s₂ hfiles
      rw [hrenames] at hput
      rw [hok, List.nil_append]
      exact hput
    · rw [herror] at hanswer
      cases hanswer

/-! ### What an emission leaves -/

/-- What is left by an emission with an answer: the artifacts in their places; or, if one of them
could not be placed, what there was before without the places of those before it; or what there was
before. -/
def leftBy (dir : Path) (artifacts : List Artifact) (before : Contents) :
    Except Failure Unit → Contents
  | .ok () => holding (place dir) artifacts before
  | .error (.placing n _) => clear (places dir (artifacts.takeWhile (·.name != n))) before
  | .error _ => before

/-- Clearing paths at which there is nothing changes nothing. -/
lemma clear_eq_self {ps : List Path} {v : Contents} {k : List Component}
    (hk : k ∈ ps.map Path.components → v k = none) : clear ps v k = v k := by
  rw [clear]
  split
  · next h => exact (hk h).symm
  · rfl

/-- The artifacts before one of them are those up to its name. -/
lemma takeWhile_name {done rest : List Artifact} {a : Artifact}
    (has : Orderly (done ++ a :: rest)) :
    (done ++ a :: rest).takeWhile (·.name != a.name) = done := by
  have hnodup := has.nodup
  rw [List.map_append, List.map_cons, List.nodup_append] at hnodup
  have hdone : ∀ b ∈ done, (b.name != a.name) = true := by
    intro b hb
    rw [bne_iff_ne]
    exact hnodup.2.2 b.name (List.mem_map_of_mem hb) a.name List.mem_cons_self
  rw [List.takeWhile_append_of_pos hdone, List.takeWhile_cons]
  simp

/-- What an emission leaves at a path where no file has been in the place of a staging file. -/
lemma Outcome.eq_leftBy (has : Orderly artifacts) {before after : Contents}
    {answer : Except Failure Unit} (h : Outcome dir token artifacts before answer after)
    {k : List Component}
    (hk : k ∈ (hiddenPaths dir token artifacts).map Path.components → before k = none) :
    after k = leftBy dir artifacts before answer k := by
  cases h with
  | written =>
    by_cases hplace : ∃ a ∈ artifacts, k = (place dir a.name).components
    · obtain ⟨a, ha, rfl⟩ := hplace
      rw [leftBy, holding_of_mem (nodup_places has) ha, holding_of_mem (nodup_places has) ha]
    · have hne : ∀ a ∈ artifacts, k ≠ (place dir a.name).components :=
        fun a ha heq => hplace ⟨a, ha, heq⟩
      rw [leftBy, holding_of_not_mem hne, holding_of_not_mem hne, clear_eq_self hk]
  | @unstaged done rest a e hsplit =>
    refine clear_eq_self fun hdone => hk ?_
    rw [hsplit, hiddenPaths, List.map_append, List.map_append]
    exact List.mem_append_left _ hdone
  | @unplaced done rest a e hsplit =>
    have hbefore : artifacts.takeWhile (·.name != a.name) = done := by
      subst hsplit
      exact takeWhile_name has
    rw [leftBy, hbefore, FileStore.clear_append]
    refine clear_eq_self fun hhidden => ?_
    rw [clear, hk hhidden, ite_self]

/-! ### One token and another -/

/-- The store refuses to write all staging files of an artifact in a directory, whatever their
token, or none of them. -/
def IgnoresTokens (s : FileStore) (dir : Path) (n : String) : Prop :=
  ∀ process call process' call', s.refusesWrite (hiddenPath dir (Emission.token process call) n) =
    s.refusesWrite (hiddenPath dir (Emission.token process' call') n)

/-- A store that treats all paths alike does not tell tokens apart. -/
lemma IgnoresTokens.of_const {s : FileStore} {dir : Path} {n : String} {refuses : Bool}
    (h : ∀ q, s.refusesWrite q = refuses) : IgnoresTokens s dir n :=
  fun _ _ _ _ => (h _).trans (h _).symm

/-- The answers are the same; or both say that an artifact could not be staged, and each of them
names the staging file of its own token. -/
inductive SameAnswer (dir : Path) (token token' : String) :
    Except Failure Unit → Except Failure Unit → Prop where
  | same (answer : Except Failure Unit) : SameAnswer dir token token' answer answer
  | staging (n : String) : SameAnswer dir token token'
      (.error (.staging n (.writeRefused (hiddenPath dir token n))))
      (.error (.staging n (.writeRefused (hiddenPath dir token' n))))

lemma sameAnswer_answerOf {s : FileStore}
    (h : ∀ a ∈ artifacts, s.refusesWrite (hiddenPath dir token a.name) =
      s.refusesWrite (hiddenPath dir token' a.name)) :
    SameAnswer dir token token' (answerOf dir token artifacts s)
      (answerOf dir token' artifacts s) := by
  have hfind : (artifacts.find? fun a => s.refusesWrite (hiddenPath dir token a.name)) =
      artifacts.find? fun a => s.refusesWrite (hiddenPath dir token' a.name) :=
    List.find?_congr h
  rw [answerOf, answerOf, hfind]
  cases artifacts.find? fun a => s.refusesWrite (hiddenPath dir token' a.name) with
  | some a => exact .staging a.name
  | none => exact .same _

lemma SameAnswer.leftBy_eq {answer answer' : Except Failure Unit}
    (h : SameAnswer dir token token' answer answer') (before : Contents) :
    leftBy dir artifacts before answer = leftBy dir artifacts before answer' := by
  cases h with
  | same _ => rfl
  | staging _ => rfl

/-- **The same emission under two tokens.**  If the store does not tell tokens apart, the answers
are the same but for the names of staging files, and so are the files, but for those that have been
in the place of a staging file before. -/
theorem run_writeAll_tokens (hw : w.Filed store) (has : Orderly artifacts) (s : σ)
    (process call process' call' : ℕ)
    (hs : ∀ a ∈ artifacts, IgnoresTokens (store s) dir a.name) :
    let first := w.run (writeAll dir (Emission.token process call) artifacts) s
    let second := w.run (writeAll dir (Emission.token process' call') artifacts) s
    SameAnswer dir (Emission.token process call) (Emission.token process' call') first.1 second.1 ∧
    ∀ k, (k ∈ (hiddenPaths dir (Emission.token process call) artifacts ++
        hiddenPaths dir (Emission.token process' call') artifacts).map Path.components →
      (store s).view k = none) → (store first.2).view k = (store second.2).view k := by
  intro first second
  have ht := slash_not_mem_token process call
  have ht' := slash_not_mem_token process' call'
  have hanswers : SameAnswer dir (Emission.token process call) (Emission.token process' call')
      first.1 second.1 := by
    rw [fst_run_writeAll hw ht has, fst_run_writeAll hw ht' has]
    exact sameAnswer_answerOf fun a ha => hs a ha _ _ _ _
  refine ⟨hanswers, fun k hk => ?_⟩
  rw [List.map_append] at hk
  have hfirst := (writeAll_outcome hw ht has dir s).eq_leftBy has
    fun h => hk (List.mem_append_left _ h)
  have hsecond := (writeAll_outcome hw ht' has dir s).eq_leftBy has
    fun h => hk (List.mem_append_right _ h)
  rw [hfirst, hsecond, hanswers.leftBy_eq]

/-! ### Emissions that keep to their directory -/

/-- Discarding comes to the same whatever it is answered: whether something is found may depend on
directories, but then there is no file to remove. -/
lemma local_discard (hw : w.Filed store) (ps : List Path) :
    World.Local w store D (discard ps) := by
  intro s t h
  have hwithin : (discard ps).Within (Effect.Touches Set.univ) fun _ => True :=
    within_discard (by simp)
  have hkept : ∀ u, Alike Set.univ (store (w.run (discard ps) u).2) (store u) := fun u =>
    hwithin.after (I := fun u' => Alike Set.univ (store u') (store u)) (hw.alike_answer u)
      (.refl _ _)
  refine ⟨rfl, ?_, ?_, ?_, fun k hk => ?_⟩
  · rw [(hkept s).refusedWrites, (hkept t).refusedWrites, h.refusedWrites]
  · rw [(hkept s).refusedStarts, (hkept t).refusedStarts, h.refusedStarts]
  · rw [(hkept s).refusedRenames, (hkept t).refusedRenames, h.refusedRenames]
  · rw [view_run_discard hw, view_run_discard hw, clear, clear, h.view k hk]

lemma secluded_discard (hw : w.Filed store) {ps : List Path} (h : ∀ p ∈ ps, p.components ∈ D) :
    Secluded w store D (discard ps) := by
  induction ps with
  | nil => exact .pure ()
  | cons p ps ih =>
    rw [List.forall_mem_cons] at h
    refine ⟨by simp [Effect.Touches, FileOp.touched], local_discard hw (p :: ps), fun found => ?_⟩
    cases found with
    | false => exact ih h.2
    | true => exact (Secluded.remove hw h.1).bind fun _ => ih h.2

lemma secluded_stage (hw : w.Filed store) {staged : List Path} {as : List Artifact}
    (hstaged : ∀ p ∈ staged, p.components ∈ D)
    (has : ∀ a ∈ as, (hiddenPath dir token a.name).components ∈ D) :
    Secluded w store D (stage dir token staged as) := by
  induction as generalizing staged with
  | nil => exact .pure _
  | cons a as ih =>
    rw [List.forall_mem_cons] at has
    refine (Secluded.write hw has.1 a.contents.toUTF8).bind fun answer => ?_
    cases answer with
    | error e => exact (secluded_discard hw hstaged).bind fun _ => .pure _
    | ok u =>
      have hstaged' : ∀ p ∈ staged ++ [hiddenPath dir token a.name], p.components ∈ D := by
        simpa [or_imp, forall_and] using ⟨hstaged, has.1⟩
      exact ih hstaged' has.2

lemma secluded_put (hw : w.Filed store) {placed : List Path} {es : List (Artifact × Path)}
    (hplaced : ∀ p ∈ placed, p.components ∈ D)
    (hes : ∀ e ∈ es, e.2.components ∈ D ∧ (place dir e.1.name).components ∈ D) :
    Secluded w store D (put dir placed es) := by
  induction es generalizing placed with
  | nil => exact .pure _
  | cons e es ih =>
    obtain ⟨a, path⟩ := e
    rw [List.forall_mem_cons] at hes
    obtain ⟨⟨hpath, hplace⟩, hes⟩ := hes
    refine (Secluded.rename hw hpath hplace).bind fun answer => ?_
    cases answer with
    | ok u =>
      have hplaced' : ∀ p ∈ placed ++ [place dir a.name], p.components ∈ D := by
        simpa [or_imp, forall_and] using ⟨hplaced, hplace⟩
      exact ih hplaced' hes
    | error e =>
      have hrest : ∀ p ∈ path :: es.map (·.2), p.components ∈ D := by
        rw [List.forall_mem_cons, List.forall_mem_map]
        exact ⟨hpath, fun e he => (hes e he).1⟩
      refine (secluded_discard hw hplaced).bind fun _ => ?_
      exact (secluded_discard hw hrest).bind fun _ => .pure _

/-- The paths directly in a directory. -/
def inside (dir : Path) : Set (List Component) :=
  {k | ∃ n, k = dir.components ++ [.name n]}

lemma disjoint_inside {dir' : Path} (h : dir.components ≠ dir'.components) :
    Disjoint (inside dir) (inside dir') := by
  rw [Set.disjoint_left]
  rintro k ⟨m, rfl⟩ ⟨n, heq⟩
  exact h (List.append_inj_left' heq rfl)

/-- An emission keeps to the paths directly in its directory. -/
theorem secluded_writeAll (hw : w.Filed store) (dir : Path) (ht : '/' ∉ token.toList)
    (has : Orderly artifacts) :
    Secluded w store (inside dir) (writeAll dir token artifacts) := by
  have hhidden : ∀ a ∈ artifacts, (hiddenPath dir token a.name).components ∈ inside dir :=
    fun a ha => ⟨_, components_hiddenPath ht (has.isName a ha).slash dir⟩
  have hplace : ∀ a ∈ artifacts, (place dir a.name).components ∈ inside dir :=
    fun a ha => ⟨_, components_place (has.isName a ha) dir⟩
  refine (Secluded.makeDir hw dir).bind fun created => ?_
  cases created with
  | error e => exact .pure _
  | ok u =>
    have hstage := secluded_stage hw (List.forall_mem_nil _) hhidden
    refine hstage.bind_within (within_stage (List.forall_mem_nil _) hhidden) fun answer hpaths => ?_
    cases answer with
    | error e => exact .pure _
    | ok paths =>
      refine secluded_put hw (List.forall_mem_nil _) fun e he => ?_
      obtain ⟨ha, hpath⟩ := List.of_mem_zip he
      rw [hpaths paths rfl, List.nil_append] at hpath
      obtain ⟨b, hb, hpath⟩ := List.mem_map.1 hpath
      exact ⟨hpath ▸ hhidden b hb, hplace e.1 ha⟩

/-! ### Emissions that end -/

lemma endsWithin_discard (ps : List Path) : (discard ps).EndsWithin (2 * ps.length) := by
  induction ps with
  | nil => trivial
  | cons p ps ih =>
    rw [List.length_cons]
    refine ⟨by omega, fun found => ?_⟩
    cases found with
    | false => exact ih.mono (by omega)
    | true => exact ((Program.EndsWithin.file (.remove p)).bind fun _ => ih).mono (by omega)

lemma endsWithin_stage (staged : List Path) (as : List Artifact) :
    (stage dir token staged as).EndsWithin (2 * staged.length + 3 * as.length) := by
  induction as generalizing staged with
  | nil => trivial
  | cons a as ih =>
    rw [List.length_cons]
    refine ⟨by omega, fun answer => ?_⟩
    cases answer with
    | ok u =>
      have hnext := ih (staged ++ [hiddenPath dir token a.name])
      rw [List.length_append, List.length_singleton] at hnext
      exact hnext.mono (by omega)
    | error e =>
      refine Program.EndsWithin.mono (m := 2 * staged.length + 0) ?_ (by omega)
      exact (endsWithin_discard staged).bind fun _ => trivial

lemma endsWithin_put (placed : List Path) (es : List (Artifact × Path)) :
    (put dir placed es).EndsWithin (2 * placed.length + 3 * es.length) := by
  induction es generalizing placed with
  | nil => trivial
  | cons e es ih =>
    obtain ⟨a, path⟩ := e
    rw [List.length_cons]
    refine ⟨by omega, fun answer => ?_⟩
    cases answer with
    | ok u =>
      have hnext := ih (placed ++ [place dir a.name])
      rw [List.length_append, List.length_singleton] at hnext
      exact hnext.mono (by omega)
    | error e =>
      have hrest := endsWithin_discard (path :: es.map (·.2))
      rw [List.length_cons, List.length_map] at hrest
      refine Program.EndsWithin.mono
        (m := 2 * placed.length + (2 * (es.length + 1) + 0)) ?_ (by omega)
      exact (endsWithin_discard placed).bind fun _ => hrest.bind fun _ => trivial

/-- An emission ends: it makes its directory, and it asks for six operations at most for every
artifact. -/
theorem endsWithin_writeAll (dir : Path) (token : String) (artifacts : List Artifact) :
    (writeAll dir token artifacts).EndsWithin (1 + 6 * artifacts.length) := by
  refine Program.EndsWithin.mono
    (m := 1 + (3 * artifacts.length + 3 * artifacts.length)) ?_ (by omega)
  refine (Program.EndsWithin.file (.makeDir dir)).bind fun created => ?_
  cases created with
  | error e => trivial
  | ok u =>
    have hstage : (stage dir token [] artifacts).EndsWithin (3 * artifacts.length) := by
      simpa using endsWithin_stage [] artifacts
    refine hstage.bind fun answer => ?_
    cases answer with
    | error e => trivial
    | ok staged =>
      have hput : (put dir [] (artifacts.zip staged)).EndsWithin
          (3 * (artifacts.zip staged).length) := by
        simpa using endsWithin_put [] (artifacts.zip staged)
      have hlength : (artifacts.zip staged).length ≤ artifacts.length := by
        rw [List.length_zip]
        exact Nat.min_le_left _ _
      exact hput.mono (by omega)

end JobGraph.Emission
