import JobGraph.Proofs.Emission.Outcome
import JobGraph.Proofs.Files.Faults
import JobGraph.Proofs.Program.Interleaving

/-!
# The operations of an emission, if any may fail

An emission goes ahead until an operation fails, and then it takes back what it has done.  What its
program may ask for on the way is said by `Emission.Careful`, with a case for each kind of
operation, and that an emission is careful is `Emission.careful_writeAll`.  One operation of a
careful program does one of the deeds of `Emission.Deed`, whether it fails or not
(`Emission.Careful.advance`).

A deed is told in the log of the run and in the files.  What the log says about a path is
`Emission.standing`: whether the last thing done to it was a removal or a renaming.  That the two
agree about the places of an emission is `Emission.Deed.at_place`.
-/

namespace JobGraph.Emission

open FileStore (Contents)

/-! ### What the log says about a place -/

/-- What was done to a path last: nothing, a removal, or a renaming by a call that put a file
there. -/
inductive Standing (ι : Type) where
  | untouched
  | removed
  | placed (i : ι)
deriving DecidableEq

variable {ι : Type}

/-- What was done to a path last, after one more event. -/
def Standing.after (p : Path) (standing : Standing ι) : ι × Event → Standing ι
  | (i, ⟨.file (.rename _ q), .ok ()⟩) => if q.same p then .placed i else standing
  | (_, ⟨.file (.remove q), .ok ()⟩) => if q.same p then .removed else standing
  | _ => standing

/-- What was done to a path last, by a log. -/
def standing (p : Path) (log : List (ι × Event)) : Standing ι :=
  log.foldl (Standing.after p) .untouched

lemma standing_append (p : Path) (log log' : List (ι × Event)) :
    standing p (log ++ log') = log'.foldl (Standing.after p) (standing p log) := by
  simp [standing]

/-- What was done to a path does not come undone. -/
lemma standing_append_ne (p : Path) {log log' : List (ι × Event)}
    (hlog : standing p log ≠ .untouched) :
    standing p (log ++ log') ≠ .untouched := by
  have hafter : ∀ (event : ι × Event) (st : Standing ι), st ≠ .untouched →
      st.after p event ≠ .untouched := by
    intro event st hst
    unfold Standing.after
    split
    · split <;> simp [hst]
    · split <;> simp [hst]
    · exact hst
  rw [standing_append]
  induction log' generalizing log with
  | nil => exact hlog
  | cons event log' ih =>
    have hnext : standing p (log ++ [event]) ≠ .untouched := by
      rw [standing_append]
      exact hafter event _ hlog
    have hrest := ih hnext
    rw [standing_append] at hrest
    exact hrest

/-! ### One call -/

section OneCall

variable {α β : Type} {dir : Path} {token : String} {artifacts : List Artifact}

/-- How far a call has come.  It goes ahead, with some artifacts staged and others in their places;
or it takes back what it has done, the artifacts that it had placed among it. -/
inductive Phase where
  | ahead (staged placed : List Artifact)
  | back (placed : List Artifact)

/-- The artifacts that are staged. -/
def Phase.staged : Phase → List Artifact
  | .ahead staged _ => staged
  | .back _ => []

/-- The artifacts that a call has put in their places. -/
def Phase.placed : Phase → List Artifact
  | .ahead _ placed => placed
  | .back placed => placed

/-- Whatever the answers are, the program stages artifacts and puts in their places what it has
staged; from the first operation that fails on it does nothing but remove staging files of its call
and what the call has placed.  It ends with a result that satisfies `Q` in the phase it has
reached. -/
inductive Careful (dir : Path) (token : String) (artifacts : List Artifact)
    (Q : α → Phase → Prop) : Phase → Program α → Prop where
  | done {phase : Phase} {a : α} (h : Q a phase) : Careful dir token artifacts Q phase (.done a)
  | makeDir {phase : Phase} {next : Except FileError Unit → Program α}
      (h : ∀ answer, Careful dir token artifacts Q phase (next answer)) :
      Careful dir token artifacts Q phase (.step (.file (.makeDir dir)) next)
  | write {staged : List Artifact} {a : Artifact} {next : Except FileError Unit → Program α}
      (ha : a ∈ artifacts) (hnew : ∀ b ∈ staged, b.name ≠ a.name)
      (hok : Careful dir token artifacts Q (.ahead (staged ++ [a]) []) (next (.ok ())))
      (herror : ∀ e, Careful dir token artifacts Q (.back []) (next (.error e))) :
      Careful dir token artifacts Q (.ahead staged [])
        (.step (.file (.write (hiddenPath dir token a.name) a.contents.toUTF8)) next)
  | rename {rest placed : List Artifact} {a : Artifact} {next : Except FileError Unit → Program α}
      (ha : a ∈ artifacts) (hrest : ∀ b ∈ rest, b.name ≠ a.name)
      (hok : Careful dir token artifacts Q (.ahead rest (placed ++ [a])) (next (.ok ())))
      (herror : ∀ e, Careful dir token artifacts Q (.back placed) (next (.error e))) :
      Careful dir token artifacts Q (.ahead (a :: rest) placed)
        (.step (.file (.rename (hiddenPath dir token a.name) (place dir a.name))) next)
  | look {placed : List Artifact} {p : Path} {next : Bool → Program α}
      (h : ∀ answer, Careful dir token artifacts Q (.back placed) (next answer)) :
      Careful dir token artifacts Q (.back placed) (.step (.file (.exists p)) next)
  | remove {placed : List Artifact} {p : Path} {next : Except FileError Unit → Program α}
      (hp : p ∈ places dir placed ++ hiddenPaths dir token artifacts)
      (h : ∀ answer, Careful dir token artifacts Q (.back placed) (next answer)) :
      Careful dir token artifacts Q (.back placed) (.step (.file (.remove p)) next)

/-- The result of a call in the phase that it has reached: it has succeeded with all artifacts in
their places; or it has failed before it placed any; or it has failed in placing one, those before
it having been placed. -/
inductive Answered (artifacts : List Artifact) : Except Failure Unit → Phase → Prop where
  | ok : Answered artifacts (.ok ()) (.ahead [] artifacts)
  | early {f : Failure} {phase : Phase} (hf : ∀ n cause, f ≠ .placing n cause)
      (hphase : phase.placed = []) : Answered artifacts (.error f) phase
  | placing {done rest : List Artifact} {a : Artifact} {cause : FileError}
      (h : artifacts = done ++ a :: rest) :
      Answered artifacts (.error (.placing a.name cause)) (.back done)

lemma Careful.bind {Q : α → Phase → Prop} {R : β → Phase → Prop} {phase : Phase} {p : Program α}
    {f : α → Program β} (hp : Careful dir token artifacts Q phase p)
    (hf : ∀ a phase', Q a phase' → Careful dir token artifacts R phase' (f a)) :
    Careful dir token artifacts R phase (p >>= f) := by
  induction hp with
  | done h => exact hf _ _ h
  | makeDir _ ih => exact .makeDir ih
  | write ha hnew _ _ ihok iherror => exact .write ha hnew ihok iherror
  | rename ha hrest _ _ ihok iherror => exact .rename ha hrest ihok iherror
  | look _ ih => exact .look ih
  | remove hp _ ih => exact .remove hp ih

/-- Discarding is taking back. -/
lemma careful_discard {placed : List Artifact} {ps : List Path}
    (h : ∀ p ∈ ps, p ∈ places dir placed ++ hiddenPaths dir token artifacts) :
    Careful dir token artifacts (fun _ phase => phase = .back placed) (.back placed)
      (discard ps) := by
  induction ps with
  | nil => exact .done rfl
  | cons p ps ih =>
    rw [List.forall_mem_cons] at h
    refine .look fun found => ?_
    cases found with
    | false => exact ih h.2
    | true => exact .remove h.1 fun _ => ih h.2

/-- Staging goes ahead through all artifacts, or it fails with nothing placed. -/
lemma careful_stage (horderly : Orderly artifacts) {done rest : List Artifact}
    (h : artifacts = done ++ rest) :
    Careful dir token artifacts
      (fun answer phase =>
        (answer = .ok (hiddenPaths dir token artifacts) ∧ phase = .ahead artifacts []) ∨
        ∃ n cause, answer = .error (.staging n cause) ∧ phase = .back [])
      (.ahead done []) (stage dir token (hiddenPaths dir token done) rest) := by
  induction rest generalizing done with
  | nil =>
    rw [List.append_nil] at h
    subst h
    exact .done (Or.inl ⟨rfl, rfl⟩)
  | cons a rest ih =>
    have hnodup := horderly.nodup
    rw [h, List.map_append, List.map_cons, List.nodup_append] at hnodup
    have hnew : ∀ b ∈ done, b.name ≠ a.name :=
      fun b hb => hnodup.2.2 b.name (List.mem_map_of_mem hb) a.name List.mem_cons_self
    refine .write (h ▸ List.mem_append_cons_self) hnew ?_ fun e => ?_
    · have hpaths : hiddenPaths dir token (done ++ [a]) =
          hiddenPaths dir token done ++ [hiddenPath dir token a.name] := by
        simp [hiddenPaths]
      have hnext := ih (h.trans (List.append_cons done a rest))
      rw [hpaths] at hnext
      exact hnext
    · have hown : ∀ p ∈ hiddenPaths dir token done,
          p ∈ places dir [] ++ hiddenPaths dir token artifacts := by
        intro p hp
        rw [h, hiddenPaths, List.map_append]
        exact List.mem_append_right _ (List.mem_append_left _ hp)
      refine (careful_discard hown).bind fun _ phase hphase => .done (Or.inr ?_)
      exact ⟨a.name, e, rfl, hphase⟩

/-- Placing goes ahead through all artifacts, or it fails at one of them. -/
lemma careful_put (horderly : Orderly artifacts) {done rest : List Artifact}
    (h : artifacts = done ++ rest) :
    Careful dir token artifacts (Answered artifacts) (.ahead rest done)
      (put dir (places dir done) (rest.zip (hiddenPaths dir token rest))) := by
  induction rest generalizing done with
  | nil =>
    rw [List.append_nil] at h
    subst h
    exact .done .ok
  | cons a rest ih =>
    have hnodup := horderly.nodup
    rw [h, List.map_append, List.map_cons, List.nodup_append, List.nodup_cons] at hnodup
    have hrest : ∀ b ∈ rest, b.name ≠ a.name := by
      intro b hb heq
      exact hnodup.2.1.1 (heq ▸ List.mem_map_of_mem hb)
    refine .rename (h ▸ List.mem_append_cons_self) hrest ?_ fun e => ?_
    · have hpaths : places dir (done ++ [a]) = places dir done ++ [place dir a.name] := by
        simp [places]
      have hnext := ih (h.trans (List.append_cons done a rest))
      rw [hpaths] at hnext
      exact hnext
    · have hplaces : ∀ p ∈ places dir done,
          p ∈ places dir done ++ hiddenPaths dir token artifacts :=
        fun p hp => List.mem_append_left _ hp
      have hpaths : (rest.zip (hiddenPaths dir token rest)).map (·.2) = hiddenPaths dir token rest :=
        List.map_snd_zip (by simp [hiddenPaths])
      have hhidden : ∀ p ∈ hiddenPath dir token a.name ::
          (rest.zip (hiddenPaths dir token rest)).map (·.2),
          p ∈ places dir done ++ hiddenPaths dir token artifacts := by
        intro p hp
        rw [hpaths] at hp
        rw [h, hiddenPaths, List.map_append]
        exact List.mem_append_right _ (List.mem_append_right _ hp)
      refine (careful_discard hplaces).bind fun _ phase hphase => ?_
      subst hphase
      refine (careful_discard hhidden).bind fun _ phase hphase => ?_
      subst hphase
      exact .done (.placing h)

/-- An emission is careful. -/
theorem careful_writeAll (dir : Path) (token : String) (horderly : Orderly artifacts) :
    Careful dir token artifacts (Answered artifacts) (.ahead [] [])
      (writeAll dir token artifacts) := by
  refine .makeDir fun created => ?_
  cases created with
  | error e => exact .done (.early nofun rfl)
  | ok u =>
    refine (careful_stage horderly (List.nil_append artifacts).symm).bind ?_
    rintro answer phase (⟨rfl, rfl⟩ | ⟨n, cause, rfl, rfl⟩)
    · exact careful_put horderly (List.nil_append artifacts).symm
    · exact .done (.early nofun rfl)

/-- What one operation of a call comes to: the phase before and after it, what it adds to the log,
and the files before and after it.  A call that is done does nothing; an operation that fails, or
that makes a directory or looks for a file, says nothing about places and changes no file. -/
inductive Deed (dir : Path) (token : String) (artifacts : List Artifact) (i : ι) :
    Phase → Contents → List (ι × Event) → Phase → Contents → Prop where
  | idle {phase : Phase} {v : Contents} : Deed dir token artifacts i phase v [] phase v
  | quiet {phase phase' : Phase} {v : Contents} {event : Event}
      (hphase : phase' = phase ∨ phase' = .back phase.placed)
      (hevent : ∀ p (st : Standing ι), st.after p (i, event) = st) :
      Deed dir token artifacts i phase v [(i, event)] phase' v
  | write {staged : List Artifact} {a : Artifact} {v : Contents} (ha : a ∈ artifacts)
      (hnew : ∀ b ∈ staged, b.name ≠ a.name) :
      Deed dir token artifacts i (.ahead staged []) v
        [(i, ⟨.file (.write (hiddenPath dir token a.name) a.contents.toUTF8), .ok ()⟩)]
        (.ahead (staged ++ [a]) [])
        (Function.update v (hiddenPath dir token a.name).components (some a.contents.toUTF8))
  | rename {rest placed : List Artifact} {a : Artifact} {v : Contents} (ha : a ∈ artifacts)
      (hrest : ∀ b ∈ rest, b.name ≠ a.name) :
      Deed dir token artifacts i (.ahead (a :: rest) placed) v
        [(i, ⟨.file (.rename (hiddenPath dir token a.name) (place dir a.name)), .ok ()⟩)]
        (.ahead rest (placed ++ [a]))
        (Function.update (Function.update v (hiddenPath dir token a.name).components none)
          (place dir a.name).components (some a.contents.toUTF8))
  | remove {placed : List Artifact} {p : Path} {v : Contents}
      (hp : p ∈ places dir placed ++ hiddenPaths dir token artifacts) :
      Deed dir token artifacts i (.back placed) v [(i, ⟨.file (.remove p), .ok ()⟩)]
        (.back placed) (Function.update v p.components none)

/-- **One operation of a call.**  Whether it fails or not, a careful program does one of the deeds,
and what is left of it is careful. -/
theorem Careful.advance {Q : α → Phase → Prop} {phase : Phase} {p : Program α}
    (h : Careful dir token artifacts Q phase p) (faults : ℕ → Option FileError) (i : ι)
    (s : FileStore × ℕ)
    (hstaged : ∀ a ∈ phase.staged,
      s.1.view (hiddenPath dir token a.name).components = some a.contents.toUTF8) :
    let w := World.withFaults faults
    ∃ phase', Careful dir token artifacts Q phase' (w.advance (p, s)).1 ∧
      Deed dir token artifacts i phase s.1.view ((w.event? (p, s)).map (i, ·)).toList phase'
        (w.advance (p, s)).2.1.view := by
  intro w
  cases h with
  | done h => exact ⟨phase, .done h, .idle⟩
  | makeDir h =>
    refine ⟨phase, h _, ?_⟩
    have hview := World.view_withFaults_makeDir faults s dir
    rw [World.advance, hview]
    exact .quiet (Or.inl rfl) fun _ _ => rfl
  | @write staged a next ha hnew hok herror =>
    rcases World.withFaults_write faults s (hiddenPath dir token a.name) a.contents.toUTF8 with
      ⟨e, n, hanswer⟩ | ⟨n, hanswer⟩
    · refine ⟨.back [], ?_, ?_⟩
      · rw [World.advance, hanswer]
        exact herror e
      · rw [World.advance, World.event?, hanswer]
        exact .quiet (Or.inr rfl) fun _ _ => rfl
    · refine ⟨.ahead (staged ++ [a]) [], ?_, ?_⟩
      · rw [World.advance, hanswer]
        exact hok
      · rw [World.advance, World.event?, hanswer, FileStore.view_put]
        exact .write ha hnew
  | @rename rest placed a next ha hrest hok herror =>
    rcases World.withFaults_rename faults s (hiddenPath dir token a.name) (place dir a.name) with
      ⟨e, n, hanswer⟩ | ⟨b, n, hb, hanswer⟩
    · refine ⟨.back placed, ?_, ?_⟩
      · rw [World.advance, hanswer]
        exact herror e
      · rw [World.advance, World.event?, hanswer]
        exact .quiet (Or.inr rfl) fun _ _ => rfl
    · -- what is moved is what the call has staged
      have hb' : b = a.contents.toUTF8 :=
        Option.some.inj (hb.symm.trans (hstaged a List.mem_cons_self))
      subst hb'
      refine ⟨.ahead rest (placed ++ [a]), ?_, ?_⟩
      · rw [World.advance, hanswer]
        exact hok
      · rw [World.advance, World.event?, hanswer, FileStore.view_put, FileStore.view_erase]
        exact .rename ha hrest
  | @look placed p next h =>
    refine ⟨.back placed, h _, ?_⟩
    have hview := World.view_withFaults_exists faults s p
    rw [World.advance, hview]
    exact .quiet (Or.inl rfl) fun _ _ => rfl
  | @remove placed p next hp h =>
    refine ⟨.back placed, h _, ?_⟩
    rcases World.withFaults_remove faults s p with ⟨e, n, hanswer⟩ | ⟨n, hanswer⟩
    · rw [World.advance, World.event?, hanswer]
      exact .quiet (Or.inl rfl) fun _ _ => rfl
    · rw [World.advance, World.event?, hanswer, FileStore.view_erase]
      exact .remove hp

namespace Deed

variable {i : ι} {phase phase' : Phase} {v v' : Contents} {log : List (ι × Event)}

/-- What a call has placed it has placed for good, or until it takes it back. -/
lemma placed_subset (h : Deed dir token artifacts i phase v log phase' v') {a : Artifact}
    (ha : a ∈ phase.placed) : a ∈ phase'.placed := by
  cases h with
  | idle => exact ha
  | quiet hphase _ =>
    rcases hphase with rfl | rfl
    · exact ha
    · exact ha
  | write _ _ => exact ha
  | rename _ _ => exact List.mem_append_left _ ha
  | remove _ => exact ha

/-- A call that takes back what it has done goes on with that. -/
lemma back {placed : List Artifact} (h : Deed dir token artifacts i (.back placed) v log phase' v') :
    phase' = .back placed := by
  cases h with
  | idle => rfl
  | quiet hphase _ =>
    rcases hphase with rfl | rfl
    · rfl
    · rfl
  | remove _ => rfl

/-- A call touches its staging files and the places of what it has placed. -/
lemma eq_of_ne (h : Deed dir token artifacts i phase v log phase' v') {k : List Component}
    (hhidden : ∀ a ∈ artifacts, k ≠ (hiddenPath dir token a.name).components)
    (hplace : ∀ a ∈ phase'.placed, k ≠ (place dir a.name).components) : v' k = v k := by
  cases h with
  | idle => rfl
  | quiet _ _ => rfl
  | write ha _ => exact Function.update_of_ne (hhidden _ ha) _ _
  | @rename _ _ a _ ha _ =>
    have hnew := hplace a (List.mem_append_right _ List.mem_cons_self)
    rw [Function.update_of_ne hnew, Function.update_of_ne (hhidden a ha)]
  | @remove _ p _ hp =>
    have hne : k ≠ p.components := by
      rcases List.mem_append.1 hp with hp | hp
      · obtain ⟨a, ha, rfl⟩ := List.mem_map.1 hp
        exact hplace a ha
      · obtain ⟨a, ha, rfl⟩ := List.mem_map.1 hp
        exact hhidden a ha
    exact Function.update_of_ne hne _ _

/-- What is staged after an operation is in its staging file. -/
lemma staged (h : Deed dir token artifacts i phase v log phase' v') (ht : '/' ∉ token.toList)
    (horderly : Orderly artifacts)
    (hstaged : ∀ a ∈ phase.staged, a ∈ artifacts ∧
      v (hiddenPath dir token a.name).components = some a.contents.toUTF8) :
    ∀ a ∈ phase'.staged, a ∈ artifacts ∧
      v' (hiddenPath dir token a.name).components = some a.contents.toUTF8 := by
  have hne : ∀ b ∈ artifacts, ∀ a ∈ artifacts, b.name ≠ a.name →
      (hiddenPath dir token b.name).components ≠ (hiddenPath dir token a.name).components := by
    intro b hb a ha hname heq
    rw [components_hiddenPath ht (horderly.isName b hb).slash,
      components_hiddenPath ht (horderly.isName a ha).slash] at heq
    exact hname (hiddenName_injective (Path.name_inj heq))
  intro b hb
  cases h with
  | idle => exact hstaged b hb
  | quiet hphase _ =>
    rcases hphase with rfl | rfl
    · exact hstaged b hb
    · exact absurd hb List.not_mem_nil
  | @write _ a _ ha hnew =>
    rcases List.mem_append.1 hb with hb | hb
    · obtain ⟨hmem, hheld⟩ := hstaged b hb
      refine ⟨hmem, ?_⟩
      rw [Function.update_of_ne (hne b hmem a ha (hnew b hb))]
      exact hheld
    · rw [List.mem_singleton.1 hb]
      exact ⟨ha, Function.update_self ..⟩
  | @rename _ _ a _ ha hrest =>
    obtain ⟨hmem, hheld⟩ := hstaged b (List.mem_cons_of_mem a hb)
    have hplace : (hiddenPath dir token b.name).components ≠ (place dir a.name).components :=
      ne_of_mem_of_not_mem (List.mem_map_of_mem (hiddenPath_mem hmem))
        (place_not_mem_hiddenPaths dir ht horderly.isName (horderly.isName a ha)
          (horderly.visible a ha))
    refine ⟨hmem, ?_⟩
    rw [Function.update_of_ne hplace, Function.update_of_ne (hne b hmem a ha (hrest b hb))]
    exact hheld
  | remove _ => exact absurd hb List.not_mem_nil

/-- What an operation makes of a place, in the log and in the files: nothing; or it puts an artifact
there; or it removes what is there, as the call takes back what it had placed. -/
lemma at_place (h : Deed dir token artifacts i phase v log phase' v') (ht : '/' ∉ token.toList)
    (horderly : Orderly artifacts) (hplaced : ∀ a ∈ phase.placed, a ∈ artifacts) {n : String}
    (hn : Path.IsName n) (hvisible : n.toList.head? ≠ some '.') (st : Standing ι) :
    (log.foldl (Standing.after (place dir n)) st = st ∧
      v' (place dir n).components = v (place dir n).components) ∨
    (log.foldl (Standing.after (place dir n)) st = .placed i ∧
      ∃ a ∈ phase'.placed, a.name = n ∧
        v' (place dir n).components = some a.contents.toUTF8) ∨
    (log.foldl (Standing.after (place dir n)) st = .removed ∧
      v' (place dir n).components = none ∧ ∃ done, phase' = .back done ∧ ∃ a ∈ done, a.name = n) := by
  have hhidden : ∀ a ∈ artifacts,
      (place dir n).components ≠ (hiddenPath dir token a.name).components := by
    intro a ha
    exact (ne_of_mem_of_not_mem (List.mem_map_of_mem (hiddenPath_mem ha))
      (place_not_mem_hiddenPaths dir ht horderly.isName hn hvisible)).symm
  have hplace : ∀ a ∈ artifacts, a.name ≠ n →
      (place dir n).components ≠ (place dir a.name).components := by
    intro a ha hname heq
    rw [components_place hn, components_place (horderly.isName a ha)] at heq
    exact hname (Path.name_inj heq).symm
  have hsame : ∀ p : Path, (place dir n).components ≠ p.components →
      p.same (place dir n) = false := by
    intro p hp
    rw [← Bool.not_eq_true, Path.same_iff]
    exact hp.symm
  cases h with
  | idle => exact Or.inl ⟨rfl, rfl⟩
  | quiet _ hevent => exact Or.inl ⟨hevent _ st, rfl⟩
  | @write _ a _ ha _ => exact Or.inl ⟨rfl, Function.update_of_ne (hhidden a ha) _ _⟩
  | @rename _ placed a _ ha _ =>
    by_cases hname : a.name = n
    · subst hname
      have hafter : Standing.after (place dir a.name) st
          (i, ⟨.file (.rename (hiddenPath dir token a.name) (place dir a.name)), .ok ()⟩) =
            .placed i := by
        simp [Standing.after]
      refine Or.inr (Or.inl ⟨hafter, a, ?_, rfl, Function.update_self ..⟩)
      exact List.mem_append_right _ List.mem_cons_self
    · have hafter : Standing.after (place dir n) st
          (i, ⟨.file (.rename (hiddenPath dir token a.name) (place dir a.name)), .ok ()⟩) = st := by
        simp [Standing.after, hsame _ (hplace a ha hname)]
      refine Or.inl ⟨hafter, ?_⟩
      rw [Function.update_of_ne (hplace a ha hname), Function.update_of_ne (hhidden a ha)]
  | @remove placed p _ hp =>
    by_cases heq : (place dir n).components = p.components
    · -- what is removed from a place is in the place of an artifact that the call has placed
      have hafter : Standing.after (place dir n) st (i, ⟨.file (.remove p), .ok ()⟩) =
          .removed := by
        simp [Standing.after, Path.same_iff.2 heq.symm]
      have hnone : Function.update v p.components none (place dir n).components = none := by
        rw [heq]
        exact Function.update_self ..
      refine Or.inr (Or.inr ⟨hafter, hnone, placed, rfl, ?_⟩)
      rcases List.mem_append.1 hp with hp | hp
      · obtain ⟨a, ha, rfl⟩ := List.mem_map.1 hp
        refine ⟨a, ha, ?_⟩
        by_contra hname
        exact hplace a (hplaced a ha) hname heq
      · obtain ⟨a, ha, rfl⟩ := List.mem_map.1 hp
        exact absurd heq (hhidden a ha)
    · have hafter : Standing.after (place dir n) st (i, ⟨.file (.remove p), .ok ()⟩) = st := by
        simp [Standing.after, hsame p heq]
      exact Or.inl ⟨hafter, Function.update_of_ne heq _ _⟩

/-- What a call has placed by an operation was its own, and the log says that it was placed. -/
lemma mem_placed (h : Deed dir token artifacts i phase v log phase' v') {a : Artifact}
    (ha : a ∈ phase'.placed) :
    a ∈ phase.placed ∨ (a ∈ artifacts ∧
      ∀ st : Standing ι, log.foldl (Standing.after (place dir a.name)) st = .placed i) := by
  cases h with
  | idle => exact Or.inl ha
  | quiet hphase _ =>
    rcases hphase with rfl | rfl
    · exact Or.inl ha
    · exact Or.inl ha
  | write _ _ => exact Or.inl ha
  | @rename _ _ b _ hb _ =>
    rcases List.mem_append.1 ha with ha | ha
    · exact Or.inl ha
    · rw [List.mem_singleton.1 ha]
      refine Or.inr ⟨hb, fun st => ?_⟩
      simp [Standing.after]
  | remove _ => exact Or.inl ha

end Deed

end OneCall

end JobGraph.Emission
