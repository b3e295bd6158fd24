import JobGraph.Proofs.Emission.Careful
import JobGraph.Proofs.Emission.Concurrency

/-!
# Emissions that meet

Several calls emit into one directory, one operation at a time in any order, and any of their
operations may fail.  The places are shared: a renaming replaces what stands there.  The log of the
run tells which call renamed last (`Emission.standing`), and what every operation of every call
keeps is that the places are as the log says (`Emission.Calls.Tracked`).

The main result is `Emission.Calls.last_renamed`.  As long as no call takes back artifacts that it
had placed, every place holds what the call that renamed last has for it, and that call has
succeeded.  Nothing keeps calls from renaming in turns, so the artifacts need not be of one call.
-/

namespace JobGraph.Emission.Calls

open FileStore (Contents)

variable {ι : Type} (cs : Calls ι)

/-- All calls are careful in the phases that they have reached; what they have staged is in their
staging files; and the places are as the log says. -/
structure Tracked (phase : ι → Phase) (log : List (ι × Event))
    (programs : ι → Program (Except Failure Unit)) (v : Contents) : Prop where
  careful : ∀ i, Careful cs.dir (cs.token i) (cs.artifacts i) (Answered (cs.artifacts i)) (phase i)
    (programs i)
  staged : ∀ i, ∀ a ∈ (phase i).staged, a ∈ cs.artifacts i ∧
    v (cs.stagingFile i a).components = some a.contents.toUTF8
  placed : ∀ i, ∀ a ∈ (phase i).placed, a ∈ cs.artifacts i ∧
    standing (place cs.dir a.name) log ≠ .untouched
  removed : ∀ n, Path.IsName n → n.toList.head? ≠ some '.' →
    standing (place cs.dir n) log = .removed →
    v (place cs.dir n).components = none ∧ ∃ i done, phase i = .back done ∧ ∃ a ∈ done, a.name = n
  stands : ∀ n, Path.IsName n → n.toList.head? ≠ some '.' → ∀ i,
    standing (place cs.dir n) log = .placed i →
    ∃ a ∈ (phase i).placed, a.name = n ∧ v (place cs.dir n).components = some a.contents.toUTF8

variable {cs} {i : ι} {phase : ι → Phase} {phase' : Phase} {log log' : List (ι × Event)}
  {programs : ι → Program (Except Failure Unit)} {v v' : Contents}

/-- **One operation of one of the calls.**  It leaves all calls tracked. -/
lemma Tracked.deed [DecidableEq ι] (h : cs.Tracked phase log programs v)
    {p : Program (Except Failure Unit)}
    (hp : Careful cs.dir (cs.token i) (cs.artifacts i) (Answered (cs.artifacts i)) phase' p)
    (hdeed : Deed cs.dir (cs.token i) (cs.artifacts i) i (phase i) v log' phase' v') :
    cs.Tracked (Function.update phase i phase') (log ++ log') (Function.update programs i p) v' := by
  have ht : ∀ j, '/' ∉ (cs.token j).toList := fun j => slash_not_mem_token _ _
  have hown : ∀ a ∈ phase'.placed, a ∈ cs.artifacts i := by
    intro a ha
    rcases hdeed.mem_placed ha with ha | ⟨ha, -⟩
    · exact (h.placed i a ha).1
    · exact ha
  -- what a call has placed stays placed, whichever call it is
  have hkept : ∀ j, ∀ a ∈ (phase j).placed, a ∈ (Function.update phase i phase' j).placed := by
    intro j a ha
    by_cases hj : j = i
    · subst hj
      rw [Function.update_self]
      exact hdeed.placed_subset ha
    · rw [Function.update_of_ne hj]
      exact ha
  refine ⟨fun j => ?_, fun j => ?_, fun j a ha => ?_, ?_, ?_⟩
  · by_cases hj : j = i
    · subst hj
      rw [Function.update_self, Function.update_self]
      exact hp
    · rw [Function.update_of_ne hj, Function.update_of_ne hj]
      exact h.careful j
  · by_cases hj : j = i
    · subst hj
      rw [Function.update_self]
      exact hdeed.staged (ht j) (cs.orderly j) (h.staged j)
    · rw [Function.update_of_ne hj]
      intro a ha
      obtain ⟨hmem, hheld⟩ := h.staged j a ha
      refine ⟨hmem, (hdeed.eq_of_ne (fun b hb heq => ?_) fun b hb heq => ?_).trans hheld⟩
      · have hnames := Path.name_inj
          ((components_stagingFile hmem).symm.trans (heq.trans (components_stagingFile hb)))
        exact hj (cs.apart (hiddenName_token_inj hnames).1)
      · rw [components_stagingFile hmem,
          components_place ((cs.orderly i).isName b (hown b hb))] at heq
        exact hiddenName_ne ((cs.orderly i).visible b (hown b hb)) (Path.name_inj heq)
  · by_cases hj : j = i
    · subst hj
      rw [Function.update_self] at ha
      refine ⟨hown a ha, ?_⟩
      rcases hdeed.mem_placed ha with ha | ⟨-, hafter⟩
      · exact standing_append_ne _ (h.placed j a ha).2
      · rw [standing_append, hafter]
        simp
    · rw [Function.update_of_ne hj] at ha
      exact ⟨(h.placed j a ha).1, standing_append_ne _ (h.placed j a ha).2⟩
  · intro n hn hvisible hremoved
    rw [standing_append] at hremoved
    rcases hdeed.at_place (ht i) (cs.orderly i) (fun a ha => (h.placed i a ha).1) hn hvisible
      (standing (place cs.dir n) log) with ⟨hst, hsame⟩ | ⟨hst, -⟩ | ⟨-, hnone, done, hback, ha⟩
    · rw [hst] at hremoved
      obtain ⟨hnone, j, done, hback, ha⟩ := h.removed n hn hvisible hremoved
      refine ⟨hsame.trans hnone, j, done, ?_, ha⟩
      by_cases hj : j = i
      · subst hj
        rw [Function.update_self]
        rw [hback] at hdeed
        exact hdeed.back
      · rw [Function.update_of_ne hj]
        exact hback
    · rw [hst] at hremoved
      cases hremoved
    · exact ⟨hnone, i, done, by rw [Function.update_self, hback], ha⟩
  · intro n hn hvisible j hplaced
    rw [standing_append] at hplaced
    rcases hdeed.at_place (ht i) (cs.orderly i) (fun a ha => (h.placed i a ha).1) hn hvisible
      (standing (place cs.dir n) log) with ⟨hst, hsame⟩ | ⟨hst, a, ha, hname, hheld⟩ | ⟨hst, -⟩
    · rw [hst] at hplaced
      obtain ⟨a, ha, hname, hheld⟩ := h.stands n hn hvisible j hplaced
      exact ⟨a, hkept j a ha, hname, hsame.trans hheld⟩
    · rw [hst] at hplaced
      cases hplaced
      rw [Function.update_self]
      exact ⟨a, ha, hname, hheld⟩
    · rw [hst] at hplaced
      cases hplaced

/-- After every schedule, whatever fails, all calls are tracked. -/
theorem tracked_interleaved [DecidableEq ι] (cs : Calls ι) (faults : ℕ → Option FileError)
    (s : FileStore × ℕ) (schedule : List ι) :
    let w := World.withFaults faults
    let now := w.interleaved schedule cs.program s
    ∃ phase, cs.Tracked phase (w.log schedule (cs.program, s)) now.1 now.2.1.view := by
  intro w
  induction schedule using List.reverseRecOn with
  | nil =>
    refine ⟨fun _ => .ahead [] [], fun i => ?_, nofun, nofun, nofun, nofun⟩
    exact careful_writeAll cs.dir (cs.token i) (cs.orderly i)
  | append_singleton schedule i ih =>
    obtain ⟨phase, htracked⟩ := ih
    obtain ⟨phase', hcareful, hdeed⟩ := (htracked.careful i).advance faults i
      (w.interleaved schedule cs.program s).2 fun a ha => (htracked.staged i a ha).2
    rw [World.interleaved_append_singleton, World.log_append_singleton]
    exact ⟨Function.update phase i phase', htracked.deed hcareful hdeed⟩

/-! ### What the places hold in the end -/

variable (cs)

/-- The artifacts of a call are in their places. -/
def Holds (files : FileStore) (i : ι) : Prop :=
  ∀ a ∈ cs.artifacts i, files.contents? (place cs.dir a.name) = some a.contents.toUTF8

/-- A call has failed in placing an artifact other than its first, and so it has taken back what it
had placed. -/
def FailsLate (i : ι) (answer : Except Failure Unit) : Prop :=
  ∃ n cause, answer = .error (.placing n cause) ∧ ((cs.artifacts i).map (·.name)).head? ≠ some n

variable {cs} {answer : Except Failure Unit}

/-- A call that has succeeded has placed all of its artifacts. -/
lemma Tracked.placed_of_ok (h : cs.Tracked phase log programs v) (hi : programs i = .done (.ok ())) :
    ∃ staged, phase i = .ahead staged (cs.artifacts i) := by
  have hcareful := h.careful i
  rw [hi] at hcareful
  generalize phase i = reached at hcareful ⊢
  cases hcareful with
  | done hanswered =>
    cases hanswered
    exact ⟨[], rfl⟩

/-- A call that has not succeeded and has not failed late has placed nothing. -/
lemma Tracked.placed_of_error (h : cs.Tracked phase log programs v)
    (hi : programs i = .done answer) (hlate : ¬ cs.FailsLate i answer) (hne : answer ≠ .ok ()) :
    (phase i).placed = [] := by
  have hcareful := h.careful i
  rw [hi] at hcareful
  generalize phase i = reached at hcareful ⊢
  cases hcareful with
  | done hanswered =>
    cases hanswered with
    | ok => exact absurd rfl hne
    | early _ hphase => exact hphase
    | @placing done rest a cause hsplit =>
      -- the artifact that could not be placed is the first, so there is none before it
      have hfirst : ((cs.artifacts i).map (·.name)).head? = some a.name := by
        by_contra hhead
        exact hlate ⟨a.name, cause, rfl, hhead⟩
      cases done with
      | nil => rfl
      | cons b done =>
        have hnodup := (cs.orderly i).nodup
        have hname : b.name = a.name := by
          rw [hsplit] at hfirst
          simpa using hfirst
        rw [hsplit, List.cons_append, List.map_cons, List.nodup_cons, hname] at hnodup
        exact absurd (by simp) hnodup.1

/-- What was done last to the place of an artifact of a call that has succeeded is a renaming or a
removal. -/
lemma Tracked.standing_cases (h : cs.Tracked phase log programs v)
    (hi : programs i = .done (.ok ())) {a : Artifact} (ha : a ∈ cs.artifacts i) :
    (∃ j, standing (place cs.dir a.name) log = .placed j) ∨
    standing (place cs.dir a.name) log = .removed := by
  obtain ⟨staged, hphase⟩ := h.placed_of_ok hi
  have htouched := (h.placed i a (hphase ▸ ha)).2
  cases hst : standing (place cs.dir a.name) log with
  | untouched => exact absurd hst htouched
  | removed => exact Or.inr rfl
  | placed j => exact Or.inl ⟨j, rfl⟩

/-- **What the places hold.**  Let any number of calls emit into one directory, one operation of one
call at a time, in any order, and let any of the operations fail; and let all calls have been
answered, one of them with success.  A place holds in one piece what the call that renamed last has
for it.  All artifacts of one successful call are there if and only if, for one such call, the last
renaming of each of its places was its own or that of a call with the same artifact, and no removal
came after it.  If no call has failed late, every place of an artifact was renamed last by a call
that has succeeded. -/
theorem last_renamed [DecidableEq ι] (cs : Calls ι) (faults : ℕ → Option FileError) (s : FileStore)
    (schedule : List ι) :
    let w := World.withFaults faults
    let now := w.interleaved schedule cs.program (s, 0)
    let log := w.log schedule (cs.program, (s, 0))
    (∀ i, ∃ answer, now.1 i = .done answer) → ∀ i, now.1 i = .done (.ok ()) →
    (∀ a ∈ cs.artifacts i, ∀ j, standing (place cs.dir a.name) log = .placed j →
      ∃ b ∈ cs.artifacts j, b.name = a.name ∧
        now.2.1.contents? (place cs.dir a.name) = some b.contents.toUTF8) ∧
    ((∃ j, now.1 j = .done (.ok ()) ∧ cs.Holds now.2.1 j) ↔
      ∃ j, now.1 j = .done (.ok ()) ∧ ∀ a ∈ cs.artifacts j, ∃ k,
        standing (place cs.dir a.name) log = .placed k ∧ a ∈ cs.artifacts k) ∧
    ((∀ j answer, now.1 j = .done answer → ¬ cs.FailsLate j answer) →
      ∀ a ∈ cs.artifacts i, ∃ j, now.1 j = .done (.ok ()) ∧
        standing (place cs.dir a.name) log = .placed j) := by
  intro w now log hdone i hi
  obtain ⟨phase, htracked⟩ := tracked_interleaved cs faults (s, 0) schedule
  have hname : ∀ j, ∀ a ∈ cs.artifacts j, Path.IsName a.name := fun j => (cs.orderly j).isName
  have hvisible : ∀ j, ∀ a ∈ cs.artifacts j, a.name.toList.head? ≠ some '.' :=
    fun j => (cs.orderly j).visible
  have hheld : ∀ j, ∀ a ∈ cs.artifacts j, ∀ k, standing (place cs.dir a.name) log = .placed k →
      ∃ b ∈ cs.artifacts k, b.name = a.name ∧
        now.2.1.contents? (place cs.dir a.name) = some b.contents.toUTF8 := by
    intro j a ha k hst
    obtain ⟨b, hb, hbname, hcontents⟩ := htracked.stands _ (hname j a ha) (hvisible j a ha) k hst
    exact ⟨b, (htracked.placed k b hb).1, hbname, hcontents⟩
  refine ⟨hheld i, ⟨?_, ?_⟩, fun hlate a ha => ?_⟩
  · rintro ⟨j, hj, hholds⟩
    refine ⟨j, hj, fun a ha => ?_⟩
    rcases htracked.standing_cases hj ha with ⟨k, hst⟩ | hst
    · obtain ⟨b, hb, hbname, hcontents⟩ := hheld j a ha k hst
      -- the two artifacts have the same name and the same contents
      have htext : b.contents = a.contents := by
        have hbytes := hcontents.symm.trans (hholds a ha)
        exact String.toByteArray_inj.1 (Option.some.inj hbytes)
      have heq : b = a := by
        cases a
        cases b
        simp_all
      exact ⟨k, hst, heq ▸ hb⟩
    · have hnone := (htracked.removed _ (hname j a ha) (hvisible j a ha) hst).1
      have hsome := hholds a ha
      rw [← FileStore.view_components] at hsome
      exact absurd (hnone.symm.trans hsome) (by simp)
  · rintro ⟨j, hj, hlast⟩
    refine ⟨j, hj, fun a ha => ?_⟩
    obtain ⟨k, hst, hk⟩ := hlast a ha
    obtain ⟨b, hb, hbname, hcontents⟩ := hheld j a ha k hst
    have heq : b = a := List.inj_on_of_nodup_map (cs.orderly k).nodup hb hk hbname
    rw [heq] at hcontents
    exact hcontents
  · have hearly : ∀ j, (phase j).placed ≠ [] → now.1 j = .done (.ok ()) := by
      intro j hplaced
      obtain ⟨answer, hanswer⟩ := hdone j
      by_cases hok : answer = .ok ()
      · rw [hanswer, hok]
      · exact absurd (htracked.placed_of_error hanswer (hlate j answer hanswer) hok) hplaced
    rcases htracked.standing_cases hi ha with ⟨j, hst⟩ | hst
    · obtain ⟨b, hb, -, -⟩ := htracked.stands _ (hname i a ha) (hvisible i a ha) j hst
      exact ⟨j, hearly j (List.ne_nil_of_mem hb), hst⟩
    · -- a call that has removed a file from a place has failed late
      obtain ⟨-, j, done, hback, b, hb, -⟩ :=
        htracked.removed _ (hname i a ha) (hvisible i a ha) hst
      have hok := hearly j (by rw [hback]; exact List.ne_nil_of_mem hb)
      obtain ⟨staged, hphase⟩ := htracked.placed_of_ok hok
      rw [hback] at hphase
      cases hphase

/-- Two calls of one process that emit artifacts of the same three names with different contents. -/
def rivals : Calls Bool where
  dir := ⟨"/task"⟩
  process := fun _ => 1
  call := Bool.toNat
  artifacts := fun i =>
    [Artifact.graphFile, Artifact.submitFile, Artifact.siteFile].map fun n => ⟨n, toString i.toNat⟩
  orderly := by
    intro i
    have hisName : ∀ n ∈ [Artifact.graphFile, Artifact.submitFile, Artifact.siteFile],
        Path.IsName n := by
      intro n hn
      simp only [List.mem_cons, List.not_mem_nil, or_false] at hn
      rcases hn with rfl | rfl | rfl
      all_goals exact ⟨by decide, by decide, by decide, by decide⟩
    have hvisible : ∀ n ∈ [Artifact.graphFile, Artifact.submitFile, Artifact.siteFile],
        n.toList.head? ≠ some '.' := by
      decide
    have hnodup : [Artifact.graphFile, Artifact.submitFile, Artifact.siteFile].Nodup := by decide
    exact ⟨List.forall_mem_map.2 hisName, List.forall_mem_map.2 hvisible, hnodup⟩
  apart := by
    have hcall : ∀ i j : Bool, i.toNat = j.toNat → i = j := by decide
    exact fun i j h => hcall i j (congrArg Prod.snd h)

/-- The state after a schedule of the two calls, from a store without files. -/
def meeting (faults : ℕ → Option FileError) (schedule : List Bool) :
    (Bool → Program (Except Failure Unit)) × (FileStore × ℕ) :=
  (World.withFaults faults).interleaved schedule rivals.program (.empty, 0)

/-- A schedule of two calls in which the second one places all of its artifacts when the first one
has placed one of them. -/
def crossing : List Bool :=
  List.replicate 5 false ++ List.replicate 7 true ++ List.replicate 2 false

/-- A schedule of two calls, one after the other. -/
def succession : List Bool :=
  List.replicate 7 false ++ List.replicate 12 true

/-- The error of an operation that is made to fail. -/
def injected : FileError := .writeRefused rivals.dir

/-- The operation of one number fails, and all others are as the store has them. -/
def failing (n : ℕ) : ℕ → Option FileError :=
  fun m => if m = n then some injected else none

/-- The second of two calls fails in staging its second artifact, and the artifacts of the first one
stay in their places. -/
theorem last_renamed_rivals :
    (meeting (failing 9) succession).1 false = .done (.ok ()) ∧
    (meeting (failing 9) succession).1 true = .done (.error (.staging Artifact.submitFile injected)) ∧
    rivals.Holds (meeting (failing 9) succession).2.1 false := by
  have hresults : ((meeting (failing 9) succession).1 false).result? = some (.ok ()) ∧
      ((meeting (failing 9) succession).1 true).result? =
        some (.error (.staging Artifact.submitFile injected)) := by
    decide +kernel
  have hfirst := Program.result?_eq_some.1 hresults.1
  have hsecond := Program.result?_eq_some.1 hresults.2
  have hdone : ∀ i, ∃ answer, (meeting (failing 9) succession).1 i = .done answer :=
    Bool.forall_bool.2 ⟨⟨_, hfirst⟩, ⟨_, hsecond⟩⟩
  obtain ⟨hheld, -, hlast⟩ := last_renamed rivals (failing 9) .empty succession hdone false hfirst
  have hlate : ∀ i answer, (meeting (failing 9) succession).1 i = .done answer →
      ¬ rivals.FailsLate i answer := by
    rintro i answer hanswer ⟨n, cause, rfl, -⟩
    cases i with
    | false => exact absurd (hanswer.symm.trans hfirst) (by simp)
    | true => exact absurd (hanswer.symm.trans hsecond) (by simp)
  refine ⟨hfirst, hsecond, fun a ha => ?_⟩
  obtain ⟨j, hj, hst⟩ := hlast hlate a ha
  -- the call that has succeeded is the first one
  have hj' : j = false := by
    cases j with
    | false => rfl
    | true => exact absurd (hj.symm.trans hsecond) (by simp)
  subst hj'
  obtain ⟨b, hb, hname, hcontents⟩ := hheld a ha false hst
  have heq : b = a := List.inj_on_of_nodup_map (rivals.orderly false).nodup hb ha hname
  rw [heq] at hcontents
  exact hcontents

/-- Calls that meet do not always leave the artifacts of one of them.  If they rename in turns and
nothing fails, the graph is that of the one and the rest is that of the other; and if the second of
two calls, one after the other, fails in placing its second artifact, the graph is missing. -/
theorem not_holds_rivals :
    (¬ ∀ schedule, (∀ i, ∃ answer, (meeting (fun _ => none) schedule).1 i = .done answer) →
      ∀ i, (meeting (fun _ => none) schedule).1 i = .done (.ok ()) →
        ∃ j, (meeting (fun _ => none) schedule).1 j = .done (.ok ()) ∧
          rivals.Holds (meeting (fun _ => none) schedule).2.1 j) ∧
    ¬ ∀ faults, (∀ i, ∃ answer, (meeting faults succession).1 i = .done answer) →
      ∀ i, (meeting faults succession).1 i = .done (.ok ()) →
        ∃ j, (meeting faults succession).1 j = .done (.ok ()) ∧
          rivals.Holds (meeting faults succession).2.1 j := by
  have hgraph : ∀ i, ⟨Artifact.graphFile, toString i.toNat⟩ ∈ rivals.artifacts i :=
    fun i => List.mem_cons_self
  have hsubmit : ∀ i, ⟨Artifact.submitFile, toString i.toNat⟩ ∈ rivals.artifacts i :=
    fun i => List.mem_cons_of_mem _ List.mem_cons_self
  constructor
  · intro h
    obtain ⟨hresults, hgraph', hsubmit'⟩ :
        (∀ i, ((meeting (fun _ => none) crossing).1 i).result? = some (.ok ())) ∧
        (meeting (fun _ => none) crossing).2.1.contents? (place rivals.dir Artifact.graphFile) =
          some "1".toUTF8 ∧
        (meeting (fun _ => none) crossing).2.1.contents? (place rivals.dir Artifact.submitFile) =
          some "0".toUTF8 := by
      decide +kernel
    have hok := fun i => Program.result?_eq_some.1 (hresults i)
    obtain ⟨j, -, hj⟩ := h crossing (fun i => ⟨_, hok i⟩) false (hok false)
    cases j with
    | false =>
      have hheld := hj _ (hgraph false)
      rw [hgraph'] at hheld
      exact absurd hheld (by decide +kernel)
    | true =>
      have hheld := hj _ (hsubmit true)
      rw [hsubmit'] at hheld
      exact absurd hheld (by decide +kernel)
  · intro h
    obtain ⟨hfirst, hsecond, hmissing⟩ :
        ((meeting (failing 12) succession).1 false).result? = some (.ok ()) ∧
        ((meeting (failing 12) succession).1 true).result? =
          some (.error (.placing Artifact.submitFile injected)) ∧
        (meeting (failing 12) succession).2.1.contents? (place rivals.dir Artifact.graphFile) =
          none := by
      decide +kernel
    rw [Program.result?_eq_some] at hfirst hsecond
    obtain ⟨j, -, hj⟩ := h (failing 12)
      (Bool.forall_bool.2 ⟨⟨_, hfirst⟩, ⟨_, hsecond⟩⟩) false hfirst
    have hheld := hj _ (hgraph j)
    rw [hmissing] at hheld
    cases hheld

end JobGraph.Emission.Calls
