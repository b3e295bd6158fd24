import JobGraph.Proofs.Task.Checks
import JobGraph.Proofs.Text.Words

/-!
# Settings of a task are read back

The algorithm of a split and the order of stage-out are written as words, and the words are read as
what they were written for.  The order of stage-out has at least one step, and the number of units
that go into one job fits 64 bits; both hold for every task that has been read, as neither is read
otherwise.

The main results are `Stageout.parse_text` and `Task.settled_of_ofRecord`.
-/

namespace JobGraph

/-- The name of an algorithm is read as the algorithm. -/
lemma SplitMode.parse_text (mode : SplitMode) : SplitMode.parse mode.text = .ok mode := by
  have htrim : Text.trim mode.text = mode.text := by
    cases mode with
    | byFile => decide +kernel
    | byEvent => decide +kernel
    | byLumi => decide +kernel
  rw [SplitMode.parse, htrim]
  cases mode with
  | byFile => rfl
  | byEvent => rfl
  | byLumi => rfl

namespace Stageout

/-! ### The order of stage-out -/

/-- The word for a step is one part of a list of them, and it is read as the step. -/
lemma Step.text_spec (step : Step) :
    Text.split ',' step.text = [step.text] ∧ Text.isBlank step.text = false ∧
      Step.parse step.text = .ok step := by
  cases step with
  | nearby => exact ⟨Text.split_eq_singleton (by decide), by decide +kernel, by rfl⟩
  | remote => exact ⟨Text.split_eq_singleton (by decide), by decide +kernel, by rfl⟩

/-- **Stage-out is read back.**  The text of an order with at least one step is read as the
order. -/
theorem parse_text {p : Stageout} (h : p.steps ≠ []) : parse p.text = .ok p := by
  have hparts : (Text.split ',' p.text).filter (fun part => !Text.isBlank part) =
      p.steps.map Step.text := by
    have hsplit : Text.split ',' p.text = p.steps.map Step.text := by
      rw [text, Text.split_intercalate rfl (by simpa using h), List.flatMap_map,
        List.flatMap_congr fun step _ => (Step.text_spec step).1]
      exact List.flatMap_pure_eq_map _ _
    rw [hsplit, List.filter_eq_self, List.forall_mem_map]
    intro step _
    simp [(Step.text_spec step).2.1]
  have hsteps : (p.steps.map Step.text).mapM Step.parse = .ok p.steps := by
    rw [mapM_eq_ok, List.forall₂_map_left_iff, List.forall₂_same]
    exact fun step _ => (Step.text_spec step).2.2
  rw [parse, hparts, hsteps]
  simpa [bind, Except.bind, pure, Except.pure] using h

/-- An order that is read has a step. -/
lemma steps_ne_nil_of_parse {s : String} {p : Stageout} (h : parse s = .ok p) : p.steps ≠ [] := by
  rw [parse, bind_eq_ok] at h
  obtain ⟨steps, -, h⟩ := h
  split at h
  · exact absurd h throw_ne_ok
  · next hsteps =>
    cases pure_eq_ok.1 h
    simpa using hsteps

lemma exists_parse_of_ofDocument? {d : Document} {p : Stageout} (h : ofDocument? d = some p) :
    ∃ s, parse s = .ok p := by
  have hparse : ∀ {s : String}, (parse s).toOption = some p → parse s = .ok p := by
    intro s hs
    cases hp : parse s with
    | ok q =>
      rw [hp] at hs
      exact congrArg Except.ok (Option.some.inj hs)
    | error e =>
      rw [hp] at hs
      cases hs
  unfold ofDocument? at h
  split at h
  · exact ⟨_, hparse h⟩
  · obtain ⟨parts, -, hp⟩ := Option.bind_eq_some_iff.1 h
    exact ⟨_, hparse hp⟩
  · cases h

end Stageout

/-! ### Settings that have been read -/

lemma Document.lt_of_nat? {bits n : ℕ} {d : Document} (h : d.nat? bits = some n) :
    n < Nat.pow 2 bits := by
  unfold Document.nat? at h
  split at h
  · split at h
    · next hn =>
      cases h
      exact hn.2
    · cases h
  · cases h

/-- A number that fits is read as it is. -/
lemma Document.nat?_natCast {bits n : ℕ} (h : n < Nat.pow 2 bits) :
    (Document.int n).nat? bits = some n := by
  rw [Document.nat?, if_pos ⟨by omega, by simpa using h⟩]
  rfl

/-- The field of a record holds the standard value or one that was read. -/
lemma Document.of_default? {α : Type} {read : Document → Option α} {value x : α}
    {field : Option Document} (h : Document.default? value read field = some x) :
    x = value ∨ ∃ d, read d = some x := by
  cases field with
  | none => exact Or.inl (Option.some.inj h).symm
  | some d => exact Or.inr ⟨d, h⟩

/-- Every member of a list that was read was read itself. -/
lemma Document.exists_of_mem_list? {α : Type} {read : Document → Option α} {d : Document}
    {xs : List α} (h : d.list? read = some xs) {x : α} (hx : x ∈ xs) : ∃ d, read d = some x := by
  unfold Document.list? at h
  split at h
  · obtain ⟨document, -, hread⟩ := exists_of_mem_mapM_option h hx
    exact ⟨document, hread⟩
  · cases h

namespace TaskOptions

/-- Options that are read have an order of stage-out with a step. -/
lemma stageout_ne_nil_of_ofDocument? {d : Document} {options : TaskOptions}
    (h : ofDocument? d = some options) : options.stageout.steps ≠ [] := by
  rw [ofDocument?] at h
  obtain ⟨fields, -, h⟩ := Option.bind_eq_some_iff.1 h
  split at h
  · simp only [Option.bind_eq_bind, Option.bind_eq_some_iff] at h
    obtain ⟨_, -, _, -, _, -, _, -, _, -, _, -, _, -, stageout, hstageout, h⟩ := h
    cases h
    rcases Document.of_default? hstageout with rfl | ⟨d, hd⟩
    · exact List.cons_ne_nil _ _
    · obtain ⟨s, hs⟩ := Stageout.exists_parse_of_ofDocument? hd
      exact Stageout.steps_ne_nil_of_parse hs
  · cases h

end TaskOptions

namespace Task

variable {r : TaskRecord}

/-- What is decoded is read from a document. -/
lemma exists_of_decoded {α : Type} {read : Document → Option α} {field : String} {x : α}
    (h : r.decoded read field = .ok (some x)) : ∃ d, read d = some x := by
  rw [TaskRecord.decoded] at h
  split at h
  · cases h
  · cases h
  · split at h
    · cases h
    · split at h
      · cases h
      · next d _ =>
        beta_reduce at h
        split at h
        · next hread =>
          cases h
          exact ⟨d, hread⟩
        · cases h
  · next d _ _ _ =>
    beta_reduce at h
    split at h
    · next hread =>
      cases h
      exact ⟨d, hread⟩
    · cases h

/-- What the settings of every task satisfy that has been read from a record. -/
structure Settled (t : Task) : Prop where
  stageout : t.arguments.stageout.steps ≠ []
  unitsPerJob : t.split.unitsPerJob < Nat.pow 2 64

lemma unitsPerJob_lt_of_readSplit {s : Split} (h : readSplit r = .ok s) :
    s.unitsPerJob < Nat.pow 2 64 := by
  simp only [readSplit, bind_eq_ok] at h
  obtain ⟨name, -, algorithm, -, arguments, -, h⟩ := h
  split at h
  · exact absurd h throw_ne_ok
  · split at h
    · next n hn =>
      cases pure_eq_ok.1 h
      simp only [unitCount?, Option.bind_eq_bind, Option.bind_eq_some_iff] at hn
      obtain ⟨document, -, m, hm, hpos⟩ := hn
      split at hpos
      · cases hpos
        exact Document.lt_of_nat? hm
      · cases hpos
    · exact absurd h throw_ne_ok

lemma stageout_ne_nil_of_readArguments {options : TaskOptions}
    (h : readArguments r = .ok options) : options.stageout.steps ≠ [] := by
  simp only [readArguments, bind_eq_ok] at h
  obtain ⟨given, hgiven, h⟩ := h
  have hstageout : (given.getD .standard).stageout.steps ≠ [] := by
    cases given with
    | none => exact List.cons_ne_nil _ _
    | some options =>
      obtain ⟨d, hd⟩ := exists_of_decoded hgiven
      exact TaskOptions.stageout_ne_nil_of_ofDocument? hd
  split at h
  · obtain ⟨_, hthrow, -⟩ := bind_eq_ok.1 h
    exact absurd hthrow throw_ne_ok
  · split at h
    · cases pure_eq_ok.1 h
      exact hstageout
    · exact absurd h throw_ne_ok

lemma readSplit_of_ofRecord {t : Task} (h : ofRecord r = .ok t) : readSplit r = .ok t.split := by
  simp only [ofRecord, bind_eq_ok, pure_eq_ok] at h
  obtain ⟨_, -, _, -, _, -, _, -, _, -, _, -, _, -, _, -, _, -, _, -, _, -, _, -, split, hsplit,
    _, -, _, -, _, -, _, -, _, -, _, -, _, -, _, -, rfl⟩ := h
  exact hsplit

/-- The options of a task are read from its record. -/
lemma readArguments_of_ofRecord {t : Task} (h : ofRecord r = .ok t) :
    readArguments r = .ok t.arguments := by
  simp only [ofRecord, bind_eq_ok, pure_eq_ok] at h
  obtain ⟨_, -, _, -, _, -, _, -, _, -, _, -, _, -, _, -, _, -, _, -, _, -, _, -, _, -, _, -, _, -,
    _, -, _, -, _, -, _, -, _, -, arguments, harguments, rfl⟩ := h
  exact harguments

/-- The directories below that of the user begin and end with a name. -/
lemma trimBy_lfnPrefix {options : TaskOptions} (h : readArguments r = .ok options) :
    Text.trimBy (· == '/') options.lfnPrefix.toList = options.lfnPrefix.toList := by
  simp only [readArguments, bind_eq_ok] at h
  obtain ⟨given, -, h⟩ := h
  split at h
  · obtain ⟨_, hthrow, -⟩ := bind_eq_ok.1 h
    exact absurd hthrow throw_ne_ok
  · split at h
    · cases pure_eq_ok.1 h
      dsimp only
      rw [String.toList_ofList]
      exact Text.trimBy_eq_self Text.head?_trimBy Text.getLast?_trimBy
    · exact absurd h throw_ne_ok

/-- **What has been read is settled.** -/
theorem settled_of_ofRecord {t : Task} (h : ofRecord r = .ok t) : t.Settled := by
  exact ⟨stageout_ne_nil_of_readArguments (readArguments_of_ofRecord h),
    unitsPerJob_lt_of_readSplit (readSplit_of_ofRecord h)⟩

end Task

end JobGraph
