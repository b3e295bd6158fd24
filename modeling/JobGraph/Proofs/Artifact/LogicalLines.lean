import JobGraph.LogicalPath
import JobGraph.Proofs.Artifact.SubmitLines
import JobGraph.Rehearsal.Sample

/-!
# Logical lines of the submit file

A line that ends in a backslash goes on in the next line, and the fixed lines of the submit file
make use of that.  The line of an attribute ends as its value does.  A value that is quoted or put
together from quoted texts ends in a quote or a brace, and numbers and truth values in a digit or a
letter; but a word that is written as it is may end in a backslash, since a token is only kept free
of white space and quotes.  Then the next attribute is taken for the rest of the value.

So whether every attribute is a logical line of its own depends on four words of the task, by
`SubmitFile.logicalLines_iff`.
-/

namespace JobGraph.SubmitFile

/-! ### Logical lines -/

/-- The line goes on in the next one, or the word makes its line go on. -/
def EndsInBackslash (s : String) : Prop :=
  s.toList.getLast? = some '\\'

instance (s : String) : Decidable (EndsInBackslash s) :=
  inferInstanceAs (Decidable (_ = _))

/-- The logical lines, each of them by the lines that it consists of. -/
def logicalLines : List String → List (List String)
  | [] => []
  | l :: ls =>
    if EndsInBackslash l then
      match logicalLines ls with
      | [] => [[l]]
      | g :: gs => (l :: g) :: gs
    else [l] :: logicalLines ls

variable {l : String} {ls rest : List String}

lemma logicalLines_cons (h : ¬ EndsInBackslash l) :
    logicalLines (l :: ls) = [l] :: logicalLines ls := by
  rw [logicalLines, if_neg h]

/-- A logical line begins with a line. -/
lemma exists_logicalLines (l : String) (ls : List String) :
    ∃ g gs, logicalLines (l :: ls) = (l :: g) :: gs := by
  rw [logicalLines]
  split
  · split
    · exact ⟨[], [], rfl⟩
    · exact ⟨_, _, rfl⟩
  · exact ⟨[], _, rfl⟩

/-- Lines in front of others are logical lines of their own if and only if none of them goes on. -/
lemma prefix_logicalLines_iff (hrest : rest ≠ []) :
    ls.map (fun l => [l]) <+: logicalLines (ls ++ rest) ↔ ∀ l ∈ ls, ¬ EndsInBackslash l := by
  induction ls with
  | nil => simp
  | cons l ls ih =>
    rw [List.forall_mem_cons, ← ih, List.map_cons, List.cons_append]
    by_cases hl : EndsInBackslash l
    · -- the next line is taken into the logical line of this one
      obtain ⟨l', ls', hnext⟩ :=
        List.exists_cons_of_ne_nil (List.append_ne_nil_of_right_ne_nil ls hrest)
      obtain ⟨g, gs, hgroups⟩ := exists_logicalLines l' ls'
      rw [hnext, logicalLines, if_pos hl, hgroups]
      simp [hl]
    · rw [logicalLines_cons hl, List.cons_prefix_cons]
      simp [hl]

/-! ### How values end -/

/-- The words of a task that are written as they are, by their keys. -/
def words (task : Task) : List (String × String) :=
  [("CRAB_ISB", task.cacheUrl), ("CRAB_JobSW", task.jobSw), ("CRAB_JobArch", task.jobArch),
    ("CRAB_Archive", task.sandbox)]

lemma not_endsInBackslash_append {s t : String} {c : Char} (ht : t.toList.getLast? = some c)
    (hc : c ≠ '\\') : ¬ EndsInBackslash (s ++ t) := by
  rw [EndsInBackslash, String.toList_append, List.getLast?_append, ht]
  simpa using hc

/-- A value that is no word does not end in a backslash. -/
lemma exists_getLast?_render {v : Value} (hv : ∀ s, v ≠ .word s) :
    ∃ c, v.render.toList.getLast? = some c ∧ c ≠ '\\' := by
  have hquote : ∀ s, (Json.quote s).toList.getLast? = some '"' := by
    intro s
    rw [Json.quote, String.toList_ofList, Json.renderText]
    exact List.getLast?_concat
  cases v with
  | text s => exact ⟨'"', hquote s, by decide⟩
  | optional s =>
    cases s with
    | none => exact ⟨'d', rfl, by decide⟩
    | some s => exact ⟨'"', hquote s, by decide⟩
  | texts l =>
    refine ⟨'\x7d', ?_, by decide⟩
    rw [Value.render, String.toList_append, List.getLast?_append]
    rfl
  | number n =>
    have hdigits : (Value.number n).render.toList = Nat.toDigits 10 n := by
      rw [Value.render]
      simp
    obtain ⟨c, hc⟩ := Option.ne_none_iff_exists'.1
      (mt List.getLast?_eq_none_iff.1 (Nat.toDigits_ne_nil (n := n) (b := 10)))
    refine ⟨c, by rw [hdigits, hc], ?_⟩
    have hdigit : c.isDigit = true :=
      Nat.isDigit_of_mem_toDigits (by decide) (by decide) (List.mem_of_getLast? hc)
    rintro rfl
    cases hdigit
  | truth b =>
    cases b with
    | false => exact ⟨'e', rfl, by decide⟩
    | true => exact ⟨'e', rfl, by decide⟩
  | word s => exact absurd rfl (hv s)
  | json d => exact ⟨'"', hquote _, by decide⟩

/-- The line of a word goes on if and only if the word ends in a backslash. -/
lemma endsInBackslash_word (k s : String) :
    EndsInBackslash (attributeLine (k, .word s)) ↔ EndsInBackslash s := by
  have hline : (attributeLine (k, .word s)).toList =
      (k.toList ++ " =".toList) ++ ' ' :: s.toList := by
    rw [attributeLine, Value.render, String.toList_append, String.toList_append]
    simp
  rw [EndsInBackslash, EndsInBackslash, hline, List.getLast?_append, List.getLast?_cons]
  cases s.toList.getLast? with
  | none => simp
  | some c => simp

variable {ctx : WorkerContext} {task : Task} {tempDest : String} {throttle : ℕ}

/-- The lines of attributes that go on are those of the words that end in a backslash. -/
lemma endsInBackslash_attributeLine {a : String × Value}
    (ha : a ∈ attributes ctx task tempDest throttle) :
    EndsInBackslash (attributeLine a) ↔
      ∃ w ∈ words task, a = (w.1, .word w.2) ∧ EndsInBackslash w.2 := by
  have hwords : ∀ a ∈ attributes ctx task tempDest throttle, ∀ s, a.2 = .word s →
      (a.1, s) ∈ words task ∨ s = "$(count)" := by
    simp [attributes, words]
  obtain ⟨k, v⟩ := a
  constructor
  · intro h
    by_cases hv : ∃ s, v = .word s
    · obtain ⟨s, rfl⟩ := hv
      rw [endsInBackslash_word] at h
      rcases hwords _ ha s rfl with hw | rfl
      · exact ⟨(k, s), hw, rfl, h⟩
      · exact absurd h (by decide)
    · rw [not_exists] at hv
      obtain ⟨c, hc, hne⟩ := exists_getLast?_render hv
      rw [attributeLine] at h
      exact absurd h (not_endsInBackslash_append hc hne)
  · rintro ⟨w, -, hw, hend⟩
    rw [hw, endsInBackslash_word]
    exact hend

lemma mem_attributes_of_mem_words {w : String × String} (hw : w ∈ words task) :
    (w.1, Value.word w.2) ∈ attributes ctx task tempDest throttle := by
  have hwords : ∀ w ∈ words task,
      (w.1, Value.word w.2) ∈ attributes ctx task tempDest throttle := by
    simp [attributes, words]
  exact hwords w hw

/-- The attributes of a checked task are logical lines of their own if and only if none of the four
words ends in a backslash. -/
lemma prefix_logicalLines_text (ht : task.Checked) :
    (attributes ctx task tempDest throttle).map (fun a => [attributeLine a]) <+:
        logicalLines (Text.split '\n' (text ctx task tempDest throttle)) ↔
      ∀ w ∈ words task, ¬ EndsInBackslash w.2 := by
  rw [split_text ht, lines, List.append_assoc, ← Function.comp_def (fun l => [l]), ← List.map_map,
    prefix_logicalLines_iff (by simp), List.forall_mem_map]
  constructor
  · intro hlines w hw hend
    refine hlines _ (mem_attributes_of_mem_words hw) ?_
    rwa [endsInBackslash_word]
  · intro hends a ha hend
    obtain ⟨w, hw, -, hword⟩ := (endsInBackslash_attributeLine ha).1 hend
    exact hends w hw hword

/-- **Logical lines.**  Let a task have been read from a record.  The lines of attributes that go on
are those of the words of the task that end in a backslash; so every attribute is a logical line of
its own if and only if none of these words does. -/
theorem logicalLines_iff {r : TaskRecord} (c : Config) (throttle : ℕ)
    (h : Task.ofRecord r = .ok task) :
    (∀ a ∈ attributes (.ofConfig c) task (Destinations.ofTask task).temp throttle,
      EndsInBackslash (attributeLine a) ↔
        ∃ w ∈ words task, a = (w.1, .word w.2) ∧ EndsInBackslash w.2) ∧
    ((attributes (.ofConfig c) task (Destinations.ofTask task).temp throttle).map
        (fun a => [attributeLine a]) <+:
        logicalLines
          (Text.split '\n' (text (.ofConfig c) task (Destinations.ofTask task).temp throttle)) ↔
      ∀ w ∈ words task, ¬ EndsInBackslash w.2) :=
  ⟨fun _ ha => endsInBackslash_attributeLine ha,
    prefix_logicalLines_text (Task.checked_of_ofRecord h)⟩

/-- Every attribute of the sample request is a logical line of its own. -/
theorem logicalLines_iff_sample :
    ∃ task, Task.ofRecord Request.sample.task = .ok task ∧
      (attributes (.ofConfig .sample) task (Destinations.ofTask task).temp 20).map
        (fun a => [attributeLine a]) <+:
        logicalLines
          (Text.split '\n' (text (.ofConfig .sample) task (Destinations.ofTask task).temp 20)) := by
  have hwords : (Task.ofRecord Request.sample.task).toOption.map
      (fun task => decide (∀ w ∈ words task, ¬ EndsInBackslash w.2)) = some true := by
    decide +kernel
  obtain ⟨task, htask, hends⟩ := exists_of_map_toOption hwords
  exact ⟨task, htask, (logicalLines_iff .sample 20 htask).2.2 (of_decide_eq_true hends)⟩

/-- A record whose cache is at an address that ends in a backslash. -/
def backslashCache : TaskRecord :=
  TaskRecord.brief.set "tm_cache_url" (.text "cache\\")

/-- It is that of a task, but in its submit file the line of the address goes on, and so not every
attribute is a logical line of its own. -/
theorem not_logicalLines_backslashCache :
    ∃ task, Task.ofRecord backslashCache = .ok task ∧
      ("CRAB_ISB", .word "cache\\") ∈
        attributes (.ofConfig .sample) task (Destinations.ofTask task).temp 20 ∧
      EndsInBackslash (attributeLine ("CRAB_ISB", .word "cache\\")) ∧
      ¬ (attributes (.ofConfig .sample) task (Destinations.ofTask task).temp 20).map
        (fun a => [attributeLine a]) <+:
        logicalLines
          (Text.split '\n' (text (.ofConfig .sample) task (Destinations.ofTask task).temp 20)) := by
  have hurl : (Task.ofRecord backslashCache).toOption.map (·.cacheUrl) = some "cache\\" := by
    decide +kernel
  obtain ⟨task, htask, hurl⟩ := exists_of_map_toOption hurl
  have hword : ("CRAB_ISB", "cache\\") ∈ words task := by
    rw [← hurl]
    exact List.mem_cons_self
  have hend : EndsInBackslash "cache\\" := by decide
  refine ⟨task, htask, mem_attributes_of_mem_words hword, (endsInBackslash_word _ _).2 hend, ?_⟩
  rw [prefix_logicalLines_text (Task.checked_of_ofRecord htask)]
  exact fun hends => hends _ hword hend

end JobGraph.SubmitFile
