import JobGraph.Artifact.SubmitFile
import JobGraph.Proofs.Json.Layout
import JobGraph.Proofs.Task.Checks
import JobGraph.Proofs.Text.Words

/-!
# The lines of the submit file

Every value of a submit file stands on one line: texts are quoted, and the words that are not are
tokens of a checked task.  So the text comes apart at its line feeds into the lines that it was made
of, and a line begins with its key, as keys hold no blank.

The main results are `SubmitFile.split_text`, and `SubmitFile.filter_maxPost` and
`SubmitFile.filter_dest` about single lines.
-/

namespace JobGraph

namespace SubmitFile

variable {ctx : WorkerContext} {task : Task} {tempDest : String} {throttle : Nat}

/-- What a line begins with: everything in front of its first blank. -/
def key (line : String) : String :=
  String.ofList (line.toList.takeWhile (· != ' '))

/-! ### Values -/

/-- A value is on one line, provided that a word that is written as it is is. -/
lemma lineFeed_not_mem_render {v : Value} (h : ∀ s, v = .word s → '\n' ∉ s.toList) :
    '\n' ∉ v.render.toList := by
  cases v with
  | text s => exact Json.lineFeed_not_mem_quote s
  | optional s =>
    cases s with
    | none => decide
    | some s => exact Json.lineFeed_not_mem_quote s
  | texts l =>
    have hlist : '\n' ∉ (", ".intercalate (l.map Json.quote)).toList := by
      rw [Text.not_mem_toList_intercalate (by decide), List.forall_mem_map]
      exact fun s _ => Json.lineFeed_not_mem_quote s
    rw [Value.render, String.toList_append, String.toList_append, List.mem_append, List.mem_append,
      not_or, not_or]
    exact ⟨⟨by decide, hlist⟩, by decide⟩
  | number n =>
    rw [Value.render]
    simpa using Text.not_mem_toDigits (c := '\n') (by decide) n
  | truth b => cases b <;> decide
  | word s => exact h s rfl
  | json d => exact Json.lineFeed_not_mem_quote _

/-- The words of a checked task are on one line. -/
lemma lineFeed_not_mem_word (ht : task.Checked) {a : String × Value}
    (ha : a ∈ attributes ctx task tempDest throttle) :
    ∀ s, a.2 = .word s → '\n' ∉ s.toList := by
  -- these are all values that are written as they are
  have hwords : ∀ a ∈ attributes ctx task tempDest throttle, ∀ s, a.2 = .word s →
      s ∈ [task.cacheUrl, task.jobSw, task.jobArch, task.sandbox, "$(count)"] := by
    simp [attributes]
  intro s hs
  have hmem := hwords a ha s hs
  simp only [List.mem_cons, List.not_mem_nil, or_false] at hmem
  rcases hmem with rfl | rfl | rfl | rfl | rfl
  · exact Text.lineFeed_not_mem_of_isToken ht.cacheUrl
  · exact Text.lineFeed_not_mem_of_isToken ht.jobSw
  · exact Text.lineFeed_not_mem_of_isToken ht.jobArch
  · exact Text.lineFeed_not_mem_of_isToken ht.sandbox
  · decide

/-! ### Lines -/

/-- Keys hold neither blanks nor line feeds. -/
lemma plain_key {a : String × Value} (ha : a ∈ attributes ctx task tempDest throttle) :
    ' ' ∉ a.1.toList ∧ '\n' ∉ a.1.toList := by
  have hkeys : ∀ k ∈ (attributes ctx task tempDest throttle).map Prod.fst,
      ' ' ∉ k.toList ∧ '\n' ∉ k.toList := by
    simp only [attributes, List.map_cons, List.map_nil, List.forall_mem_cons, List.not_mem_nil,
      false_imp_iff, implies_true, and_true, -String.reduceToList]
    repeat' apply And.intro
    all_goals exact Text.not_mem_toList_ofList (by decide)
  exact hkeys a.1 (List.mem_map_of_mem ha)

lemma lineFeed_not_mem_attributeLine (ht : task.Checked) {a : String × Value}
    (ha : a ∈ attributes ctx task tempDest throttle) : '\n' ∉ (attributeLine a).toList := by
  rw [attributeLine, String.toList_append, String.toList_append, List.mem_append, List.mem_append,
    not_or, not_or]
  exact ⟨⟨(plain_key ha).2, by decide⟩, lineFeed_not_mem_render (lineFeed_not_mem_word ht ha)⟩

/-- What holds for the fixed lines behind the attributes, and for the one about requirements
whatever the system is, holds for all lines behind the attributes. -/
lemma forall_mem_tailLines {P : String → Prop} {arch : String}
    (hfixed : ∀ l ∈ programLines ++ periodicLines, P l) (hrequirements : P (requirementsLine arch)) :
    ∀ l ∈ tailLines arch, P l := by
  intro l hl
  rw [tailLines, List.mem_append, List.mem_cons] at hl
  rcases hl with hl | rfl | hl
  · exact hfixed l (List.mem_append_left _ hl)
  · exact hrequirements
  · exact hfixed l (List.mem_append_right _ hl)

lemma lineFeed_not_mem_tailLines (arch : String) : ∀ l ∈ tailLines arch, '\n' ∉ l.toList := by
  refine forall_mem_tailLines ?_ ?_
  · simp only [programLines, periodicLines, List.cons_append, List.nil_append, List.forall_mem_cons,
      String.toList_append, List.mem_append, not_or, List.not_mem_nil, false_imp_iff, implies_true,
      and_true, -String.reduceToList]
    repeat' apply And.intro
    all_goals exact Text.not_mem_toList_ofList (by decide)
  · unfold requirementsLine systemRequirement
    rw [String.toList_append, List.mem_append, not_or]
    refine ⟨Text.not_mem_toList_ofList (by decide), ?_⟩
    split
    all_goals exact Text.not_mem_toList_ofList (by decide)

/-- No line of the file of a checked task has a line feed in it. -/
lemma lineFeed_not_mem_lines (ht : task.Checked) :
    ∀ l ∈ lines ctx task tempDest throttle, '\n' ∉ l.toList := by
  rw [lines, List.forall_mem_append, List.forall_mem_cons]
  refine ⟨fun l hl => ?_, by decide, lineFeed_not_mem_tailLines _⟩
  obtain ⟨a, ha, rfl⟩ := List.mem_map.1 hl
  exact lineFeed_not_mem_attributeLine ht ha

/-- **The text and its lines.**  The text of the file of a checked task comes apart at its line
feeds into its lines; behind the last one there is nothing. -/
theorem split_text (ht : task.Checked) :
    Text.split '\n' (text ctx task tempDest throttle) =
      lines ctx task tempDest throttle ++ [""] :=
  Text.split_lines (lineFeed_not_mem_lines ht)

/-! ### Keys -/

lemma key_attributeLine {a : String × Value} (ha : ' ' ∉ a.1.toList) :
    key (attributeLine a) = a.1 := by
  have hline : (attributeLine a).toList = a.1.toList ++ ' ' :: ("= ".toList ++ a.2.render.toList) := by
    rw [attributeLine, String.toList_append, String.toList_append]
    simp
  have hkeep : ∀ c ∈ a.1.toList, (c != ' ') = true := by
    intro c hc
    rw [bne_iff_ne]
    rintro rfl
    exact ha hc
  rw [key, hline, List.takeWhile_append_of_pos hkeep, List.takeWhile_cons_of_neg (by simp),
    List.append_nil, String.ofList_toList]

/-- A line begins with its key. -/
lemma take_of_key_eq {l : String} {k : List Char} (h : key l = String.ofList k) :
    l.toList.take k.length = k := by
  have hk : l.toList.takeWhile (· != ' ') = k := by
    rw [← String.toList_ofList (l := k), ← h, key, String.toList_ofList]
  have hprefix : k <+: l.toList := by
    rw [← hk]
    exact List.takeWhile_prefix _
  exact (List.prefix_iff_eq_take.1 hprefix).symm

/-- The lines behind the attributes are about other things than the task. -/
lemma key_tailLines {k : String} (hk : k.toList.take 2 = ['+', 'C']) (arch : String) :
    ∀ l ∈ tailLines arch, key l ≠ k := by
  -- two characters are enough to tell
  have hstart : ∀ l ∈ tailLines arch, l.toList.take 2 ≠ ['+', 'C'] := by
    refine forall_mem_tailLines ?_ ?_
    · simp only [programLines, periodicLines, List.cons_append, List.nil_append,
        List.forall_mem_cons, String.toList_append, List.not_mem_nil, false_imp_iff, implies_true,
        and_true, -String.reduceToList]
      repeat' apply And.intro
      all_goals
        rw [String.toList_ofList]
        decide
    · unfold requirementsLine
      rw [String.toList_append, String.toList_ofList, List.take_append_of_le_length (by decide)]
      decide
  intro l hl hkey
  have hlength : 2 ≤ k.toList.length := by
    have hlength := congrArg List.length hk
    rw [List.length_take] at hlength
    simp only [List.length_cons, List.length_nil] at hlength
    omega
  have htake := take_of_key_eq (k := k.toList) (by rw [hkey, String.ofList_toList])
  have htwo := congrArg (List.take 2) htake
  rw [List.take_take, Nat.min_eq_left hlength, hk] at htwo
  exact hstart l hl htwo

/-- The lines of the file that have the key of an attribute of the task are those of the
attribute. -/
lemma filter_key (ht : task.Checked) {k : String} (hk : k.toList.take 2 = ['+', 'C']) :
    (Text.split '\n' (text ctx task tempDest throttle)).filter (fun l => key l = k) =
      ((attributes ctx task tempDest throttle).filter fun a => a.1 = k).map attributeLine := by
  have hattributes : ((attributes ctx task tempDest throttle).map attributeLine).filter
      (fun l => key l = k) =
        ((attributes ctx task tempDest throttle).filter fun a => a.1 = k).map attributeLine := by
    rw [List.filter_map]
    refine congrArg (List.map attributeLine) (List.filter_congr fun a ha => ?_)
    rw [Function.comp_apply, key_attributeLine (plain_key ha).1]
  have hempty : key "" ≠ k := by
    rintro rfl
    revert hk
    decide
  have htail : ("" :: tailLines task.jobArch ++ [""]).filter (fun l => key l = k) = [] := by
    rw [List.filter_eq_nil_iff, List.forall_mem_append, List.forall_mem_cons]
    simp only [decide_eq_true_eq]
    exact ⟨⟨hempty, key_tailLines hk _⟩, by simpa using hempty⟩
  rw [split_text ht, lines, List.append_assoc, List.filter_append, hattributes, htail,
    List.append_nil]

/-- **The limit in the file.**  Of all lines of the file, one has the key of the limit on closing
scripts, and it holds the limit. -/
theorem filter_maxPost (ht : task.Checked) :
    (Text.split '\n' (text ctx task tempDest throttle)).filter (fun l => key l = "+CRAB_MaxPost") =
      ["+CRAB_MaxPost = " ++ toString throttle] := by
  rw [filter_key ht (by decide)]
  simp [attributes, attributeLine, Value.render]

/-- **The directory in the file.**  Of all lines of the file, one has the key of the directory below
which outputs go at first, and it holds the directory. -/
theorem filter_dest (ht : task.Checked) :
    (Text.split '\n' (text ctx task tempDest throttle)).filter (fun l => key l = "+CRAB_Dest") =
      ["+CRAB_Dest = " ++ Json.quote tempDest] := by
  rw [filter_key ht (by decide)]
  simp [attributes, attributeLine, Value.render]

end SubmitFile

end JobGraph
