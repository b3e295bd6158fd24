import JobGraph.Proofs.Json.RoundTrip
import JobGraph.Proofs.Task.Attributes
import JobGraph.Proofs.Text.Words
import JobGraph.Rehearsal.Sample

/-!
# Attributes as JSON text

A list or table in a record may be given as such or by its JSON text.  The text of a document is
never blank, and it is read as the document, so both are decoded to the same by every reader; hence
the whole record comes to the same task or to the same refusal.

The main result is `Task.ofRecord_set_render`.
-/

namespace JobGraph

/-! ### Texts of documents -/

/-- The text of a document is not blank. -/
lemma Json.isBlank_render {v : Document} {depth : ℕ} (hv : v.Legible depth) :
    Text.isBlank (Json.render v) = false := by
  obtain ⟨c, cs, htext, hc⟩ : ∃ c cs, Json.renderChars v = c :: cs ∧ Unicode.isBlank c = false := by
    cases v with
    | null => exact ⟨'n', _, rfl, by decide⟩
    | bool b =>
      cases b with
      | false => exact ⟨'f', _, rfl, by decide⟩
      | true => exact ⟨'t', _, rfl, by decide⟩
    | int n =>
      obtain ⟨c, cs, htext, hc⟩ := Json.exists_renderChars_int n
      refine ⟨c, cs, htext, ?_⟩
      rcases hc with hdigit | rfl
      · have htoken := Text.isTokenChar_of_isAlphanum (c := c) (by simp [Char.isAlphanum, hdigit])
        rw [Text.isTokenChar, Bool.and_eq_true, Bool.not_eq_true'] at htoken
        exact htoken.1
      · decide
    | real x => exact absurd hv (by simp [Document.Legible])
    | text s => exact ⟨'"', _, rfl, by decide⟩
    | list items => exact ⟨'[', _, rfl, by decide⟩
    | table entries => exact ⟨'\x7b', _, rfl, by decide⟩
    | unusable => exact absurd hv (by simp [Document.Legible])
  rw [Text.isBlank, Json.render, String.toList_ofList, htext, List.all_cons, hc, Bool.false_and]

namespace Task

variable {r : TaskRecord} {field : String} {v : Document}

/-- A document and its text are decoded to the same. -/
lemma decoded_set_render {α : Type} (read : Document → Option α) (hv : v.Legible Json.maxDepth)
    (hnull : v ≠ .null) (htext : ∀ s, v ≠ .text s) :
    (r.set field (.text (Json.render v))).decoded read field =
      (r.set field v).decoded read field := by
  rw [TaskRecord.decoded, TaskRecord.decoded, TaskRecord.get?_set, TaskRecord.get?_set, if_pos rfl,
    if_pos rfl]
  -- the document itself is neither null nor a text
  simp only [Json.isBlank_render hv, Bool.false_eq_true, if_false, Json.parse?_render hv]

/-- **Native and encoded.**  A list, a table, a truth value or an integer as an attribute that is
decoded means the same as its JSON text: the record comes to the same task or to the same
refusal. -/
theorem ofRecord_set_render (hfield : field ∈ TaskRecord.structuredFields)
    (hv : v.Legible Json.maxDepth) (hnull : v ≠ .null) (htext : ∀ s, v ≠ .text s) :
    ofRecord (r.set field (.text (Json.render v))) = ofRecord (r.set field v) := by
  have hplain : ∀ key ∈ TaskRecord.structuredFields,
      key ∉ TaskRecord.textFields ∧ key ≠ "tm_publication" := by decide
  obtain ⟨hnot, hflag⟩ := hplain field hfield
  refine ofRecord_congr (TaskRecord.alike_of_ne field ?_ ?_ ?_) ?_
  · intro key hkey
    rw [TaskRecord.get?_set, TaskRecord.get?_set, if_neg hkey, if_neg hkey]
  · exact fun h => absurd h hnot
  · exact fun _ _ read => decoded_set_render read hv hnull htext
  · rw [TaskRecord.get?_set, TaskRecord.get?_set, if_neg (Ne.symm hflag), if_neg (Ne.symm hflag)]

/-- Options of which one is a number and one a list. -/
def givenOptions : Document :=
  .table [("ignorelocality", .int 1), ("stageoutpolicy", .list [.text "remote", .text "local"])]

/-- The options are read from the table and from its text. -/
theorem ofRecord_set_render_options :
    ∃ t, ofRecord (TaskRecord.brief.set "tm_arguments" givenOptions) = .ok t ∧
      t.arguments.ignoreLocality = true ∧ t.arguments.stageout.steps = [.remote, .nearby] ∧
      ofRecord (TaskRecord.brief.set "tm_arguments" (.text (Json.render givenOptions))) = .ok t := by
  obtain ⟨t, ht, hoptions⟩ : ∃ t,
      ofRecord (TaskRecord.brief.set "tm_arguments" givenOptions) = .ok t ∧
        decide (t.arguments.ignoreLocality = true ∧
          t.arguments.stageout.steps = [.remote, .nearby]) = true :=
    exists_of_map_toOption (by decide +kernel)
  obtain ⟨hlocality, hstageout⟩ := of_decide_eq_true hoptions
  have hlegible : givenOptions.Legible Json.maxDepth := by
    simp [givenOptions, Document.Legible, Document.LegibleEntries, Document.LegibleItems,
      Json.maxDepth]
  refine ⟨t, ht, hlocality, hstageout, ?_⟩
  rw [ofRecord_set_render (by decide) hlegible Document.noConfusion fun _ => Document.noConfusion]
  exact ht

end Task

end JobGraph
