import JobGraph.Proofs.Task.Attributes
import JobGraph.Proofs.Text.Cutting
import JobGraph.Rehearsal.Sample

/-!
# Blank attributes

An attribute that is null or a blank text means the same as no attribute at all: so it is for the
readers of texts and of structures, and hence for every attribute but one.  The flag of publication
may be null, but a blank text is no flag, and a record that has one is refused unless it is refused
before its flag is looked at.

The main result is `Task.blank_eq_erase_iff`.
-/

namespace JobGraph

/-- The document is null or a text of nothing but white space. -/
def Document.IsBlank : Document → Prop
  | .null => True
  | .text s => Text.isBlank s = true
  | _ => False

/-- A blank text is no flag. -/
lemma Flag.parse?_of_isBlank {s : String} (h : Text.isBlank s = true) : Flag.parse? s = none := by
  have htrim : Text.trim s = "" := by
    rw [Text.trim, Text.trimBy_eq_nil_iff.2 (List.all_eq_true.1 h)]
  rw [Flag.parse?, htrim]
  rfl

namespace Task

variable {r : TaskRecord} {field : String} {d : Document}

lemma optionalText_set_of_isBlank (hd : d.IsBlank) :
    (r.set field d).optionalText field = .ok none := by
  rw [TaskRecord.optionalText, TaskRecord.get?_set, if_pos rfl]
  cases d with
  | null => rfl
  | text s => exact congrArg Except.ok (if_pos hd)
  | _ => exact hd.elim

lemma decoded_set_of_isBlank {α : Type} (read : Document → Option α) (hd : d.IsBlank) :
    (r.set field d).decoded read field = .ok none := by
  rw [TaskRecord.decoded, TaskRecord.get?_set, if_pos rfl]
  cases d with
  | null => rfl
  | text s => exact if_pos hd
  | _ => exact hd.elim

/-- A record with a blank attribute is like the one without it. -/
lemma alike_set_of_isBlank (r : TaskRecord) (field : String) (hd : d.IsBlank) :
    TaskRecord.Alike (r.erase field) (r.set field d) := by
  have hmissing : (r.erase field).get? field = none := by
    rw [TaskRecord.get?_erase, if_pos rfl]
  refine TaskRecord.alike_of_ne field (fun key => TaskRecord.get?_set_eq_get?_erase) ?_ ?_
  · intro _
    rw [optionalText_set_of_isBlank hd, TaskRecord.optionalText, hmissing]
  · intro _ _ read
    rw [decoded_set_of_isBlank read hd, TaskRecord.decoded, hmissing]

/-- The flag of publication is neither among the texts nor among the structures. -/
lemma alike_set_publication (r : TaskRecord) (d : Document) :
    TaskRecord.Alike (r.erase "tm_publication") (r.set "tm_publication" d) :=
  TaskRecord.alike_of_ne "tm_publication" (fun key => TaskRecord.get?_set_eq_get?_erase)
    (fun h => absurd h (by decide)) fun h => absurd h (by decide)

lemma readPublication_set_of_isBlank (hd : d.IsBlank) (hnull : d ≠ .null) :
    readPublication (r.set "tm_publication" d) = .error (.publicationFlag d) := by
  rw [readPublication, TaskRecord.get?_set, if_pos rfl]
  cases d with
  | null => exact absurd rfl hnull
  | text s =>
    dsimp only
    rw [Flag.parse?_of_isBlank hd]
  | _ => exact hd.elim

lemma readPublication_set_null : readPublication (r.set "tm_publication" .null) = .ok false := by
  rw [readPublication, TaskRecord.get?_set, if_pos rfl]

lemma readPublication_erase : readPublication (r.erase "tm_publication") = .ok false := by
  rw [readPublication, TaskRecord.get?_erase, if_pos rfl]

/-- The record is refused in the same way whatever its flag of publication is. -/
def RefusedAnyway (r : TaskRecord) : Prop :=
  ∃ e, ∀ d, ofRecord (r.set "tm_publication" d) = .error e

/-- A null flag is no flag. -/
lemma ofRecord_set_publication_null (r : TaskRecord) :
    ofRecord (r.set "tm_publication" .null) = ofRecord (r.erase "tm_publication") := by
  rcases forks_ofRecord (r.erase "tm_publication") with ⟨e, he⟩ | ⟨rest, -, hrest⟩
  · rw [he _ (alike_set_publication r _), he _ (TaskRecord.Alike.refl _)]
  · rw [hrest _ (alike_set_publication r _), hrest _ (TaskRecord.Alike.refl _),
      readPublication_set_null, readPublication_erase]

/-- A flag that is a blank text is an error of its own, unless there is one in front of it. -/
lemma ofRecord_set_publication_blank (r : TaskRecord) (hd : d.IsBlank) (hnull : d ≠ .null) :
    (RefusedAnyway r ∧
        ofRecord (r.set "tm_publication" d) = ofRecord (r.erase "tm_publication")) ∨
      (¬ RefusedAnyway r ∧ ofRecord (r.set "tm_publication" d) = .error (.publicationFlag d) ∧
        ofRecord (r.erase "tm_publication") ≠ .error (.publicationFlag d)) := by
  have hself := TaskRecord.Alike.refl (r.erase "tm_publication")
  rcases forks_ofRecord (r.erase "tm_publication") with ⟨e, he⟩ | ⟨rest, habout, hrest⟩
  · refine Or.inl ⟨⟨e, fun d' => he _ (alike_set_publication r d')⟩, ?_⟩
    rw [he _ (alike_set_publication r d), he _ hself]
  · have hblank : ofRecord (r.set "tm_publication" d) = .error (.publicationFlag d) := by
      rw [hrest _ (alike_set_publication r d), readPublication_set_of_isBlank hd hnull]
      rfl
    have herased : ofRecord (r.erase "tm_publication") = rest false := by
      rw [hrest _ hself, readPublication_erase]
      rfl
    -- what is read behind the flag is not about the flag
    have hother : ofRecord (r.erase "tm_publication") ≠ .error (.publicationFlag d) := by
      intro h
      obtain ⟨field, hfield, hattribute⟩ := habout false _ (herased.symm.trans h)
      obtain rfl : "tm_publication" = field := Option.some.inj hattribute
      exact absurd hfield (by decide)
    refine Or.inr ⟨?_, hblank, hother⟩
    rintro ⟨e, he⟩
    refine hother ?_
    rw [← ofRecord_set_publication_null, he .null, ← he d, hblank]

/-- **Blank attributes.**  A record with a blank attribute comes to the same task or the same
refusal as the record without it if, and only if, the attribute is not a flag of publication that is
a text, or the flag is never looked at.  Otherwise the record is refused for this flag. -/
theorem blank_eq_erase_iff (r : TaskRecord) (field : String) (hd : d.IsBlank) :
    (ofRecord (r.set field d) = ofRecord (r.erase field) ↔
      (field = "tm_publication" → d = .null ∨ RefusedAnyway r)) ∧
    (ofRecord (r.set field d) ≠ ofRecord (r.erase field) →
      ofRecord (r.set field d) = .error (.publicationFlag d)) := by
  by_cases hfield : field = "tm_publication"
  · subst hfield
    by_cases hnull : d = .null
    · subst hnull
      exact ⟨iff_of_true (ofRecord_set_publication_null r) fun _ => Or.inl rfl,
        fun h => absurd (ofRecord_set_publication_null r) h⟩
    · rcases ofRecord_set_publication_blank r hd hnull with ⟨hrefused, heq⟩ |
        ⟨hread, hblank, herased⟩
      · exact ⟨iff_of_true heq fun _ => Or.inr hrefused, fun h => absurd heq h⟩
      · refine ⟨iff_of_false (fun heq => herased (heq.symm.trans hblank)) fun h => ?_,
          fun _ => hblank⟩
        exact (h rfl).elim hnull hread
  · have heq : ofRecord (r.set field d) = ofRecord (r.erase field) :=
      ofRecord_congr (alike_set_of_isBlank r field hd)
        (TaskRecord.get?_set_eq_get?_erase (Ne.symm hfield))
    exact ⟨iff_of_true heq fun h => absurd h hfield, fun h => absurd heq h⟩

/-- A dataset of nothing but blanks is none, and the task has no dataset. -/
theorem blank_eq_erase_iff_dataset :
    ∃ t, ofRecord (TaskRecord.brief.set "tm_input_dataset" (.text " \t")) = .ok t ∧
      t.inputDataset = none ∧ ofRecord (TaskRecord.brief.erase "tm_input_dataset") = .ok t := by
  obtain ⟨t, ht, hdataset⟩ : ∃ t,
      ofRecord (TaskRecord.brief.set "tm_input_dataset" (.text " \t")) = .ok t ∧
        t.inputDataset = none :=
    exists_of_map_toOption (by decide +kernel)
  have hblank : (Document.text " \t").IsBlank := by
    rw [Document.IsBlank]
    decide
  refine ⟨t, ht, hdataset, ?_⟩
  rw [← (blank_eq_erase_iff TaskRecord.brief "tm_input_dataset" hblank).1.2 fun h => by
    exact absurd h (by decide)]
  exact ht

/-- An empty flag of publication is an error in a record that is a task without it. -/
theorem not_blank_eq_erase_emptyFlag :
    (∃ t, ofRecord (TaskRecord.brief.erase "tm_publication") = .ok t) ∧
      ofRecord (TaskRecord.brief.set "tm_publication" (.text "")) =
        .error (.publicationFlag (.text "")) := by
  obtain ⟨t, ht⟩ : ∃ t, ofRecord (TaskRecord.brief.erase "tm_publication") = .ok t :=
    exists_of_isOk (by decide +kernel)
  refine ⟨⟨t, ht⟩, ?_⟩
  rcases ofRecord_set_publication_blank TaskRecord.brief (d := .text "") rfl Document.noConfusion
    with ⟨⟨e, he⟩, -⟩ | ⟨-, hblank, -⟩
  · rw [← ofRecord_set_publication_null, he] at ht
    cases ht
  · exact hblank

end Task

end JobGraph
