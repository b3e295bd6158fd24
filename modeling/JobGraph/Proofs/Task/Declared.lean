import JobGraph.Proofs.Task.Checks
import JobGraph.Rehearsal.Sample

/-!
# Declared outputs

A record declares outputs in three lists, one for each kind, and a name may come in them as often as
one likes.  A task has each name once: where it comes first, if the lists are read one after
another.

The main result is `Task.outputs_declared`.
-/

namespace JobGraph

/-- The outputs are the names of three lists, each of them once, in the list and at the place where
it comes first. -/
structure Outputs.Collapsed (additional tfile edm : List String) (o : Outputs) : Prop where
  all_eq : o.all = (additional ++ tfile ++ edm).eraseDups
  additional_eq : o.additional = additional.eraseDups
  tfile_eq : o.tfile = (tfile.filter (· ∉ additional)).eraseDups
  edm_eq : o.edm = (edm.filter fun n => n ∉ additional ∧ n ∉ tfile).eraseDups
  once : o.all.Nodup
  mem_all : ∀ n, n ∈ o.all ↔ n ∈ additional ∨ n ∈ tfile ∨ n ∈ edm

namespace Task

variable {r : TaskRecord} {field : String}

/-- The new names of a list are those that have not been seen, without repetitions. -/
lemma newNames_eq (seen names : List String) :
    newNames seen names = (names.filter (· ∉ seen)).eraseDups := by
  induction names generalizing seen with
  | nil => rfl
  | cons x xs ih =>
    rw [newNames]
    split
    · next hseen =>
      have hx : x ∈ seen := by simpa using hseen
      rw [ih, List.filter_cons_of_neg (by simpa using hx)]
    · next hseen =>
      have hx : x ∉ seen := by simpa using hseen
      rw [ih, List.filter_cons_of_pos (by simpa using hx), List.eraseDups_cons, List.filter_filter]
      congr 2
      refine List.filter_congr fun y _ => ?_
      by_cases hy : y = x <;> simp [hy]

/-- The names of a kind of output are those that are declared for it and new. -/
lemma readOutputNames_eq_ok {seen names : List String} :
    readOutputNames r seen field = .ok names ↔
      ∃ declared, readTexts r field = .ok declared ∧ (∀ n ∈ declared, isOutputName n = true) ∧
        names = (declared.filter (· ∉ seen)).eraseDups := by
  simp only [readOutputNames, bind_eq_ok, pure_eq_ok, mapM_checked_eq_ok, newNames_eq]
  constructor
  · rintro ⟨declared, hdeclared, _, ⟨hform, rfl⟩, rfl⟩
    exact ⟨declared, hdeclared, hform, rfl⟩
  · rintro ⟨declared, hdeclared, hform, rfl⟩
    exact ⟨declared, hdeclared, declared, ⟨hform, rfl⟩, rfl⟩

lemma readOutputs_of_ofRecord {t : Task} (h : ofRecord r = .ok t) :
    readOutputs r = .ok t.outputs := by
  simp only [ofRecord, bind_eq_ok, pure_eq_ok] at h
  obtain ⟨_, -, _, -, _, -, _, -, _, -, _, -, _, -, _, -, _, -, _, -, _, -, outputs, houtputs,
    _, -, _, -, _, -, _, -, _, -, _, -, _, -, _, -, _, -, rfl⟩ := h
  exact houtputs

/-- **Declared outputs.**  Every task that is read from a record has the names that its three lists
declare, in their order and each of them once. -/
theorem outputs_declared {t : Task} (h : ofRecord r = .ok t) :
    ∃ additional tfile edm, readTexts r "tm_outfiles" = .ok additional ∧
      readTexts r "tm_tfile_outfiles" = .ok tfile ∧ readTexts r "tm_edm_outfiles" = .ok edm ∧
        t.outputs.Collapsed additional tfile edm := by
  have houtputs := readOutputs_of_ofRecord h
  simp only [readOutputs, bind_eq_ok, pure_eq_ok, readOutputNames_eq_ok] at houtputs
  obtain ⟨_, ⟨additional, hadditional, -, rfl⟩, _, ⟨tfile, htfile, -, rfl⟩,
    _, ⟨edm, hedm, -, rfl⟩, houtputs⟩ := houtputs
  refine ⟨additional, tfile, edm, hadditional, htfile, hedm, ?_⟩
  -- a name has been seen if a list further in front declares it
  have hadditional : additional.filter (· ∉ []) = additional := by simp
  have htfile : tfile.filter (· ∉ additional.eraseDups) = tfile.filter (· ∉ additional) :=
    List.filter_congr fun n _ => by simp
  have hedm : edm.filter (· ∉ additional.eraseDups ++ (tfile.filter (· ∉ additional)).eraseDups) =
      edm.filter fun n => n ∉ additional ∧ n ∉ tfile := by
    refine List.filter_congr fun n _ => ?_
    by_cases hn : n ∈ additional <;> simp [hn]
  rw [hadditional, htfile, hedm] at houtputs
  have hall : t.outputs.all = (additional ++ tfile ++ edm).eraseDups := by
    have hnew : tfile.removeAll additional = tfile.filter (· ∉ additional) :=
      List.filter_congr fun n _ => by simp
    have hnew' : edm.removeAll (additional ++ tfile) =
        edm.filter fun n => n ∉ additional ∧ n ∉ tfile :=
      List.filter_congr fun n _ => by simp
    rw [List.eraseDups_append, List.eraseDups_append, hnew, hnew', ← houtputs, Outputs.all]
  exact
    { all_eq := hall
      additional_eq := by rw [← houtputs]
      tfile_eq := by rw [← houtputs]
      edm_eq := by rw [← houtputs]
      once := (checked_of_ofRecord h).outputsOnce
      mem_all := fun n => by rw [hall, List.mem_eraseDups]; simp }

/-- A record that declares names again, in the same list and in others. -/
def repeating : TaskRecord :=
  ((TaskRecord.brief.set "tm_outfiles" (.list [.text "a", .text "b", .text "a"])).set
    "tm_tfile_outfiles" (.text "[\"c\", \"b\", \"d\"]")).set
      "tm_edm_outfiles" (.list [.text "d", .text "e", .text "c", .text "e"])

/-- Each name stays where it comes first. -/
theorem outputs_declared_repeating :
    ∃ t, ofRecord repeating = .ok t ∧ t.outputs = ⟨["a", "b"], ["c", "d"], ["e"]⟩ ∧
      ∃ additional tfile edm, readTexts repeating "tm_outfiles" = .ok additional ∧
        readTexts repeating "tm_tfile_outfiles" = .ok tfile ∧
          readTexts repeating "tm_edm_outfiles" = .ok edm ∧
            t.outputs.Collapsed additional tfile edm := by
  obtain ⟨t, ht, houtputs⟩ : ∃ t, ofRecord repeating = .ok t ∧
      t.outputs = ⟨["a", "b"], ["c", "d"], ["e"]⟩ :=
    exists_of_map_toOption (by decide +kernel)
  exact ⟨t, ht, houtputs, outputs_declared ht⟩

end Task

end JobGraph
