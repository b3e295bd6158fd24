import JobGraph.Proofs.LogicalPath.Homes
import JobGraph.Proofs.Plan.Tokens
import JobGraph.Proofs.Task.Settings

/-!
# Levels of directories

The directories of a task are meant to have one level for each of the user, the primary dataset, the
stem of the publication name and the time, and those of the prefix between the first two.  Joining
leaves out what is empty and does not look at slashes inside of what it joins.  So for every task
that has been read, the levels can be told from its attributes, but they are the ones that are meant
if and only if the publication name is more than a hyphen and a suffix, the time holds no slash, and
no two slashes follow each other in the prefix.

The main result is `Destinations.hasLevels_iff`; what can go wrong is in
`Destinations.not_hasLevels`.
-/

namespace JobGraph

namespace LogicalPath

/-- The levels of a part of a path: the texts between its slashes, and none if it is empty. -/
def segments (part : String) : List String :=
  if part = "" then [] else Text.split '/' part

/-- The path begins with a slash and has these levels, none of which is empty. -/
def HasLevels (path : String) (levels : List String) : Prop :=
  Text.split '/' path = "" :: levels ∧ ∀ level ∈ levels, level ≠ ""

instance (path : String) (levels : List String) : Decidable (HasLevels path levels) :=
  inferInstanceAs (Decidable (_ ∧ _))

/-! ### Levels of parts -/

lemma segments_of_slash_not_mem {part : String} (h : '/' ∉ part.toList) :
    segments part = if part = "" then [] else [part] := by
  rw [segments, Text.split_eq_singleton h]

lemma slash_not_mem_of_mem_segments {part level : String} (h : level ∈ segments part) :
    '/' ∉ level.toList := by
  rw [segments] at h
  split at h
  · cases h
  · obtain ⟨piece, hpiece, rfl⟩ := List.mem_map.1 h
    rw [String.toList_ofList]
    exact Text.sep_not_mem_of_mem_pieces hpiece

lemma bare_eq_self {part : String} (h : Text.trimBy (· == '/') part.toList = part.toList) :
    bare part = part := by
  rw [bare, h, String.ofList_toList]

lemma bare_of_slash_not_mem {part : String} (h : '/' ∉ part.toList) : bare part = part := by
  by_cases hempty : part.toList = []
  · exact bare_eq_self (by rw [hempty]; rfl)
  · exact bare_eq_self (Bare.of_slash_not_mem hempty h).trimBy_eq

/-- The levels of a joined path are those of its parts. -/
lemma split_join {parts : List String} (h : steps parts ≠ []) :
    Text.split '/' (join parts) = "" :: parts.flatMap fun part => segments (bare part) := by
  have hparts : ((steps parts).flatMap fun step => (Text.pieces '/' step).map String.ofList) =
      parts.flatMap fun part => segments (bare part) := by
    clear h
    induction parts with
    | nil => rfl
    | cons part parts ih =>
      rw [← List.singleton_append, steps_append, List.flatMap_append, List.flatMap_append, ih]
      refine congrArg (· ++ _) ?_
      rw [List.flatMap_singleton, segments, bare]
      cases hstep : Text.trimBy (· == '/') part.toList with
      | nil => simp [steps, hstep]
      | cons c step => simp [steps, hstep, Text.split, ← String.toList_inj]
  rw [Text.split, pieces_join h, List.map_cons, List.map_flatMap, hparts]

/-! ### Stems, times and datasets -/

/-- There is no stem if the name is a hyphen and a suffix. -/
lemma publicationStem_eq_empty_iff {name : String} (hname : name ≠ "") :
    publicationStem name = "" ↔ ∃ suffix : String, name = "-" ++ suffix ∧ '-' ∉ suffix.toList := by
  rw [publicationStem]
  cases hcut : Text.cutLast? '-' name.toList with
  | none =>
    refine ⟨fun h => absurd h hname, ?_⟩
    rintro ⟨suffix, rfl, -⟩
    rw [String.toList_append] at hcut
    exact absurd List.mem_cons_self (Text.cutLast?_eq_none_iff.1 hcut)
  | some parts =>
    obtain ⟨stem, suffix⟩ := parts
    have hparts := Text.eq_of_cutLast? hcut
    constructor
    · intro h
      have hstem : stem = [] := by simpa using h
      refine ⟨String.ofList suffix, ?_, ?_⟩
      · rw [← String.toList_inj, hparts, hstem]
        simp
      · rw [String.toList_ofList]
        exact Text.sep_not_mem_of_cutLast? hcut
    · rintro ⟨suffix', rfl, hnot⟩
      have hcut' := Text.cutLast?_append (a := []) hnot
      have htext : ("-" ++ suffix').toList = [] ++ '-' :: suffix'.toList := String.toList_append
      rw [htext, hcut', Option.some.injEq, Prod.mk.injEq] at hcut
      rw [← hcut.1]

lemma slash_not_mem_publicationStem {name : String} (h : '/' ∉ name.toList) :
    '/' ∉ (publicationStem name).toList := by
  rw [publicationStem]
  split
  · next stem suffix hcut =>
    rw [Text.eq_of_cutLast? hcut, List.mem_append, not_or] at h
    rw [String.toList_ofList]
    exact h.1
  · exact h

/-- The time of a task is there, as its name has an underscore. -/
lemma timeBucket_ne_empty {name : String} (h : Task.isName name = true) : timeBucket name ≠ "" := by
  simp only [Task.isName, Bool.and_eq_true, beq_iff_eq] at h
  obtain ⟨⟨⟨⟨⟨-, hunderscore⟩, -⟩, -⟩, -⟩, -⟩ := h
  have hcut : name.toList = name.toList.take 6 ++ '_' :: name.toList.drop 7 := by
    rw [← Task.drop_eq_cons hunderscore, List.take_append_drop]
  obtain ⟨date, dates, hdate⟩ :=
    List.exists_cons_of_ne_nil (Text.pieces_ne_nil '_' (name.toList.take 6))
  obtain ⟨time, times, htime⟩ :=
    List.exists_cons_of_ne_nil (Text.pieces_ne_nil '_' (name.toList.drop 7))
  -- so there are two pieces, and between them an underscore is kept
  have hpieces : ∃ first second rest, Text.split '_' name = first :: second :: rest := by
    rw [Text.split, hcut, Text.pieces_append, hdate, htime]
    cases dates with
    | nil => exact ⟨_, _, _, rfl⟩
    | cons date' dates => exact ⟨_, _, _, rfl⟩
  obtain ⟨first, second, rest, hsplit⟩ := hpieces
  intro hempty
  have hchars := congrArg String.toList hempty
  rw [timeBucket, hsplit, String.toList_intercalate] at hchars
  simp at hchars

/-- The primary dataset is one level, unless there is none and no stem either. -/
lemma primary_spec {dataset : Option String} {name : String}
    (hdataset : ∀ d ∈ dataset, Task.isDataset d = true) (hname : '/' ∉ name.toList) :
    '/' ∉ (primary dataset name).toList ∧
      (primary dataset name = "" → publicationStem name = "") := by
  cases dataset with
  | none => exact ⟨slash_not_mem_publicationStem hname, id⟩
  | some d =>
    have hd := hdataset d rfl
    rw [Task.isDataset] at hd
    split at hd
    · next first processed tier hsplit =>
      have hprimary : primary (some d) name = first := by
        rw [primary, hsplit]
        rfl
      have hmem : first ∈ Text.split '/' d := by simp [hsplit]
      obtain ⟨piece, hpiece, hfirst⟩ := List.mem_map.1 hmem
      simp only [List.all_cons, Bool.and_eq_true] at hd
      rw [hprimary]
      refine ⟨?_, fun hempty => absurd hempty (Text.isToken_iff.1 hd.1).1⟩
      rw [← hfirst, String.toList_ofList]
      exact Text.sep_not_mem_of_mem_pieces hpiece
    · cases hd

end LogicalPath

/-! ### Levels of the directories of a task -/

namespace Destinations

open LogicalPath

/-- The levels that are meant to be below the directory of the user. -/
def levels (t : Task) : List String :=
  segments t.arguments.lfnPrefix ++
    [primary t.inputDataset t.publishName, publicationStem t.publishName, timeBucket t.name]

/-- The levels that are below the directory of the user. -/
def levelsBelow (t : Task) : List String :=
  segments t.arguments.lfnPrefix ++
    ([primary t.inputDataset t.publishName, publicationStem t.publishName].filter (· ≠ "") ++
      segments (bare (timeBucket t.name)))

/-- The attributes of the task bring one level each, and the prefix none that is empty. -/
structure Regular (t : Task) : Prop where
  stem : ∀ suffix : String, t.publishName = "-" ++ suffix → '-' ∈ suffix.toList
  time : '/' ∉ (timeBucket t.name).toList
  segments : "" ∉ segments t.arguments.lfnPrefix

variable {r : TaskRecord} {t : Task}

lemma slash_not_mem_publishName (ht : t.Checked) : '/' ∉ t.publishName.toList := by
  have hpublish := ht.publishName
  simp only [Task.isOutputName, Bool.and_eq_true, List.all_eq_true] at hpublish
  intro hslash
  have hchar := hpublish.2 '/' hslash
  simp [Task.isOutputNameChar] at hchar

lemma publishName_ne_empty (ht : t.Checked) : t.publishName ≠ "" := by
  have hpublish := ht.publishName
  simp only [Task.isOutputName, Bool.and_eq_true, Bool.not_eq_true',
    String.isEmpty_eq_false_iff] at hpublish
  exact hpublish.1

lemma firstName_ne_empty (t : Task) : firstName t ≠ "" := by
  rw [ne_eq, ← String.toList_inj, toList_firstName]
  simp

lemma username_ne_empty (ht : t.Checked) : t.identity.username ≠ "" := by
  rw [ne_eq, ← String.toList_inj]
  exact username_ne_nil ht

lemma slash_not_mem_stem (ht : t.Checked) : '/' ∉ (publicationStem t.publishName).toList :=
  slash_not_mem_publicationStem (slash_not_mem_publishName ht)

lemma slash_not_mem_primary (ht : t.Checked) :
    '/' ∉ (primary t.inputDataset t.publishName).toList :=
  (primary_spec ht.dataset (slash_not_mem_publishName ht)).1

/-- There is a primary dataset if there is a stem. -/
lemma primary_ne_empty (ht : t.Checked) (hstem : publicationStem t.publishName ≠ "") :
    primary t.inputDataset t.publishName ≠ "" :=
  fun hempty => hstem ((primary_spec ht.dataset (slash_not_mem_publishName ht)).2 hempty)

lemma flatMap_parts (hr : Task.ofRecord r = .ok t) :
    (parts t).flatMap (fun part => segments (bare part)) = levelsBelow t := by
  have ht : t.Checked := Task.checked_of_ofRecord hr
  have hprefix : bare t.arguments.lfnPrefix = t.arguments.lfnPrefix :=
    bare_eq_self (Task.trimBy_lfnPrefix (Task.readArguments_of_ofRecord hr))
  rw [parts, levelsBelow]
  simp only [List.flatMap_cons, List.flatMap_nil, List.append_nil, hprefix,
    bare_of_slash_not_mem (slash_not_mem_primary ht), bare_of_slash_not_mem (slash_not_mem_stem ht),
    segments_of_slash_not_mem (slash_not_mem_primary ht),
    segments_of_slash_not_mem (slash_not_mem_stem ht), List.filter_cons, List.filter_nil,
    decide_not, Bool.not_eq_true', decide_eq_false_iff_not]
  split <;> split <;> simp_all

lemma split_join_parts (hr : Task.ofRecord r = .ok t) {root name : String}
    (hroot : steps [root] ≠ []) (hslash : '/' ∉ name.toList) (hname : name ≠ "") :
    Text.split '/' (join (root :: name :: parts t)) =
      "" :: (segments (bare root) ++ name :: levelsBelow t) := by
  rw [split_join (steps_cons_ne_nil hroot _), List.flatMap_cons, List.flatMap_cons, flatMap_parts hr,
    bare_of_slash_not_mem hslash, segments_of_slash_not_mem hslash, if_neg hname]
  rfl

/-- The directories of a task have the levels of a root, a name and its attributes. -/
lemma split_ofTask (hr : Task.ofRecord r = .ok t) :
    Text.split '/' (ofTask t).temp =
        "" :: (["store", "temp", "user", firstName t] ++ levelsBelow t) ∧
      Text.split '/' (ofTask t).dest =
        "" :: (["store", "user", t.identity.username] ++ levelsBelow t) := by
  have ht : t.Checked := Task.checked_of_ofRecord hr
  have htemp : segments (bare tempRoot) = ["store", "temp", "user"] := by decide
  have hfinal : segments (bare finalRoot) = ["store", "user"] := by decide
  have hfirst := split_join_parts hr (by decide : steps [tempRoot] ≠ [])
    (slash_not_mem_firstName ht) (firstName_ne_empty t)
  have hlast := split_join_parts hr (by decide : steps [finalRoot] ≠ [])
    (slash_not_mem_username ht) (username_ne_empty ht)
  rw [htemp] at hfirst
  rw [hfinal] at hlast
  exact ⟨hfirst, hlast⟩

/-- The levels are those that are meant if every attribute brings one. -/
lemma levelsBelow_eq_iff (ht : t.Checked) :
    levelsBelow t = levels t ↔
      publicationStem t.publishName ≠ "" ∧ '/' ∉ (timeBucket t.name).toList := by
  rw [levelsBelow, levels, List.append_cancel_left_eq]
  constructor
  · intro h
    have htime : '/' ∉ (timeBucket t.name).toList := by
      -- the last one that is meant would be one of the levels
      have hmem : timeBucket t.name ∈ segments (bare (timeBucket t.name)) ∨
          timeBucket t.name ∈ [primary t.inputDataset t.publishName,
            publicationStem t.publishName] := by
        have hmem : timeBucket t.name ∈ [primary t.inputDataset t.publishName,
            publicationStem t.publishName, timeBucket t.name] := by simp
        rw [← h, List.mem_append] at hmem
        exact hmem.symm.imp_right fun hmem => (List.mem_filter.1 hmem).1
      rcases hmem with hmem | hmem
      · exact slash_not_mem_of_mem_segments hmem
      · simp only [List.mem_cons, List.not_mem_nil, or_false] at hmem
        rcases hmem with hmem | hmem
        · rw [hmem]
          exact slash_not_mem_primary ht
        · rw [hmem]
          exact slash_not_mem_stem ht
    refine ⟨fun hstem => ?_, htime⟩
    have hlength := congrArg List.length h
    rw [bare_of_slash_not_mem htime, segments_of_slash_not_mem htime,
      if_neg (timeBucket_ne_empty ht.name), hstem, List.length_append] at hlength
    by_cases hprimary : primary t.inputDataset t.publishName = "" <;>
      simp [hprimary] at hlength
  · rintro ⟨hstem, htime⟩
    rw [bare_of_slash_not_mem htime, segments_of_slash_not_mem htime,
      if_neg (timeBucket_ne_empty ht.name)]
    simp [primary_ne_empty ht hstem, hstem]

/-- Below a root of levels that are not empty, the levels are those that are meant if and only if
the attributes of the task are regular. -/
lemma hasLevels_of_split (ht : t.Checked) {path : String} {above : List String}
    (hsplit : Text.split '/' path = "" :: (above ++ levelsBelow t)) (habove : "" ∉ above) :
    HasLevels path (above ++ levels t) ↔ Regular t := by
  have hpublish : publicationStem t.publishName ≠ "" ↔
      ∀ suffix : String, t.publishName = "-" ++ suffix → '-' ∈ suffix.toList := by
    rw [ne_eq, publicationStem_eq_empty_iff (publishName_ne_empty ht)]
    push Not
    rfl
  rw [HasLevels, hsplit, List.cons_inj_right, List.append_cancel_left_eq, levelsBelow_eq_iff ht,
    hpublish]
  constructor
  · rintro ⟨⟨hstem, htime⟩, hnonempty⟩
    refine ⟨hstem, htime, fun hempty => hnonempty "" ?_ rfl⟩
    rw [levels]
    simp [hempty]
  · rintro ⟨hstem, htime, hsegments⟩
    refine ⟨⟨hstem, htime⟩, fun level hlevel hempty => ?_⟩
    subst hempty
    rw [levels, List.mem_append, List.mem_append] at hlevel
    rcases hlevel with hlevel | hlevel | hlevel
    · exact habove hlevel
    · exact hsegments hlevel
    · simp only [List.mem_cons, List.not_mem_nil, or_false] at hlevel
      rcases hlevel with hlevel | hlevel | hlevel
      · exact primary_ne_empty ht (hpublish.2 hstem) hlevel.symm
      · exact hpublish.2 hstem hlevel.symm
      · exact timeBucket_ne_empty ht.name hlevel.symm

/-- **Levels of directories.**  For every record that is read, the levels of the directories of the
task are those of a root, the name of the user, the levels of the prefix, the primary dataset and
the stem, where these are left out if they are empty, and the levels of the time.  They are the ones
that are meant, each being one level that is not empty, if and only if the publication name is not a
hyphen with a suffix that has no hyphen, the time of the task holds no slash, and the prefix has no
empty level. -/
theorem hasLevels_iff (r : TaskRecord) (t : Task) (hr : Task.ofRecord r = .ok t) :
    (Text.split '/' (ofTask t).temp =
        "" :: (["store", "temp", "user", firstName t] ++ levelsBelow t) ∧
      Text.split '/' (ofTask t).dest =
        "" :: (["store", "user", t.identity.username] ++ levelsBelow t)) ∧
    (HasLevels (ofTask t).temp (["store", "temp", "user", firstName t] ++ levels t) ↔
      Regular t) ∧
    (HasLevels (ofTask t).dest (["store", "user", t.identity.username] ++ levels t) ↔
      Regular t) := by
  have ht : t.Checked := Task.checked_of_ofRecord hr
  have hsplit := split_ofTask hr
  exact ⟨hsplit, hasLevels_of_split ht hsplit.1 (by simp [(firstName_ne_empty t).symm]),
    hasLevels_of_split ht hsplit.2 (by simp [(username_ne_empty ht).symm])⟩

/-- A record with a prefix. -/
def prefixed (lfnPrefix : String) : TaskRecord :=
  TaskRecord.brief.set "tm_arguments" (.table [("lfnprefix", .text lfnPrefix)])

/-- A prefix of two levels, with slashes at its ends, brings these two. -/
theorem hasLevels_iff_prefixed :
    ∃ t, Task.ofRecord (prefixed "/a/b/") = .ok t ∧
      HasLevels (ofTask t).temp
        ["store", "temp", "user", firstName t, "a", "b", "ana", "ana", "130719_090932:x"] ∧
      HasLevels (ofTask t).dest
        ["store", "user", "j", "a", "b", "ana", "ana", "130719_090932:x"] := by
  have hread : (Task.ofRecord (prefixed "/a/b/")).toOption.map
      (fun t => (t.identity.username, t.publishName, timeBucket t.name,
        segments t.arguments.lfnPrefix, levels t)) =
      some ("j", "ana-1", "130719_090932:x", ["a", "b"],
        ["a", "b", "ana", "ana", "130719_090932:x"]) := by
    decide +kernel
  obtain ⟨t, ht, heq⟩ := exists_of_map_toOption hread
  simp only [Prod.mk.injEq] at heq
  obtain ⟨huser, hpublish, htime, hsegments, hlevels⟩ := heq
  have hregular : Regular t := by
    refine ⟨fun suffix hsuffix => ?_, by rw [htime]; decide, by rw [hsegments]; decide⟩
    rw [hpublish, ← String.toList_inj, String.toList_append] at hsuffix
    exact absurd (List.head_eq_of_cons_eq hsuffix) (by decide)
  obtain ⟨-, htemp, hdest⟩ := hasLevels_iff _ t ht
  rw [hlevels] at htemp hdest
  rw [huser] at hdest
  exact ⟨t, ht, htemp.2 hregular, hdest.2 hregular⟩

/-- The record is read, and the final directory of its task does not have the levels that are
meant. -/
def Deviates (r : TaskRecord) : Prop :=
  ∃ t, Task.ofRecord r = .ok t ∧
    ¬ HasLevels (ofTask t).dest (["store", "user", t.identity.username] ++ levels t)

lemma deviates_of_read {path user : String} {meant : List String}
    (h : (Task.ofRecord r).toOption.map (fun t =>
      ((ofTask t).dest, t.identity.username, levels t)) = some (path, user, meant))
    (hpath : ¬ HasLevels path (["store", "user", user] ++ meant)) : Deviates r := by
  obtain ⟨t, ht, heq⟩ := exists_of_map_toOption h
  simp only [Prod.mk.injEq] at heq
  refine ⟨t, ht, ?_⟩
  rw [heq.1, heq.2.1, heq.2.2]
  exact hpath

/-- Two levels are missing if the publication name is a hyphen and a suffix, there is one more if
the time holds a slash, and one is empty if two slashes follow each other in the prefix. -/
theorem not_hasLevels :
    Deviates (TaskRecord.brief.set "tm_publish_name" (.text "-1")) ∧
      Deviates (TaskRecord.brief.set "tm_taskname" (.text "130719_090932:a/b")) ∧
      Deviates (prefixed "a//b") := by
  refine ⟨?_, ?_, ?_⟩
  · have hread : (Task.ofRecord (TaskRecord.brief.set "tm_publish_name" (.text "-1"))).toOption.map
        (fun t => ((ofTask t).dest, t.identity.username, levels t)) =
        some ("/store/user/j/130719_090932:x", "j", ["", "", "130719_090932:x"]) := by
      decide +kernel
    exact deviates_of_read hread (by decide)
  · have hread : (Task.ofRecord
        (TaskRecord.brief.set "tm_taskname" (.text "130719_090932:a/b"))).toOption.map
        (fun t => ((ofTask t).dest, t.identity.username, levels t)) =
        some ("/store/user/j/ana/ana/130719_090932:a/b", "j",
          ["ana", "ana", "130719_090932:a/b"]) := by
      decide +kernel
    exact deviates_of_read hread (by decide)
  · have hread : (Task.ofRecord (prefixed "a//b")).toOption.map
        (fun t => ((ofTask t).dest, t.identity.username, levels t)) =
        some ("/store/user/j/a//b/ana/ana/130719_090932:x", "j",
          ["a", "", "b", "ana", "ana", "130719_090932:x"]) := by
      decide +kernel
    exact deviates_of_read hread (by decide)

end Destinations

end JobGraph
