import Mathlib.Data.List.DropRight
import JobGraph.Proofs.Compilation.WorkingDirectory
import JobGraph.Proofs.Plan.Outputs

/-!
# Directories of users

The directories of a job are the directory of the task's user, at first and in the end, and what
four attributes of the task and the number of the job bring below it.  Slashes at the ends of what
an attribute brings get lost, and so a piece of the whole path is one of the user's directory, of an
attribute or of the bucket.

If no piece is made of dots alone, the path leads to something below the directory of the user.  But
it is only the prefix for which two dots are refused: a name of a user, a dataset, a publication
name and a task's name may bring them in, and then the path may lead to the directory of somebody
else.  The main result is `Destinations.undotted_forJob_iff`; what it does not promise is in
`Destinations.not_undotted_forJob`.
-/

namespace JobGraph

/-! ### Pieces and the slashes around them -/

namespace Text

variable {sep : Char} {q : List Char}

lemma mem_pieces_dropWhile (hq : q ≠ []) (s : List Char) :
    q ∈ pieces sep (s.dropWhile (· == sep)) ↔ q ∈ pieces sep s := by
  induction s with
  | nil => rfl
  | cons c s ih =>
    by_cases hc : c = sep
    · rw [List.dropWhile_cons_of_pos (by simpa using hc), ih, pieces, if_pos hc, List.mem_cons]
      simp [hq]
    · rw [List.dropWhile_cons_of_neg (by simpa using hc)]

lemma mem_pieces_rdropWhile (hq : q ≠ []) (s : List Char) :
    q ∈ pieces sep (s.rdropWhile (· == sep)) ↔ q ∈ pieces sep s := by
  induction s using List.reverseRecOn with
  | nil => rfl
  | append_singleton s c ih =>
    by_cases hc : c = sep
    · subst hc
      rw [List.rdropWhile_concat_pos _ _ _ (by simp), ih, pieces_append, List.mem_append]
      simp [pieces, hq]
    · rw [List.rdropWhile_concat_neg _ _ _ (by simpa using hc)]

/-- Without the separators at its ends, a text has the same pieces, but for empty ones. -/
lemma mem_pieces_trimBy (hq : q ≠ []) (s : List Char) :
    q ∈ pieces sep (trimBy (· == sep) s) ↔ q ∈ pieces sep s := by
  have htrim : trimBy (· == sep) s = (s.dropWhile (· == sep)).rdropWhile (· == sep) := rfl
  rw [htrim, mem_pieces_rdropWhile hq, mem_pieces_dropWhile hq]

end Text

/-! ### Parts of logical paths -/

namespace LogicalPath

/-- No piece of the path is made of dots alone: none stays where it is, and none leads back. -/
def Undotted (path : String) : Prop :=
  ∀ piece ∈ Text.split '/' path, piece ≠ "." ∧ piece ≠ ".."

instance (path : String) : Decidable (Undotted path) :=
  inferInstanceAs (Decidable (∀ piece ∈ Text.split '/' path, piece ≠ "." ∧ piece ≠ ".."))

lemma undotted_iff {path : String} :
    Undotted path ↔ ∀ piece ∈ Text.pieces '/' path.toList, piece ≠ ['.'] ∧ piece ≠ ['.', '.'] := by
  have hof : ∀ (piece : List Char) (s : String), String.ofList piece = s ↔ piece = s.toList := by
    intro piece s
    rw [← String.toList_inj, String.toList_ofList]
  rw [Undotted, Text.split, List.forall_mem_map]
  simp only [ne_eq, hof]
  rfl

/-- The pieces of joined parts are those of the parts, but for empty ones. -/
lemma mem_pieces_join {q : List Char} (hq : q ≠ []) (parts : List String) :
    q ∈ Text.pieces '/' (Text.join '/' (steps parts)) ↔
      ∃ part ∈ parts, q ∈ Text.pieces '/' part.toList := by
  -- a part that is left out has empty pieces only
  have hsteps : (∃ step ∈ steps parts, q ∈ Text.pieces '/' step) ↔
      ∃ part ∈ parts, q ∈ Text.pieces '/' part.toList := by
    constructor
    · rintro ⟨step, hstep, hmem⟩
      rw [steps, List.mem_filter, List.mem_map] at hstep
      obtain ⟨⟨part, hpart, rfl⟩, -⟩ := hstep
      exact ⟨part, hpart, (Text.mem_pieces_trimBy hq _).1 hmem⟩
    · rintro ⟨part, hpart, hmem⟩
      have hstep := (Text.mem_pieces_trimBy hq part.toList).2 hmem
      refine ⟨Text.trimBy (· == '/') part.toList, ?_, hstep⟩
      rw [steps, List.mem_filter]
      refine ⟨List.mem_map_of_mem hpart, ?_⟩
      cases htrim : Text.trimBy (· == '/') part.toList with
      | nil =>
        rw [htrim] at hstep
        exact absurd (List.mem_singleton.1 hstep) hq
      | cons c step => rfl
  rw [← hsteps]
  by_cases hnil : steps parts = []
  · simp [hnil, Text.join, Text.pieces, hq]
  · rw [Text.pieces_join hnil, List.mem_flatMap]

/-- Joined parts have pieces of dots alone only if one of the parts has. -/
lemma undotted_join_iff (parts : List String) :
    (∀ piece ∈ Text.pieces '/' (Text.join '/' (steps parts)),
      piece ≠ ['.'] ∧ piece ≠ ['.', '.']) ↔ ∀ part ∈ parts, Undotted part := by
  simp only [undotted_iff]
  constructor
  · intro h part hpart piece hpiece
    by_cases hnil : piece = []
    · simp [hnil]
    · exact h piece ((mem_pieces_join hnil parts).2 ⟨part, hpart, hpiece⟩)
  · intro h piece hpiece
    by_cases hnil : piece = []
    · simp [hnil]
    · obtain ⟨part, hpart, hmem⟩ := (mem_pieces_join hnil parts).1 hpiece
      exact h part hpart piece hmem

/-- What parts bring behind a directory has no dots of its own. -/
lemma undotted_append_join (home : String) (parts : List String) :
    Undotted (home ++ join parts) ↔ Undotted home ∧ ∀ part ∈ parts, Undotted part := by
  rw [undotted_iff, undotted_iff, ← undotted_join_iff, String.toList_append, toList_join,
    Text.pieces_append, List.forall_mem_append]

lemma undotted_append_slash (home name : String) :
    Undotted (home ++ "/" ++ name) ↔ Undotted home ∧ Undotted name := by
  have htext : (home ++ "/" ++ name).toList = home.toList ++ '/' :: name.toList := by
    rw [String.toList_append, String.toList_append, List.append_assoc]
    rfl
  rw [undotted_iff, undotted_iff, undotted_iff, htext, Text.pieces_append, List.forall_mem_append]

/-- Pieces that are not made of dots alone are names, but for empty ones. -/
lemma filterMap_componentOf? {pieces : List (List Char)}
    (h : ∀ piece ∈ pieces, piece ≠ ['.'] ∧ piece ≠ ['.', '.']) :
    pieces.filterMap Path.componentOf? =
      ((pieces.filter (· ≠ [])).map String.ofList).map Component.name := by
  induction pieces with
  | nil => rfl
  | cons piece pieces ih =>
    rw [List.forall_mem_cons] at h
    obtain ⟨⟨hdot, hdots⟩, hrest⟩ := h
    by_cases hnil : piece = []
    · simp [Path.componentOf?, hnil, ih hrest]
    · simp [Path.componentOf?, hnil, hdot, hdots, ih hrest]

/-- Parts without dots lead below a directory, if there is anything in them. -/
lemma holds_append_join {home : String} {parts : List String} (hhome : home.toList ≠ [])
    (hparts : ∀ part ∈ parts, Undotted part)
    (hname : ∃ part ∈ parts, ∃ piece ∈ Text.pieces '/' part.toList, piece ≠ []) :
    (⟨home⟩ : Path).Holds ⟨home ++ join parts⟩ := by
  set pieces := Text.pieces '/' (Text.join '/' (steps parts)) with hpieces
  have hundotted : ∀ piece ∈ pieces, piece ≠ ['.'] ∧ piece ≠ ['.', '.'] :=
    (undotted_join_iff parts).2 hparts
  have hnames : (pieces.filter (· ≠ [])).map String.ofList ≠ [] := by
    obtain ⟨part, hpart, piece, hpiece, hnil⟩ := hname
    have hmem : piece ∈ pieces := (mem_pieces_join hnil parts).2 ⟨part, hpart, hpiece⟩
    have hkept : piece ∈ pieces.filter (· ≠ []) := List.mem_filter.2 ⟨hmem, by simpa using hnil⟩
    exact List.ne_nil_of_mem (List.mem_map_of_mem hkept)
  have htext : home ++ join parts = String.ofList
      (home.toList ++ '/' :: (String.ofList (Text.join '/' (steps parts))).toList) := by
    rw [← String.toList_inj, String.toList_append, toList_join, String.toList_ofList,
      String.toList_ofList]
  refine Path.Holds.of_components hnames ?_
  rw [htext, Path.components_append_slash, Path.components_slash hhome, String.ofList_toList,
    Path.steps, String.toList_ofList, ← hpieces, filterMap_componentOf? hundotted]

/-- The bucket of a job is one piece, of digits. -/
lemma pieces_bucket (n : ℕ) : Text.pieces '/' (bucket n).toList = [(bucket n).toList] :=
  Text.pieces_eq_singleton (slash_not_mem_bucket n)

lemma undotted_bucket (n : ℕ) : Undotted (bucket n) := by
  have hdot : '.' ∉ (bucket n).toList := by
    obtain ⟨zeros, h⟩ := toList_bucket n
    rw [h, List.mem_append, not_or]
    refine ⟨fun hmem => ?_, Text.not_mem_toDigits (by decide) _⟩
    have hzero := List.eq_of_mem_replicate hmem
    simp at hzero
  rw [undotted_iff, pieces_bucket]
  intro piece hpiece
  rw [List.mem_singleton.1 hpiece]
  refine ⟨fun heq => hdot ?_, fun heq => hdot ?_⟩
  all_goals
    rw [heq]
    exact List.mem_cons_self

/-- A name without slashes is its only piece. -/
lemma undotted_of_slash_not_mem {name : String} (hs : '/' ∉ name.toList) :
    Undotted name ↔ name ≠ "." ∧ name ≠ ".." := by
  rw [Undotted, Text.split_eq_singleton hs]
  simp

/-- A root, a name and parts, of which some are kept, are joined one after another. -/
lemma join_below {root name : String} {parts : List String} (hroot : join [root] = root)
    (hsteps : steps [root] ≠ []) (hname : Bare name.toList) (hparts : steps parts ≠ []) :
    join (root :: name :: parts) = root ++ "/" ++ name ++ join parts := by
  have hbare := steps_singleton hname
  have hbelow : steps ([name] ++ parts) ≠ [] := by
    rw [steps_append, hbare]
    simp
  have hcons : root :: name :: parts = [root] ++ ([name] ++ parts) := rfl
  rw [hcons, join_append hsteps hbelow, join_append (by simp [hbare]) hparts, hroot,
    join_singleton hname, String.append_assoc, String.append_assoc, String.append_assoc]

/-- The hash of a submitter has 64 digits. -/
lemma length_userSpace (i : Identity) : (userSpace i).toList.length = 64 := by
  rw [userSpace, Blake3.hash, String.toList_ofList]
  simp [List.length_flatMap, Text.hexByte, Blake3.wordBytes]

lemma slash_not_mem_userSpace (i : Identity) : '/' ∉ (userSpace i).toList := by
  have hdigit : ∀ n < 16, n.digitChar ≠ '/' := by decide
  rw [userSpace, Blake3.hash, String.toList_ofList, List.mem_flatMap]
  rintro ⟨b, -, hb⟩
  have hlt := b.toNat_lt
  rw [Text.hexByte, List.mem_cons, List.mem_singleton] at hb
  rcases hb with hb | hb
  · exact hdigit _ (by omega) hb.symm
  · exact hdigit _ (by omega) hb.symm

end LogicalPath

/-! ### Directories of jobs -/

namespace Destinations

open LogicalPath

/-- The name of the directory of the task's user for outputs at first. -/
def firstName (t : Task) : String :=
  s!"{t.identity.username}.{userSpace t.identity}"

/-- The directory of the task's user for outputs at first. -/
def firstHome (t : Task) : String :=
  tempRoot ++ "/" ++ firstName t

/-- The directory of the task's user for outputs in the end. -/
def finalHome (t : Task) : String :=
  finalRoot ++ "/" ++ t.identity.username

/-- What the attributes of a task bring below the directory of its user. -/
def parts (t : Task) : List String :=
  [t.arguments.lfnPrefix, primary t.inputDataset t.publishName, publicationStem t.publishName,
    timeBucket t.name]

variable {t : Task}

lemma slash_not_mem_username (ht : t.Checked) : '/' ∉ t.identity.username.toList := by
  have huser := ht.username
  simp only [Task.isUsername, Bool.and_eq_true, List.all_eq_true] at huser
  intro hc
  have hchar := huser.2 '/' hc
  revert hchar
  decide

lemma username_ne_nil (ht : t.Checked) : t.identity.username.toList ≠ [] := by
  have huser := ht.username
  simp only [Task.isUsername, Bool.and_eq_true, Bool.not_eq_true', String.isEmpty_eq_false_iff]
    at huser
  intro hnil
  exact huser.1 (String.toList_inj.1 hnil)

lemma toList_firstName (t : Task) : (firstName t).toList =
    t.identity.username.toList ++ '.' :: (userSpace t.identity).toList := by
  have happend : firstName t = t.identity.username ++ "." ++ userSpace t.identity := rfl
  rw [happend, String.toList_append, String.toList_append, List.append_assoc]
  rfl

lemma slash_not_mem_firstName (ht : t.Checked) : '/' ∉ (firstName t).toList := by
  rw [toList_firstName, List.mem_append, List.mem_cons, not_or, not_or]
  exact ⟨slash_not_mem_username ht, by decide, slash_not_mem_userSpace _⟩

/-- The name of the first directory is too long to be dots alone. -/
lemma undotted_firstName (ht : t.Checked) : Undotted (firstName t) := by
  have hlength : 64 < (firstName t).toList.length := by
    rw [toList_firstName, List.length_append, List.length_cons, length_userSpace]
    omega
  rw [undotted_of_slash_not_mem (slash_not_mem_firstName ht)]
  constructor
  · intro heq
    rw [heq] at hlength
    exact absurd hlength (by decide)
  · intro heq
    rw [heq] at hlength
    exact absurd hlength (by decide)

/-- The directories of a job are the directories of its user and what is joined below. -/
lemma forJob_ofTask (ht : t.Checked) (n : ℕ) :
    ((ofTask t).forJob n).temp = firstHome t ++ join (parts t ++ [bucket n]) ∧
      ((ofTask t).forJob n).dest = finalHome t ++ join (parts t ++ [bucket n]) := by
  have hbelow : steps (parts t ++ [bucket n]) ≠ [] := by
    rw [steps_append, steps_singleton (bare_bucket n)]
    simp
  have hfirst : Bare (firstName t).toList := by
    refine .of_slash_not_mem ?_ (slash_not_mem_firstName ht)
    rw [toList_firstName]
    simp
  have hfinal : Bare t.identity.username.toList :=
    .of_slash_not_mem (username_ne_nil ht) (slash_not_mem_username ht)
  have htemp : ((ofTask t).forJob n).temp =
      join (tempRoot :: firstName t :: (parts t ++ [bucket n])) :=
    join_join (tempRoot :: firstName t :: parts t) [bucket n]
  have hdest : ((ofTask t).forJob n).dest =
      join (finalRoot :: t.identity.username :: (parts t ++ [bucket n])) :=
    join_join (finalRoot :: t.identity.username :: parts t) [bucket n]
  rw [htemp, hdest]
  exact ⟨join_below (by decide) (by decide) hfirst hbelow,
    join_below (by decide) (by decide) hfinal hbelow⟩

/-- **Directories of users.**  For every record that is read, the directories of a job are the
directory of the task's user at first and in the end, and the same parts joined below.  The first
one has no piece that is a dot or two dots if and only if no attribute brings one in; and the final
one if and only if, besides, the name of the user is not such a piece itself.  And a path without
such pieces leads to something below the directory of the user. -/
theorem undotted_forJob_iff (r : TaskRecord) (t : Task) (hr : Task.ofRecord r = .ok t) (n : ℕ) :
    let d := (ofTask t).forJob n
    (d.temp = firstHome t ++ join (parts t ++ [bucket n]) ∧
      d.dest = finalHome t ++ join (parts t ++ [bucket n])) ∧
    (Undotted d.temp ↔ ∀ part ∈ parts t, Undotted part) ∧
    (Undotted d.dest ↔ t.identity.username ≠ "." ∧ t.identity.username ≠ ".." ∧
      ∀ part ∈ parts t, Undotted part) ∧
    (Undotted d.temp → (⟨firstHome t⟩ : Path).Holds ⟨d.temp⟩) ∧
    (Undotted d.dest → (⟨finalHome t⟩ : Path).Holds ⟨d.dest⟩) := by
  intro d
  have ht : t.Checked := Task.checked_of_ofRecord hr
  obtain ⟨htemp, hdest⟩ := forJob_ofTask ht n
  have hparts : (∀ part ∈ parts t ++ [bucket n], Undotted part) ↔
      ∀ part ∈ parts t, Undotted part := by
    rw [List.forall_mem_append]
    simp [undotted_bucket]
  have hname : ∃ part ∈ parts t ++ [bucket n],
      ∃ piece ∈ Text.pieces '/' part.toList, piece ≠ [] := by
    refine ⟨bucket n, by simp, (bucket n).toList, ?_, bucket_ne_nil n⟩
    rw [pieces_bucket]
    exact List.mem_singleton_self _
  have hfirst : Undotted (firstHome t) := by
    have hroot : Undotted tempRoot := by decide
    rw [firstHome, undotted_append_slash]
    exact ⟨hroot, undotted_firstName ht⟩
  have hfinal : Undotted (finalHome t) ↔
      t.identity.username ≠ "." ∧ t.identity.username ≠ ".." := by
    have hroot : Undotted finalRoot := by decide
    rw [finalHome, undotted_append_slash, ← undotted_of_slash_not_mem (slash_not_mem_username ht)]
    exact and_iff_right hroot
  refine ⟨⟨htemp, hdest⟩, ?_, ?_, fun h => ?_, fun h => ?_⟩
  · rw [htemp, undotted_append_join, hparts]
    exact and_iff_right hfirst
  · rw [hdest, undotted_append_join, hparts, hfinal, and_assoc]
  · rw [htemp, undotted_append_join] at h
    rw [htemp]
    exact holds_append_join (by simp [firstHome]) h.2 hname
  · rw [hdest, undotted_append_join] at h
    rw [hdest]
    exact holds_append_join (by simp [finalHome]) h.2 hname

/-- A record with a dataset. -/
def reading (dataset : String) : TaskRecord :=
  TaskRecord.brief.set "tm_input_dataset" (.text dataset)

/-- The thousandth job of a task has its directories below those of its user. -/
theorem undotted_forJob_iff_reading :
    ∃ t, Task.ofRecord (reading "/GenericTTbar/Run2012A-v1/AOD") = .ok t ∧
      ((ofTask t).forJob 1000).dest = "/store/user/j/GenericTTbar/ana/130719_090932:x/0001" ∧
      (⟨firstHome t⟩ : Path).Holds ⟨((ofTask t).forJob 1000).temp⟩ ∧
      (⟨finalHome t⟩ : Path).Holds ⟨((ofTask t).forJob 1000).dest⟩ := by
  have hread : (Task.ofRecord (reading "/GenericTTbar/Run2012A-v1/AOD")).toOption.map
      (fun t => (((ofTask t).forJob 1000).dest, t.identity.username, parts t)) =
      some ("/store/user/j/GenericTTbar/ana/130719_090932:x/0001", "j",
        ["", "GenericTTbar", "ana", "130719_090932:x"]) := by
    decide +kernel
  obtain ⟨t, ht, heq⟩ := exists_of_map_toOption hread
  simp only [Prod.mk.injEq] at heq
  obtain ⟨hdest, huser, hparts⟩ := heq
  obtain ⟨-, hfirst, hfinal, hholds, hholds'⟩ := undotted_forJob_iff _ t ht 1000
  have hundotted : ∀ part ∈ parts t, Undotted part := by
    rw [hparts]
    decide
  have hname : t.identity.username ≠ "." ∧ t.identity.username ≠ ".." := by
    rw [huser]
    decide
  exact ⟨t, ht, hdest, hholds (hfirst.2 hundotted), hholds' (hfinal.2 ⟨hname.1, hname.2, hundotted⟩)⟩

/-- There are records that are read and whose final directories are outside of the directory of the
user, or have two dots for the name of the user. -/
theorem not_undotted_forJob :
    (∃ t, Task.ofRecord (reading "/../Run2012A-v1/AOD") = .ok t ∧
      ¬ Undotted ((ofTask t).forJob 1).dest ∧
      ¬ (⟨finalHome t⟩ : Path).Holds ⟨((ofTask t).forJob 1).dest⟩) ∧
    ∃ t, Task.ofRecord (TaskRecord.brief.set "tm_username" (.text "..")) = .ok t ∧
      ¬ Undotted ((ofTask t).forJob 1).dest := by
  have hdataset : (Task.ofRecord (reading "/../Run2012A-v1/AOD")).toOption.map
      (fun t => (finalHome t, ((ofTask t).forJob 1).dest)) =
      some ("/store/user/j", "/store/user/j/../ana/130719_090932:x/0000") := by
    decide +kernel
  have husername :
      (Task.ofRecord (TaskRecord.brief.set "tm_username" (.text ".."))).toOption.map
        (fun t => ((ofTask t).forJob 1).dest) =
      some "/store/user/../ana/ana/130719_090932:x/0000" := by
    decide +kernel
  obtain ⟨t, ht, heq⟩ := exists_of_map_toOption hdataset
  obtain ⟨t', ht', heq'⟩ := exists_of_map_toOption husername
  simp only [Prod.mk.injEq] at heq
  refine ⟨⟨t, ht, ?_, ?_⟩, t', ht', ?_⟩
  · rw [heq.2]
    decide
  · -- resolved, the fourth step is the stem of the publication name
    rw [heq.1, heq.2]
    rintro ⟨names, -, hresolved⟩
    have hother : (⟨"/store/user/j/../ana/130719_090932:x/0000"⟩ : Path).resolved[3]? =
        some (.name "ana") := by decide +kernel
    have hhome : (⟨"/store/user/j"⟩ : Path).resolved =
        [.root, .name "store", .name "user", .name "j"] := by decide +kernel
    rw [hresolved, hhome] at hother
    simp at hother
  · rw [heq']
    decide

end Destinations

end JobGraph
