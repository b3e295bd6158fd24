import JobGraph.Proofs.Plan.Outputs
import JobGraph.Proofs.Text.Words

/-!
# Tokens in plans

What a plan brings to the statements about its jobs are tokens: the names that the submitter gives,
as each of them has been checked in its own form; the directories, as they are joined from checked
names, numbers and digits; and what the jobs say about their data, as a group with any other name
in it is refused.

The main result is `Plan.tokens_of_plan_eq_ok`.
-/

namespace JobGraph

open Text (Plain isToken isTokenChar plain_append)

variable {s : String}

/-! ### Forms of names -/

namespace Task

lemma drop_eq_cons {α : Type} {l : List α} {a : α} {n : ℕ} (h : l[n]? = some a) :
    l.drop n = a :: l.drop (n + 1) := by
  obtain ⟨hlt, rfl⟩ := List.getElem?_eq_some_iff.1 h
  exact List.drop_eq_getElem_cons hlt

lemma isToken_of_isName (h : isName s = true) : isToken s = true := by
  simp only [isName, Bool.and_eq_true, List.all_eq_true, beq_iff_eq] at h
  obtain ⟨⟨⟨⟨⟨⟨-, hdate⟩, hunderscore⟩, -⟩, htime⟩, hcolon⟩, hrest⟩ := h
  have hplain := Text.plain_of_isToken hrest
  rw [Plain, String.toList_ofList] at hplain
  -- the name is its date, an underscore, its time, a colon and a token
  have hparts : s.toList =
      s.toList.take 6 ++ '_' :: ((s.toList.drop 7).take 6 ++ ':' :: s.toList.drop 14) := by
    have hback : (s.toList.drop 7).drop 6 = ':' :: s.toList.drop 14 := by
      rw [List.drop_drop]
      exact drop_eq_cons hcolon
    rw [← hback, List.take_append_drop, ← drop_eq_cons hunderscore, List.take_append_drop]
  refine Text.isToken_of_mem (List.mem_of_getElem? hunderscore) fun c hc => ?_
  rw [hparts, List.mem_append, List.mem_cons, List.mem_append, List.mem_cons] at hc
  rcases hc with hc | rfl | hc | rfl | hc
  · exact Text.isTokenChar_of_isDigit (hdate c hc)
  · decide
  · exact Text.isTokenChar_of_isDigit (htime c hc)
  · decide
  · exact hplain c hc

lemma isToken_of_isUsername (h : isUsername s = true) : isToken s = true := by
  simp only [isUsername, Bool.and_eq_true, Bool.not_eq_true', String.isEmpty_eq_false_iff,
    List.all_eq_true] at h
  refine Text.isToken_iff.2 ⟨h.1, fun c hc => ?_⟩
  have hchar := h.2 c hc
  simp only [isUsernameChar, Bool.or_eq_true, beq_iff_eq] at hchar
  rcases hchar with ((hchar | rfl) | rfl) | rfl
  · exact Text.isTokenChar_of_isAlphanum hchar
  all_goals decide

lemma isToken_of_isSiteName (h : isSiteName s = true) : isToken s = true := by
  rw [isSiteName] at h
  split at h
  · next tier a b name hs =>
    simp only [Bool.and_eq_true, List.all_eq_true, Bool.or_eq_true, beq_iff_eq,
      decide_eq_true_eq] at h
    obtain ⟨⟨⟨⟨⟨hlow, hhigh⟩, ha⟩, hb⟩, -⟩, hname⟩ := h
    have htier : isTokenChar tier = true := by
      have hl : 48 ≤ tier.toNat := hlow
      have hh : tier.toNat ≤ 51 := hhigh
      exact Text.isTokenChar_of_visible (by omega) (by omega) (by omega)
    have hupper : ∀ c : Char, c.isUpper = true → isTokenChar c = true := by
      intro c hc
      have halphanum : (c.isUpper || c.isLower || c.isDigit) = true := by simp [hc]
      exact Text.isTokenChar_of_isAlphanum halphanum
    refine Text.isToken_of_mem (c := 'T') (by simp [hs]) fun c hc => ?_
    simp only [hs, List.mem_cons] at hc
    rcases hc with rfl | rfl | rfl | rfl | rfl | rfl | hc
    · decide
    · exact htier
    · decide
    · exact hupper _ ha
    · exact hupper _ hb
    · decide
    · rcases hname c hc with (hchar | rfl) | rfl
      · exact Text.isTokenChar_of_isAlphanum hchar
      all_goals decide
  · cases h

lemma isToken_of_isOutputName (h : isOutputName s = true) : isToken s = true := by
  simp only [isOutputName, isOutputNameChar, Bool.and_eq_true, Bool.not_eq_true',
    String.isEmpty_eq_false_iff, List.all_eq_true] at h
  refine Text.isToken_iff.2 ⟨h.1, fun c hc => ?_⟩
  obtain ⟨⟨⟨⟨hblank, -⟩, hquote⟩, -⟩, -⟩ := h.2 c hc
  simp [isTokenChar, hblank, hquote]

lemma plain_of_isRelativePath (h : isRelativePath s = true) : Plain s := by
  simp only [isRelativePath, isPrefixChar, Bool.and_eq_true, List.all_eq_true, Bool.or_eq_true,
    beq_iff_eq] at h
  intro c hc
  rcases h.1 c hc with (((hchar | rfl) | rfl) | rfl) | rfl
  · exact Text.isTokenChar_of_isAlphanum hchar
  all_goals decide

end Task

/-! ### Directories -/

namespace LogicalPath

lemma plain_join {parts : List String} (h : ∀ part ∈ parts, Plain part) : Plain (join parts) := by
  rw [Text.plain_iff]
  intro c hc hmem
  rw [toList_join, ← Text.intercalate_eq_join, List.mem_cons] at hmem
  rcases hmem with rfl | hmem
  · revert hc
    decide
  · refine Text.not_mem_intercalate (by rw [List.mem_singleton]; rintro rfl; revert hc; decide)
      (fun step hstep => ?_) hmem
    -- a step holds no character that its part does not hold
    rw [steps, List.mem_filter, List.mem_map] at hstep
    obtain ⟨⟨part, hpart, rfl⟩, -⟩ := hstep
    exact fun hstep => (h part hpart).not_mem hc (Text.trimBy_subset _ _ hstep)

/-- A joined path is a token if its parts are plain, as it begins with a slash. -/
lemma isToken_join {parts : List String} (h : ∀ part ∈ parts, Plain part) :
    isToken (join parts) = true := by
  refine Text.isToken_of_mem (c := '/') ?_ (plain_join h)
  rw [toList_join]
  exact List.mem_cons_self

lemma plain_publicationStem {name : String} (h : Plain name) : Plain (publicationStem name) := by
  rw [publicationStem]
  split
  · next stem rest hcut =>
    refine h.of_subset ?_
    rw [String.toList_ofList, Text.eq_of_cutLast? hcut]
    exact List.subset_append_left _ _
  · exact h

lemma plain_timeBucket {name : String} (h : Plain name) : Plain (timeBucket name) := by
  refine Text.plain_intercalate (by decide) fun part hpart => ?_
  exact Text.plain_of_mem_split h (List.mem_of_mem_take hpart)

/-- The first name of a checked dataset. -/
lemma plain_primary {dataset : Option String} {name : String}
    (hdataset : ∀ d ∈ dataset, Task.isDataset d = true) (hname : Plain name) :
    Plain (primary dataset name) := by
  cases dataset with
  | none => exact plain_publicationStem hname
  | some d =>
    have hd := hdataset d rfl
    rw [Task.isDataset] at hd
    rw [primary]
    split at hd
    · next first processed tier hsplit =>
      rw [hsplit]
      simp only [List.all_cons, Bool.and_eq_true] at hd
      exact Text.plain_of_isToken hd.1
    · cases hd

lemma plain_userSpace (i : Identity) : Plain (userSpace i) := by
  rw [userSpace, Blake3.hash, Plain, String.toList_ofList]
  intro c hc
  obtain ⟨b, -, hc⟩ := List.mem_flatMap.1 hc
  exact Text.plain_hexByte b c hc

lemma plain_bucket (n : ℕ) : Plain (bucket n) := by
  obtain ⟨zeros, h⟩ := toList_bucket n
  intro c hc
  rw [h, List.mem_append] at hc
  rcases hc with hc | hc
  · rw [List.eq_of_mem_replicate hc]
    decide
  · exact Text.plain_toString (n / jobsPerBucket) c (by simpa using hc)

end LogicalPath

namespace Destinations

open LogicalPath

/-- The directories of a checked task are tokens. -/
lemma isToken_ofTask {t : Task} (ht : t.Checked) :
    isToken (ofTask t).temp = true ∧ isToken (ofTask t).dest = true := by
  have hname := Text.plain_of_isToken (Task.isToken_of_isName ht.name)
  have huser := Text.plain_of_isToken (Task.isToken_of_isUsername ht.username)
  have hpublish := Text.plain_of_isToken (Task.isToken_of_isOutputName ht.publishName)
  have hbelow : ∀ part ∈ [t.arguments.lfnPrefix, primary t.inputDataset t.publishName,
      publicationStem t.publishName, timeBucket t.name], Plain part := by
    simp only [List.forall_mem_cons, List.not_mem_nil, false_imp_iff, implies_true, and_true]
    exact ⟨Task.plain_of_isRelativePath ht.lfnPrefix, plain_primary ht.dataset hpublish,
      plain_publicationStem hpublish, plain_timeBucket hname⟩
  have hspace : Plain s!"{t.identity.username}.{userSpace t.identity}" := by
    have happend : s!"{t.identity.username}.{userSpace t.identity}" =
        t.identity.username ++ "." ++ userSpace t.identity := rfl
    rw [happend, plain_append, plain_append]
    exact ⟨⟨huser, by decide⟩, plain_userSpace _⟩
  refine ⟨isToken_join ?_, isToken_join ?_⟩
  · exact List.forall_mem_cons.2 ⟨by decide, List.forall_mem_cons.2 ⟨hspace, hbelow⟩⟩
  · exact List.forall_mem_cons.2 ⟨by decide, List.forall_mem_cons.2 ⟨huser, hbelow⟩⟩

/-- So are those of its jobs. -/
lemma isToken_forJob {d : Destinations} (h : isToken d.temp = true ∧ isToken d.dest = true)
    (n : ℕ) : isToken (d.forJob n).temp = true ∧ isToken (d.forJob n).dest = true := by
  have hjoin : ∀ dir, isToken dir = true → isToken (join [dir, bucket n]) = true := by
    intro dir hdir
    refine isToken_join ?_
    simpa using ⟨Text.plain_of_isToken hdir, plain_bucket n⟩
  exact ⟨hjoin _ h.1, hjoin _ h.2⟩

end Destinations

/-! ### Names of files -/

/-- The name of an output is a token also with the number of its job. -/
lemma OutputName.isToken_remoteName {name : String} (h : isToken name = true) (n : ℕ) :
    isToken (remoteName name n) = true := by
  have hplain := Text.plain_of_isToken h
  have hnumbered : ∀ stem : List Char, (∀ c ∈ stem, isTokenChar c = true) →
      ∀ c ∈ numbered stem n, isTokenChar c = true := by
    intro stem hstem c hc
    rw [numbered, List.mem_append, List.mem_cons] at hc
    rcases hc with hc | rfl | hc
    · exact hstem c hc
    · decide
    · exact Text.plain_toString n c (by simpa using hc)
  refine Text.isToken_iff.2 ⟨?_, ?_⟩
  · intro hempty
    exact remoteName_ne_nil name n (by rw [hempty]; rfl)
  · rw [Plain, toList_remoteName, renamed]
    split
    · next stem ext hcut =>
      rw [Plain, Text.eq_of_cutLast? hcut, List.forall_mem_append, List.forall_mem_cons] at hplain
      rw [List.forall_mem_append, List.forall_mem_cons]
      exact ⟨hnumbered stem hplain.1, hplain.2⟩
    · exact hnumbered _ hplain

lemma PlannedJob.isToken_logName (s : PlannedJob) : isToken s.logName = true := by
  have hname : s.logName = "cmsRun_" ++ toString s.sequence ++ ".log.tar.gz" := rfl
  rw [hname]
  refine Text.isToken_of_mem (c := 'c') (by simp) ?_
  rw [plain_append, plain_append]
  exact ⟨⟨by decide, Text.plain_toString _⟩, by decide⟩

/-! ### Jobs -/

/-- What a job brings to its statements is made of tokens. -/
structure PlannedJob.Tokens (s : PlannedJob) : Prop where
  block : isToken s.block = true
  inputFile : ∀ f ∈ s.inputFiles, isToken f = true
  here : ∀ o ∈ s.outputs, isToken o.here = true
  remote : ∀ o ∈ s.outputs, isToken o.remote = true
  temp : isToken s.directories.temp = true
  dest : isToken s.directories.dest = true

/-- Nothing is said about URLs. -/
lemma PlannedJob.Tokens.setUrls {s : PlannedJob} (h : s.Tokens) (urls : List String) :
    ({ s with urls } : PlannedJob).Tokens :=
  ⟨h.block, h.inputFile, h.here, h.remote, h.temp, h.dest⟩

namespace JobGroup

lemma isToken_of_badInput? {group job : ℕ} {jobs : List Job}
    (h : badInput? group job jobs = none) :
    ∀ j ∈ jobs, ∀ f ∈ j.inputFiles, isToken f = true := by
  induction jobs generalizing job with
  | nil => simp
  | cons j jobs ih =>
    rw [badInput?] at h
    split at h
    · cases h
    · next hfind =>
      rw [List.find?_eq_none] at hfind
      exact List.forall_mem_cons.2 ⟨fun f hf => by simpa using hfind f hf, ih h⟩

/-- In a group without defect, the block and the files that jobs read are tokens. -/
lemma isToken_of_defect? {g : JobGroup} {index : ℕ} (h : g.defect? index = none) :
    isToken g.block.name = true ∧ ∀ j ∈ g.jobs, ∀ f ∈ j.inputFiles, isToken f = true := by
  rw [defect?] at h
  split at h
  · cases h
  · next hblock =>
    split at h
    · cases h
    · exact ⟨by simpa using hblock, isToken_of_badInput? h⟩

end JobGroup

namespace Plan

/-- Every job of a plan carries a job of a group whose names are tokens. -/
lemma exists_carries {c : Compiler} {r : Request} {p : Plan} (h : c.plan r = .ok p) {s : PlannedJob}
    (hs : s ∈ p.jobs) :
    ∃ g job, Carries c.rules p.task (g, job) s ∧ job ∈ g.jobs ∧ ∃ index, g.defect? index = none := by
  obtain ⟨hnone, hacc⟩ := accounts_of_plan_eq_ok h
  obtain ⟨i, hi, rfl⟩ := List.mem_iff_getElem.1 hs
  have hlen : (entries r.groups).length = p.jobs.length := hacc.carried.length_eq
  have hcarry := hacc.carried.get (by omega) hi
  have hmem := List.getElem_mem (l := entries r.groups) (n := i) (by omega)
  obtain ⟨g, hg, hjob⟩ := List.mem_flatMap.1 hmem
  obtain ⟨job, hjob, heq⟩ := List.mem_map.1 hjob
  obtain ⟨index, hindex⟩ := List.mem_iff_getElem?.1 hg
  have hzip : (g, index) ∈ r.groups.zipIdx := List.mem_zipIdx_iff_getElem?.2 hindex
  refine ⟨g, job, ?_, hjob, index, (not_groupFails_iff.1 (hnone (g, index) hzip)).1⟩
  rw [heq]
  exact hcarry

/-- **What plans write are tokens.** -/
theorem tokens_of_plan_eq_ok {c : Compiler} {r : Request} {p : Plan} (h : c.plan r = .ok p) :
    ∀ s ∈ p.jobs, s.Tokens := by
  have ht : p.task.Checked := Task.checked_of_ofRecord (of_plan_eq_ok h).1
  intro s hs
  obtain ⟨g, job, hcarry, hjob, index, hdefect⟩ := exists_carries h hs
  obtain ⟨hblock, hinput⟩ := JobGroup.isToken_of_defect? hdefect
  have hmade := (isMade_of_plan_eq_ok h).1 s hs
  have houtput : ∀ name ∈ p.task.outputs.all, isToken name = true := fun name hname =>
    Task.isToken_of_isOutputName (ht.outputName name hname)
  have hdirectories := Destinations.isToken_forJob (Destinations.isToken_ofTask ht) s.sequence
  rw [← hmade.directories] at hdirectories
  exact
    { block := by rw [hcarry.block]; exact hblock
      inputFile := by rw [hcarry.inputFiles]; exact hinput job hjob
      here := by
        rw [hmade.outputs, List.forall_mem_map]
        exact houtput
      remote := by
        rw [hmade.outputs, List.forall_mem_map]
        exact fun name hname => OutputName.isToken_remoteName (houtput name hname) _
      temp := hdirectories.1
      dest := hdirectories.2 }

/-- The jobs of a plan with URLs for their files, which are chosen by the number of the job. -/
def placed (p : Plan) (urls : ℕ → List String) : List PlannedJob :=
  p.jobs.map fun s => { s with urls := urls s.sequence }

lemma tokens_of_mem_placed {c : Compiler} {r : Request} {p : Plan} (h : c.plan r = .ok p)
    {urls : ℕ → List String} : ∀ s ∈ p.placed urls, s.Tokens := by
  intro s hs
  obtain ⟨s, hmem, rfl⟩ := List.mem_map.1 hs
  exact (tokens_of_plan_eq_ok h s hmem).setUrls _

/-- The jobs are numbered from one. -/
lemma map_sequence_placed {c : Compiler} {r : Request} {p : Plan} (h : c.plan r = .ok p)
    (urls : ℕ → List String) :
    (p.placed urls).map (·.sequence) = List.range' 1 (p.placed urls).length := by
  rw [placed, List.map_map, List.length_map]
  exact map_sequence_jobs h

end Plan

end JobGraph
