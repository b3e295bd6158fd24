import Mathlib.Data.List.Nodup
import JobGraph.Proofs.LogicalPath.Joining
import JobGraph.Proofs.Plan.Numbering
import JobGraph.Proofs.Task.Checks

/-!
# The files of a task at their destination

Every job brings the archive of its logs and its outputs to a directory that it may share with other
jobs of its task.  Their names hold the number of the job, and so no two of them are the same: the
number stands behind the last underscore before the extension, where no underscore of the name
itself can be mistaken for it, and the archives are a directory further down.

The main result is `Plan.logicalPaths_nodup`.
-/

namespace JobGraph

/-! ### Names with numbers -/

namespace OutputName

/-- A text with an underscore and a number behind it. -/
def numbered (stem : List Char) (n : Nat) : List Char :=
  stem ++ '_' :: Nat.toDigits 10 n

/-- The characters of a name with a number before its extension. -/
def renamed (name : List Char) (n : Nat) : List Char :=
  match Text.cutLast? '.' name with
  | some (stem, ext) => numbered stem n ++ '.' :: ext
  | none => numbered name n

/-- The number can be read back: it has no underscore. -/
lemma numbered_inj {s t : List Char} {a b : Nat} (h : numbered s a = numbered t b) :
    s = t ∧ a = b := by
  have hnot := Text.not_mem_toDigits (c := '_') (by decide)
  -- so the last underscore is the one in front of the number
  obtain ⟨hstem, hdigits⟩ := Text.append_sep_inj (hnot a) (hnot b) h
  exact ⟨hstem, Text.toDigits_inj hdigits⟩

lemma mem_numbered {stem : List Char} {n : Nat} {c : Char} (hc : c.isDigit = false)
    (hne : c ≠ '_') : c ∈ numbered stem n ↔ c ∈ stem := by
  simp [numbered, hne, Text.not_mem_toDigits hc n]

lemma toList_remoteName (name : String) (n : Nat) :
    (remoteName name n).toList = renamed name.toList n := by
  rw [remoteName, renamed]
  cases Text.cutLast? '.' name.toList with
  | none =>
    have h : s!"{name}_{n}" = name ++ "_" ++ toString n := rfl
    dsimp only
    rw [h]
    simp [numbered]
  | some parts =>
    obtain ⟨stem, ext⟩ := parts
    have h : s!"{String.ofList stem}_{n}.{String.ofList ext}" =
        String.ofList stem ++ "_" ++ toString n ++ "." ++ String.ofList ext := rfl
    dsimp only
    rw [h]
    simp [numbered]

/-- Where the last dot of a name with a number is. -/
lemma cutLast?_renamed (name : List Char) (n : Nat) :
    Text.cutLast? '.' (renamed name n) =
      (Text.cutLast? '.' name).map fun parts => (numbered parts.1 n, parts.2) := by
  rw [renamed]
  cases hcut : Text.cutLast? '.' name with
  | none =>
    have hdot : '.' ∉ numbered name n := by
      rw [mem_numbered (by decide) (by decide)]
      exact Text.cutLast?_eq_none_iff.1 hcut
    exact Text.cutLast?_eq_none_iff.2 hdot
  | some parts =>
    obtain ⟨stem, ext⟩ := parts
    exact Text.cutLast?_append (Text.sep_not_mem_of_cutLast? hcut)

/-- Names that differ, or that get different numbers, differ afterwards. -/
lemma renamed_inj {s t : List Char} {a b : Nat} (h : renamed s a = renamed t b) :
    s = t ∧ a = b := by
  -- both have an extension or none has, as the number does not bring one
  have hcut := congrArg (Text.cutLast? '.') h
  rw [cutLast?_renamed, cutLast?_renamed] at hcut
  cases hs : Text.cutLast? '.' s with
  | none =>
    cases ht : Text.cutLast? '.' t with
    | none =>
      rw [renamed, renamed, hs, ht] at h
      exact numbered_inj h
    | some parts => simp [hs, ht] at hcut
  | some parts =>
    cases ht : Text.cutLast? '.' t with
    | none => simp [hs, ht] at hcut
    | some parts' =>
      simp only [hs, ht, Option.map_some, Option.some.injEq, Prod.mk.injEq] at hcut
      obtain ⟨hstem, hext⟩ := hcut
      obtain ⟨hstem', hnumber⟩ := numbered_inj hstem
      refine ⟨?_, hnumber⟩
      rw [Text.eq_of_cutLast? hs, Text.eq_of_cutLast? ht, hstem', hext]

/-- **Names with numbers tell both.**  The name at the destination tells the name of the output and
the number of the job, for names of any form. -/
theorem remoteName_eq_iff {s t : String} {a b : ℕ} :
    remoteName s a = remoteName t b ↔ s = t ∧ a = b := by
  constructor
  · intro h
    rw [← String.toList_inj, toList_remoteName, toList_remoteName] at h
    obtain ⟨hname, hnumber⟩ := renamed_inj h
    exact ⟨String.toList_inj.1 hname, hnumber⟩
  · rintro ⟨rfl, rfl⟩
    rfl

/-- A name gets no slash by its number. -/
lemma slash_not_mem_renamed {name : List Char} (h : '/' ∉ name) (n : Nat) :
    '/' ∉ renamed name n := by
  rw [renamed]
  cases hcut : Text.cutLast? '.' name with
  | none =>
    dsimp only
    rwa [mem_numbered (by decide) (by decide)]
  | some parts =>
    obtain ⟨stem, ext⟩ := parts
    rw [Text.eq_of_cutLast? hcut] at h
    dsimp only
    rw [List.mem_append, mem_numbered (by decide) (by decide), ← List.mem_append]
    exact h

/-- The name of an output has no slash, and gets none by its number. -/
lemma slash_not_mem_remoteName {name : String} (h : Task.isOutputName name = true) (n : Nat) :
    '/' ∉ (remoteName name n).toList := by
  rw [toList_remoteName]
  refine slash_not_mem_renamed ?_ n
  intro hslash
  simp only [Task.isOutputName, Bool.and_eq_true, List.all_eq_true] at h
  have hchar := h.2 '/' hslash
  simp [Task.isOutputNameChar] at hchar

lemma remoteName_ne_nil (name : String) (n : Nat) : (remoteName name n).toList ≠ [] := by
  have hmem : '_' ∈ renamed name.toList n := by
    rw [renamed]
    split <;> simp [numbered]
  rw [toList_remoteName]
  exact List.ne_nil_of_mem hmem

end OutputName

/-! ### Buckets and archives -/

namespace LogicalPath

lemma toList_bucket (n : Nat) :
    ∃ zeros, (bucket n).toList =
      List.replicate zeros '0' ++ Nat.toDigits 10 (n / jobsPerBucket) := by
  refine ⟨4 - (Nat.toDigits 10 (n / jobsPerBucket)).length, ?_⟩
  rw [bucket, padded, String.toList_ofList]

lemma slash_not_mem_bucket (n : Nat) : '/' ∉ (bucket n).toList := by
  obtain ⟨zeros, h⟩ := toList_bucket n
  rw [h, List.mem_append, not_or]
  refine ⟨?_, Text.not_mem_toDigits (by decide) _⟩
  intro hmem
  have hzero := List.eq_of_mem_replicate hmem
  simp at hzero

lemma bucket_ne_nil (n : Nat) : (bucket n).toList ≠ [] := by
  obtain ⟨zeros, h⟩ := toList_bucket n
  rw [h]
  simp [Nat.toDigits_ne_nil]

lemma bare_bucket (n : Nat) : Bare (bucket n).toList :=
  .of_slash_not_mem (bucket_ne_nil n) (slash_not_mem_bucket n)

end LogicalPath

namespace PlannedJob

open LogicalPath (Bare join)

/-- The archive of the logs of the job with a number. -/
def archiveName (n : Nat) : String :=
  s!"cmsRun_{n}.log.tar.gz"

/-- The archive as the destination sees it. -/
def archiveFile (n : Nat) : String :=
  s!"log/{archiveName n}"

lemma toList_archiveName (n : Nat) :
    (archiveName n).toList =
      "cmsRun_".toList ++ (Nat.toDigits 10 n ++ ".log.tar.gz".toList) := by
  have h : archiveName n = "cmsRun_" ++ toString n ++ ".log.tar.gz" := rfl
  rw [h]
  simp

lemma split_archiveFile (n : Nat) :
    Text.split '/' (archiveFile n) = ["log", archiveName n] := by
  have hslash : '/' ∉ (archiveName n).toList := by
    rw [toList_archiveName]
    simp [Text.not_mem_toDigits (c := '/') (by decide) n]
  have hfile : (archiveFile n).toList = "log".toList ++ '/' :: (archiveName n).toList := by
    have h : archiveFile n = "log/" ++ archiveName n := rfl
    rw [h]
    simp
  rw [Text.split, hfile, Text.pieces_append, Text.pieces_eq_singleton (by decide),
    Text.pieces_eq_singleton hslash]
  simp

lemma archiveName_inj {a b : Nat} (h : archiveName a = archiveName b) : a = b := by
  have hlist := congrArg String.toList h
  rw [toList_archiveName, toList_archiveName] at hlist
  exact Text.toDigits_inj (List.append_cancel_right (List.append_cancel_left hlist))

lemma bare_archiveFile (n : Nat) : Bare (archiveFile n).toList := by
  have h : (archiveFile n).toList =
      'l' :: ("og/cmsRun_".toList ++ (Nat.toDigits 10 n ++ ".log.tar.g".toList)) ++ ['z'] := by
    have hfile : archiveFile n = "log/" ++ archiveName n := rfl
    rw [hfile, String.toList_append, toList_archiveName]
    simp
  rw [h]
  refine ⟨by simp, ?_, ?_⟩
  · intro c hc
    cases hc
    decide
  · intro c hc
    rw [List.getLast?_append] at hc
    cases hc
    decide

/-! ### Manifests -/

/-- The files that the job with a number brings to the destination, if the task has outputs of
these names. -/
inductive Brings (names : List String) (n : Nat) : String → Prop where
  | archive : Brings names n (archiveFile n)
  | output {name : String} (h : name ∈ names) : Brings names n (OutputName.remoteName name n)

/-- The job is the one that is made for its number. -/
def IsMade (task : Task) (s : PlannedJob) : Prop :=
  ∃ block sites job, s = ofJob task (.ofTask task) s.sequence block sites job

variable {task : Task} {s s' : PlannedJob} {f g : String}

lemma IsMade.outputs (h : s.IsMade task) :
    s.outputs = task.outputs.all.map fun name => ⟨name, OutputName.remoteName name s.sequence⟩ := by
  obtain ⟨block, sites, job, hs⟩ := h
  rw [hs]
  rfl

lemma IsMade.directories (h : s.IsMade task) :
    s.directories = (Destinations.ofTask task).forJob s.sequence := by
  obtain ⟨block, sites, job, hs⟩ := h
  rw [hs]
  rfl

lemma IsMade.manifest (h : s.IsMade task) :
    s.manifest = archiveFile s.sequence ::
      task.outputs.all.map fun name => OutputName.remoteName name s.sequence := by
  rw [PlannedJob.manifest, outputNames, h.outputs, List.map_map]
  rfl

lemma IsMade.dest (h : s.IsMade task) :
    s.directories.dest = join [(Destinations.ofTask task).dest, LogicalPath.bucket s.sequence] := by
  rw [h.directories]
  rfl

lemma IsMade.urls (h : s.IsMade task) : s.urls = [] := by
  obtain ⟨block, sites, job, hs⟩ := h
  rw [hs]
  rfl

lemma IsMade.brings (h : s.IsMade task) (hf : f ∈ s.manifest) :
    Brings task.outputs.all s.sequence f := by
  rw [h.manifest] at hf
  rcases List.mem_cons.1 hf with rfl | hf
  · exact .archive
  · obtain ⟨name, hname, rfl⟩ := List.mem_map.1 hf
    exact .output hname

lemma Brings.bare (ht : task.Checked) {n : Nat} (hf : Brings task.outputs.all n f) :
    Bare f.toList := by
  cases hf with
  | archive => exact bare_archiveFile n
  | output hname =>
    exact .of_slash_not_mem (OutputName.remoteName_ne_nil _ n)
      (OutputName.slash_not_mem_remoteName (ht.outputName _ hname) n)

/-- Files that have the same pieces are the same, and so are the jobs that bring them. -/
lemma Brings.eq_of_split_eq (ht : task.Checked) {a b : Nat} (hf : Brings task.outputs.all a f)
    (hg : Brings task.outputs.all b g) (h : Text.split '/' f = Text.split '/' g) :
    a = b ∧ f = g := by
  have hsplit : ∀ {name : String} (n : Nat), name ∈ task.outputs.all →
      Text.split '/' (OutputName.remoteName name n) = [OutputName.remoteName name n] :=
    fun n hname =>
      Text.split_eq_singleton (OutputName.slash_not_mem_remoteName (ht.outputName _ hname) n)
  cases hf with
  | archive =>
    rw [split_archiveFile] at h
    cases hg with
    | archive =>
      rw [split_archiveFile] at h
      obtain rfl := archiveName_inj (List.cons.inj (List.cons.inj h).2).1
      exact ⟨rfl, rfl⟩
    | output hname =>
      -- an archive has two pieces and an output has one
      have hlen := congrArg List.length h
      rw [hsplit b hname] at hlen
      cases hlen
  | output hname =>
    rw [hsplit a hname] at h
    cases hg with
    | archive =>
      have hlen := congrArg List.length h
      rw [split_archiveFile] at hlen
      cases hlen
    | output hname' =>
      rw [hsplit b hname'] at h
      have heq := (List.cons.inj h).1
      have hlist := congrArg String.toList heq
      rw [OutputName.toList_remoteName, OutputName.toList_remoteName] at hlist
      exact ⟨(OutputName.renamed_inj hlist).2, heq⟩

/-- **Files at the destination.**  If files of two jobs of a task have the same logical path, they
have the same name and belong to the job of the same number. -/
theorem IsMade.eq_of_path_eq (ht : task.Checked) (hs : s.IsMade task) (hs' : s'.IsMade task)
    (hf : f ∈ s.manifest) (hg : g ∈ s'.manifest)
    (h : join [s.directories.dest, f] = join [s'.directories.dest, g]) :
    s.sequence = s'.sequence ∧ f = g := by
  have hbring := hs.brings hf
  have hbring' := hs'.brings hg
  have hbare : ∀ {n : Nat} {x : String}, Brings task.outputs.all n x →
      ∀ part ∈ [LogicalPath.bucket n, x], Bare part.toList := by
    intro n x hx part hpart
    rcases List.mem_pair.1 hpart with rfl | rfl
    · exact LogicalPath.bare_bucket n
    · exact hx.bare ht
  -- the buckets are one piece each, so the pieces of the files are what follows
  rw [hs.dest, hs'.dest, LogicalPath.join_join, LogicalPath.join_join] at h
  have hpieces := LogicalPath.split_eq_of_join_eq (hbare hbring) (hbare hbring')
    (List.cons_ne_nil _ _) (List.cons_ne_nil _ _) h
  simp only [List.flatMap_cons, List.flatMap_nil, List.append_nil,
    Text.split_eq_singleton (LogicalPath.slash_not_mem_bucket _), List.singleton_append,
    List.cons.injEq] at hpieces
  exact hbring.eq_of_split_eq ht hbring' hpieces.2

/-- No job brings two files of the same name. -/
lemma IsMade.nodup_manifest (ht : task.Checked) (hs : s.IsMade task) : s.manifest.Nodup := by
  rw [hs.manifest, List.nodup_cons]
  refine ⟨?_, ?_⟩
  · intro hmem
    obtain ⟨name, hname, heq⟩ := List.mem_map.1 hmem
    have hslash : '/' ∈ (archiveFile s.sequence).toList := by
      have hfile : archiveFile s.sequence = "log/" ++ archiveName s.sequence := rfl
      rw [hfile]
      simp
    rw [← heq] at hslash
    exact OutputName.slash_not_mem_remoteName (ht.outputName name hname) _ hslash
  · refine List.Nodup.map_on (fun m _ n _ heq => ?_) ht.outputsOnce
    have hlist := congrArg String.toList heq
    rw [OutputName.toList_remoteName, OutputName.toList_remoteName] at hlist
    exact String.toList_inj.1 (OutputName.renamed_inj hlist).1

/-- No two files of a job have the same logical path. -/
lemma IsMade.nodup_logicalPaths (ht : task.Checked) (hs : s.IsMade task) :
    (Placement.logicalPaths s.directories.dest s.manifest).Nodup :=
  List.Nodup.map_on (fun _ hf _ hg h => (hs.eq_of_path_eq ht hs hf hg h).2) (hs.nodup_manifest ht)

end PlannedJob

/-! ### Plans -/

namespace Plan

variable {rules : SiteRules} {task : Task}

lemma isMade_of_mem_number {block : String} {sites : EligibleSites} {first : Nat}
    {jobs : List Job} {s : PlannedJob}
    (hs : s ∈ number task (.ofTask task) block sites first jobs) : s.IsMade task := by
  induction jobs generalizing first with
  | nil => cases hs
  | cons job jobs ih =>
    rw [number] at hs
    rcases List.mem_cons.1 hs with rfl | hs
    · exact ⟨block, sites, job, rfl⟩
    · exact ih hs

/-- All jobs that the pass over the groups makes are made for their numbers. -/
lemma isMade_of_mem_ofGroups {index first : Nat} {gs : List JobGroup}
    {made : List GroupPlan × List PlannedJob}
    (h : ofGroups rules task (.ofTask task) index first gs = .ok made) :
    ∀ s ∈ made.2, s.IsMade task := by
  induction gs generalizing index first made with
  | nil =>
    cases h
    simp
  | cons g gs ih =>
    rw [ofGroups] at h
    split at h
    · cases h
    · split at h
      · exact ih h
      · simp only [bind_eq_ok, pure_eq_ok] at h
        obtain ⟨sites, -, rest, hrest, rfl⟩ := h
        intro s hs
        rcases List.mem_append.1 hs with hs | hs
        · exact isMade_of_mem_number hs
        · exact ih hrest s hs

lemma isMade_of_ofTask_eq_ok {throttle : Throttle} {groups : List JobGroup} {p : Plan}
    (h : ofTask rules throttle task groups = .ok p) : ∀ s ∈ p.jobs, s.IsMade task := by
  obtain ⟨made, hmade, hplan⟩ := bind_eq_ok.1 h
  dsimp only at hplan
  split at hplan
  · cases hplan
  · cases hplan
    exact isMade_of_mem_ofGroups hmade

/-- All jobs of a plan are made for their numbers, and no two have the same number. -/
lemma isMade_of_plan_eq_ok {c : Compiler} {r : Request} {p : Plan} (h : c.plan r = .ok p) :
    (∀ s ∈ p.jobs, s.IsMade p.task) ∧ (p.jobs.map (·.sequence)).Nodup := by
  obtain ⟨htask, -, -⟩ := of_plan_eq_ok h
  refine ⟨?_, ?_⟩
  · rw [Compiler.plan, ofRequest, htask] at h
    exact isMade_of_ofTask_eq_ok h
  · rw [map_sequence_jobs h]
    exact List.nodup_range'

/-- No two jobs of a plan bring their files to the same paths. -/
lemma nodup_paths {c : Compiler} {r : Request} {p : Plan} (h : c.plan r = .ok p) :
    (p.jobs.map fun s => Placement.logicalPaths s.directories.dest s.manifest).Nodup := by
  obtain ⟨htask, -, -⟩ := of_plan_eq_ok h
  obtain ⟨hmade, hnodup⟩ := isMade_of_plan_eq_ok h
  have hmem : ∀ s ∈ p.jobs, PlannedJob.archiveFile s.sequence ∈ s.manifest := by
    intro s hs
    rw [(hmade s hs).manifest]
    exact List.mem_cons_self
  have hfirst : ∀ s ∈ p.jobs, (Placement.logicalPaths s.directories.dest s.manifest).head? =
      some (LogicalPath.join [s.directories.dest, PlannedJob.archiveFile s.sequence]) := by
    intro s hs
    rw [(hmade s hs).manifest, Placement.logicalPaths, List.map_cons, List.head?_cons]
  refine (List.Nodup.of_map _ hnodup).map_on fun s hs s' hs' heq => ?_
  have hpath := congrArg List.head? heq
  rw [hfirst s hs, hfirst s' hs', Option.some.injEq] at hpath
  have hsequence := (PlannedJob.IsMade.eq_of_path_eq (Task.checked_of_ofRecord htask) (hmade s hs)
    (hmade s' hs') (hmem s hs) (hmem s' hs') hpath).1
  exact List.inj_on_of_nodup_map hnodup hs hs' hsequence

/-- Every job of a plan brings its archive and all outputs of the task. -/
lemma length_logicalPaths {c : Compiler} {r : Request} {p : Plan} (h : c.plan r = .ok p) :
    (p.jobs.flatMap fun s => Placement.logicalPaths s.directories.dest s.manifest).length =
      p.jobs.length * (p.task.outputs.size + 1) := by
  obtain ⟨hmade, -⟩ := isMade_of_plan_eq_ok h
  have hcount : p.jobs.map
      (fun s => (Placement.logicalPaths s.directories.dest s.manifest).length) =
        List.replicate p.jobs.length (p.task.outputs.size + 1) := by
    refine List.eq_replicate_iff.2 ⟨List.length_map _, fun n hn => ?_⟩
    obtain ⟨s, hs, rfl⟩ := List.mem_map.1 hn
    rw [Placement.logicalPaths, List.length_map, (hmade s hs).manifest, List.length_cons,
      List.length_map, Outputs.size]
  rw [List.length_flatMap, hcount, List.sum_replicate_nat]

/-- **No two files collide.**  In every plan, all jobs bring a log archive and all outputs of the
task to the destination, and the logical paths of all these files differ from each other. -/
theorem logicalPaths_nodup (c : Compiler) (r : Request) (p : Plan) (h : c.plan r = .ok p) :
    (p.jobs.flatMap fun s => Placement.logicalPaths s.directories.dest s.manifest).Nodup ∧
    (p.jobs.flatMap fun s => Placement.logicalPaths s.directories.dest s.manifest).length =
      p.jobs.length * (p.task.outputs.size + 1) := by
  have ht : p.task.Checked := Task.checked_of_ofRecord (of_plan_eq_ok h).1
  obtain ⟨hmade, hnumbers⟩ := isMade_of_plan_eq_ok h
  refine ⟨?_, length_logicalPaths h⟩
  rw [List.nodup_flatMap]
  refine ⟨fun s hs => (hmade s hs).nodup_logicalPaths ht, ?_⟩
  have hpairs : p.jobs.Pairwise fun s s' => s.sequence ≠ s'.sequence := List.pairwise_map.1 hnumbers
  refine hpairs.imp_of_mem fun {s s'} hs hs' hne => ?_
  -- a path that two jobs share would give them the same number
  intro path hpath hpath'
  obtain ⟨f, hf, rfl⟩ := List.mem_map.1 hpath
  obtain ⟨g, hg, heq⟩ := List.mem_map.1 hpath'
  exact hne ((hmade s hs).eq_of_path_eq ht (hmade s' hs') hf hg heq.symm).1

/-- The sample request with outputs of which some are called as others are in some job. -/
def alikeOutputs : Request :=
  { Request.sample with
    task := TaskRecord.brief.set "tm_outfiles"
      (.list [.text "a", .text "a_1", .text "a_1.b", .text "a.b", .text "a_1"]) }

/-- The jobs of this request have four outputs each, one name being declared twice; so there are
fifteen paths. -/
theorem logicalPaths_nodup_alikeOutputs :
    ∃ p, (Compiler.sample .external).plan alikeOutputs = .ok p ∧
      (p.jobs.flatMap fun s => Placement.logicalPaths s.directories.dest s.manifest).Nodup ∧
      (p.jobs.flatMap fun s => Placement.logicalPaths s.directories.dest s.manifest).length =
        15 := by
  have hcounts : ((Compiler.sample .external).plan alikeOutputs).toOption.map
      (fun p => (p.jobs.length, p.task.outputs.size)) = some (3, 4) := by decide +kernel
  obtain ⟨p, hp, hcounts⟩ := exists_of_map_toOption hcounts
  obtain ⟨hjobs, houtputs⟩ := Prod.mk.inj hcounts
  obtain ⟨hnodup, hlength⟩ := logicalPaths_nodup (Compiler.sample .external) alikeOutputs p hp
  rw [hjobs, houtputs] at hlength
  exact ⟨p, hp, hnodup, hlength⟩

end Plan

end JobGraph
