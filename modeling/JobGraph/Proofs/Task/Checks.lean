import JobGraph.Proofs.Program.Fallible
import JobGraph.Task.Reading

/-!
# What has been checked

A record is read attribute by attribute, and an attribute that is not of its form ends the reading.
So a task that comes out of it has passed every check, and this is kept here in one structure,
`Task.Checked`, for all proofs that need one of them.

Reading is a chain of steps each of which may fail; `bind_eq_ok` takes such a chain apart, and there
is one lemma for each kind of step.  The main result is `Task.checked_of_ofRecord`.
-/

namespace JobGraph.Task

variable {ε α β : Type} {r : TaskRecord} {field : String}

/-- What every task satisfies that has been read from a record. -/
structure Checked (t : Task) : Prop where
  name : isName t.name = true
  username : isUsername t.identity.username = true
  jobSw : Text.isToken t.jobSw = true
  jobArch : Text.isToken t.jobArch = true
  dataset : ∀ d ∈ t.inputDataset, isDataset d = true
  publishName : isOutputName t.publishName = true
  whitelist : ∀ site ∈ t.siteWhitelist, isSiteName site = true
  blacklist : ∀ site ∈ t.siteBlacklist, isSiteName site = true
  outputName : ∀ n ∈ t.outputs.all, isOutputName n = true
  /-- No output is declared twice, not even as two kinds of output. -/
  outputsOnce : t.outputs.all.Nodup
  unitsPerJob : 0 < t.split.unitsPerJob
  asyncDest : isSiteName t.asyncDest = true
  cacheUrl : Text.isToken t.cacheUrl = true
  sandbox : Text.isToken t.sandbox = true
  version : t.arguments.version = TaskOptions.currentVersion
  lfnPrefix : isRelativePath t.arguments.lfnPrefix = true

/-! ### Steps of reading -/

/-- A check lets exactly the values through that satisfy it, as they are. -/
lemma checked_eq_ok {p : α → Bool} {error : α → Malformed} {x y : α} :
    checked p error x = .ok y ↔ p x = true ∧ x = y := by
  rw [checked]
  split
  · next h => simp [h]
  · next h => simp [h]

/-- A list whose members are checked one by one goes through as it is. -/
lemma mapM_checked_eq_ok {p : α → Bool} {error : α → Malformed} {xs ys : List α} :
    xs.mapM (checked p error) = .ok ys ↔ (∀ x ∈ xs, p x = true) ∧ xs = ys := by
  rw [mapM_eq_ok]
  simp only [checked_eq_ok]
  constructor
  · intro h
    induction h with
    | nil => exact ⟨by simp, rfl⟩
    | cons hxy _ ih =>
      obtain ⟨hp, rfl⟩ := hxy
      obtain ⟨hps, rfl⟩ := ih
      exact ⟨List.forall_mem_cons.2 ⟨hp, hps⟩, rfl⟩
  · rintro ⟨hp, rfl⟩
    exact List.forall₂_same.2 fun x hx => ⟨hp x hx, rfl⟩

/-- A value that may be missing is checked if it is there. -/
lemma optional_checked_eq_ok {p : α → Bool} {error : α → Malformed} {x y : Option α}
    (h : x.mapM (checked p error) = .ok y) : ∀ a ∈ y, p a = true := by
  cases x with
  | none =>
    cases pure_eq_ok.1 h
    simp
  | some x =>
    -- a present value is mapped by a bind and a `pure`
    rw [Option.mapM_some, map_eq_pure_bind, bind_eq_ok] at h
    obtain ⟨a, ha, hy⟩ := h
    cases pure_eq_ok.1 hy
    obtain ⟨hp, rfl⟩ := checked_eq_ok.1 ha
    simpa using hp

/-- A text that has to be there is read as it is given, but for white space at its ends. -/
lemma requiredText_eq_ok {s : String} :
    r.requiredText field = .ok s ↔
      ∃ text, r.get? field = some (.text text) ∧ Text.isBlank text = false ∧ Text.trim text = s := by
  rw [TaskRecord.requiredText, TaskRecord.optionalText]
  cases r.get? field with
  | none => simp [bind, Except.bind]
  | some d =>
    cases d with
    | null => simp [bind, Except.bind]
    | text text =>
      by_cases hblank : Text.isBlank text = true
      · simp [bind, Except.bind, hblank]
      · simp [bind, Except.bind, hblank, pure_eq_ok]
    | _ => simp [bind, Except.bind]

lemma isToken_of_token {s : String} (h : r.token field = .ok s) : Text.isToken s = true := by
  rw [TaskRecord.token, bind_eq_ok] at h
  obtain ⟨text, -, hs⟩ := h
  split at hs
  · next htoken =>
    cases pure_eq_ok.1 hs
    exact htoken
  · exact absurd hs throw_ne_ok

/-! ### Lists of names -/

/-- The new names of a list are its members that have not been seen, each of them once. -/
lemma newNames_spec (seen names : List String) :
    (newNames seen names).Nodup ∧
      ∀ n, n ∈ newNames seen names ↔ n ∈ names ∧ n ∉ seen := by
  -- a name that is kept counts as seen from then on
  induction names generalizing seen with
  | nil => simp [newNames]
  | cons x xs ih =>
    rw [newNames]
    split
    · next hseen =>
      have hx : x ∈ seen := by simpa using hseen
      obtain ⟨hnodup, hmem⟩ := ih seen
      refine ⟨hnodup, fun n => ?_⟩
      rw [hmem, List.mem_cons]
      constructor
      · rintro ⟨hn, hnew⟩
        exact ⟨Or.inr hn, hnew⟩
      · rintro ⟨rfl | hn, hnew⟩
        · exact absurd hx hnew
        · exact ⟨hn, hnew⟩
    · next hseen =>
      have hx : x ∉ seen := by simpa using hseen
      obtain ⟨hnodup, hmem⟩ := ih (x :: seen)
      refine ⟨List.nodup_cons.2 ⟨?_, hnodup⟩, fun n => ?_⟩
      · rw [hmem]
        simp
      · rw [List.mem_cons, hmem, List.mem_cons, List.mem_cons, not_or]
        constructor
        · rintro (rfl | ⟨hn, -, hnew⟩)
          · exact ⟨Or.inl rfl, hx⟩
          · exact ⟨Or.inr hn, hnew⟩
        · rintro ⟨hn, hnew⟩
          by_cases hnx : n = x
          · exact Or.inl hnx
          · exact Or.inr ⟨hn.resolve_left hnx, hnx, hnew⟩

/-- The names of a kind of output have their form, none comes twice, and none has been seen. -/
lemma of_readOutputNames {seen names : List String}
    (h : readOutputNames r seen field = .ok names) :
    (∀ n ∈ names, isOutputName n = true) ∧ names.Nodup ∧ ∀ n ∈ names, n ∉ seen := by
  rw [readOutputNames, bind_eq_ok] at h
  obtain ⟨texts, -, h⟩ := h
  rw [bind_eq_ok] at h
  obtain ⟨declared, hdeclared, h⟩ := h
  cases pure_eq_ok.1 h
  obtain ⟨hform, rfl⟩ := mapM_checked_eq_ok.1 hdeclared
  obtain ⟨hnodup, hmem⟩ := newNames_spec seen texts
  exact ⟨fun n hn => hform n ((hmem n).1 hn).1, hnodup, fun n hn => ((hmem n).1 hn).2⟩

/-- The names of all outputs have their form, and none comes twice. -/
lemma of_readOutputs {o : Outputs} (h : readOutputs r = .ok o) :
    (∀ n ∈ o.all, isOutputName n = true) ∧ o.all.Nodup := by
  simp only [readOutputs, bind_eq_ok, pure_eq_ok] at h
  obtain ⟨additional, hadditional, tfile, htfile, edm, hedm, rfl⟩ := h
  obtain ⟨hform, hnodup, -⟩ := of_readOutputNames hadditional
  obtain ⟨hform', hnodup', hnew⟩ := of_readOutputNames htfile
  obtain ⟨hform'', hnodup'', hnew'⟩ := of_readOutputNames hedm
  refine ⟨?_, ?_⟩
  · intro n hn
    simp only [Outputs.all, List.mem_append] at hn
    rcases hn with (hn | hn) | hn
    · exact hform n hn
    · exact hform' n hn
    · exact hform'' n hn
  · -- each kind was read with all names of the kinds before it as seen
    rw [Outputs.all, List.nodup_append, List.nodup_append]
    refine ⟨⟨hnodup, hnodup', ?_⟩, hnodup'', ?_⟩
    · rintro n hn _ hn' rfl
      exact hnew n hn' hn
    · rintro n hn _ hn' rfl
      exact hnew' n hn' hn

lemma isSiteName_of_readSites {sites : NameSet} (h : readSites r field = .ok sites) :
    ∀ site ∈ sites, isSiteName site = true := by
  rw [readSites, bind_eq_ok] at h
  obtain ⟨texts, -, h⟩ := h
  rw [bind_eq_ok] at h
  obtain ⟨names, hnames, h⟩ := h
  cases pure_eq_ok.1 h
  obtain ⟨hform, rfl⟩ := mapM_checked_eq_ok.1 hnames
  intro site hsite
  exact hform site (NameSet.mem_ofList.1 hsite)

/-! ### The parts of a task -/

lemma isUsername_of_readIdentity {i : Identity} (h : readIdentity r = .ok i) :
    isUsername i.username = true := by
  simp only [readIdentity, bind_eq_ok, pure_eq_ok, checked_eq_ok] at h
  obtain ⟨text, -, username, ⟨hform, rfl⟩, dn, -, group, -, role, -, vo, -, rfl⟩ := h
  exact hform

lemma pos_of_unitCount? {arguments : List (String × Document)} {key : String} {n : Nat}
    (h : unitCount? arguments key = some n) : 0 < n := by
  simp only [unitCount?, Option.bind_eq_bind, Option.bind_eq_some_iff] at h
  obtain ⟨document, -, m, -, hm⟩ := h
  split at hm
  · next hpos =>
    cases hm
    exact hpos
  · cases hm

lemma pos_of_readSplit {s : Split} (h : readSplit r = .ok s) : 0 < s.unitsPerJob := by
  simp only [readSplit, bind_eq_ok] at h
  obtain ⟨name, -, algorithm, -, arguments, -, h⟩ := h
  split at h
  · exact absurd h throw_ne_ok
  · next arguments =>
    split at h
    · next n hn =>
      cases pure_eq_ok.1 h
      exact pos_of_unitCount? hn
    · exact absurd h throw_ne_ok

lemma of_readArguments {a : TaskOptions} (h : readArguments r = .ok a) :
    a.version = TaskOptions.currentVersion ∧ isRelativePath a.lfnPrefix = true := by
  simp only [readArguments, bind_eq_ok] at h
  obtain ⟨given, -, h⟩ := h
  split at h
  · obtain ⟨_, hthrow, -⟩ := bind_eq_ok.1 h
    exact absurd hthrow throw_ne_ok
  · next hversion =>
    split at h
    · next hpath =>
      cases pure_eq_ok.1 h
      exact ⟨not_not.1 hversion, hpath⟩
    · exact absurd h throw_ne_ok

/-- The name of a task and its submitter are read from the texts that are given for them. -/
lemma identity_of_ofRecord {t : Task} (h : ofRecord r = .ok t) :
    r.requiredText "tm_taskname" = .ok t.name ∧ r.requiredText "tm_user_dn" = .ok t.identity.dn := by
  simp only [ofRecord, bind_eq_ok, pure_eq_ok, checked_eq_ok] at h
  obtain ⟨_, hname, _, ⟨-, rfl⟩, identity, hidentity, h⟩ := h
  simp only [readIdentity, bind_eq_ok, pure_eq_ok] at hidentity
  obtain ⟨_, -, _, -, dn, hdn, _, -, _, -, _, -, rfl⟩ := hidentity
  -- all other attributes go into other fields
  obtain ⟨_, -, _, -, _, -, _, -, _, -, _, -, _, -, _, -, _, -, _, -, _, -, _, -, _, -, _, -, _, -,
    _, -, _, -, _, -, rfl⟩ := h
  exact ⟨hname, hdn⟩

/-- **What has been read has been checked.** -/
theorem checked_of_ofRecord {t : Task} (h : ofRecord r = .ok t) : t.Checked := by
  -- the attributes are read in this order, and each one that is read is named below
  simp only [ofRecord, bind_eq_ok, pure_eq_ok, checked_eq_ok] at h
  obtain ⟨nameText, -, name, ⟨hname, rfl⟩, identity, hidentity, jobSw, hjobSw, jobArch, hjobArch,
    datasetText, -, dataset, hdataset, publishText, -, publishName, ⟨hpublish, rfl⟩,
    whitelist, hwhitelist, blacklist, hblacklist, outputs, houtputs, split, hsplit,
    publication, -, destText, -, asyncDest, ⟨hdest, rfl⟩, cacheUrl, hcache, sandbox, hsandbox,
    dbsUrl, -, publishDbsUrl, -, arguments, harguments, rfl⟩ := h
  obtain ⟨houtput, honce⟩ := of_readOutputs houtputs
  obtain ⟨hversion, hprefix⟩ := of_readArguments harguments
  exact
    { name := hname
      username := isUsername_of_readIdentity hidentity
      jobSw := isToken_of_token hjobSw
      jobArch := isToken_of_token hjobArch
      dataset := optional_checked_eq_ok hdataset
      publishName := hpublish
      whitelist := isSiteName_of_readSites hwhitelist
      blacklist := isSiteName_of_readSites hblacklist
      outputName := houtput
      outputsOnce := honce
      unitsPerJob := pos_of_readSplit hsplit
      asyncDest := hdest
      cacheUrl := isToken_of_token hcache
      sandbox := isToken_of_token hsandbox
      version := hversion
      lfnPrefix := hprefix }

end JobGraph.Task
