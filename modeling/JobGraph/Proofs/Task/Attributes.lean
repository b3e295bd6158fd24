import JobGraph.Proofs.Document.Entries
import JobGraph.Task.Reading

/-!
# What is read of a record

Most attributes of a record are read as texts, seven are decoded from lists and tables, and the flag
of publication has a reader of its own.  Records whose texts and structures are read alike differ
for a task only by their flags: this is `Task.forks_ofRecord`.  Either the reading ends in front of
the flag, in the same way for all of them, or it goes on with what the flag says, in the same way
for all of them, and no error behind the flag is about it.
-/

namespace JobGraph

/-! ### Attributes that are set or dropped -/

namespace TaskRecord

variable {r : TaskRecord} {field key : String} {d : Document}

@[simp]
lemma get?_set : (r.set field d).get? key = if key = field then some d else r.get? key :=
  lookup_insertEntry _ _ _ _

@[simp]
lemma get?_erase : (r.erase field).get? key = if key = field then none else r.get? key :=
  lookup_filter_bne _ _ _

/-- Setting an attribute and dropping it are the same for all other attributes. -/
lemma get?_set_eq_get?_erase (hkey : key ≠ field) :
    (r.set field d).get? key = (r.erase field).get? key := by
  rw [get?_set, get?_erase, if_neg hkey, if_neg hkey]

/-- The attributes that are read as texts. -/
def textFields : List String :=
  ["tm_taskname", "tm_username", "tm_user_dn", "tm_user_group", "tm_user_role", "tm_user_vo",
    "tm_job_sw", "tm_job_arch", "tm_input_dataset", "tm_publish_name", "tm_split_algo",
    "tm_asyncdest", "tm_cache_url", "tm_user_sandbox", "tm_dbs_url", "tm_publish_dbs_url"]

/-- The attributes that hold lists and tables, given as such or as JSON text. -/
def structuredFields : List String :=
  ["tm_site_whitelist", "tm_site_blacklist", "tm_outfiles", "tm_tfile_outfiles", "tm_edm_outfiles",
    "tm_split_args", "tm_arguments"]

/-- All texts and all structures are read alike from the records. -/
structure Alike (r r' : TaskRecord) : Prop where
  optionalText : ∀ field ∈ textFields, r'.optionalText field = r.optionalText field
  decoded : ∀ field ∈ structuredFields, ∀ {α : Type} (read : Document → Option α),
    r'.decoded read field = r.decoded read field

lemma Alike.refl (r : TaskRecord) : Alike r r :=
  ⟨fun _ _ => rfl, fun _ _ _ _ => rfl⟩

/-- Records are alike if they differ in one attribute only, and if this one is read alike. -/
lemma alike_of_ne {r' : TaskRecord} (field : String) (hother : ∀ key, key ≠ field → r'.get? key = r.get? key)
    (htext : field ∈ textFields → r'.optionalText field = r.optionalText field)
    (hstructured : field ∈ structuredFields → ∀ {α : Type} (read : Document → Option α),
      r'.decoded read field = r.decoded read field) : Alike r r' where
  optionalText key hkey := by
    by_cases h : key = field
    · subst h
      exact htext hkey
    · rw [optionalText, hother key h, optionalText]
  decoded key hkey := by
    intro α read
    by_cases h : key = field
    · subst h
      exact hstructured hkey read
    · rw [decoded, hother key h, decoded]

end TaskRecord

/-! ### What errors are about -/

/-- The attribute that a refusal is about. -/
def Malformed.attribute? : Malformed → Option String
  | .missing field => some field
  | .notText field _ => some field
  | .notToken field => some field
  | .siteName field _ => some field
  | .outputName field _ => some field
  | .undecodable field _ => some field
  | .taskName _ => some "tm_taskname"
  | .username _ => some "tm_username"
  | .dataset _ => some "tm_input_dataset"
  | .publishName _ => some "tm_publish_name"
  | .publicationFlag _ => some "tm_publication"
  | .destination _ => some "tm_asyncdest"
  | .setting _ => some "tm_split_algo"
  | .unitCount _ => some "tm_split_args"
  | .argumentsVersion _ => some "tm_arguments"
  | .lfnPrefix _ => some "tm_arguments"
  | .blockName .. => none
  | .location .. => none
  | .inputFile .. => none
  | .stated _ => none

namespace Task

variable {α β : Type} {r r' : TaskRecord} {field : String} {fields : List String}

/-- An error of a reader is about one of these attributes. -/
def About (fields : List String) (x : Except Malformed α) : Prop :=
  ∀ e, x = .error e → ∃ field ∈ fields, e.attribute? = some field

lemma about_ok (a : α) : About fields (.ok a) := by
  rintro e ⟨⟩

lemma about_error {e : Malformed} (hfield : field ∈ fields) (he : e.attribute? = some field) :
    About fields (.error e : Except Malformed α) := by
  rintro _ ⟨⟩
  exact ⟨field, hfield, he⟩

lemma About.bind {x : Except Malformed α} {k : α → Except Malformed β} (hx : About fields x)
    (hk : ∀ a, About fields (k a)) : About fields (x >>= k) := by
  cases x with
  | ok a => exact hk a
  | error e =>
    rintro _ ⟨⟩
    exact hx e rfl

lemma about_checked {p : α → Bool} {error : α → Malformed} (hfield : field ∈ fields)
    (herror : ∀ x, (error x).attribute? = some field) (x : α) :
    About fields (checked p error x) := by
  rw [checked]
  split
  · exact about_ok x
  · exact about_error hfield (herror x)

lemma about_optionalText (hfield : field ∈ fields) : About fields (r.optionalText field) := by
  rw [TaskRecord.optionalText]
  split
  · exact about_ok _
  · exact about_ok _
  · exact about_ok _
  · exact about_error hfield rfl

lemma about_requiredText (hfield : field ∈ fields) : About fields (r.requiredText field) := by
  refine (about_optionalText hfield).bind fun text => ?_
  cases text with
  | some s => exact about_ok s
  | none => exact about_error hfield rfl

lemma about_token (hfield : field ∈ fields) : About fields (r.token field) := by
  refine (about_requiredText hfield).bind fun s => ?_
  split
  · exact about_ok s
  · exact about_error hfield rfl

lemma about_decoded {read : Document → Option α} (hfield : field ∈ fields) :
    About fields (r.decoded read field) := by
  rw [TaskRecord.decoded]
  split
  · exact about_ok _
  · exact about_ok _
  · split
    · exact about_ok _
    · split
      · exact about_error hfield rfl
      · dsimp only
        split
        · exact about_ok _
        · exact about_error hfield rfl
  · dsimp only
    split
    · exact about_ok _
    · exact about_error hfield rfl

lemma about_readArguments (hfield : "tm_arguments" ∈ fields) :
    About fields (readArguments r) := by
  refine (about_decoded hfield).bind fun given => ?_
  dsimp only
  split
  · exact about_error hfield rfl
  · split
    · exact about_ok _
    · exact about_error hfield rfl

/-! ### Readers that cannot tell records apart -/

/-- The reader gives the same for all records that are alike. -/
def Steady (r : TaskRecord) (read : TaskRecord → Except Malformed α) : Prop :=
  ∀ r', TaskRecord.Alike r r' → read r' = read r

lemma steady_const (x : Except Malformed α) : Steady r fun _ => x :=
  fun _ _ => rfl

lemma Steady.bind {read : TaskRecord → Except Malformed α}
    {next : α → TaskRecord → Except Malformed β} (hread : Steady r read)
    (hnext : ∀ a, Steady r (next a)) : Steady r fun r' => read r' >>= fun a => next a r' := by
  intro r' h
  dsimp only
  rw [hread r' h]
  exact bind_congr fun a => hnext a r' h

lemma steady_optionalText (hfield : field ∈ TaskRecord.textFields) :
    Steady r fun r' => r'.optionalText field :=
  fun _ h => h.optionalText field hfield

lemma steady_requiredText (hfield : field ∈ TaskRecord.textFields) :
    Steady r fun r' => r'.requiredText field :=
  (steady_optionalText hfield).bind fun _ => steady_const _

lemma steady_token (hfield : field ∈ TaskRecord.textFields) : Steady r fun r' => r'.token field :=
  (steady_requiredText hfield).bind fun _ => steady_const _

lemma steady_decoded {read : Document → Option α} (hfield : field ∈ TaskRecord.structuredFields) :
    Steady r fun r' => r'.decoded read field :=
  fun _ h => h.decoded field hfield read

lemma steady_readTexts (hfield : field ∈ TaskRecord.structuredFields) :
    Steady r fun r' => readTexts r' field :=
  (steady_decoded hfield).bind fun _ => steady_const _

lemma steady_readSites (hfield : field ∈ TaskRecord.structuredFields) :
    Steady r fun r' => readSites r' field :=
  (steady_readTexts hfield).bind fun _ => steady_const _

lemma steady_readOutputNames {seen : List String} (hfield : field ∈ TaskRecord.structuredFields) :
    Steady r fun r' => readOutputNames r' seen field :=
  (steady_readTexts hfield).bind fun _ => steady_const _

lemma steady_readOutputs : Steady r readOutputs :=
  (steady_readOutputNames (by decide)).bind fun _ =>
    (steady_readOutputNames (by decide)).bind fun _ =>
      (steady_readOutputNames (by decide)).bind fun _ => steady_const _

lemma steady_readIdentity : Steady r readIdentity :=
  (steady_requiredText (by decide)).bind fun _ => (steady_const _).bind fun _ =>
    (steady_requiredText (by decide)).bind fun _ => (steady_optionalText (by decide)).bind fun _ =>
      (steady_optionalText (by decide)).bind fun _ =>
        (steady_optionalText (by decide)).bind fun _ => steady_const _

lemma steady_readSplit : Steady r readSplit :=
  (steady_requiredText (by decide)).bind fun _ => (steady_const _).bind fun _ =>
    (steady_decoded (by decide)).bind fun _ => steady_const _

lemma steady_readArguments : Steady r readArguments :=
  (steady_decoded (by decide)).bind fun _ => steady_const _

/-! ### Tasks -/

/-- The attributes that are read when the flag of publication has been. -/
def laterFields : List String :=
  ["tm_asyncdest", "tm_cache_url", "tm_user_sandbox", "tm_dbs_url", "tm_publish_dbs_url",
    "tm_arguments"]

/-- From all records that are alike a task is read in the same way up to the flag of publication,
and then in the same way with what the flag says. -/
def Forks (r : TaskRecord) (read : TaskRecord → Except Malformed Task) : Prop :=
  (∃ e, ∀ r', TaskRecord.Alike r r' → read r' = .error e) ∨
    ∃ rest : Bool → Except Malformed Task, (∀ flag, About laterFields (rest flag)) ∧
      ∀ r', TaskRecord.Alike r r' → read r' = readPublication r' >>= rest

lemma Forks.bind {read : TaskRecord → Except Malformed α}
    {next : α → TaskRecord → Except Malformed Task} (hread : Steady r read)
    (hnext : ∀ a, Forks r (next a)) : Forks r fun r' => read r' >>= fun a => next a r' := by
  cases hr : read r with
  | error e =>
    refine Or.inl ⟨e, fun r' h => ?_⟩
    dsimp only
    rw [hread r' h, hr]
    rfl
  | ok a =>
    have hread' : ∀ r', TaskRecord.Alike r r' → (read r' >>= fun a => next a r') = next a r' := by
      intro r' h
      rw [hread r' h, hr]
      rfl
    rcases hnext a with ⟨e, he⟩ | ⟨rest, habout, hrest⟩
    · exact Or.inl ⟨e, fun r' h => (hread' r' h).trans (he r' h)⟩
    · exact Or.inr ⟨rest, habout, fun r' h => (hread' r' h).trans (hrest r' h)⟩

lemma forks_flag {next : Bool → TaskRecord → Except Malformed Task}
    (hsteady : ∀ flag, Steady r (next flag)) (habout : ∀ flag, About laterFields (next flag r)) :
    Forks r fun r' => readPublication r' >>= fun flag => next flag r' :=
  Or.inr ⟨fun flag => next flag r, habout, fun r' h => bind_congr fun flag => hsteady flag r' h⟩

/-- **The flag.**  All records that are alike end in the same error, or they come to the same task
but for what their flags of publication say. -/
theorem forks_ofRecord (r : TaskRecord) : Forks r ofRecord := by
  -- the attributes are read in this order
  refine Forks.bind (steady_requiredText (by decide)) fun _ => ?_
  refine Forks.bind (steady_const _) fun name => ?_
  refine Forks.bind steady_readIdentity fun identity => ?_
  refine Forks.bind (steady_token (by decide)) fun jobSw => ?_
  refine Forks.bind (steady_token (by decide)) fun jobArch => ?_
  refine Forks.bind (steady_optionalText (by decide)) fun _ => ?_
  refine Forks.bind (steady_const _) fun inputDataset => ?_
  refine Forks.bind (steady_requiredText (by decide)) fun _ => ?_
  refine Forks.bind (steady_const _) fun publishName => ?_
  refine Forks.bind (steady_readSites (by decide)) fun siteWhitelist => ?_
  refine Forks.bind (steady_readSites (by decide)) fun siteBlacklist => ?_
  refine Forks.bind steady_readOutputs fun outputs => ?_
  refine Forks.bind steady_readSplit fun split => ?_
  refine forks_flag (fun publication => ?_) fun publication => ?_
  · refine Steady.bind (steady_requiredText (by decide)) fun _ => ?_
    refine Steady.bind (steady_const _) fun asyncDest => ?_
    refine Steady.bind (steady_token (by decide)) fun cacheUrl => ?_
    refine Steady.bind (steady_token (by decide)) fun sandbox => ?_
    refine Steady.bind (steady_optionalText (by decide)) fun dbsUrl => ?_
    refine Steady.bind (steady_optionalText (by decide)) fun publishDbsUrl => ?_
    exact Steady.bind steady_readArguments fun arguments => steady_const _
  · refine About.bind (about_requiredText (by decide)) fun _ => ?_
    refine About.bind (about_checked (by decide) (fun _ => rfl) _) fun asyncDest => ?_
    refine About.bind (about_token (by decide)) fun cacheUrl => ?_
    refine About.bind (about_token (by decide)) fun sandbox => ?_
    refine About.bind (about_optionalText (by decide)) fun dbsUrl => ?_
    refine About.bind (about_optionalText (by decide)) fun publishDbsUrl => ?_
    exact About.bind (about_readArguments (by decide)) fun arguments => about_ok _

/-- Records that are alike and have the same flag are read alike. -/
lemma ofRecord_congr (h : TaskRecord.Alike r r')
    (hflag : r'.get? "tm_publication" = r.get? "tm_publication") : ofRecord r' = ofRecord r := by
  rcases forks_ofRecord r with ⟨e, he⟩ | ⟨rest, -, hrest⟩
  · rw [he r' h, he r (TaskRecord.Alike.refl r)]
  · rw [hrest r' h, hrest r (TaskRecord.Alike.refl r), readPublication, hflag, readPublication]

end Task

end JobGraph
