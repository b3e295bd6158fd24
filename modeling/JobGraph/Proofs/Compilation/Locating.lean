import JobGraph.Proofs.Artifact.UrlList
import JobGraph.Proofs.Compilation.Stages
import JobGraph.Proofs.Placement.Lookup
import JobGraph.Proofs.Regex.Replacing

/-!
# Locating outputs by rules

A configuration without defects describes a catalog, and a compiler with that catalog finds the same
URLs in every world: for each file the first rule that applies.  Their characters come from the
rules and from the logical paths, of which the latter are tokens.  Nothing is checked about the
former, so a rule may well bring in what cannot stand in a list of URLs.

The main result is `Compiler.lists_located_iff`.
-/

namespace JobGraph

variable {m : UrlMap} {catalog : Catalog} {c : Compiler}

/-! ### Catalogs -/

namespace Config

/-- The rules of a configuration without defects have no defects. -/
lemma rulesDefect?_of_defect? {c : Config} (h : c.defect? = none) :
    rulesDefect? 0 c.rules = none := by
  simp only [defect?, Option.orElse_eq_orElse, Option.orElse_eq_or, Option.or_eq_none_iff] at h
  exact h.2.2.2.2.1

lemma isSome_parse?_of_rulesDefect? {rules : List RewriteRule} {index : ℕ}
    (h : rulesDefect? index rules = none) :
    ∀ r ∈ rules, (Regex.Pattern.parse? r.lfn).isSome = true := by
  induction rules generalizing index with
  | nil => simp
  | cons r rules ih =>
    rw [rulesDefect?] at h
    split at h
    · cases h
    · split at h
      · cases h
      · next hpattern =>
        rw [Option.isNone_iff_eq_none, ← ne_eq, Option.ne_none_iff_isSome] at hpattern
        exact List.forall_mem_cons.2 ⟨hpattern, ih h⟩

end Config

namespace Catalog

lemma readRule_eq_ok_iff {r : RewriteRule} {rule : Rule} :
    readRule r = .ok rule ↔
      ∃ pattern, Regex.Pattern.parse? r.lfn = some pattern ∧
        rule = .ofPattern r.site pattern r.pfn := by
  rw [readRule]
  cases Regex.Pattern.parse? r.lfn <;> simp [eq_comm]

/-- Rules without defects make a catalog. -/
lemma exists_ofRules {rules : List RewriteRule} {index : ℕ}
    (h : Config.rulesDefect? index rules = none) : ∃ catalog, ofRules rules = .ok catalog := by
  obtain ⟨rs, hrs⟩ : ∃ rs, rules.mapM readRule = .ok rs := by
    refine exists_mapM_eq_ok.2 fun r hr => ?_
    obtain ⟨pattern, hpattern⟩ :=
      Option.isSome_iff_exists.1 (Config.isSome_parse?_of_rulesDefect? h r hr)
    exact ⟨_, readRule_eq_ok_iff.2 ⟨pattern, hpattern, rfl⟩⟩
  exact ⟨⟨rs⟩, by rw [ofRules, hrs]; rfl⟩

/-- The rules of a catalog are made from the configured ones. -/
lemma exists_ofPattern_of_mem {rules : List RewriteRule} (h : ofRules rules = .ok catalog)
    {rule : Rule} (hrule : rule ∈ catalog.rules) :
    ∃ r ∈ rules, ∃ pattern, rule = .ofPattern r.site pattern r.pfn := by
  obtain ⟨rs, hrs, hcatalog⟩ := bind_eq_ok.1 h
  rw [pure_eq_ok] at hcatalog
  subst hcatalog
  obtain ⟨r, hr, hread⟩ := exists_of_mem_mapM hrs hrule
  obtain ⟨pattern, -, rfl⟩ := readRule_eq_ok_iff.1 hread
  exact ⟨r, hr, pattern, rfl⟩

/-- A character of a URL stands in the logical path or in the template of a rule. -/
lemma mem_url? {rules : List RewriteRule} (hcatalog : ofRules rules = .ok catalog)
    {site path url : String} (h : catalog.url? site path = some url) {ch : Char}
    (hch : ch ∈ url.toList) : ch ∈ path.toList ∨ ∃ r ∈ rules, ch ∈ r.pfn.toList := by
  obtain ⟨rule, hfind, rfl⟩ := Option.map_eq_some_iff.1 h
  obtain ⟨r, hr, pattern, rfl⟩ :=
    exists_ofPattern_of_mem hcatalog (List.mem_of_find?_eq_some hfind)
  exact (Regex.Pattern.mem_replaceFirst hch).imp_right fun htemplate => ⟨r, hr, htemplate⟩

end Catalog

/-! ### Asking a catalog -/

/-- The URLs that are known for the files of a job at a site, in the order of the files. -/
def PlannedJob.urlsAt (m : UrlMap) (site : String) (s : PlannedJob) : List String :=
  (Placement.logicalPaths s.directories.dest s.manifest).filterMap
    (Placement.firstUrl? m (Placement.variants site))

namespace Compiler

/-- The compiler of a configuration whose rules make this catalog. -/
def ofCatalog (c : Config) (catalog : Catalog) : Compiler :=
  .ofConfig c (.ofFiles catalog c.recordsFile c.failuresFile)

/-- A configuration without defects has a catalog, and a compiler with it. -/
lemma exists_ofCatalog {c : Config} (h : c.defect? = none) :
    ∃ catalog, Catalog.ofRules c.rules = .ok catalog ∧
      (Services.ofConfig c).map (ofConfig c) = .ok (ofCatalog c catalog) := by
  obtain ⟨catalog, hcatalog⟩ := Catalog.exists_ofRules (Config.rulesDefect?_of_defect? h)
  refine ⟨catalog, hcatalog, ?_⟩
  rw [Services.ofConfig, hcatalog]
  rfl

/-- Such a compiler finds URLs without asking the world. -/
lemma exists_resolveUrls_eq (c : Config) (catalog : Catalog) (site : String)
    (jobs : List PlannedJob) :
    ∃ warnings, (ofCatalog c catalog).resolveUrls site jobs =
      pure (jobs.map fun s => { s with urls := s.urlsAt catalog.urlMap site }, warnings) := by
  induction jobs with
  | nil => exact ⟨[], rfl⟩
  | cons s jobs ih =>
    obtain ⟨warnings, hjobs⟩ := ih
    have hask : (ofCatalog c catalog).askUrls site s =
        pure (.ok (Placement.resolve catalog.urlMap (Placement.variants site)
          (Placement.logicalPaths s.directories.dest s.manifest))) :=
      Catalog.locate_ofFiles catalog c.recordsFile c.failuresFile site s.directories.dest s.manifest
    rw [resolveUrls, hask, Attempts.run_pure, pure_bind, hjobs]
    exact ⟨_, rfl⟩

/-- So the jobs have the same URLs in every world. -/
lemma located_ofCatalog (c : Config) (catalog : Catalog) {σ : Type} (w : World σ) (p : Plan)
    (st : σ) :
    (ofCatalog c catalog).located w p st =
      p.jobs.map fun s => { s with urls := s.urlsAt catalog.urlMap p.task.asyncDest } := by
  obtain ⟨warnings, hrun⟩ := exists_resolveUrls_eq c catalog p.task.asyncDest p.jobs
  rw [located, hrun, World.run_pure]

end Compiler

/-! ### URLs of planned jobs -/

namespace Plan

/-- The logical paths of the files of a planned job are plain. -/
lemma plain_of_mem_logicalPaths {r : Request} {p : Plan} (h : c.plan r = .ok p) {s : PlannedJob}
    (hs : s ∈ p.jobs) :
    ∀ path ∈ Placement.logicalPaths s.directories.dest s.manifest, Text.Plain path := by
  have htokens := tokens_of_plan_eq_ok h s hs
  have hmanifest : ∀ f ∈ s.manifest, Text.Plain f := by
    have hlog : s!"log/{s.logName}" = "log/" ++ s.logName := rfl
    rw [PlannedJob.manifest, hlog, List.forall_mem_cons, PlannedJob.outputNames,
      List.forall_mem_map, Text.plain_append]
    exact ⟨⟨by decide, Text.plain_of_isToken s.isToken_logName⟩,
      fun o ho => Text.plain_of_isToken (htokens.remote o ho)⟩
  rw [Placement.logicalPaths, List.forall_mem_map]
  intro f hf
  refine LogicalPath.plain_join ?_
  simpa using ⟨Text.plain_of_isToken htokens.dest, hmanifest f hf⟩

/-- What a token does not hold comes into the URLs of a planned job from the templates alone. -/
lemma exists_mem_template {rules : List RewriteRule} (hcatalog : Catalog.ofRules rules = .ok catalog)
    {r : Request} {p : Plan} (h : c.plan r = .ok p) {s : PlannedJob} (hs : s ∈ p.jobs)
    {site url : String} (hurl : url ∈ s.urlsAt catalog.urlMap site) {ch : Char}
    (hch : ch ∈ url.toList) (hnot : Text.isTokenChar ch = false) :
    ∃ rule ∈ rules, ch ∈ rule.pfn.toList := by
  obtain ⟨path, hpath, hfirst⟩ := List.mem_filterMap.1 hurl
  obtain ⟨name, -, hfound⟩ := List.exists_of_findSome?_eq_some hfirst
  rcases Catalog.mem_url? hcatalog hfound hch with hmem | htemplate
  · exact absurd hmem ((plain_of_mem_logicalPaths h hs path hpath).not_mem hnot)
  · exact htemplate

end Plan

namespace Compiler

/-- The list of its URLs is found in the statement about the variables of a job. -/
lemma listedUrls?_of_mem_located {c : Config} {r : Request} {p : Plan}
    (hplan : (ofCatalog c catalog).plan r = .ok p) {σ : Type} {w : World σ} {st : σ} :
    ∀ s ∈ (ofCatalog c catalog).located w p st,
      Node.listedUrls? (Node.varsStatement s) = some (", ".intercalate s.urls) := by
  intro s hs
  rw [located_ofCatalog] at hs
  obtain ⟨s, hmem, rfl⟩ := List.mem_map.1 hs
  exact Node.listedUrls?_varsStatement ((Plan.tokens_of_plan_eq_ok hplan s hmem).setUrls _)

/-- If the templates are without quotes, line feeds and blanks, then all URLs can be listed. -/
lemma listable_of_mem_located {c : Config} {r : Request} {p : Plan}
    (hcatalog : Catalog.ofRules c.rules = .ok catalog)
    (hplan : (ofCatalog c catalog).plan r = .ok p)
    (hrules : ∀ rule ∈ c.rules, '"' ∉ rule.pfn.toList ∧ '\n' ∉ rule.pfn.toList ∧
      ' ' ∉ rule.pfn.toList) {σ : Type} {w : World σ} {st : σ} :
    ∀ s ∈ (ofCatalog c catalog).located w p st, ∀ url ∈ s.urls, Node.Listable url := by
  intro s hs url hurl
  rw [located_ofCatalog] at hs
  obtain ⟨s, hmem, rfl⟩ := List.mem_map.1 hs
  -- a character that tokens do not hold would have to come from a template
  have habsent : ∀ ch, Text.isTokenChar ch = false → (∀ rule ∈ c.rules, ch ∉ rule.pfn.toList) →
      ch ∉ url.toList := by
    intro ch hch hnone hin
    obtain ⟨rule, hrule, htemplate⟩ := Plan.exists_mem_template hcatalog hplan hmem hurl hin hch
    exact hnone rule hrule htemplate
  exact Node.listable_of_not_mem
    (habsent '"' (by decide) fun rule hrule => (hrules rule hrule).1)
    (habsent '\n' (by decide) fun rule hrule => (hrules rule hrule).2.1)
    (habsent ' ' (by decide) fun rule hrule => (hrules rule hrule).2.2)

/-- **Locating by rules.**  A configuration without defects has a catalog.  Let a request have a
plan.  In every world, the jobs have the URLs that the catalog gives to their files, in the order of
the files, and the graph is about the jobs with these URLs.  The list of them is found in the fifth
statement about each job.  It can be read, which is to say that it is on one line, without quotes,
empty if there are no URLs and otherwise read back as these, if and only if each URL is without
quotes, line feeds and commas with a blank behind; and so it can if no template of a rule holds a
quote, a line feed or a blank. -/
theorem lists_located_iff (c : Config) (r : Request) (p : Plan) (hc : c.defect? = none)
    (hplan : Plan.ofRequest c.siteRules c.throttle r = .ok p) :
    ∃ catalog, Catalog.ofRules c.rules = .ok catalog ∧
      (Services.ofConfig c).map (ofConfig c) = .ok (ofCatalog c catalog) ∧
      ∀ (σ : Type) (w : World σ) (st : σ),
        (ofCatalog c catalog).located w p st = p.jobs.map (fun s =>
          { s with urls := s.urlsAt catalog.urlMap p.task.asyncDest }) ∧
        ⟨Artifact.graphFile, Node.graphText (.ofConfig c) p.task
          ((ofCatalog c catalog).located w p st)⟩ ∈ (ofCatalog c catalog).rendered w p st ∧
        ∀ s ∈ (ofCatalog c catalog).located w p st,
          (Node.statements (.ofConfig c) p.task s)[4]? = some (Node.varsStatement s) ∧
          ∃ text, Node.listedUrls? (Node.varsStatement s) = some text ∧
            (Node.Lists text s.urls ↔ ∀ url ∈ s.urls, Node.Listable url) ∧
            ((∀ rule ∈ c.rules, '"' ∉ rule.pfn.toList ∧ '\n' ∉ rule.pfn.toList ∧
              ' ' ∉ rule.pfn.toList) → Node.Lists text s.urls) := by
  obtain ⟨catalog, hcatalog, hcompiler⟩ := exists_ofCatalog hc
  have hplanned : (ofCatalog c catalog).plan r = .ok p := hplan
  refine ⟨catalog, hcatalog, hcompiler, fun σ w st => ⟨located_ofCatalog c catalog w p st,
    List.mem_cons_self, fun s hs => ⟨rfl, _, listedUrls?_of_mem_located hplanned s hs, ?_, ?_⟩⟩⟩
  · exact Node.lists_iff
  · exact fun hrules =>
      Node.lists_iff.2 (listable_of_mem_located hcatalog hplanned hrules s hs)

/-- The sample configuration with a rule for the site to which the sample request sends its
files. -/
def ruled (pfn : String) : Config :=
  { Config.sample with rules := [⟨"T2_US_N", "^/store/(.*)$", pfn⟩] }

/-- URLs of the jobs of the sample request. -/
def sampleUrls (start : String) : List (List String) :=
  [1, 2, 3].map fun n =>
    [s!"{start}user/j/ana/ana/130719_090932:x/0000/log/cmsRun_{n}.log.tar.gz"]

/-- The URLs of the sample request under such a rule. -/
lemma exists_located_ruled {pfn start : String}
    (hc : (ruled pfn).defect? = none)
    (h : (Plan.ofRequest (ruled pfn).siteRules (ruled pfn).throttle .sample).toOption.map (fun p =>
      p.jobs.map fun s => s.urlsAt
        ((Catalog.ofRules (ruled pfn).rules).toOption.getD ⟨[]⟩).urlMap p.task.asyncDest) =
      some (sampleUrls start)) :
    ∃ p catalog, Plan.ofRequest (ruled pfn).siteRules (ruled pfn).throttle .sample = .ok p ∧
      Catalog.ofRules (ruled pfn).rules = .ok catalog ∧
      ∀ (σ : Type) (w : World σ) (st : σ),
        ((ofCatalog (ruled pfn) catalog).located w p st).map (·.urls) = sampleUrls start := by
  obtain ⟨p, hplan, hurls⟩ := exists_of_map_toOption h
  obtain ⟨catalog, hcatalog, -⟩ := exists_ofCatalog hc
  rw [hcatalog] at hurls
  refine ⟨p, catalog, hplan, hcatalog, fun σ w st => ?_⟩
  rw [located_ofCatalog, List.map_map]
  exact hurls

/-- A template without quotes and blanks makes lists that can be read. -/
theorem lists_located_iff_ruled :
    ∃ p catalog,
      Plan.ofRequest (ruled "davs://se/$1").siteRules (ruled "davs://se/$1").throttle .sample =
        .ok p ∧
      Catalog.ofRules (ruled "davs://se/$1").rules = .ok catalog ∧
      ∀ (σ : Type) (w : World σ) (st : σ),
        ((ofCatalog (ruled "davs://se/$1") catalog).located w p st).map (·.urls) =
          sampleUrls "davs://se/" ∧
        ∀ s ∈ (ofCatalog (ruled "davs://se/$1") catalog).located w p st,
          ∃ text, Node.listedUrls? (Node.varsStatement s) = some text ∧
            Node.Lists text s.urls := by
  have hc : (ruled "davs://se/$1").defect? = none := by decide +kernel
  obtain ⟨p, catalog, hplan, hcatalog, hlocated⟩ :=
    @exists_located_ruled "davs://se/$1" "davs://se/" hc (by decide +kernel)
  refine ⟨p, catalog, hplan, hcatalog, fun σ w st => ⟨hlocated σ w st, fun s hs => ?_⟩⟩
  obtain ⟨catalog', hcatalog', -, hall⟩ :=
    lists_located_iff (ruled "davs://se/$1") .sample p hc hplan
  rw [hcatalog] at hcatalog'
  cases hcatalog'
  obtain ⟨-, text, htext, -, hclean⟩ := (hall σ w st).2.2 s hs
  exact ⟨text, htext, hclean (by decide)⟩

/-- A template with a quote in it is no defect, and with it a quote stands in the list of every job
of the sample request. -/
theorem not_lists_quotedTemplate :
    (ruled "davs://se/\"$1").defect? = none ∧
    ∃ p catalog,
      Plan.ofRequest (ruled "davs://se/\"$1").siteRules (ruled "davs://se/\"$1").throttle .sample =
        .ok p ∧
      Catalog.ofRules (ruled "davs://se/\"$1").rules = .ok catalog ∧
      ∀ (σ : Type) (w : World σ) (st : σ),
        ((ofCatalog (ruled "davs://se/\"$1") catalog).located w p st).length = 3 ∧
        ∀ s ∈ (ofCatalog (ruled "davs://se/\"$1") catalog).located w p st,
          ∃ text, Node.listedUrls? (Node.varsStatement s) = some text ∧ '"' ∈ text.toList := by
  have hc : (ruled "davs://se/\"$1").defect? = none := by decide +kernel
  obtain ⟨p, catalog, hplan, hcatalog, hlocated⟩ :=
    @exists_located_ruled "davs://se/\"$1" "davs://se/\"" hc (by decide +kernel)
  refine ⟨hc, p, catalog, hplan, hcatalog, fun σ w st => ⟨?_, fun s hs => ?_⟩⟩
  · rw [← List.length_map (·.urls), hlocated]
    rfl
  · have hplanned : (ofCatalog (ruled "davs://se/\"$1") catalog).plan .sample = .ok p := hplan
    refine ⟨_, listedUrls?_of_mem_located hplanned s hs, ?_⟩
    have hmem := List.mem_map_of_mem (f := fun s => s.urls) hs
    rw [hlocated] at hmem
    have hquote : ∀ urls ∈ sampleUrls "davs://se/\"", '"' ∈ (", ".intercalate urls).toList := by
      decide +kernel
    exact hquote _ hmem

end Compiler

end JobGraph
