import Mathlib.Tactic.Common
import JobGraph.Proofs.Program.Fallible
import JobGraph.Rehearsal.Sample
import JobGraph.Services

/-!
# Looking up URLs

A catalog answers with a map into which URLs are entered site by site, path by path and by the first
rule; then this map is asked path by path, and for each by the names of the site.  Both orders come
to the same: a path has the URL that the first rule makes for the first of the names that has any
rule for it.  A path that is asked for twice is entered twice with the same URL, and so it is found
twice.

What is to be found is said by `Catalog.Locates` and `Catalog.Misses` in terms of the rules, and of
the files by `Catalog.Sorts`.  The main result is `Catalog.sorts_locate_iff`.
-/

namespace JobGraph

namespace Catalog

variable {c : Catalog} {site path url : String}

/-! ### Rules -/

/-- The rule is one of the site, and the logical path matches it. -/
def Rule.Applies (rule : Rule) (site path : String) : Prop :=
  rule.site = site ∧ rule.isMatch path = true

/-- The first rule of the catalog that applies. -/
def Prefers (c : Catalog) (site path : String) (rule : Rule) : Prop :=
  ∃ before after, c.rules = before ++ rule :: after ∧ rule.Applies site path ∧
    ∀ r ∈ before, ¬ r.Applies site path

/-- No rule of the catalog applies. -/
def Ignores (c : Catalog) (site path : String) : Prop :=
  ∀ rule ∈ c.rules, ¬ rule.Applies site path

lemma applies_iff {rule : Rule} :
    (rule.site == site && rule.isMatch path) = true ↔ rule.Applies site path := by
  rw [Bool.and_eq_true, beq_iff_eq, Rule.Applies]

lemma find?_eq_some_iff_prefers {rule : Rule} :
    c.rules.find? (fun r => r.site == site && r.isMatch path) = some rule ↔
      c.Prefers site path rule := by
  rw [List.find?_eq_some_iff_append, applies_iff]
  constructor
  · rintro ⟨happlies, before, after, hrules, hbefore⟩
    refine ⟨before, after, hrules, happlies, fun r hr hr' => ?_⟩
    have hnot := hbefore r hr
    rw [applies_iff.2 hr'] at hnot
    cases hnot
  · rintro ⟨before, after, hrules, happlies, hbefore⟩
    refine ⟨happlies, before, after, hrules, fun r hr => ?_⟩
    rw [Bool.not_eq_true', Bool.eq_false_iff, ne_eq, applies_iff]
    exact hbefore r hr

/-- The URL of a path at a site is made by the first rule that applies. -/
lemma url?_eq_some_iff :
    c.url? site path = some url ↔
      ∃ rule, c.Prefers site path rule ∧ rule.rewrite path = url := by
  rw [url?, Option.map_eq_some_iff]
  simp only [find?_eq_some_iff_prefers]

lemma find?_eq_none_iff_ignores :
    c.rules.find? (fun r => r.site == site && r.isMatch path) = none ↔
      c.Ignores site path := by
  simp only [List.find?_eq_none, applies_iff, Ignores]

/-- There is a URL if any rule applies. -/
lemma url?_eq_none_iff : c.url? site path = none ↔ c.Ignores site path := by
  rw [← find?_eq_none_iff_ignores, url?, Option.map_eq_none_iff]

/-- The rules of a catalog are made from the configured ones, in their order. -/
lemma forall₂_of_ofRules {rules : List RewriteRule} (h : ofRules rules = .ok c) :
    List.Forall₂ (fun r rule => ∃ pattern, Regex.Pattern.parse? r.lfn = some pattern ∧
      rule = .ofPattern r.site pattern r.pfn) rules c.rules := by
  obtain ⟨rs, hrs, hc⟩ := bind_eq_ok.1 h
  cases pure_eq_ok.1 hc
  refine (mapM_eq_ok.1 hrs).imp fun r rule hread => ?_
  rw [readRule] at hread
  split at hread
  · next pattern hpattern =>
    cases hread
    exact ⟨pattern, hpattern, rfl⟩
  · cases hread

/-! ### The map that a catalog answers -/

lemma url?_collect (site' path' : String) (m : UrlMap) (paths : List String) :
    (c.collect site m paths).url? site' path' =
      if site' = site ∧ path' ∈ paths then (c.url? site' path').or (m.url? site' path')
      else m.url? site' path' := by
  -- what is entered for a path is the same each time
  induction paths generalizing m with
  | nil => simp [collect]
  | cons path paths ih =>
    cases hurl : c.url? site path with
    | none =>
      have hstep : c.collect site m (path :: paths) = c.collect site m paths := by
        rw [collect, List.foldl_cons, hurl, collect]
      rw [hstep, ih]
      by_cases hsite : site' = site
      · by_cases hpath : path' = path
        · subst hsite hpath
          simp [hurl]
        · simp [hpath]
      · simp [hsite]
    | some url =>
      have hstep : c.collect site m (path :: paths) =
          c.collect site (m.insert site path url) paths := by
        rw [collect, List.foldl_cons, hurl, collect]
      rw [hstep, ih]
      by_cases hsite : site' = site
      · by_cases hpath : path' = path
        · subst hsite hpath
          simp [hurl, UrlMap.insert]
        · simp [hpath, UrlMap.insert]
      · simp [hsite, UrlMap.insert]

/-- The answer holds what the catalog knows of the paths and the sites that it is asked for. -/
lemma url?_answer (site path : String) (sites paths : List String) :
    (c.answer sites paths).url? site path =
      if site ∈ sites ∧ path ∈ paths then c.url? site path else none := by
  have hfold : ∀ m : UrlMap,
      (sites.foldl (fun m site => c.collect site m paths) m).url? site path =
        if site ∈ sites ∧ path ∈ paths then (c.url? site path).or (m.url? site path)
        else m.url? site path := by
    induction sites with
    | nil => simp
    | cons first sites ih =>
      intro m
      rw [List.foldl_cons, ih, url?_collect]
      by_cases hpath : path ∈ paths
      · by_cases hfirst : site = first
        · by_cases hsites : first ∈ sites
          · cases hurl : c.url? first path <;> simp [hpath, hfirst, hsites, hurl]
          · simp [hpath, hfirst, hsites]
        · simp [hpath, hfirst]
      · simp [hpath]
  rw [answer, hfold]
  simp [UrlMap.empty]

/-- So it does not matter whether the answer is asked or all that the catalog knows. -/
lemma resolve_answer (names paths : List String) :
    Placement.resolve (c.answer names paths) names paths =
      Placement.resolve c.urlMap names paths := by
  have hfirst : ∀ path ∈ paths, Placement.firstUrl? (c.answer names paths) names path =
      Placement.firstUrl? c.urlMap names path := by
    intro path hpath
    have hnames : ∀ tried ⊆ names,
        tried.findSome? (fun name => (c.answer names paths).url? name path) =
          tried.findSome? fun name => c.urlMap.url? name path := by
      intro tried htried
      induction tried with
      | nil => rfl
      | cons name tried ih =>
        rw [List.cons_subset] at htried
        rw [List.findSome?_cons, List.findSome?_cons, ih htried.2, url?_answer,
          if_pos ⟨htried.1, hpath⟩]
        rfl
    exact hnames names (List.Subset.refl names)
  rw [Placement.resolve, Placement.resolve, List.filterMap_congr hfirst]
  refine congrArg _ (List.filter_congr fun path hpath => ?_)
  rw [hfirst path hpath]

/-- A catalog answers without asking the world. -/
lemma locate_ofFiles (c : Catalog) (records failures : Option Path) (site dir : String)
    (files : List String) :
    (Services.ofFiles c records failures).locate site dir files =
      pure (.ok (Placement.resolve c.urlMap (Placement.variants site)
        (Placement.logicalPaths dir files))) := by
  rw [← resolve_answer]
  rfl

/-! ### Names of sites -/

/-- The names of a site by the order in which they count: its own, and those of its disk and of its
buffer if it is of the first tier. -/
inductive Called (site : String) : ℕ → String → Prop where
  | plain : Called site 0 site
  | disk (h : "T1_".toList <+: site.toList) : Called site 1 (site ++ "_Disk")
  | buffer (h : "T1_".toList <+: site.toList) : Called site 2 (site ++ "_Buffer")

lemma getElem?_variants {k : ℕ} {name : String} :
    (Placement.variants site)[k]? = some name ↔ Called site k name := by
  rw [Placement.variants]
  constructor
  · split
    · next htier =>
      rw [List.isPrefixOf_iff_prefix] at htier
      match k with
      | 0 =>
        rintro ⟨⟩
        exact .plain
      | 1 =>
        rintro ⟨⟩
        exact .disk htier
      | 2 =>
        rintro ⟨⟩
        exact .buffer htier
      | k + 3 => simp
    · match k with
      | 0 =>
        rintro ⟨⟩
        exact .plain
      | k + 1 => simp
  · intro hcalled
    cases hcalled with
    | plain => split <;> rfl
    | disk htier =>
      rw [if_pos (List.isPrefixOf_iff_prefix.2 htier)]
      rfl
    | buffer htier =>
      rw [if_pos (List.isPrefixOf_iff_prefix.2 htier)]
      rfl

/-- The URL is made by the first rule that applies under the first name of the site under which any
applies. -/
def Locates (c : Catalog) (site path url : String) : Prop :=
  ∃ k name rule, Called site k name ∧ c.Prefers name path rule ∧
    rule.rewrite path = url ∧
    ∀ k' name', k' < k → Called site k' name' → c.Ignores name' path

/-- No rule applies under any name of the site. -/
def Misses (c : Catalog) (site path : String) : Prop :=
  ∀ k name, Called site k name → c.Ignores name path

lemma firstUrl?_eq_none_iff :
    Placement.firstUrl? c.urlMap (Placement.variants site) path = none ↔ c.Misses site path := by
  rw [Placement.firstUrl?, List.findSome?_eq_none_iff]
  constructor
  · intro hnone k name hcalled
    exact url?_eq_none_iff.1 (hnone name (List.mem_of_getElem? (getElem?_variants.2 hcalled)))
  · intro hmisses name hname
    obtain ⟨k, hk⟩ := List.mem_iff_getElem?.1 hname
    exact url?_eq_none_iff.2 (hmisses k name (getElem?_variants.1 hk))

lemma firstUrl?_eq_some_iff :
    Placement.firstUrl? c.urlMap (Placement.variants site) path = some url ↔
      c.Locates site path url := by
  rw [Placement.firstUrl?, List.findSome?_eq_some_iff]
  constructor
  · rintro ⟨before, name, after, hnames, hurl, hbefore⟩
    obtain ⟨rule, hprefers, hmade⟩ := url?_eq_some_iff.1 hurl
    have hcalled : Called site before.length name := by
      rw [← getElem?_variants, hnames]
      simp
    refine ⟨before.length, name, rule, hcalled, hprefers, hmade, fun k name' hk hcalled' => ?_⟩
    rw [← getElem?_variants, hnames, List.getElem?_append_left hk] at hcalled'
    exact url?_eq_none_iff.1 (hbefore name' (List.mem_of_getElem? hcalled'))
  · rintro ⟨k, name, rule, hcalled, hprefers, hmade, hbefore⟩
    obtain ⟨hk, hname⟩ := List.getElem?_eq_some_iff.1 (getElem?_variants.2 hcalled)
    refine ⟨(Placement.variants site).take k, name, (Placement.variants site).drop (k + 1), ?_,
      url?_eq_some_iff.2 ⟨rule, hprefers, hmade⟩, fun name' hname' => ?_⟩
    · rw [← hname, ← List.drop_eq_getElem_cons hk, List.take_append_drop]
    · obtain ⟨k', hk'⟩ := List.mem_iff_getElem?.1 hname'
      rw [List.getElem?_take] at hk'
      split at hk'
      · next hlt => exact url?_eq_none_iff.2 (hbefore k' name' hlt (getElem?_variants.1 hk'))
      · cases hk'

/-! ### Files -/

/-- The paths one after another, each of which is located or missed. -/
inductive Sorts (c : Catalog) (site : String) :
    List String → List String → List String → Prop where
  | nil : Sorts c site [] [] []
  | located {path url : String} {paths urls unresolved : List String}
      (h : c.Locates site path url) (hrest : Sorts c site paths urls unresolved) :
      Sorts c site (path :: paths) (url :: urls) unresolved
  | missed {path : String} {paths urls unresolved : List String}
      (h : c.Misses site path) (hrest : Sorts c site paths urls unresolved) :
      Sorts c site (path :: paths) urls (path :: unresolved)

variable {paths urls unresolved : List String}

/-- Every path is accounted for once. -/
lemma Sorts.length_add_length (h : c.Sorts site paths urls unresolved) :
    urls.length + unresolved.length = paths.length := by
  induction h with
  | nil => rfl
  | located _ _ ih =>
    rw [List.length_cons, List.length_cons]
    omega
  | missed _ _ ih =>
    rw [List.length_cons, List.length_cons]
    omega

/-- The paths that are missed are some of the paths, in their order. -/
lemma Sorts.sublist (h : c.Sorts site paths urls unresolved) : unresolved.Sublist paths := by
  induction h with
  | nil => exact List.Sublist.refl _
  | located _ _ ih => exact ih.cons _
  | missed _ _ ih => exact ih.cons_cons _

/-- What resolving comes to is what the paths are sorted into. -/
lemma sorts_iff :
    c.Sorts site paths urls unresolved ↔
      Placement.resolve c.urlMap (Placement.variants site) paths = ⟨urls, unresolved⟩ := by
  rw [Placement.resolve, Placement.Resolved.mk.injEq]
  constructor
  · intro hsorts
    induction hsorts with
    | nil => exact ⟨rfl, rfl⟩
    | located h _ ih =>
      have hfirst := firstUrl?_eq_some_iff.2 h
      simp [hfirst, ih.1, ih.2]
    | missed h _ ih =>
      have hfirst := firstUrl?_eq_none_iff.2 h
      simp [hfirst, ih.1, ih.2]
  · rintro ⟨rfl, rfl⟩
    induction paths with
    | nil => exact .nil
    | cons path paths ih =>
      cases hfirst : Placement.firstUrl? c.urlMap (Placement.variants site) path with
      | none =>
        simp only [List.filterMap_cons, List.filter_cons, hfirst, Option.isNone_none, if_true]
        exact .missed (firstUrl?_eq_none_iff.1 hfirst) ih
      | some url =>
        simp only [List.filterMap_cons, List.filter_cons, hfirst, Option.isNone_some,
          Bool.false_eq_true, if_false]
        exact .located (firstUrl?_eq_some_iff.1 hfirst) ih

/-- **Looking up by rules.**  A catalog answers without asking the world.  Whatever its rules are,
and whichever functions they match and rewrite by, for any site, directory and files, what is found
are the lists into which the logical paths of the files are sorted one after another, and no others:
a path for which a rule applies under any name of the site is located by the first such rule of the
first such name, and each other one is left unresolved.  Together the lists have one entry for each
file, also for files that are given twice, and the unresolved paths stand in the order of the files.
If the rules are configured, then the first rule is the first one in the configuration, and each of
them matches by its regular expression and replaces the match with its template. -/
theorem sorts_locate_iff (c : Catalog) (records failures : Option Path) (site dir : String)
    (files : List String) :
    ∃ found : Placement.Resolved,
      (Services.ofFiles c records failures).locate site dir files = pure (.ok found) ∧
      (∀ urls unresolved, c.Sorts site (files.map fun f => LogicalPath.join [dir, f]) urls
        unresolved ↔ found = ⟨urls, unresolved⟩) ∧
      found.urls.length + found.unresolved.length = files.length ∧
      found.unresolved.Sublist (files.map fun f => LogicalPath.join [dir, f]) ∧
      ∀ rules, ofRules rules = .ok c → List.Forall₂ (fun r rule =>
        ∃ pattern, Regex.Pattern.parse? r.lfn = some pattern ∧
          rule = .ofPattern r.site pattern r.pfn) rules c.rules := by
  set found := Placement.resolve c.urlMap (Placement.variants site)
    (Placement.logicalPaths dir files)
  have hsorts : c.Sorts site (Placement.logicalPaths dir files) found.urls found.unresolved :=
    sorts_iff.2 rfl
  have hlength : found.urls.length + found.unresolved.length = files.length := by
    rw [hsorts.length_add_length, Placement.logicalPaths, List.length_map]
  exact ⟨found, locate_ofFiles c records failures site dir files, fun urls unresolved => sorts_iff,
    hlength, hsorts.sublist, fun rules => forall₂_of_ofRules⟩

/-- Rules for a site of the first tier, of which the first one is about its disk. -/
def tierOneRules : List RewriteRule :=
  [⟨"T1_US_N_Disk", "^/store/(.*)$", "root://disk/$1"⟩,
    ⟨"T1_US_N", "^/store/(.*)[.]log$", "root://log/$1"⟩]

/-- The name of the site itself counts before that of its disk, and a file that is given twice is
found twice. -/
theorem sorts_locate_iff_tierOne :
    ∃ c, ofRules tierOneRules = .ok c ∧
      (Services.ofFiles c none none).locate "T1_US_N" "/store/user" ["a.log", "b", "a.log"] =
        pure (.ok ⟨["root://log/user/a", "root://disk/user/b", "root://log/user/a"], []⟩) ∧
      c.Sorts "T1_US_N" ["/store/user/a.log", "/store/user/b", "/store/user/a.log"]
        ["root://log/user/a", "root://disk/user/b", "root://log/user/a"] [] := by
  have hresolve : (ofRules tierOneRules).toOption.map (fun c =>
      let names := Placement.variants "T1_US_N"
      let paths := Placement.logicalPaths "/store/user" ["a.log", "b", "a.log"]
      Placement.resolve c.urlMap names paths) =
      some ⟨["root://log/user/a", "root://disk/user/b", "root://log/user/a"], []⟩ := by
    decide +kernel
  obtain ⟨c, hc, hresolve⟩ := exists_of_map_toOption hresolve
  obtain ⟨found, hlocate, hsorts, -⟩ :=
    sorts_locate_iff c none none "T1_US_N" "/store/user" ["a.log", "b", "a.log"]
  have hfound := locate_ofFiles c none none "T1_US_N" "/store/user" ["a.log", "b", "a.log"]
  rw [hresolve] at hfound
  rw [hfound] at hlocate
  cases hlocate
  have hpaths : (["a.log", "b", "a.log"].map fun f => LogicalPath.join ["/store/user", f]) =
      ["/store/user/a.log", "/store/user/b", "/store/user/a.log"] := by decide
  exact ⟨c, hc, hfound, hpaths ▸ (hsorts _ _).2 rfl⟩

end Catalog

end JobGraph
