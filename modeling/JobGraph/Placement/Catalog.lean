import JobGraph.Error
import JobGraph.Config.Basic
import JobGraph.Placement.Basic
import JobGraph.Regex.Template

/-!
# Placement catalogs

A placement service given by rules: at a site, the first rule that a logical path matches makes the
URL of it. A rule is a pair of functions, whichever way patterns and templates are written; those of
configured rules match by regular expressions, and replace the match with the rule's template. Asked
for paths at sites, the catalog collects the URLs of these paths alone.
-/

namespace JobGraph

/-- A rule whose pattern has been read. -/
structure Catalog.Rule where
  site : String
  /-- The logical path matches the pattern. -/
  isMatch : String → Bool
  /-- What the template makes of a logical path that matches. -/
  rewrite : String → String

/-- Rules in the order in which they are tried. -/
structure Catalog where
  rules : List Catalog.Rule

namespace Catalog

/-- The rule of a site that matches by a regular expression and replaces the match. -/
def Rule.ofPattern (site : String) (p : Regex.Pattern) (template : String) : Rule :=
  ⟨site, p.isMatch, p.replaceFirst template⟩

/-- The rule with its pattern read. -/
def readRule (r : RewriteRule) : Except Error Rule :=
  match Regex.Pattern.parse? r.lfn with
  | some pattern => .ok (.ofPattern r.site pattern r.pfn)
  | none => .error (.config (.catalogPattern r.site Regex.refusal))

/-- The catalog of configured rules. -/
def ofRules (rules : List RewriteRule) : Except Error Catalog := do
  pure ⟨← rules.mapM readRule⟩

/-- The URL that the catalog gives to a logical path at a site. -/
def url? (c : Catalog) (site path : String) : Option String :=
  (c.rules.find? fun r => r.site == site && r.isMatch path).map fun r => r.rewrite path

/-- What the catalog knows. -/
def urlMap (c : Catalog) : UrlMap := ⟨c.url?⟩

/-- The map with the URLs of logical paths at a site, as far as the catalog has any. -/
def collect (c : Catalog) (site : String) (m : UrlMap) (paths : List String) : UrlMap :=
  paths.foldl (fun m path =>
    match c.url? site path with
    | some url => m.insert site path url
    | none => m) m

/-- What the catalog answers when it is asked for logical paths at sites. -/
def answer (c : Catalog) (sites paths : List String) : UrlMap :=
  sites.foldl (fun m site => c.collect site m paths) .empty

end Catalog

end JobGraph
