import JobGraph.NameSet

/-!
# Site lists

The sites that the operator and the submitter of a task ask for or refuse.
-/

namespace JobGraph

/-- The operator's lists. -/
structure SiteRules where
  /-- The only sites that may be used; every site may if the set is empty. -/
  available : NameSet
  /-- Sites that may not be used. -/
  banned : NameSet
deriving DecidableEq, Repr

/-- The submitter's lists. -/
structure SitePreferences where
  /-- The only sites that are wanted; every site is if the set is empty. -/
  whitelist : NameSet
  /-- Sites that are not wanted, unless the whitelist names them. -/
  blacklist : NameSet
  /-- Jobs need not run where their data is. -/
  ignoreLocality : Bool
deriving DecidableEq, Repr

namespace SiteRules

/-- No restriction. -/
def unrestricted : SiteRules := ⟨.empty, .empty⟩

/-- The rules leave the site in use. -/
def allows (p : SiteRules) (site : String) : Bool :=
  !p.banned.contains site && (p.available.isEmpty || p.available.contains site)

end SiteRules

namespace SitePreferences

/-- The whitelist leaves the site in use. -/
def wants (p : SitePreferences) (site : String) : Bool :=
  p.whitelist.isEmpty || p.whitelist.contains site

/-- The blacklist leaves the site in use. -/
def tolerates (p : SitePreferences) (site : String) : Bool :=
  !p.blacklist.contains site || p.whitelist.contains site

end SitePreferences

end JobGraph
