import JobGraph.NameSet

/-!
# Site shortages

Why no site is left for a job, and what the submitter is told about it.
-/

namespace JobGraph

/-- The restrictions on sites, in the order in which they apply. -/
inductive Restriction where
  | locality
  | operator
  | whitelist
  | blacklist
deriving DecidableEq, Repr

/-- What a restriction is called. -/
def Restriction.text : Restriction → String
  | .locality => "data locality"
  | .operator => "global site policy"
  | .whitelist => "user site whitelist"
  | .blacklist => "user site blacklist"

/-- Why no site is left. -/
inductive SiteShortage where
  /-- No site holds the data. -/
  | noReplica
  /-- The place of the data does not matter, but no list names a site. -/
  | noListedSite
  /-- The operator's lists leave none of the candidates. -/
  | noneAllowed (candidates : NameSet)
  /-- The whitelist leaves none of the allowed sites. -/
  | noneWanted (whitelist allowed : NameSet)
  /-- The blacklist leaves none of the allowed sites. -/
  | allRefused (blacklist allowed : NameSet)
  /-- A shortage that another party found and described. -/
  | stated (restriction : Restriction) (text : String)
deriving DecidableEq, Repr

namespace SiteShortage

/-- The restriction that left nothing. -/
def restriction : SiteShortage → Restriction
  | .noReplica => .locality
  | .noListedSite => .locality
  | .noneAllowed _ => .operator
  | .noneWanted _ _ => .whitelist
  | .allRefused _ _ => .blacklist
  | .stated restriction _ => restriction

/-- What the submitter of `task` is told. -/
def message (task : String) : SiteShortage → String
  | .noReplica => s!"no site hosts the input data of task {task}"
  | .noListedSite =>
    s!"task {task} ignores data locality, but neither the global nor the user whitelist"
      ++ " names a site"
  | .noneAllowed candidates =>
    s!"none of the candidate sites ({candidates.listed}) of task {task} is allowed"
      ++ " by the global site policy"
  | .noneWanted whitelist allowed =>
    s!"You put ({whitelist.listed}) in the site whitelist, but your task {task} can only run in"
      ++ s!" ({allowed.listed})"
  | .allRefused blacklist allowed =>
    s!"You put ({blacklist.listed}) in the site blacklist, but your task {task} can only run in"
      ++ s!" ({allowed.listed})"
  | .stated _ text => text

end SiteShortage

end JobGraph
