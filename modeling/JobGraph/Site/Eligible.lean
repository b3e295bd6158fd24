import JobGraph.Site.Rules
import JobGraph.Site.Shortage

/-!
# Eligible sites

The sites at which the jobs of a group may run: candidates are where the data is, or every listed
site if that does not matter, and the operator's and the submitter's lists narrow them down in
turn. The first restriction that leaves nothing is the one that is reported.
-/

namespace JobGraph

/-- The sites at which a job may run; there is at least one. -/
structure EligibleSites where
  names : NameSet
  nonempty : names.isEmpty = false
deriving DecidableEq, Repr

namespace EligibleSites

/-- The number of sites. -/
def size (s : EligibleSites) : Nat := s.names.size

/-- The sites in order. -/
def toList (s : EligibleSites) : List String := s.names.toList

/-- The sites in order, separated by commas. -/
def listed (s : EligibleSites) : String := s.names.listed

end EligibleSites

namespace Site

/-- The sites that are considered for data at `locations`. -/
def candidates (locations : List String) (rules : SiteRules) (user : SitePreferences) : NameSet :=
  if user.ignoreLocality then rules.available.union user.whitelist else .ofList locations

/-- The sites at which jobs that read data at `locations` may run. -/
def eligible (locations : List String) (rules : SiteRules) (user : SitePreferences) :
    Except SiteShortage EligibleSites :=
  let candidates := candidates locations rules user
  let allowed := candidates.filter rules.allows
  let wanted := allowed.filter user.wants
  let left := wanted.filter user.tolerates
  if candidates.isEmpty then
    .error (if user.ignoreLocality then .noListedSite else .noReplica)
  else if allowed.isEmpty then .error (.noneAllowed candidates)
  else if wanted.isEmpty then .error (.noneWanted user.whitelist allowed)
  else if h : left.isEmpty then .error (.allRefused user.blacklist allowed)
  else .ok ⟨left, by simpa using h⟩

end Site

end JobGraph
