import JobGraph.LogicalPath

/-!
# Placement

Outputs have logical paths; storage sites know files by URLs. A placement service maps one to the
other, as far as it can. Sites of the first tier also go by two further names, which are tried in
turn.
-/

namespace JobGraph

/-- What a placement service knows: the URL of a logical path at a site. -/
structure UrlMap where
  url? : String → String → Option String

namespace UrlMap

/-- No URLs. -/
def empty : UrlMap := ⟨fun _ _ => none⟩

/-- The map with this URL for a logical path at a site, in place of one that it may have. -/
def insert (m : UrlMap) (site path url : String) : UrlMap :=
  ⟨fun s p => if s = site ∧ p = path then some url else m.url? s p⟩

end UrlMap

namespace Placement

/-- The names that a site goes by, in the order in which they are tried. -/
def variants (site : String) : List String :=
  if "T1_".toList.isPrefixOf site.toList then [site, site ++ "_Disk", site ++ "_Buffer"]
  else [site]

/-- Files with and without a URL. -/
structure Resolved where
  /-- The URLs that were found, in the order of the files. -/
  urls : List String
  /-- The logical paths without a URL, in the order of the files. -/
  unresolved : List String
deriving DecidableEq, Repr

/-- The logical paths of files in a directory. -/
def logicalPaths (dir : String) (files : List String) : List String :=
  files.map fun f => LogicalPath.join [dir, f]

/-- The URL of a logical path at the first of the names that has one. -/
def firstUrl? (m : UrlMap) (names : List String) (path : String) : Option String :=
  names.findSome? fun name => m.url? name path

/-- The paths sorted into those with and those without a URL. -/
def resolve (m : UrlMap) (names paths : List String) : Resolved :=
  { urls := paths.filterMap (firstUrl? m names)
    unresolved := paths.filter fun path => (firstUrl? m names path).isNone }

end Placement

end JobGraph
