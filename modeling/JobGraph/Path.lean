import JobGraph.Text.Basic

/-!
# Paths

A path is a text; what it names is given by its components. Slashes that follow each other, a slash
at the end and single dots inside do not matter, so paths with equal components are the same path
in different spellings. Two dots are a component like any other: nothing is resolved here.
-/

namespace JobGraph

/-- One step of a path. -/
inductive Component where
  /-- The slash in front of an absolute path. -/
  | root
  /-- A single dot in front of a relative path. -/
  | here
  /-- Two dots. -/
  | up
  | name (s : String)
deriving DecidableEq, Repr

/-- The place of a component in the order of paths, and its name. -/
def Component.rank : Component → Nat × String
  | .root => (0, "")
  | .here => (1, "")
  | .up => (2, "")
  | .name s => (3, s)

/-- Components in the order of paths. -/
def Component.compare (a b : Component) : Ordering :=
  (Ord.compare a.rank.1 b.rank.1).then (Ord.compare a.rank.2 b.rank.2)

/-- A path, as it is spelled. -/
structure Path where
  text : String
deriving DecidableEq, Repr

namespace Path

/-- The component of a piece between slashes; none for an empty piece and a single dot. -/
def componentOf? (piece : List Char) : Option Component :=
  if piece = [] ∨ piece = ['.'] then none
  else if piece = ['.', '.'] then some .up
  else some (.name (String.ofList piece))

/-- The path begins with a slash. -/
def isAbsolute (p : Path) : Bool :=
  p.text.toList.head? == some '/'

/-- The components of a path. -/
def components (p : Path) : List Component :=
  let parts := Text.pieces '/' p.text.toList
  let steps := parts.filterMap componentOf?
  if p.isAbsolute then .root :: steps
  else if parts.head? = some ['.'] then .here :: steps
  else steps

/-- The paths have the same components. -/
def same (p q : Path) : Bool :=
  p.components == q.components

/-- Lists of components in the order of paths. -/
def compareComponents : List Component → List Component → Ordering
  | [], [] => .eq
  | [], _ :: _ => .lt
  | _ :: _, [] => .gt
  | a :: as, b :: bs => (a.compare b).then (compareComponents as bs)

/-- Paths in their order: component by component, names by their characters. -/
def compare (p q : Path) : Ordering :=
  compareComponents p.components q.components

/-- The path `q` as seen from `p`. -/
def join (p q : Path) : Path :=
  if q.isAbsolute then q
  else
    let front := p.text.toList
    if front = [] ∨ front.getLast? = some '/' then ⟨p.text ++ q.text⟩
    else ⟨p.text ++ "/" ++ q.text⟩

/-- The name of what the path leads to, if its last component is a name. -/
def fileName? (p : Path) : Option String :=
  match p.components.getLast? with
  | some (.name s) => some s
  | _ => none

/-- The components of the directory that holds what the path leads to. -/
def parent? (p : Path) : Option (List Component) :=
  match p.components.getLast? with
  | some .root => none
  | some _ => some p.components.dropLast
  | none => none

/-- The piece between slashes stands for no component. -/
def isFiller (piece : List Char) : Bool :=
  piece = [] || piece = ['.']

/-- Pieces between slashes without the fillers at their end. -/
def dropFillers (pieces : List (List Char)) : List (List Char) :=
  (pieces.reverse.dropWhile isFiller).reverse

/-- The pieces of a relative path without the fillers at their end; a single dot in front stays. -/
def trimPieces : List (List Char) → List (List Char)
  | ['.'] :: ps => ['.'] :: dropFillers ps
  | ps => dropFillers ps

/-- The directory that holds what the path leads to, spelled as the path spells it. -/
def holder? (p : Path) : Option Path :=
  let pieces := Text.pieces '/' p.text.toList
  let up (front : List Char) (ps : List (List Char)) : Path :=
    ⟨String.ofList (front ++ Text.join '/' ps)⟩
  if p.isAbsolute then
    match dropFillers (pieces.drop 1) with
    | [] => none
    | ps => some (up ['/'] (dropFillers ps.dropLast))
  else
    match trimPieces pieces with
    | [] => none
    | ps => some (up [] (trimPieces ps.dropLast))

/-- `p` lies directly in `dir`. -/
def isIn (p dir : Path) : Bool :=
  p.parent? == some dir.components

/-- Two spellings are of the same path if their components agree. -/
theorem same_iff {p q : Path} : p.same q = true ↔ p.components = q.components := by
  simp [same]

@[simp]
theorem same_refl (p : Path) : p.same p = true := by
  simp [same]

end Path

end JobGraph
