import JobGraph.Document
import JobGraph.FileOp
import JobGraph.NameSet

/-!
# Disks

A disk is a tree of directories and files; paths that do not begin with a slash start at a current
directory. A path is walked piece by piece: every piece but the last has to be a directory, and two
dots go to the directory above.
-/

namespace JobGraph

/-- What is at a place on a disk. -/
inductive DiskEntry where
  | file (contents : ByteArray)
  | dir

/-- What is at each place, a place being the names that lead to it from the top. -/
structure Disk where
  entries : List (List String × DiskEntry)
  /-- The current directory. -/
  current : List String

namespace Disk

/-- A disk with an empty current directory. -/
def empty : Disk := ⟨[(["work"], .dir)], ["work"]⟩

/-- What is at a place; at the top is a directory. -/
def entry? (d : Disk) (place : List String) : Option DiskEntry :=
  if place = [] then some .dir else d.entries.lookup place

/-- The disk with an entry at a place. -/
def set (d : Disk) (place : List String) (e : DiskEntry) : Disk :=
  { d with entries := (place, e) :: d.entries.filter fun x => x.1 != place }

/-- The disk without the entry at a place. -/
def erase (d : Disk) (place : List String) : Disk :=
  { d with entries := d.entries.filter fun x => x.1 != place }

/-! ## Walking -/

/-- The longest name in bytes. -/
def maxName : Nat := 255

/-- The place that a piece of a path leads to from a place, which has to be a directory. -/
def enter (d : Disk) (place : List String) (piece : String) : Except DiskFault (List String) :=
  match d.entry? place with
  | none => .error .noSuchFile
  | some (.file _) => .error .notADirectory
  | some .dir =>
    if piece = "" ∨ piece = "." then .ok place
    else if piece = ".." then .ok place.dropLast
    else if maxName < piece.utf8ByteSize then .error .nameTooLong
    else .ok (place ++ [piece])

/-- Where a path leads. -/
inductive Spot where
  /-- To a directory, by a path that ends in dots or slashes alone. -/
  | above (place : List String)
  /-- To a name in a directory, and whether a slash follows it. -/
  | named (dir : List String) (name : String) (slash : Bool)

/-- Where a path leads; the directory of its last piece is there. -/
def spot (d : Disk) (p : Path) : Except DiskFault Spot := do
  if p.text.isEmpty then throw .noSuchFile
  let start := if p.isAbsolute then [] else d.current
  let pieces := (Text.split '/' p.text).reverse
  let slash := pieces.head? = some ""
  match pieces.dropWhile (·.isEmpty) with
  | [] => pure (.above start)
  | last :: before =>
    let dir ← before.reverse.foldlM (enter d) start
    let place ← enter d dir last
    if last = "." ∨ last = ".." then pure (.above place) else pure (.named dir last slash)

/-- What is where a path leads. -/
def look (d : Disk) (p : Path) : Except DiskFault DiskEntry := do
  match ← d.spot p with
  | .above _ => pure .dir
  | .named dir name slash =>
    match d.entry? (dir ++ [name]) with
    | none => throw .noSuchFile
    | some (.file contents) => if slash then throw .notADirectory else pure (.file contents)
    | some .dir => pure .dir

/-- A path leads to a directory. -/
def isDir (d : Disk) (p : Path) : Bool :=
  match d.look p with
  | .ok .dir => true
  | _ => false

/-! ## Changing -/

/-- Create one directory. -/
def makeDir (d : Disk) (p : Path) : Except DiskFault Disk := do
  match ← d.spot p with
  | .above _ => throw .exists
  | .named dir name _ =>
    if (d.entry? (dir ++ [name])).isSome then throw .exists
    else pure (d.set (dir ++ [name]) .dir)

/-- Create a directory and those above it; `depth` bounds how many. What was created stays when a
later step fails. -/
def makeDirs : Nat → Path → Disk → Except DiskFault Unit × Disk
  | 0, _, d => (.error .noSuchFile, d)
  | depth + 1, p, d =>
    if p.text.isEmpty then (.ok (), d)
    else
      let settle (fault : DiskFault) (d : Disk) : Except DiskFault Unit × Disk :=
        if d.isDir p then (.ok (), d) else (.error fault, d)
      match d.makeDir p with
      | .ok d => (.ok (), d)
      | .error .noSuchFile =>
        match p.holder? with
        | none => (.error .noSuchFile, d)
        | some above =>
          match makeDirs depth above d with
          | (.error fault, d) => (.error fault, d)
          | (.ok (), d) =>
            match d.makeDir p with
            | .ok d => (.ok (), d)
            | .error fault => settle fault d
      | .error fault => settle fault d

/-- Create a directory and those above it. -/
def makeAllDirs (p : Path) (d : Disk) : Except DiskFault Unit × Disk :=
  makeDirs (p.text.length + 1) p d

/-- The place of the file that is to be written at a path, and its contents if it is there. -/
def target (d : Disk) (p : Path) : Except DiskFault (List String × Option ByteArray) := do
  match ← d.spot p with
  | .above _ => throw .isADirectory
  | .named dir name slash =>
    if slash then throw .isADirectory
    match d.entry? (dir ++ [name]) with
    | none => pure (dir ++ [name], none)
    | some (.file contents) => pure (dir ++ [name], some contents)
    | some .dir => throw .isADirectory

/-- Write a file whose contents `extend` makes from the old ones, with the directories above it. -/
def store (attempt : Path → DiskAttempt) (extend : Option ByteArray → ByteArray) (p : Path)
    (d : Disk) : Except FileError Unit × Disk :=
  let put (d : Disk) : Except FileError Unit × Disk :=
    match d.target p with
    | .error fault => (.error (.disk (attempt p) fault), d)
    | .ok (place, old) => (.ok (), d.set place (.file (extend old)))
  match p.holder? with
  | none => put d
  | some above =>
    match makeAllDirs above d with
    | (.error fault, d) => (.error (.disk (.creatingDir above) fault), d)
    | (.ok (), d) => put d

/-- The place is inside a directory or is it. -/
def isBelow (place dir : List String) : Bool := dir.isPrefixOf place

/-- Move what is at a place, with all that is below it, to another place. -/
def move (d : Disk) (source target : List String) : Disk :=
  let (moved, rest) := (d.erase target).entries.partition fun e => isBelow e.1 source
  { d with entries := moved.map (fun e => (target ++ e.1.drop source.length, e.2)) ++ rest }

/-- Put what one path leads to in the place of what another leads to. -/
def rename (source target : Path) (d : Disk) : Except DiskFault Disk := do
  match ← d.spot source, ← d.spot target with
  | .named dir name slash, .named dir' name' slash' =>
    let place := dir ++ [name]
    let goal := dir' ++ [name']
    match d.entry? place with
    | none => throw .noSuchFile
    | some (.file _) =>
      if slash || slash' then throw .notADirectory
      if place = goal then pure d
      else
        match d.entry? goal with
        | some .dir => throw .isADirectory
        | _ => pure (d.move place goal)
    | some .dir =>
      if place = goal then pure d
      else if isBelow goal place then throw .invalidArgument
      else
        match d.entry? goal with
        | some (.file _) => throw .notADirectory
        | some .dir =>
          if d.entries.any fun e => isBelow e.1 goal && e.1 != goal then throw .directoryNotEmpty
          else pure (d.move place goal)
        | none => pure (d.move place goal)
  | _, _ => throw .busy

/-- Remove a file. -/
def remove (p : Path) (d : Disk) : Except DiskFault Disk := do
  match ← d.spot p with
  | .above _ => throw .isADirectory
  | .named dir name slash =>
    match d.entry? (dir ++ [name]) with
    | none => throw .noSuchFile
    | some .dir => throw .isADirectory
    | some (.file _) =>
      if slash then throw .notADirectory
      pure (d.erase (dir ++ [name]))

/-- The text of the file at a path. -/
def read (p : Path) (d : Disk) : Except DiskFault String := do
  match ← d.look p with
  | .dir => throw .isADirectory
  | .file contents =>
    match String.fromUTF8? contents with
    | some text => pure text
    | none => throw .notText

/-- The answer to a change, and the disk after it. -/
def changed (attempt : DiskAttempt) (d : Disk) :
    Except DiskFault Disk → Except FileError Unit × Disk
  | .ok d => (.ok (), d)
  | .error fault => (.error (.disk attempt fault), d)

/-- The answer to an operation and the disk after it. -/
def perform : (op : FileOp) → Disk → op.Answer × Disk
  | .read p, d => ((d.read p).mapError (.disk (.reading p)), d)
  | .write p contents, d => d.store .creatingFile (fun _ => contents) p
  | .append p contents, d =>
    d.store .opening (fun old => old.getD .empty ++ contents) p
  | .rename source target, d =>
    changed (.renaming source target) d (d.rename source target)
  | .remove p, d => changed (.removing p) d (d.remove p)
  | .makeDir p, d =>
    let (answer, d) := d.makeAllDirs p
    (answer.mapError (.disk (.creatingDir p)), d)
  | .exists p, d => ((d.look p).toOption.isSome, d)
  | .isFile p, d =>
    (match d.look p with
      | .ok (.file _) => true
      | _ => false, d)

/-! ## Listing -/

/-- The files below the current directory, by the paths that lead there from it. -/
def files (d : Disk) : List (String × ByteArray) :=
  Document.sortEntries (d.entries.filterMap fun e =>
    match e.2 with
    | .file contents =>
      if isBelow e.1 d.current then
        some ("/".intercalate (e.1.drop d.current.length), contents)
      else none
    | .dir => none)

/-- The names of what is directly in a directory, in order. -/
def namesIn (d : Disk) (p : Path) : Except DiskFault (List String) := do
  match ← d.look p with
  | .file _ => throw .notADirectory
  | .dir =>
    let dir ← match ← d.spot p with
      | .above dir => pure dir
      | .named dir name _ => pure (dir ++ [name])
    let names := d.entries.filterMap fun e =>
      if e.1.dropLast = dir then e.1.getLast? else none
    pure (NameSet.ofList names).toList

end Disk

end JobGraph
