import JobGraph.FileOp
import JobGraph.Text.Utf8

/-!
# File stores

A file system in memory: files by path, in the order of paths and with equal paths counted as one,
and faults that can be put in on purpose. An operation that fails changes nothing. Directories need
not exist for files to be in them.
-/

namespace JobGraph

/-- A file system in memory. -/
structure FileStore where
  /-- The files in the order of their paths, each under the spelling it was first stored by. -/
  files : List (Path × ByteArray)
  /-- The directories that were created. -/
  dirs : List Path
  /-- Paths to which writing and appending fail. -/
  refusedWrites : List Path
  /-- Texts such that writing and appending to a path that begins with one fails. -/
  refusedStarts : List String
  /-- Paths to which renaming fails. -/
  refusedRenames : List Path

namespace FileStore

/-- The store without files and faults. -/
def empty : FileStore := ⟨[], [], [], [], []⟩

/-- The contents of the file at a path. -/
def contents? (s : FileStore) (p : Path) : Option ByteArray :=
  (s.files.find? fun e => e.1.same p).map (·.2)

/-- The file at a path as a text; what is no text in it shows as replacement characters. -/
def shown? (s : FileStore) (p : Path) : Option String :=
  (s.contents? p).map Utf8.decodeLossy

/-- The files with `contents` at `p`; a file that is there keeps its spelling. -/
def insertFile (p : Path) (contents : ByteArray) : List (Path × ByteArray) → List (Path × ByteArray)
  | [] => [(p, contents)]
  | (q, old) :: rest =>
    match p.compare q with
    | .lt => (p, contents) :: (q, old) :: rest
    | .eq => (q, contents) :: rest
    | .gt => (q, old) :: insertFile p contents rest

/-- The store with `contents` at `p`. -/
def put (s : FileStore) (p : Path) (contents : ByteArray) : FileStore :=
  { s with files := insertFile p contents s.files }

/-- The store without a file at `p`. -/
def erase (s : FileStore) (p : Path) : FileStore :=
  { s with files := s.files.filter fun e => !e.1.same p }

/-- Writing to `p` is refused on purpose. -/
def refusesWrite (s : FileStore) (p : Path) : Bool :=
  s.refusedWrites.any p.same || s.refusedStarts.any fun t => t.toList.isPrefixOf p.text.toList

/-! ## Setting up -/

/-- Make writing to `p` fail. -/
def refuseWrites (s : FileStore) (p : Path) : FileStore :=
  { s with refusedWrites := p :: s.refusedWrites }

/-- Make writing to paths that begin with `start` fail. -/
def refuseWritesFrom (s : FileStore) (start : String) : FileStore :=
  { s with refusedStarts := start :: s.refusedStarts }

/-- Make renaming to `p` fail. -/
def refuseRenames (s : FileStore) (p : Path) : FileStore :=
  { s with refusedRenames := p :: s.refusedRenames }

/-! ## Operations -/

/-- The answer to an operation and the store after it. -/
def perform : (op : FileOp) → FileStore → op.Answer × FileStore
  | .read p, s =>
    match s.contents? p with
    | none => (.error (.notFound p), s)
    | some bytes =>
      match String.fromUTF8? bytes with
      | some text => (.ok text, s)
      | none => (.error (.notText (Utf8.refusal bytes)), s)
  | .write p contents, s =>
    if s.refusesWrite p then (.error (.writeRefused p), s) else (.ok (), s.put p contents)
  | .append p contents, s =>
    if s.refusesWrite p then (.error (.writeRefused p), s)
    else (.ok (), s.put p ((s.contents? p).getD .empty ++ contents))
  | .rename source target, s =>
    if s.refusedRenames.any target.same then (.error (.renameRefused target), s)
    else
      match s.contents? source with
      | none => (.error (.notFound source), s)
      | some contents => (.ok (), (s.erase source).put target contents)
  | .remove p, s =>
    match s.contents? p with
    | none => (.error (.notFound p), s)
    | some _ => (.ok (), s.erase p)
  | .makeDir p, s => (.ok (), { s with dirs := p :: s.dirs })
  | .exists p, s => ((s.contents? p).isSome || s.dirs.any p.same, s)
  | .isFile p, s => ((s.contents? p).isSome, s)

/-- The paths of all files, in order. -/
def paths (s : FileStore) : List Path := s.files.map (·.1)

/-- The paths of the files directly in a directory, in order. -/
def pathsIn (s : FileStore) (dir : Path) : List Path := s.paths.filter (·.isIn dir)

end FileStore

end JobGraph
