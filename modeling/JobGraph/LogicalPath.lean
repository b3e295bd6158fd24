import JobGraph.Blake3
import JobGraph.Task.Basic

/-!
# Logical paths

Where outputs go, in the name space that all storage sites share:

* `/store/temp/user/<user>.<namespace>/<prefix>/<primary>/<stem>/<time>/<bucket>` at first,
* `/store/user/<user>/<prefix>/<primary>/<stem>/<time>/<bucket>` in the end.

The paths depend on the task alone. A bucket holds the files of at most a thousand jobs.
-/

namespace JobGraph

namespace LogicalPath

/-- A part of a path without the slashes at its ends. -/
def bare (part : String) : String :=
  String.ofList (Text.trimBy (· == '/') part.toList)

/-- The parts with one slash before each; parts that hold nothing but slashes are left out. -/
def join (parts : List String) : String :=
  "/" ++ "/".intercalate ((parts.map bare).filter fun p => !p.isEmpty)

/-- The directory below which outputs go at first. -/
def tempRoot : String := "/store/temp/user"

/-- The directory below which outputs go in the end. -/
def finalRoot : String := "/store/user"

/-- How many jobs share a bucket. -/
def jobsPerBucket : Nat := 1000

/-- A number in decimal digits, at least `width` of them. -/
def padded (width n : Nat) : String :=
  let ds := Nat.toDigits 10 n
  String.ofList (List.replicate (width - ds.length) '0' ++ ds)

/-- The bucket of a job. -/
def bucket (sequence : Nat) : String :=
  padded 4 (sequence / jobsPerBucket)

/-- A publication name without its last hyphen and what follows. -/
def publicationStem (name : String) : String :=
  match Text.cutLast? '-' name.toList with
  | some (stem, _) => String.ofList stem
  | none => name

/-- The part of a task's name before its second underscore. -/
def timeBucket (taskName : String) : String :=
  "_".intercalate ((Text.split '_' taskName).take 2)

/-- The first name in a dataset's path, or the stem of the publication name if there is no
dataset. -/
def primary (inputDataset : Option String) (publishName : String) : String :=
  match inputDataset with
  | some dataset => (Text.split '/' dataset)[1]?.getD dataset
  | none => publicationStem publishName

/-- What tells submitters apart: name, group and role, separated by commas. -/
def identityText (i : Identity) : String :=
  i.dn ++ String.join ([i.group, i.role].map fun part => (part.map ("," ++ ·)).getD "")

/-- A submitter's name space: the hash of what tells submitters apart. -/
def userSpace (i : Identity) : String :=
  Blake3.hash (identityText i).toUTF8

end LogicalPath

/-- Where a task's or a job's outputs go at first and in the end. -/
structure Destinations where
  temp : String
  dest : String
deriving DecidableEq, Repr

namespace Destinations

open LogicalPath

/-- The directories of a task. -/
def ofTask (t : Task) : Destinations :=
  let user := t.identity.username
  let below := [t.arguments.lfnPrefix, primary t.inputDataset t.publishName,
    publicationStem t.publishName, timeBucket t.name]
  { temp := join (tempRoot :: s!"{user}.{userSpace t.identity}" :: below)
    dest := join (finalRoot :: user :: below) }

/-- The directories of a job: the bucket of its number below the directories of its task. -/
def forJob (d : Destinations) (sequence : Nat) : Destinations :=
  ⟨join [d.temp, bucket sequence], join [d.dest, bucket sequence]⟩

end Destinations

end JobGraph
