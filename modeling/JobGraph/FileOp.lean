import JobGraph.Path
import JobGraph.Text.Quoted

/-!
# File operations

The atomic operations on a file system, as data, and what may go wrong with them.
-/

namespace JobGraph

/-- Why a disk refuses an operation. -/
inductive DiskFault where
  | noSuchFile
  | exists
  | notADirectory
  | isADirectory
  | invalidArgument
  | directoryNotEmpty
  | busy
  | notPermitted
  | nameTooLong
  | notText
  /-- Any other fault, as the operating system words it. -/
  | other (text : String)
deriving DecidableEq, Repr

/-- The text of a fault as the operating system words it. -/
def DiskFault.message : DiskFault → String
  | .noSuchFile => "No such file or directory (os error 2)"
  | .exists => "File exists (os error 17)"
  | .notADirectory => "Not a directory (os error 20)"
  | .isADirectory => "Is a directory (os error 21)"
  | .invalidArgument => "Invalid argument (os error 22)"
  | .directoryNotEmpty => "Directory not empty (os error 39)"
  | .busy => "Device or resource busy (os error 16)"
  | .notPermitted => "Operation not permitted (os error 1)"
  | .nameTooLong => "File name too long (os error 36)"
  | .notText => "stream did not contain valid UTF-8"
  | .other text => text

/-- What was tried on a disk. -/
inductive DiskAttempt where
  | reading (p : Path)
  | creatingDir (p : Path)
  | creatingFile (p : Path)
  | opening (p : Path)
  | removing (p : Path)
  | renaming (source target : Path)
deriving DecidableEq, Repr

/-- The text of an attempt. -/
def DiskAttempt.message : DiskAttempt → String
  | .reading p => s!"reading file {Text.quoted p.text}"
  | .creatingDir p => s!"creating dir {Text.quoted p.text}"
  | .creatingFile p => s!"creating file {Text.quoted p.text}"
  | .opening p => s!"opening {Text.quoted p.text} for append"
  | .removing p => s!"removing file {Text.quoted p.text}"
  | .renaming source target =>
    s!"renaming {Text.quoted source.text} to {Text.quoted target.text}"

/-- Why a file operation failed. -/
inductive FileError where
  | notFound (p : Path)
  /-- The file holds no text; `cause` says where it stops being one. -/
  | notText (cause : String)
  /-- Writing to the path is refused on purpose. -/
  | writeRefused (p : Path)
  /-- Renaming to the path is refused on purpose. -/
  | renameRefused (p : Path)
  | disk (attempt : DiskAttempt) (fault : DiskFault)
deriving DecidableEq, Repr

namespace FileError

/-- The text of the error without its deeper cause. -/
def message : FileError → String
  | .notFound p => s!"File not found: {Text.quoted p.text}"
  | .notText cause => s!"Invalid UTF-8: {cause}"
  | .writeRefused p => s!"injected write failure: {Text.quoted p.text}"
  | .renameRefused p => s!"injected rename failure: {Text.quoted p.text}"
  | .disk attempt _ => attempt.message

/-- The text of the deepest cause. -/
def cause : FileError → String
  | .disk _ fault => fault.message
  | e => e.message

/-- The text of the error with its deeper cause. -/
def fullMessage : FileError → String
  | .disk attempt fault => s!"{attempt.message}: {fault.message}"
  | e => e.message

end FileError

/-- An atomic operation on a file system. -/
inductive FileOp where
  | read (p : Path)
  /-- Create or replace a file, with the directories above it. -/
  | write (p : Path) (contents : ByteArray)
  /-- Extend a file, creating it and the directories above it if they are missing. -/
  | append (p : Path) (contents : ByteArray)
  /-- Put `source` in the place of `target`. -/
  | rename (source target : Path)
  | remove (p : Path)
  /-- Create a directory and those above it. -/
  | makeDir (p : Path)
  | exists (p : Path)
  | isFile (p : Path)

/-- What an operation answers. -/
abbrev FileOp.Answer : FileOp → Type
  | .read _ => Except FileError String
  | .write _ _ => Except FileError Unit
  | .append _ _ => Except FileError Unit
  | .rename _ _ => Except FileError Unit
  | .remove _ => Except FileError Unit
  | .makeDir _ => Except FileError Unit
  | .exists _ => Bool
  | .isFile _ => Bool

end JobGraph
