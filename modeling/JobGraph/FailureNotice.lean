import JobGraph.Base64
import JobGraph.Document

/-!
# Failure notices

What the task status store is told about a task that could not be compiled. The reason is encoded,
so that it can hold any text.
-/

namespace JobGraph

/-- The notice of a failure. -/
structure FailureNotice where
  workflow : String
  substatus : String
  subjobdef : Int
  subuser : String
  /-- The reason in base 64. -/
  subfailure : String
deriving DecidableEq, Repr

namespace FailureNotice

/-- The name of the service that keeps failure notices. -/
def service : String := "status store"

/-- What stands for the job definition of a task without jobs. -/
def noJobs : Int := -1

/-- The notice about a task of `submitter` that failed for a reason. -/
def ofReason (taskName submitter reason : String) : FailureNotice :=
  { workflow := taskName
    substatus := "FAILED"
    subjobdef := noJobs
    subuser := submitter
    subfailure := String.ofList (Base64.encode reason.toUTF8.data.toList) }

/-- The text that an encoded reason stands for. -/
def decodeReason? (encoded : String) : Option String := do
  let bytes ← Base64.decode? encoded.toList
  String.fromUTF8? ⟨⟨bytes⟩⟩

/-- The reason in a notice. -/
def reason? (r : FailureNotice) : Option String :=
  decodeReason? r.subfailure

/-- The notice as a table. -/
def toDocument (r : FailureNotice) : Document :=
  .table [("workflow", .text r.workflow), ("substatus", .text r.substatus),
    ("subjobdef", .int r.subjobdef), ("subuser", .text r.subuser),
    ("subfailure", .text r.subfailure)]

end FailureNotice

end JobGraph
