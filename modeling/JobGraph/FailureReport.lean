import JobGraph.Services
import JobGraph.Attempts
import JobGraph.Task.Record

/-!
# Failure reports

When work on a task fails, the task status store is told, provided that the task's record names it.
The failure itself stays what it is, whatever comes of the report.
-/

namespace JobGraph.FailureReport

/-- The notice about an error, for a task record; none if the record does not name its task. -/
def record? (r : TaskRecord) (e : Error) : Option FailureNotice :=
  (r.given? "tm_taskname").map fun name =>
    .ofReason name ((r.given? "tm_user_dn").getD "") e.message

/-- Tell the status store about an error. -/
def report (put : FailureNotice → Program (Except Error Unit)) (retry : Attempts)
    (r : TaskRecord) (e : Error) : Program Unit :=
  match record? r e with
  | none => pure ()
  | some record => do
    let _ ← retry.run (put record)
    pure ()

/-- Do some work on a task, and report it if it fails. -/
def guarded {α : Type} (put : FailureNotice → Program (Except Error Unit))
    (retry : Attempts) (r : TaskRecord) (work : Program (Except Error α)) :
    Program (Except Error α) := do
  match ← work with
  | .ok a => pure (.ok a)
  | .error e =>
    report put retry r e
    pure (.error e)

end JobGraph.FailureReport
