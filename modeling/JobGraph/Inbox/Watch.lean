import JobGraph.Compiler
import JobGraph.Inbox.Filter

/-!
# Watching an inbox

What happens to the files of an inbox comes as events. A path where something has appeared or
changed is looked at: if it holds a new request, the request is compiled, whatever comes of it. A
file that is removed is forgotten.
-/

namespace JobGraph

/-- What happened to a path. -/
inductive Inbox.Event where
  | created (p : Path)
  | dataChanged (p : Path)
  | renamedFrom (p : Path)
  | renamedTo (p : Path)
  | removed (p : Path)
  /-- Something other than the contents of a file changed. -/
  | attributesChanged (p : Path)
deriving DecidableEq, Repr

/-- The event of a file of an inbox that a line tells of: a word for what happened, a blank and the
name of the file. -/
def Inbox.Event.ofLine? (dir : Path) (line : String) : Option Inbox.Event := do
  let (word, name) ← Text.cutFirst? ' ' line.toList
  let p := dir.join ⟨String.ofList name⟩
  match String.ofList word with
  | "created" => some (.created p)
  | "changed" => some (.dataChanged p)
  | "left" => some (.renamedFrom p)
  | "arrived" => some (.renamedTo p)
  | "removed" => some (.removed p)
  | "touched" => some (.attributesChanged p)
  | _ => none

namespace Inbox

/-- Compile the text of a request, if it is one. -/
def compileText (c : Compiler) (token text : String) : Program Unit :=
  match Request.parse? text with
  | none => pure ()
  | some r => do
    let _ ← c.compile token r
    pure ()

/-- Compile the request at a path, if the filter admits it. -/
def dispatch (c : Compiler) (token : String) (p : Path) (f : Inbox.Filter) :
    Program Inbox.Filter := do
  if !f.selects p then pure f
  else
    let present : Bool ← Program.file (.isFile p)
    if !present then pure f
    else
      let answer : Except FileError String ← Program.file (.read p)
      match answer with
      | .error _ => pure f
      | .ok text =>
        let (fresh, f) := f.accept p text.toUTF8
        if fresh then compileText c token text
        pure f

/-- Do what an event asks for. -/
def handle (c : Compiler) (token : String) (f : Inbox.Filter) : Inbox.Event → Program Inbox.Filter
  | .created p => dispatch c token p f
  | .dataChanged p => dispatch c token p f
  | .renamedFrom p => dispatch c token p f
  | .renamedTo p => dispatch c token p f
  | .removed p => pure (f.forget p)
  | .attributesChanged _ => pure f

/-- Do what events ask for, one after another; tokens are numbered from `first`. -/
def handleAll (c : Compiler) (token : String) :
    Nat → Inbox.Filter → List Inbox.Event → Program Inbox.Filter
  | _, f, [] => pure f
  | first, f, e :: es => do
    let f ← handle c s!"{token}.{first}" f e
    handleAll c token (first + 1) f es

end Inbox

end JobGraph
