import JobGraph.Json.Printer
import JobGraph.Placement.Catalog
import JobGraph.Program

/-!
# Services

The services that a compilation talks to, as programs. They are either asked from the world, or
done by the compiler itself as its configuration says: placement by a catalog, and entries for the
dashboard and failure notices as lines of JSON files, or not at all.
-/

namespace JobGraph

/-- The services that a compilation talks to. -/
structure Services where
  resolve : (sites paths : List String) → Program (Except Error UrlMap)
  enterTask : Dashboard.TaskEntry → Program (Except Error Unit)
  enterJob : Dashboard.JobEntry → Program (Except Error Unit)
  noteFailure : FailureNotice → Program (Except Error Unit)

namespace Services

/-- Ask for the URLs of files in a directory at a site. -/
def locate (v : Services) (site dir : String) (files : List String) :
    Program (Except Error Placement.Resolved) := do
  let paths := Placement.logicalPaths dir files
  let names := Placement.variants site
  match ← v.resolve names paths with
  | .ok m => pure (.ok (Placement.resolve m names paths))
  | .error e => pure (.error e)

/-- Services of the world. -/
def external : Services :=
  { resolve := fun sites paths => .perform (.resolve sites paths)
    enterTask := fun r => .perform (.enterTask r)
    enterJob := fun r => .perform (.enterJob r)
    noteFailure := fun r => .perform (.noteFailure r) }

/-- A document as a line of a file. -/
def jsonLine (d : Document) : ByteArray :=
  (Json.render d ++ "\n").toUTF8

/-- Append a document to a file of JSON lines, on behalf of a service. -/
def appendLine (service : String) (file : Path) (d : Document) :
    Program (Except Error Unit) := do
  let answer : Except FileError Unit ← Program.file (.append file (jsonLine d))
  match answer with
  | .ok () => pure (.ok ())
  | .error e => pure (.error (.unavailable service e.fullMessage))

/-- Append to a file, or accept without a trace if there is none. -/
def keep (service : String) (file : Option Path) (d : Document) :
    Program (Except Error Unit) :=
  match file with
  | some path => appendLine service path d
  | none => pure (.ok ())

/-- A catalog, a file for the dashboard and a file for failure notices. -/
def ofFiles (catalog : Catalog) (records failures : Option Path) : Services :=
  { resolve := fun sites paths => pure (.ok (catalog.answer sites paths))
    enterTask := fun r => keep Dashboard.service records r.toDocument
    enterJob := fun r => keep Dashboard.service records r.toDocument
    noteFailure := fun r => keep FailureNotice.service failures r.toDocument }

/-- The services that a configuration describes. -/
def ofConfig (c : Config) : Except Error Services := do
  pure (ofFiles (← Catalog.ofRules c.rules) c.recordsFile c.failuresFile)

end Services

end JobGraph
