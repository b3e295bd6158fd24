import JobGraph.Document

/-!
# The tables of a TOML text

A TOML text builds its tables piece by piece: by headers, by dotted keys and by the rows of arrays
of tables. Which pieces may still be added to depends on how a table came about, so the tables
under construction remember that. No key may be given twice.
-/

namespace JobGraph.Toml

/-- What a key of a table under construction stands for. -/
inductive Node where
  /-- A value, to which nothing can be added. -/
  | value (d : Document)
  /-- A table. It is `implied` until a header names it, and `dotted` if dotted keys made it. -/
  | table (implied dotted : Bool) (entries : List (String × Node))
  /-- The rows of an array of tables. -/
  | rows (tables : List (List (String × Node)))

/-- The entries of a table under construction. -/
abbrev Entries := List (String × Node)

/-- The entries with the node of `key` changed, or added if there was none. -/
def modify (key : String) (change : Option Node → Option Node) : Entries → Option Entries
  | [] => (change none).map fun n => [(key, n)]
  | (k, n) :: rest =>
    if k = key then (change (some n)).map fun n => (k, n) :: rest
    else (modify key change rest).map ((k, n) :: ·)

/-- Change the table at `path` below the entries, where missing tables are made on the way. `change`
is told whether that table was made by dotted keys. `dotted` tells whether the path is that of a
dotted key, which may not enter a table that a header named. -/
def descend (dotted : Bool) (change : Bool → Entries → Option Entries) :
    List String → Bool → Entries → Option Entries
  | [], isDotted, entries => change isDotted entries
  | key :: path, _, entries =>
    modify key (fun
      | none => (descend dotted change path dotted []).map (.table true dotted)
      | some (.table implied isDotted sub) =>
        if dotted && !implied then none
        else (descend dotted change path isDotted sub).map (.table implied isDotted)
      | some (.rows tables) =>
        match tables.getLast? with
        | none => none
        | some last =>
          (descend dotted change path false last).map fun t => .rows (tables.dropLast ++ [t])
      | some (.value _) => none) entries

/-- The entries with `value` at the dotted key `path` followed by `key`. -/
def insert (path : List String) (key : String) (value : Document) (entries : Entries) :
    Option Entries :=
  descend (!path.isEmpty)
    (fun isDotted es =>
      if isDotted = path.isEmpty then none
      else
        modify key (fun
          | none => some (.value value)
          | some _ => none) es)
    path false entries

mutual

/-- A finished node as a document. -/
def Node.toDocument : Node → Document
  | .value d => d
  | .table _ _ entries => .table (entriesToDocuments entries)
  | .rows tables => .list (rowsToDocuments tables)

/-- Finished entries. -/
def entriesToDocuments : List (String × Node) → List (String × Document)
  | [] => []
  | (k, n) :: rest => (k, n.toDocument) :: entriesToDocuments rest

/-- Finished rows. -/
def rowsToDocuments : List (List (String × Node)) → List Document
  | [] => []
  | t :: rest => .table (entriesToDocuments t) :: rowsToDocuments rest

end

/-! ## Headers -/

/-- A line that names the table to which the following keys belong. -/
structure Header where
  path : List String
  key : String
  /-- The header begins a new row of an array of tables. -/
  row : Bool
deriving DecidableEq, Repr

/-- A text read so far: the tables that are complete, and the one that is being filled. -/
structure Builder where
  root : Entries
  header : Option Header
  current : Entries

/-- Nothing read yet. -/
def Builder.empty : Builder := ⟨[], none, []⟩

/-- The tables with the current one put in its place. -/
def Builder.close (b : Builder) : Option Entries :=
  match b.header with
  | none => some b.current
  | some h =>
    descend false
      (fun _ es =>
        modify h.key (fun
          | none => some (if h.row then .rows [b.current] else .table false false b.current)
          | some (.rows tables) => if h.row then some (.rows (tables ++ [b.current])) else none
          | some _ => none) es)
      h.path false b.root

/-- The entries of the table that stands at a header's place already, if it may be named now. -/
def reopened (key : String) (entries : Entries) : Option Entries :=
  match entries.lookup key with
  | none => some []
  | some (.table true false sub) => some sub
  | some _ => none

/-- The entries of the table at `path`; missing tables count as empty. -/
def reach : List String → Entries → Option Entries
  | [], entries => some entries
  | key :: path, entries =>
    match entries.lookup key with
    | none => reach path []
    | some (.table _ _ sub) => reach path sub
    | some (.rows tables) => tables.getLast?.bind (reach path)
    | some (.value _) => none

/-- Begin the table of a header. -/
def Builder.enter (b : Builder) (h : Header) : Option Builder := do
  let root ← b.close
  if h.row then pure ⟨root, some h, []⟩
  else
    let parent ← reach h.path root
    let current ← reopened h.key parent
    let root ←
      descend false (fun _ es => some (es.filter fun e => e.1 != h.key)) h.path false root
    pure ⟨root, some h, current⟩

/-- Add a key to the table being filled. -/
def Builder.put (b : Builder) (path : List String) (key : String) (value : Document) :
    Option Builder :=
  (insert path key value b.current).map fun es => { b with current := es }

/-- The document of a text that was read completely. -/
def Builder.finish (b : Builder) : Option Document :=
  b.close.map fun es => .table (entriesToDocuments es)

end JobGraph.Toml
