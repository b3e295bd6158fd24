import JobGraph.Binary64

/-!
# Documents

The values that structured text (JSON, TOML) holds, as they were written: the entries of a table
are in the order of the text and a key may occur more than once. A part that is well formed but
holds no value (a string with half a surrogate pair, a number beyond the range, a date, too deep a
nesting) is kept as `unusable`, so that it can be passed over where nobody asks for it.

The second half of the module reads typed values from documents. Records are read from tables by
key or from lists by position.
-/

namespace JobGraph

/-- A value of structured text. -/
inductive Document where
  | null
  | bool (b : Bool)
  | int (n : Int)
  | real (x : Binary64)
  | text (s : String)
  | list (items : List Document)
  | table (entries : List (String × Document))
  | unusable
deriving Repr

namespace Document

/-! ## Canonical documents -/

/-- `entries` with `key` set to `value`: sorted entries stay sorted, and an older entry of the same
key is replaced. -/
def insertEntry {α : Type} (key : String) (value : α) : List (String × α) → List (String × α)
  | [] => [(key, value)]
  | (k, v) :: rest =>
    if key < k then (key, value) :: (k, v) :: rest
    else if key = k then (key, value) :: rest
    else (k, v) :: insertEntry key value rest

/-- The entries sorted by key; of several entries of one key the last one stays. -/
def sortEntries {α : Type} (entries : List (String × α)) : List (String × α) :=
  entries.foldl (fun acc e => insertEntry e.1 e.2 acc) []

mutual

/-- The document with all tables sorted by key and without repeated keys; `none` if a part of it is
unusable. -/
def canonical? : Document → Option Document
  | .unusable => none
  | .list items => (canonicalItems? items).map .list
  | .table entries => (canonicalEntries? entries).map fun es => .table (sortEntries es)
  | d => some d

/-- All items canonical. -/
def canonicalItems? : List Document → Option (List Document)
  | [] => some []
  | d :: ds => do
    let d ← canonical? d
    let ds ← canonicalItems? ds
    pure (d :: ds)

/-- All values of the entries canonical. -/
def canonicalEntries? : List (String × Document) → Option (List (String × Document))
  | [] => some []
  | (k, d) :: es => do
    let d ← canonical? d
    let es ← canonicalEntries? es
    pure ((k, d) :: es)

end

/-! ## Reading typed values

Every reader answers `none` for a document that is not of its form. -/

/-- What is said of a document that is not of the form that is asked for. -/
def refusal : String := "a value of another form"

/-- A truth value. -/
def bool? : Document → Option Bool
  | .bool b => some b
  | _ => none

/-- A text. -/
def text? : Document → Option String
  | .text s => some s
  | _ => none

/-- A natural number of at most `bits` bits. -/
def nat? (bits : Nat) : Document → Option Nat
  | .int n => if 0 ≤ n ∧ n.toNat < Nat.pow 2 bits then some n.toNat else none
  | _ => none

/-- A list whose items `read` reads. -/
def list? {α : Type} (read : Document → Option α) : Document → Option (List α)
  | .list items => items.mapM read
  | _ => none

/-- Null for nothing, else what `read` reads. -/
def optional? {α : Type} (read : Document → Option α) : Document → Option (Option α)
  | .null => some none
  | d => (read d).map some

/-- A table whose values `read` reads, sorted by key; the last entry of a key counts. -/
def map? {α : Type} (read : Document → Option α) : Document → Option (List (String × α))
  | .table entries => (entries.mapM fun e => (read e.2).map fun v => (e.1, v)).map sortEntries
  | _ => none

/-- What becomes of a part that stands for no field of the record that is read. -/
inductive Surplus where
  | ignored
  | refused
deriving DecidableEq, Repr

/-- How a kind of structured text treats parts that stand for no field: keys of a table that name
none, and items of a list beyond the last field. -/
structure RecordRules where
  unknownKeys : Surplus
  furtherItems : Surplus
deriving DecidableEq, Repr

/-- Messages may say more than is asked for, but a list of fields has to fit. -/
def RecordRules.message : RecordRules := ⟨.ignored, .refused⟩

/-- In settings every key has to mean something; a list of settings may go on. -/
def RecordRules.settings : RecordRules := ⟨.refused, .ignored⟩

/-- The parts of a document that stand for the fields of a record, `none` for a field that is not
given. A field goes by any of its names. A table gives every field at most once; a list gives the
fields in order. -/
def fields? (rules : RecordRules) (names : List (List String)) :
    Document → Option (List (Option Document))
  | .table entries =>
    if rules.unknownKeys = .refused ∧ entries.any (fun e => !names.any (·.contains e.1)) then none
    else
      names.mapM fun alternatives =>
        match entries.filter fun e => alternatives.contains e.1 with
        | [] => some none
        | [e] => some (some e.2)
        | _ => none
  | .list items =>
    if rules.furtherItems = .refused ∧ names.length < items.length then none
    else
      some ((items.take names.length).map some ++
        List.replicate (names.length - items.length) none)
  | _ => none

/-- The value of a field that has to be given. -/
def required? {α : Type} (read : Document → Option α) (field : Option Document) : Option α :=
  field.bind read

/-- The value of a field, or `value` if it is not given. -/
def default? {α : Type} (value : α) (read : Document → Option α) :
    Option Document → Option α
  | none => some value
  | some d => read d

end Document

end JobGraph
