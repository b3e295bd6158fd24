import JobGraph.Json.Parser
import JobGraph.Task.Malformed

/-!
# Task records

A task as its database keeps it: attributes by name. Structured attributes may be given as such or
as a text that holds their JSON form. An attribute that is null or a blank text counts as missing.
-/

namespace JobGraph

/-- Attributes by name, sorted, each name once; the values are canonical. -/
structure TaskRecord where
  attributes : List (String × Document)
deriving Repr

namespace TaskRecord

/-- The record without attributes. -/
def empty : TaskRecord := ⟨[]⟩

/-- The value of an attribute. -/
def get? (r : TaskRecord) (field : String) : Option Document :=
  r.attributes.lookup field

/-- The record with an attribute set. -/
def set (r : TaskRecord) (field : String) (value : Document) : TaskRecord :=
  ⟨Document.insertEntry field value r.attributes⟩

/-- The record without an attribute. -/
def erase (r : TaskRecord) (field : String) : TaskRecord :=
  ⟨r.attributes.filter fun e => e.1 != field⟩

/-- The record that a table holds. -/
def ofDocument? (d : Document) : Option TaskRecord :=
  (d.map? Document.canonical?).map (⟨·⟩)

/-- The record as a table. -/
def toDocument (r : TaskRecord) : Document :=
  .table r.attributes

/-- The text of an attribute, as it is, if it is a text that is not blank. -/
def given? (r : TaskRecord) (field : String) : Option String :=
  match r.get? field with
  | some (.text s) => if Text.isBlank s then none else some s
  | _ => none

/-- The trimmed text of an attribute that may be missing. -/
def optionalText (r : TaskRecord) (field : String) : Except Malformed (Option String) :=
  match r.get? field with
  | none => .ok none
  | some .null => .ok none
  | some (.text s) => .ok (if Text.isBlank s then none else some (Text.trim s))
  | some other => .error (.notText field other)

/-- The trimmed text of an attribute. -/
def requiredText (r : TaskRecord) (field : String) : Except Malformed String := do
  match ← r.optionalText field with
  | some s => pure s
  | none => throw (.missing field)

/-- The trimmed text of an attribute that has to be one token. -/
def token (r : TaskRecord) (field : String) : Except Malformed String := do
  let s ← r.requiredText field
  if Text.isToken s then pure s else throw (.notToken field)

/-- The value of a structured attribute, given as such or as JSON text. -/
def decoded {α : Type} (read : Document → Option α) (r : TaskRecord) (field : String) :
    Except Malformed (Option α) :=
  let finish (cause : String) : Option α → Except Malformed (Option α)
    | some x => .ok (some x)
    | none => .error (.undecodable field cause)
  match r.get? field with
  | none => .ok none
  | some .null => .ok none
  | some (.text s) =>
    if Text.isBlank s then .ok none
    else
      match Json.parse? s with
      | none => finish Json.refusal none
      | some d => finish Document.refusal (read d)
  | some other => finish Document.refusal (read other)

end TaskRecord

end JobGraph
