import DagConsole.Error
import DagConsole.Json.Decoder
import DagConsole.Json.Printer
import DagConsole.Json.Reader

/-! Tables as artifacts hold them: a schema and rows. -/
namespace DagConsole

/-- A column, with its type as the producer names it. -/
structure TableField where
  name : String
  type : String := ""
deriving DecidableEq, Inhabited

namespace TableField

def toJson (f : TableField) : Json := .ofFields [("name", .string f.name), ("type", .string f.type)]

def decode : Decoder TableField := fun doc => do
  let fields ← Decoder.fields ["name", "type"] doc
  return {
    name := ← fields.required "name" Decoder.string
    type := ← fields.withDefault "type" "" Decoder.string }

end TableField

/-- Columns in schema order, and rows keyed by column name. -/
structure TableData where
  fields : List TableField
  rows : List (FinMap String Json)
deriving Inhabited

namespace TableData

def toJson (t : TableData) : Json :=
  .ofFields [("fields", .array (t.fields.map TableField.toJson)), ("rows", .array (t.rows.map Json.ofMap))]

def decode : Decoder TableData := fun doc => do
  let fields ← Decoder.fields ["fields", "rows"] doc
  return {
    fields := ← fields.required "fields" (Decoder.list TableField.decode)
    rows := ← fields.required "rows" (Decoder.list Decoder.valueMap) }

/-- The columns of a schema. -/
def decodeSchema : Decoder (List TableField) := fun doc => do
  let fields ← Decoder.fields ["fields"] doc
  fields.withDefault "fields" [] (Decoder.list TableField.decode)

/-- The schema and the data of a table payload. -/
def decodePayload : Decoder (List TableField × Json) := fun doc => do
  let fields ← Decoder.fields ["schema", "data"] doc
  return (← fields.required "schema" decodeSchema, ← fields.withDefault "data" .null Decoder.value)

/-- The row of a value that must be an object. -/
def row (item : Json) : Outcome (FinMap String Json) :=
  match item with
  | .object members => .ok members.toMap
  | other => .error ⟨.serialization, some s!"table row is not an object: {other.compact}", none⟩

/-- The rows of table data: none for null, the items of a list of objects, or the items of the list
that a string encodes. -/
def rowsOf (data : Json) : Outcome (List (FinMap String Json)) :=
  match data with
  | .null => .ok []
  | .string text =>
    match (Document.ofText? text).bind (Decoder.list Decoder.valueMap) with
    | some rows => .ok rows
    | none => .error .invalidPayload
  | .array items => items.mapM row
  | other => .error ⟨.serialization, some s!"unexpected table data: {other.compact}", none⟩

/-- The table of a payload document. -/
def ofDocument (payload : Document) : Outcome TableData :=
  match decodePayload payload with
  | none => .error .invalidPayload
  | some (fields, data) => do return ⟨fields, ← rowsOf data⟩

/-- Reads the text of a table payload. -/
def parse (content : String) : Outcome TableData :=
  match Document.ofText? content with
  | none => .error .invalidPayload
  | some payload => ofDocument payload

def size (t : TableData) : Nat := t.rows.length

def isEmpty (t : TableData) : Bool := t.rows.isEmpty

def columnNames (t : TableData) : List String := t.fields.map TableField.name

end TableData

end DagConsole
