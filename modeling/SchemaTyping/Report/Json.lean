import SchemaTyping.PropertyType.Printer
import SchemaTyping.Report.Basic
import SchemaTyping.Text.Number

/-!
# Reports as JSON

For another program, a report is a JSON text: one member or item on a line,
two more spaces for each level, and only those characters escaped that a JSON
string cannot hold as they are.
-/

namespace SchemaTyping

/-- The JSON values that reports are made of. -/
inductive JsonValue where
  | bool (value : Bool)
  | string (value : String)
  | array (items : List JsonValue)
  | object (members : List (String × JsonValue))
  deriving Repr, Inhabited

namespace JsonValue

/-- A character of a string. -/
def escape (c : Char) : List Char :=
  match c with
  | '"' | '\\' => ['\\', c]
  | '\x08' => ['\\', 'b']
  | '\t' => ['\\', 't']
  | '\n' => ['\\', 'n']
  | '\x0c' => ['\\', 'f']
  | '\r' => ['\\', 'r']
  | c =>
    if c.toNat < 32 then
      let digits := Text.hexDigits c.toNat
      "\\u".toList ++ List.replicate (4 - digits.length) '0' ++ digits
    else [c]

/-- A string in quotes. -/
def quote (text : String) : String :=
  Text.onString (fun chars => '"' :: chars.flatMap escape ++ ['"']) text

/-- The start of a line at a level. -/
def indent (level : Nat) : String :=
  "\n" ++ String.ofList (List.replicate (2 * level) ' ')

/-- Parts between brackets, each on a line, or nothing between them. -/
def bracket (opening closing : String) (level : Nat) (parts : List String) :
    String :=
  if parts.isEmpty then opening ++ closing
  else opening ++ ",".intercalate (parts.map (indent (level + 1) ++ ·))
    ++ indent level ++ closing

mutual

/-- A value at a level. -/
def textAt (level : Nat) : JsonValue → String
  | .bool true => "true"
  | .bool false => "false"
  | .string value => quote value
  | .array items => bracket "[" "]" level (itemTexts (level + 1) items)
  | .object members =>
    bracket "\x7b" "\x7d" level (memberTexts (level + 1) members)

/-- The items of an array at a level. -/
def itemTexts (level : Nat) : List JsonValue → List String
  | [] => []
  | item :: items => item.textAt level :: itemTexts level items

/-- The members of an object at a level. -/
def memberTexts (level : Nat) : List (String × JsonValue) → List String
  | [] => []
  | (name, value) :: members =>
    (quote name ++ ": " ++ value.textAt level) :: memberTexts level members

end

/-- **The text of a JSON value.** -/
def text (value : JsonValue) : String := value.textAt 0

/-- A type as a JSON string. -/
def ofType (type : PropertyType) : JsonValue := .string (toString type)

end JsonValue

/-! ## Reports -/

/-- The types of a property as members. -/
def PropertyTypes.members (types : PropertyTypes) : List (String × JsonValue) :=
  [("readable_type", .ofType types.readable),
    ("writable_type", .ofType types.writable)]

/-- **The answer on one property as JSON.** -/
def PropertyReport.json (report : PropertyReport) : JsonValue :=
  .object ([("model", .string report.className),
    ("property", .string report.property),
    ("inferred", .bool report.types.isSome)]
    ++ (report.types.map (·.members)).getD [])

/-- A property of a model as JSON. -/
def PropertyRow.json (row : PropertyRow) : JsonValue :=
  .object (("name", .string row.name) :: row.types.members)

/-- **The answer on a model as JSON.** -/
def ModelReport.json (report : ModelReport) : JsonValue :=
  .object [("model", .string report.className),
    ("table", .string report.table),
    ("properties", .array (report.rows.map (·.json)))]

/-- A column as JSON. -/
def Column.json (column : Column) : JsonValue :=
  .object [("name", .string column.name),
    ("readable_type", .ofType column.readableType),
    ("writeable_type", .ofType column.writableType),
    ("nullable", .bool column.nullable),
    ("options", .array (column.options.map .string))]

/-- A table as JSON. -/
def TableReport.json (report : TableReport) : JsonValue :=
  .object [("name", .string report.name),
    ("columns", .array (report.columns.map (·.json)))]

/-- **The answer on tables as JSON.** -/
def TablesReport.json (report : TablesReport) : JsonValue :=
  .object [("tables", .array (report.tables.map (·.json)))]

end SchemaTyping
