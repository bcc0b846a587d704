import SchemaTyping.Data.Value
import SchemaTyping.Migration.Operation

/-!
# Operations as structured values

A migration file lists operations as records with the field `op` for the name
of the operation and a field for each argument. A column is one flat record:
its name, whether it may be empty, the field `kind`, and the parameters of
that kind beside it. In place of a record, an operation may be a list of its
name and its arguments in order.

`Operation.toValue` writes an operation with all of its fields, and
`Operation.ofValue?` reads it back; a field with a default may be left out. A
column of an unknown kind has no flat form, because its kind needs the field
`name` that is the name of the column.
-/

namespace SchemaTyping

/-! ## Kinds of columns -/

namespace SimpleKind

/-- The name of a kind in the migration language. -/
def name : SimpleKind → String
  | .id => "id"
  | .increments => "increments"
  | .bigIncrements => "big_increments"
  | .mediumIncrements => "medium_increments"
  | .smallIncrements => "small_increments"
  | .tinyIncrements => "tiny_increments"
  | .integer => "integer"
  | .bigInteger => "big_integer"
  | .mediumInteger => "medium_integer"
  | .smallInteger => "small_integer"
  | .tinyInteger => "tiny_integer"
  | .unsignedInteger => "unsigned_integer"
  | .unsignedBigInteger => "unsigned_big_integer"
  | .unsignedMediumInteger => "unsigned_medium_integer"
  | .unsignedSmallInteger => "unsigned_small_integer"
  | .unsignedTinyInteger => "unsigned_tiny_integer"
  | .foreignId => "foreign_id"
  | .year => "year"
  | .float => "float"
  | .double => "double"
  | .boolean => "boolean"
  | .text => "text"
  | .tinyText => "tiny_text"
  | .mediumText => "medium_text"
  | .longText => "long_text"
  | .uuid => "uuid"
  | .ulid => "ulid"
  | .foreignUuid => "foreign_uuid"
  | .foreignUlid => "foreign_ulid"
  | .ipAddress => "ip_address"
  | .macAddress => "mac_address"
  | .binary => "binary"
  | .json => "json"
  | .jsonb => "jsonb"
  | .rememberToken => "remember_token"
  | .date => "date"
  | .dateTime => "date_time"
  | .dateTimeTz => "date_time_tz"
  | .time => "time"
  | .timeTz => "time_tz"
  | .timestamp => "timestamp"
  | .timestampTz => "timestamp_tz"
  | .geometry => "geometry"
  | .point => "point"

/-- The kinds without parameter, in the order in which they are declared. -/
def all : List SimpleKind :=
  [.id, .increments, .bigIncrements, .mediumIncrements, .smallIncrements,
    .tinyIncrements, .integer, .bigInteger, .mediumInteger, .smallInteger,
    .tinyInteger, .unsignedInteger, .unsignedBigInteger,
    .unsignedMediumInteger, .unsignedSmallInteger, .unsignedTinyInteger,
    .foreignId, .year, .float, .double, .boolean, .text, .tinyText,
    .mediumText, .longText, .uuid, .ulid, .foreignUuid, .foreignUlid,
    .ipAddress, .macAddress, .binary, .json, .jsonb, .rememberToken, .date,
    .dateTime, .dateTimeTz, .time, .timeTz, .timestamp, .timestampTz,
    .geometry, .point]

/-- The kind of that name. -/
def ofName? (text : String) : Option SimpleKind :=
  all.find? fun kind => kind.name == text

theorem ofName?_name (kind : SimpleKind) : ofName? kind.name = some kind := by
  cases kind <;> decide +kernel

end SimpleKind

namespace ColumnKind

/-- The names of all kinds, in the order in which they are counted. -/
def names : List String :=
  ["id", "increments", "big_increments", "medium_increments",
    "small_increments", "tiny_increments", "integer", "big_integer",
    "medium_integer", "small_integer", "tiny_integer", "unsigned_integer",
    "unsigned_big_integer", "unsigned_medium_integer",
    "unsigned_small_integer", "unsigned_tiny_integer", "foreign_id", "year",
    "decimal", "unsigned_decimal", "float", "double", "boolean", "char",
    "string", "text", "tiny_text", "medium_text", "long_text", "uuid", "ulid",
    "foreign_uuid", "foreign_ulid", "ip_address", "mac_address", "binary",
    "json", "jsonb", "remember_token", "date", "date_time", "date_time_tz",
    "time", "time_tz", "timestamp", "timestamp_tz", "geometry", "point",
    "enum", "set", "other"]

/-- The name of a kind in the migration language. -/
def name : ColumnKind → String
  | .simple kind => kind.name
  | .decimal .. => "decimal"
  | .unsignedDecimal .. => "unsigned_decimal"
  | .char _ => "char"
  | .string _ => "string"
  | .enum _ => "enum"
  | .set _ => "set"
  | .other _ => "other"

/-- The parameters of a kind, as fields of a record. -/
def parameters : ColumnKind → Fields
  | .simple _ => []
  | .decimal precision scale | .unsignedDecimal precision scale =>
    [("precision", .ofSize precision), ("scale", .ofSize scale)]
  | .char length | .string length => [("length", .ofSize length)]
  | .enum values | .set values => [("values", .ofStrings values)]
  | .other name => [("name", .string name)]

/-- The fields of a kind: its name and its parameters. -/
def toFields (kind : ColumnKind) : Fields :=
  ("kind", .string kind.name) :: kind.parameters

/-- The kind of that name with the parameters among the fields. -/
def ofNameAndFields? (name : String) (fields : Fields) : Option ColumnKind :=
  match name with
  | "decimal" => do
    let precision ← fields.withDefault "precision" Value.size? none
    let scale ← fields.withDefault "scale" Value.size? none
    some (.decimal precision scale)
  | "unsigned_decimal" => do
    let precision ← fields.withDefault "precision" Value.size? none
    let scale ← fields.withDefault "scale" Value.size? none
    some (.unsignedDecimal precision scale)
  | "char" => do
    some (.char (← fields.withDefault "length" Value.size? none))
  | "string" => do
    some (.string (← fields.withDefault "length" Value.size? none))
  | "enum" => do
    some (.enum (← fields.required "values" (Value.list? Value.string?)))
  | "set" => do
    some (.set (← fields.required "values" (Value.list? Value.string?)))
  | "other" => do some (.other (← fields.required "name" Value.string?))
  | name => (SimpleKind.ofName? name).map .simple

/-- A kind on its own as a value. -/
def toValue (kind : ColumnKind) : Value := .record kind.toFields

/-- Reads a kind from the fields of a record. -/
def ofFields? (fields : Fields) : Option ColumnKind := do
  ofNameAndFields? (← fields.required "kind" Value.string?) fields

/-- The names of the parameters of a kind, in order. -/
def parameterNames : String → List String
  | "decimal" | "unsigned_decimal" => ["precision", "scale"]
  | "char" | "string" => ["length"]
  | "enum" | "set" => ["values"]
  | "other" => ["name"]
  | _ => []

/-- **Reads a kind on its own.** A list gives the name of the kind and then
its parameters in order. -/
def ofValue? : Value → Option ColumnKind
  | .record fields => ofFields? fields
  | .list (.string name :: values) => do
    ofNameAndFields? name (← Fields.ofList? (parameterNames name) values)
  | _ => none

end ColumnKind

/-! ## Columns -/

namespace ColumnSpec

/-- The names of the fields that belong to the column and not to its kind. -/
def ownFields : List String := ["name", "nullable"]

/-- A column as a flat record. -/
def toValue (spec : ColumnSpec) : Value :=
  .record (("name", .string spec.name) :: spec.kind.toFields
    ++ [("nullable", .bool spec.nullable)])

/-- Reads a column from the fields of a record. The kind is read from the
fields that the column itself does not use; it may be given by its position
among the kinds. -/
def ofFields? (fields : Fields) : Option ColumnSpec := do
  let name ← fields.required "name" Value.string?
  let nullable ← fields.withDefault "nullable" Value.bool? false
  let rest := fields.without ownFields
  let kindName ← rest.required "kind" (Value.nameAmong? ColumnKind.names)
  let kind ← ColumnKind.ofNameAndFields? kindName rest
  some ⟨name, kind, nullable⟩

/-- **Reads a column from a flat record.** -/
def ofValue? : Value → Option ColumnSpec
  | .record fields => ofFields? fields
  | _ => none

end ColumnSpec

/-! ## Operations -/

namespace MorphKey

/-- The name of a kind of key. -/
def name : MorphKey → String
  | .int => "int"
  | .uuid => "uuid"
  | .ulid => "ulid"

/-- Reads a kind of key. -/
def ofValue? : Value → Option MorphKey
  | .string "int" => some .int
  | .string "uuid" => some .uuid
  | .string "ulid" => some .ulid
  | _ => none

end MorphKey

namespace Operation

/-- The arguments of an operation, as fields of a record. -/
def arguments : Operation → Fields
  | .createTable table columns =>
    [("table", .string table), ("columns", .list (columns.map (·.toValue)))]
  | .dropTable table => [("table", .string table)]
  | .renameTable source target =>
    [("from", .string source), ("to", .string target)]
  | .addColumn table column =>
    [("table", .string table), ("column", column.toValue)]
  | .modifyColumn table column =>
    [("table", .string table), ("column", column.toValue)]
  | .renameColumn table source target =>
    [("table", .string table), ("from", .string source),
      ("to", .string target)]
  | .dropColumn table columns =>
    [("table", .string table), ("columns", .ofStrings columns)]
  | .addTimestamps table withZone =>
    [("table", .string table), ("tz", .bool withZone)]
  | .dropTimestamps table => [("table", .string table)]
  | .addSoftDeletes table column withZone =>
    [("table", .string table), ("column", .string column),
      ("tz", .bool withZone)]
  | .dropSoftDeletes table column =>
    [("table", .string table), ("column", .string column)]
  | .addMorphs table name key nullable =>
    [("table", .string table), ("name", .string name),
      ("key", .string key.name), ("nullable", .bool nullable)]
  | .dropMorphs table name =>
    [("table", .string table), ("name", .string name)]
  | .addRememberToken table => [("table", .string table)]
  | .dropRememberToken table => [("table", .string table)]

/-- **An operation as a record** with all of its fields. -/
def toValue (operation : Operation) : Value :=
  .record (("op", .string operation.name) :: operation.arguments)

/-- The operation of that name with its arguments among the fields. -/
def ofNameAndFields? (name : String) (fields : Fields) : Option Operation := do
  let text (field : String) := fields.required field Value.string?
  match name with
  | "create_table" =>
    some (.createTable (← text "table")
      (← fields.withDefault "columns" (Value.list? ColumnSpec.ofValue?) []))
  | "drop_table" => some (.dropTable (← text "table"))
  | "rename_table" => some (.renameTable (← text "from") (← text "to"))
  | "add_column" =>
    some (.addColumn (← text "table")
      (← fields.required "column" ColumnSpec.ofValue?))
  | "modify_column" =>
    some (.modifyColumn (← text "table")
      (← fields.required "column" ColumnSpec.ofValue?))
  | "rename_column" =>
    some (.renameColumn (← text "table") (← text "from") (← text "to"))
  | "drop_column" =>
    some (.dropColumn (← text "table")
      (← fields.required "columns" (Value.list? Value.string?)))
  | "add_timestamps" =>
    some (.addTimestamps (← text "table")
      (← fields.withDefault "tz" Value.bool? false))
  | "drop_timestamps" => some (.dropTimestamps (← text "table"))
  | "add_soft_deletes" =>
    some (.addSoftDeletes (← text "table")
      (← fields.withDefault "column" Value.string? defaultSoftDeleteName)
      (← fields.withDefault "tz" Value.bool? false))
  | "drop_soft_deletes" =>
    some (.dropSoftDeletes (← text "table")
      (← fields.withDefault "column" Value.string? defaultSoftDeleteName))
  | "add_morphs" =>
    some (.addMorphs (← text "table") (← text "name")
      (← fields.withDefault "key" MorphKey.ofValue? .int)
      (← fields.withDefault "nullable" Value.bool? false))
  | "drop_morphs" => some (.dropMorphs (← text "table") (← text "name"))
  | "add_remember_token" => some (.addRememberToken (← text "table"))
  | "drop_remember_token" => some (.dropRememberToken (← text "table"))
  | _ => none

/-- Reads an operation from the fields of a record. -/
def ofFields? (fields : Fields) : Option Operation := do
  ofNameAndFields? (← fields.required "op" Value.string?) fields

/-- The names of the arguments of an operation, in order. -/
def argumentNames : String → List String
  | "create_table" | "drop_column" => ["table", "columns"]
  | "rename_table" => ["from", "to"]
  | "add_column" | "modify_column" => ["table", "column"]
  | "rename_column" => ["table", "from", "to"]
  | "add_timestamps" => ["table", "tz"]
  | "add_soft_deletes" => ["table", "column", "tz"]
  | "drop_soft_deletes" => ["table", "column"]
  | "add_morphs" => ["table", "name", "key", "nullable"]
  | "drop_morphs" => ["table", "name"]
  | _ => ["table"]

/-- **Reads an operation.** A list gives the name of the operation and then
its arguments in order. -/
def ofValue? : Value → Option Operation
  | .record fields => ofFields? fields
  | .list (.string name :: values) => do
    ofNameAndFields? name (← Fields.ofList? (argumentNames name) values)
  | _ => none

end Operation

end SchemaTyping
