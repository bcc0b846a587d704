import SchemaTyping.Dialect
import SchemaTyping.Schema.ColumnKind
import SchemaTyping.Sql.TypeName
import SchemaTyping.Text.Number

/-!
# From the types of a database to kinds of columns

Each dialect has types of its own and types that mean something special in
it; what the dialect says goes before what all dialects share. An array, and
a type that nobody knows, becomes a column of an unknown kind.
-/

namespace SchemaTyping.Sql

open Text

namespace TypeName

/-- An argument that is a number. -/
def sizeAt (type : TypeName) (index : Nat) : Option UInt32 :=
  (type.arguments[index]?).bind fun argument =>
    readUInt32 (trim argument.toList)

/-- Whether the name contains a text. -/
def mentions (type : TypeName) (text : String) : Bool :=
  containsText text.toList type.name.toList

/-- The kind of a type of PostgreSQL. -/
def postgresKind? (type : TypeName) : Option ColumnKind :=
  match type.name with
  | "serial" | "serial4" => some (.simple .increments)
  | "bigserial" | "serial8" => some (.simple .bigIncrements)
  | "smallserial" | "serial2" => some (.simple .smallIncrements)
  | "inet" | "cidr" => some (.simple .ipAddress)
  | "macaddr" | "macaddr8" => some (.simple .macAddress)
  | "bytea" => some (.simple .binary)
  | "timestamptz" | "timestamp with time zone" =>
    some (.simple .timestampTz)
  | "timetz" | "time with time zone" => some (.simple .timeTz)
  | _ => none

/-- The kind of a type of MySQL, where an integer of one digit is a truth
value. -/
def mySqlKind? (type : TypeName) : Option ColumnKind :=
  match type.name with
  | "tinyint" =>
    if type.sizeAt 0 = some 1 then some (.simple .boolean) else none
  | "datetime" => some (.simple .dateTime)
  | "year" => some (.simple .year)
  | _ => none

/-- The kind of a type of SQLite, which takes every name with `int` in it for
an integer. -/
def sqliteKind? (type : TypeName) : Option ColumnKind :=
  if type.mentions "int" && !type.mentions "point" then
    some (.simple .integer)
  else if type.name = "numeric" ∧ type.arguments = [] then
    some (.simple .float)
  else none

/-- The kind of a type of SQL Server. -/
def sqlServerKind? (type : TypeName) : Option ColumnKind :=
  match type.name with
  | "bit" => some (.simple .boolean)
  | "nvarchar" | "varchar" =>
    if type.arguments.head? = some "max" then some (.simple .text) else none
  | "uniqueidentifier" => some (.simple .uuid)
  | "datetime2" | "smalldatetime" => some (.simple .dateTime)
  | "datetimeoffset" => some (.simple .dateTimeTz)
  | "money" | "smallmoney" => some (.decimal none (some 4))
  | _ => none

/-- The kind that a dialect gives to a type of its own. -/
def dialectKind? (dialect : Dialect) (type : TypeName) : Option ColumnKind :=
  match dialect with
  | .postgres => type.postgresKind?
  | .mySql => type.mySqlKind?
  | .sqlite => type.sqliteKind?
  | .sqlServer => type.sqlServerKind?

/-- The first kind for an unsigned type, the second for a signed one. -/
def bySign (type : TypeName) (unsigned signed : SimpleKind) : ColumnKind :=
  .simple (if type.unsigned then unsigned else signed)

/-- The kind of a type that all dialects share. -/
def sharedKind? (type : TypeName) : Option ColumnKind :=
  match type.name with
  | "int" | "integer" | "int4" =>
    some (type.bySign .unsignedInteger .integer)
  | "mediumint" => some (type.bySign .unsignedInteger .mediumInteger)
  | "bigint" | "int8" => some (type.bySign .unsignedBigInteger .bigInteger)
  | "smallint" | "int2" =>
    some (type.bySign .unsignedSmallInteger .smallInteger)
  | "tinyint" => some (type.bySign .unsignedTinyInteger .tinyInteger)
  | "decimal" | "numeric" =>
    if type.unsigned then
      some (.unsignedDecimal (type.sizeAt 0) (type.sizeAt 1))
    else some (.decimal (type.sizeAt 0) (type.sizeAt 1))
  | "float" | "real" | "float4" => some (.simple .float)
  | "double" | "double precision" | "float8" => some (.simple .double)
  | "boolean" | "bool" => some (.simple .boolean)
  | "char" | "character" | "nchar" | "bpchar" =>
    some (.char (type.sizeAt 0))
  | "varchar" | "character varying" | "nvarchar" | "varchar2" =>
    some (.string (type.sizeAt 0))
  | "text" | "ntext" | "citext" | "clob" => some (.simple .text)
  | "tinytext" => some (.simple .tinyText)
  | "mediumtext" => some (.simple .mediumText)
  | "longtext" => some (.simple .longText)
  | "uuid" => some (.simple .uuid)
  | "json" => some (.simple .json)
  | "jsonb" => some (.simple .jsonb)
  | "blob" | "tinyblob" | "mediumblob" | "longblob" | "binary"
  | "varbinary" | "image" => some (.simple .binary)
  | "date" => some (.simple .date)
  | "datetime" => some (.simple .dateTime)
  | "time" | "time without time zone" => some (.simple .time)
  | "timestamp" | "timestamp without time zone" =>
    some (.simple .timestamp)
  | "year" => some (.simple .year)
  | "geometry" | "geography" => some (.simple .geometry)
  | "point" => some (.simple .point)
  | "enum" => some (.enum type.arguments)
  | "set" => some (.set type.arguments)
  | _ => none

/-- **The kind of column that a type of the dialect makes.** -/
def columnKind (type : TypeName) (dialect : Dialect) : ColumnKind :=
  if type.array then .other (type.name ++ "[]")
  else (type.dialectKind? dialect <|> type.sharedKind?).getD
    (.other type.name)

end TypeName

end SchemaTyping.Sql
