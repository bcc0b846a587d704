import SchemaTyping.Keyed
import SchemaTyping.Schema.ColumnKind

/-!
# Schemas

A **schema** holds tables by name, and a table holds columns by name. A table
and a column also know their own name, which is the one they are stored under
as long as the schema is changed by the operations below: renaming moves a
table or a column and gives it the new name in one step.

A schema is a `Keyed` record, so two schemas with the same tables are equal,
whatever the order in which they were built.
-/

namespace SchemaTyping

/-- What a migration says of a column: its name, its kind, and whether it may
be empty. -/
structure ColumnSpec where
  name : String
  kind : ColumnKind
  nullable : Bool := false
  deriving DecidableEq, Repr, Inhabited

/-- **A column of a table.** What is read from it and what may be assigned to
it are kept apart. -/
structure Column where
  name : String
  readableType : PropertyType
  writableType : PropertyType
  nullable : Bool
  /-- The values an enumerated column chooses from. -/
  options : List String
  deriving DecidableEq, Repr, Inhabited

/-- The column a specification declares. -/
def Column.ofSpec (spec : ColumnSpec) : Column where
  name := spec.name
  readableType := spec.kind.readableType
  writableType := spec.kind.writableType
  nullable := spec.nullable
  options := spec.kind.options

/-- **A table**: a name and columns by name. -/
structure Table where
  name : String
  columns : Keyed Column
  deriving DecidableEq, Inhabited

/-- **A schema**: tables by name. -/
structure Schema where
  tables : Keyed Table
  deriving DecidableEq, Inhabited

namespace Table

/-- The table without columns. -/
def empty (name : String) : Table := ⟨name, .empty⟩

/-- Puts a column under its own name, over the one that was there. -/
def setColumn (table : Table) (column : Column) : Table :=
  { table with columns := table.columns.insert column.name column }

/-- Puts columns into the table one by one. -/
def setColumns (table : Table) (columns : List Column) : Table :=
  columns.foldl setColumn table

/-- The column stored under a name. -/
def column? (table : Table) (name : String) : Option Column :=
  table.columns.find? name

/-- Whether a column is stored under the name. -/
def hasColumn (table : Table) (name : String) : Bool :=
  table.columns.contains name

/-- The names of the columns in ascending order. -/
def columnNames (table : Table) : List String := table.columns.keys

/-- The table without the column of that name. -/
def dropColumn (table : Table) (name : String) : Table :=
  { table with columns := table.columns.erase name }

/-- Moves a column to a new name, over the column that was there; `none` if
there is no such column. -/
def renameColumn? (table : Table) (source target : String) : Option Table :=
  (table.column? source).map fun column =>
    (table.dropColumn source).setColumn { column with name := target }

end Table

namespace Schema

/-- The schema without tables. -/
def empty : Schema := ⟨.empty⟩

/-- The table stored under a name. -/
def table? (schema : Schema) (name : String) : Option Table :=
  schema.tables.find? name

/-- Whether a table is stored under the name. -/
def hasTable (schema : Schema) (name : String) : Bool :=
  schema.tables.contains name

/-- The names of the tables in ascending order. -/
def tableNames (schema : Schema) : List String := schema.tables.keys

/-- The column of a table. -/
def column? (schema : Schema) (table column : String) : Option Column :=
  (schema.table? table).bind (·.column? column)

/-- Stores a table under a name, over the one that was there. -/
def putTable (schema : Schema) (name : String) (table : Table) : Schema :=
  ⟨schema.tables.insert name table⟩

/-- Stores a table under its own name, over the one that was there. -/
def addTable (schema : Schema) (table : Table) : Schema :=
  schema.putTable table.name table

/-- The table of that name, or an empty one if there is none. -/
def tableOrEmpty (schema : Schema) (name : String) : Table :=
  (schema.table? name).getD (.empty name)

/-- The schema without the table of that name. -/
def dropTable (schema : Schema) (name : String) : Schema :=
  ⟨schema.tables.erase name⟩

/-- Moves a table to a new name, over the table that was there; `none` if
there is no such table. -/
def renameTable? (schema : Schema) (source target : String) :
    Option Schema :=
  (schema.table? source).map fun table =>
    (schema.dropTable source).addTable { table with name := target }

/-! ## The tables after a change -/

theorem table?_putTable (schema : Schema) (name key : String)
    (table : Table) :
    (schema.putTable name table).table? key
      = if key = name then some table else schema.table? key :=
  schema.tables.find?_insert name key table

theorem table?_putTable_of_ne (schema : Schema) {name key : String}
    (table : Table) (h : key ≠ name) :
    (schema.putTable name table).table? key = schema.table? key :=
  schema.tables.find?_insert_of_ne table h

theorem table?_dropTable (schema : Schema) (name key : String) :
    (schema.dropTable name).table? key
      = if key = name then none else schema.table? key :=
  schema.tables.find?_erase name key

theorem table?_dropTable_of_ne (schema : Schema) {name key : String}
    (h : key ≠ name) :
    (schema.dropTable name).table? key = schema.table? key :=
  schema.tables.find?_erase_of_ne h

/-- **A schema is determined by its tables.** -/
theorem ext_table? {schema other : Schema}
    (h : ∀ key, schema.table? key = other.table? key) : schema = other := by
  obtain ⟨tables⟩ := schema
  obtain ⟨others⟩ := other
  exact congrArg Schema.mk (Keyed.ext h)

end Schema

end SchemaTyping
