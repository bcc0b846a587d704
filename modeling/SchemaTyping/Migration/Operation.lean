import SchemaTyping.Schema.Basic

/-!
# Operations on a schema

Migrations change a schema by **operations**. Besides the primitive ones on a
table or a column there are shorthands for the columns that many tables have:
time stamps, the mark of a soft deletion, the two columns of a polymorphic
relation, and the token that remembers a login. `Operation.generated` lists
the columns a shorthand adds and `Operation.dropped` the names one removes,
so that every shorthand is defined by the primitive operations it stands for.
-/

namespace SchemaTyping

/-- The kind of key a polymorphic relation refers to. -/
inductive MorphKey where
  | int
  | uuid
  | ulid
  deriving DecidableEq, Repr, Inhabited

/-- The kind of the column that holds the key. -/
def MorphKey.columnKind : MorphKey → ColumnKind
  | .int => .simple .unsignedBigInteger
  | .uuid => .simple .uuid
  | .ulid => .simple .ulid

/-- **A change of the schema.** -/
inductive Operation where
  /-- Creates a table, in place of the one that was there. -/
  | createTable (table : String) (columns : List ColumnSpec)
  | dropTable (table : String)
  | renameTable (source target : String)
  /-- Adds a column, over the one that was there; the table is created if
  there is none. -/
  | addColumn (table : String) (column : ColumnSpec)
  | modifyColumn (table : String) (column : ColumnSpec)
  | renameColumn (table source target : String)
  | dropColumn (table : String) (columns : List String)
  /-- Adds the times of creation and of the last change. -/
  | addTimestamps (table : String) (withZone : Bool)
  | dropTimestamps (table : String)
  /-- Adds the time of a soft deletion. -/
  | addSoftDeletes (table column : String) (withZone : Bool)
  | dropSoftDeletes (table column : String)
  /-- Adds the class and the key of a polymorphic relation. -/
  | addMorphs (table name : String) (key : MorphKey) (nullable : Bool)
  | dropMorphs (table name : String)
  /-- Adds the token that remembers a login. -/
  | addRememberToken (table : String)
  | dropRememberToken (table : String)
  deriving DecidableEq, Repr, Inhabited

namespace Operation

/-- The table the operation works on, under the name it has before. -/
def table : Operation → String
  | .createTable table _ | .dropTable table | .addColumn table _
  | .modifyColumn table _ | .renameColumn table _ _ | .dropColumn table _
  | .addTimestamps table _ | .dropTimestamps table
  | .addSoftDeletes table _ _ | .dropSoftDeletes table _
  | .addMorphs table _ _ _ | .dropMorphs table _
  | .addRememberToken table | .dropRememberToken table => table
  | .renameTable source _ => source

/-- The name of the operation in the migration language. -/
def name : Operation → String
  | .createTable .. => "create_table"
  | .dropTable .. => "drop_table"
  | .renameTable .. => "rename_table"
  | .addColumn .. => "add_column"
  | .modifyColumn .. => "modify_column"
  | .renameColumn .. => "rename_column"
  | .dropColumn .. => "drop_column"
  | .addTimestamps .. => "add_timestamps"
  | .dropTimestamps .. => "drop_timestamps"
  | .addSoftDeletes .. => "add_soft_deletes"
  | .dropSoftDeletes .. => "drop_soft_deletes"
  | .addMorphs .. => "add_morphs"
  | .dropMorphs .. => "drop_morphs"
  | .addRememberToken .. => "add_remember_token"
  | .dropRememberToken .. => "drop_remember_token"

/-- The names of the two time stamps of a table. -/
def timestampNames : List String := ["created_at", "updated_at"]

/-- The name of the login token. -/
def rememberTokenName : String := "remember_token"

/-- The name of the time of a soft deletion, unless another is given. -/
def defaultSoftDeleteName : String := "deleted_at"

/-- The names of the two columns of a polymorphic relation. -/
def morphNames (name : String) : List String := [name ++ "_type", name ++ "_id"]

/-- The kind of a column that holds a time. -/
def timestampKind (withZone : Bool) : ColumnKind :=
  .simple (if withZone then .timestampTz else .timestamp)

/-- **The columns a shorthand adds**; none for the other operations. -/
def generated : Operation → List ColumnSpec
  | .addTimestamps _ withZone =>
    timestampNames.map (⟨·, timestampKind withZone, true⟩)
  | .addSoftDeletes _ column withZone =>
    [⟨column, timestampKind withZone, true⟩]
  | .addMorphs _ name key nullable =>
    [⟨name ++ "_type", .string none, nullable⟩,
      ⟨name ++ "_id", key.columnKind, nullable⟩]
  | .addRememberToken _ => [⟨rememberTokenName, .simple .rememberToken, true⟩]
  | _ => []

/-- **The names of the columns an operation removes**; none for those that
remove no column. -/
def dropped : Operation → List String
  | .dropColumn _ columns => columns
  | .dropTimestamps _ => timestampNames
  | .dropSoftDeletes _ column => [column]
  | .dropMorphs _ name => morphNames name
  | .dropRememberToken _ => [rememberTokenName]
  | _ => []

end Operation

end SchemaTyping
