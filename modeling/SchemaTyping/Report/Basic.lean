import SchemaTyping.Inference

/-!
# Reports

What the commands answer: the types of one property (`PropertyReport`), of all
inferred properties of a model (`ModelReport`), and the columns of tables
(`TablesReport`). A report is data; how it is written down is for the printers
to say.
-/

namespace SchemaTyping

/-- **The answer on one property.** There are no types if the property is not
inferred. -/
structure PropertyReport where
  className : String
  property : String
  types : Option PropertyTypes
  deriving DecidableEq, Repr

/-- A property of a model with its types. -/
structure PropertyRow where
  name : String
  types : PropertyTypes
  deriving DecidableEq, Repr

/-- **The answer on a model**: its table, and its inferred properties in
ascending order. -/
structure ModelReport where
  className : String
  table : String
  rows : List PropertyRow
  deriving DecidableEq, Repr

/-- A table with its columns in ascending order. -/
structure TableReport where
  name : String
  columns : List Column
  deriving DecidableEq, Repr

/-- **The answer on tables.** -/
structure TablesReport where
  tables : List TableReport
  deriving DecidableEq, Repr

namespace Inference

/-- The answer on one property of a class. -/
def reportProperty (engine : Inference) (className property : String) :
    Except InferenceError PropertyReport := do
  if engine.hasProperty className property then
    .ok ⟨className, property, some (← engine.property className property)⟩
  else .ok ⟨className, property, none⟩

/-- The row of one property of a class. -/
def reportRow (engine : Inference) (className property : String) :
    Except InferenceError PropertyRow := do
  .ok ⟨property, ← engine.property className property⟩

/-- The answer on a class. The first property without types is the error. -/
def reportModel (engine : Inference) (className : String) :
    Except InferenceError ModelReport := do
  let rows ← (engine.properties className).mapM (engine.reportRow className)
  .ok ⟨className, (engine.tableOf? className).getD "", rows⟩

end Inference

namespace Schema

/-- The answer on a table. -/
def reportTable (table : Table) : TableReport :=
  ⟨table.name, table.columns.values⟩

/-- The answer on one table, or on all of them in ascending order; `none` if
there is no such table. -/
def report? (schema : Schema) (name : Option String) : Option TablesReport :=
  match name with
  | some name => (schema.table? name).map fun table => ⟨[reportTable table]⟩
  | none => some ⟨schema.tables.values.map reportTable⟩

end Schema

end SchemaTyping
