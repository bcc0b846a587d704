import SchemaTyping.Proofs.Sql.ColumnReading
import SchemaTyping.Proofs.Sql.HeaderReading

/-!
# Reading the dump of described tables

**What was written is read.** The dump of any list of descriptions has one
operation for each of them, in their order, and every name, every argument and
every flag comes back as it was described, whatever the quotes enclose.

Each reader has had its part shown before. Here they are put together in the
order in which they run: the scanner gives back the statements, the header
gives the name and the bracket, the bracket gives the body, the commas of the
body give the columns.
-/

namespace SchemaTyping.Sql

open Text

variable (dialect : Dialect)

/-- **The columns of a body** are read in order. -/
theorem filterMap_items_body (table : TableText) :
    (items table.body).filterMap (columnSpec? dialect .empty)
      = table.columns.map (·.spec dialect) := by
  have hsealed : ∀ part ∈ table.columns.map (·.chars), Sealed false part :=
    List.forall_mem_map.mpr fun column _ => column.sealed
  unfold TableText.body
  rw [filterMap_items hsealed, List.filterMap_map, ← List.filterMap_eq_map]
  refine congrArg (List.filterMap · table.columns) (funext fun column => ?_)
  exact column.columnSpec?_of_trim column.trim_chars

/-- **The statement of a described table** creates that table. -/
theorem tableDefinition?_chars (table : TableText) :
    tableDefinition? dialect .empty table.chars
      = some (table.operation dialect) := by
  unfold tableDefinition?
  rw [tableHeader?_chars, Option.bind_eq_bind, Option.bind_some]
  dsimp only
  rw [table.body_sealed.group?_eq, Option.bind_some]
  dsimp only
  rw [filterMap_items_body]
  rfl

/-- The statements of described tables create those tables, in order. -/
theorem definitions_chars (tables : List TableText) :
    definitions dialect .empty (tables.map (·.chars))
      = tables.map (·.operation dialect) := by
  induction tables with
  | nil => rfl
  | cons table tables ih =>
    rw [List.map_cons, definitions, enumDefinition?_chars]
    dsimp only
    rw [tableDefinition?_chars, ih]
    rfl

theorem TableText.trim_chars (table : TableText) :
    trim table.chars = table.chars := by
  have hchars : table.chars = ("CREATE TABLE ".toList ++ table.nameChars
      ++ ' ' :: '(' :: table.body) ++ [')'] := by
    unfold chars
    simp only [List.append_assoc, List.cons_append]
  have hends : EndsSolid table.chars := by
    rw [hchars]
    exact .concat _ (by decide)
  exact hends.trim_eq fun c hc => by
    cases hc
    decide

/-- **Every dump of described tables is read back**: it has one operation for
each table, and that operation creates the table with all its columns. -/
theorem dumpOperations_dumpText (tables : List TableText) :
    dumpOperations dialect (dumpText tables)
      = tables.map (·.operation dialect) := by
  have htrim : (tables.map (·.chars)).map trim = tables.map (·.chars) := by
    rw [List.map_map]
    exact List.map_congr_left fun table _ => table.trim_chars
  have hstatements : statements (dumpText tables).toList
      = tables.map (·.chars) := by
    have hsealed : ∀ text ∈ tables.map (·.chars),
        Sealed true text ∧ trim text ≠ [] := by
      refine List.forall_mem_map.mpr fun table _ => ⟨table.sealed, ?_⟩
      rw [table.trim_chars]
      exact List.cons_ne_nil _ _
    have hread := statements_intercalate hsealed
    rw [htrim, List.map_map] at hread
    unfold dumpText
    rw [String.toList_ofList]
    exact hread
  unfold dumpOperations
  rw [hstatements, definitions_chars]

end SchemaTyping.Sql
