import SchemaTyping.Migration.Operation

/-!
# Replaying operations

A schema is what its operations leave behind. `Schema.perform?` carries out one
operation and answers `none` if the operation refers to a table or a column
that is not there; such an operation is skipped, and `Schema.replay` counts
the operations that were applied and those that were skipped.
-/

namespace SchemaTyping

namespace Table

/-- The table with the columns that the specifications declare. -/
def addSpecs (table : Table) (specs : List ColumnSpec) : Table :=
  table.setColumns (specs.map .ofSpec)

/-- The table without the columns of the given names; `none` if it has none
of them. -/
def dropColumns? (table : Table) (names : List String) : Option Table :=
  if names.any table.hasColumn then some (names.foldl dropColumn table)
  else none

end Table

namespace Schema

/-- Changes a table in place; `none` if there is no such table or the change
finds nothing to do. -/
def updateTable? (schema : Schema) (name : String)
    (change : Table → Option Table) : Option Schema :=
  (schema.table? name).bind change |>.map (schema.putTable name)

/-- Adds columns to a table, which is created if there is none. -/
def addColumns (schema : Schema) (name : String) (specs : List ColumnSpec) :
    Schema :=
  schema.putTable name ((schema.tableOrEmpty name).addSpecs specs)

/-- **Carries out an operation**; `none` if what it refers to is not there. -/
def perform? (schema : Schema) (operation : Operation) : Option Schema :=
  match operation with
  | .createTable table columns =>
    some (schema.putTable table ((Table.empty table).addSpecs columns))
  | .dropTable table =>
    if schema.hasTable table then some (schema.dropTable table) else none
  | .renameTable source target => schema.renameTable? source target
  | .addColumn table column => some (schema.addColumns table [column])
  | .modifyColumn table column =>
    schema.updateTable? table fun found =>
      if found.hasColumn column.name then some (found.addSpecs [column])
      else none
  | .renameColumn table source target =>
    schema.updateTable? table (·.renameColumn? source target)
  | .addTimestamps table _ | .addSoftDeletes table _ _
  | .addMorphs table _ _ _ | .addRememberToken table =>
    some (schema.addColumns table operation.generated)
  | .dropColumn table _ | .dropTimestamps table | .dropSoftDeletes table _
  | .dropMorphs table _ | .dropRememberToken table =>
    schema.updateTable? table (·.dropColumns? operation.dropped)

/-- The schema after an operation, which is left as it was if the operation
is skipped. -/
def perform (schema : Schema) (operation : Operation) : Schema :=
  (schema.perform? operation).getD schema

end Schema

/-- How many operations of a replay were applied and how many skipped. -/
structure ReplayCount where
  applied : Nat := 0
  skipped : Nat := 0
  deriving DecidableEq, Repr, Inhabited

/-- The count after one more operation. -/
def ReplayCount.add (count : ReplayCount) (wasApplied : Bool) : ReplayCount :=
  if wasApplied then { count with applied := count.applied + 1 }
  else { count with skipped := count.skipped + 1 }

namespace Schema

/-- One step of a replay. -/
def replayStep (state : Schema × ReplayCount) (operation : Operation) :
    Schema × ReplayCount :=
  match state.1.perform? operation with
  | some schema => (schema, state.2.add true)
  | none => (state.1, state.2.add false)

/-- **Replays operations in order**, from the given schema. -/
def replay (schema : Schema) (operations : List Operation) :
    Schema × ReplayCount :=
  operations.foldl replayStep (schema, {})

/-- The schema that operations leave behind. -/
def after (schema : Schema) (operations : List Operation) : Schema :=
  (schema.replay operations).1

/-! ## The schema without the counts -/

theorem replayStep_eq (state : Schema × ReplayCount) (operation : Operation) :
    replayStep state operation
      = (state.1.perform operation,
        state.2.add (state.1.perform? operation).isSome) := by
  unfold replayStep perform
  cases state.1.perform? operation <;> rfl

theorem fst_replayStep (state : Schema × ReplayCount) (operation : Operation) :
    (replayStep state operation).1 = state.1.perform operation := by
  rw [replayStep_eq]

theorem fst_foldl_replayStep (state : Schema × ReplayCount)
    (operations : List Operation) :
    (operations.foldl replayStep state).1 = operations.foldl perform state.1 := by
  induction operations generalizing state with
  | nil => rfl
  | cons operation rest ih =>
    rw [List.foldl_cons, ih, fst_replayStep, List.foldl_cons]

/-- A log is carried out operation by operation. -/
theorem after_eq_foldl (schema : Schema) (operations : List Operation) :
    schema.after operations = operations.foldl perform schema :=
  fst_foldl_replayStep (schema, {}) operations

@[simp] theorem after_nil (schema : Schema) : schema.after [] = schema := rfl

theorem after_cons (schema : Schema) (operation : Operation)
    (rest : List Operation) :
    schema.after (operation :: rest)
      = (schema.perform operation).after rest := by
  rw [after_eq_foldl, List.foldl_cons, after_eq_foldl]

theorem after_append (schema : Schema) (first second : List Operation) :
    schema.after (first ++ second) = (schema.after first).after second := by
  rw [after_eq_foldl, List.foldl_append, ← after_eq_foldl, ← after_eq_foldl]

end Schema

end SchemaTyping
