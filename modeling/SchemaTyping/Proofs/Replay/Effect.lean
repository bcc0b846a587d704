import SchemaTyping.Proofs.Replay.Skipped

/-!
# What an operation makes of its table

Every operation but one works in a single place: what is stored under the name
of its table, or that nothing is, decides what is stored there afterwards, and
no other name is looked at. Such an operation is a function on `Option Table`,
its **effect**, and to carry it out is to apply the effect in that place
(`Schema.perform_eq_alterTable`). Skipping is not a case of its own here: an
operation that finds nothing to do has an effect that changes nothing.

Changes in one place compose (`Schema.alterTable_alterTable`), so operations on
one table, one after the other, make a single change, the composition of their
effects (`Schema.after_eq_alterTable`). Whether an operation may be repeated,
whether it may be done in smaller steps and whether another one takes it back
are then questions about one table. The operation left out is the renaming of a
table, which works in two places: like the renaming of a column it moves an
entry of a record to another key (`Keyed.move`).
-/

namespace SchemaTyping

/-! ## Moving an entry -/

namespace Keyed

variable {α : Type} {m : Keyed α} {source target : String} {change : α → α}

/-- **The record with an entry moved** to another key, changed on the way, over
the one that was there. If there is no such entry nothing is moved. -/
def move (m : Keyed α) (source target : String) (change : α → α) : Keyed α :=
  match m.find? source with
  | some value => (m.erase source).insert target (change value)
  | none => m

theorem move_of_none (h : m.find? source = none) :
    m.move source target change = m := by
  unfold move
  rw [h]

/-- What was moved is found under its new key only. -/
theorem find?_move {value : α} (h : m.find? source = some value)
    (key : String) :
    (m.move source target change).find? key
      = if key = target then some (change value)
        else if key = source then none else m.find? key := by
  unfold move
  rw [h]
  dsimp only
  rw [find?_insert, find?_erase]

end Keyed

/-! ## The columns after a change of a table -/

namespace Table

variable {table other : Table}

/-- **A table is determined by its name and its columns.** -/
theorem ext_column? (hname : table.name = other.name)
    (h : ∀ name, table.column? name = other.column? name) : table = other := by
  obtain ⟨name, columns⟩ := table
  obtain ⟨_, others⟩ := other
  cases hname
  exact congrArg (Table.mk name) (Keyed.ext h)

theorem column?_setColumn (table : Table) (column : Column) (name : String) :
    (table.setColumn column).column? name
      = if name = column.name then some column else table.column? name :=
  table.columns.find?_insert column.name name column

theorem column?_dropColumn (table : Table) (dropped name : String) :
    (table.dropColumn dropped).column? name
      = if name = dropped then none else table.column? name :=
  table.columns.find?_erase dropped name

theorem addSpecs_cons (table : Table) (spec : ColumnSpec)
    (specs : List ColumnSpec) :
    table.addSpecs (spec :: specs)
      = (table.setColumn (.ofSpec spec)).addSpecs specs := rfl

theorem addSpecs_append (table : Table) (front back : List ColumnSpec) :
    table.addSpecs (front ++ back) = (table.addSpecs front).addSpecs back := by
  unfold addSpecs setColumns
  rw [List.map_append, List.foldl_append]

theorem name_addSpecs (table : Table) (specs : List ColumnSpec) :
    (table.addSpecs specs).name = table.name := by
  induction specs generalizing table with
  | nil => rfl
  | cons spec specs ih =>
    rw [addSpecs_cons, ih]
    rfl

/-- **The last specification of a name counts**, and without one the column
stays as it is. -/
theorem column?_addSpecs (table : Table) (specs : List ColumnSpec)
    (name : String) :
    (table.addSpecs specs).column? name
      = ((specs.findRev? (·.name == name)).map .ofSpec).or
          (table.column? name) := by
  induction specs generalizing table with
  | nil => rfl
  | cons spec specs ih =>
    rw [addSpecs_cons, ih, column?_setColumn, List.findRev?]
    cases specs.findRev? (·.name == name) with
    | some last => rfl
    | none =>
      show (if name = spec.name then _ else _) = _
      by_cases hname : name = spec.name
      · rw [if_pos hname, if_pos (beq_iff_eq.mpr hname.symm)]
        rfl
      · rw [if_neg hname, if_neg fun h => hname (beq_iff_eq.mp h).symm]
        rfl

/-- Columns of other names stay as they are. -/
theorem column?_addSpecs_of_forall_ne (table : Table)
    {specs : List ColumnSpec} {name : String}
    (h : ∀ spec ∈ specs, spec.name ≠ name) :
    (table.addSpecs specs).column? name = table.column? name := by
  have hnone : specs.findRev? (·.name == name) = none := by
    rw [List.findRev?_eq_find?_reverse, List.find?_eq_none]
    exact fun spec hspec heq =>
      h spec (List.mem_reverse.mp hspec) (beq_iff_eq.mp heq)
  rw [column?_addSpecs, hnone]
  rfl

theorem name_dropEach (table : Table) (names : List String) :
    (names.foldl dropColumn table).name = table.name := by
  induction names generalizing table with
  | nil => rfl
  | cons name names ih => exact ih (table.dropColumn name)

theorem column?_dropEach (table : Table) (names : List String)
    (name : String) :
    (names.foldl dropColumn table).column? name
      = if name ∈ names then none else table.column? name := by
  induction names generalizing table with
  | nil => rfl
  | cons first names ih =>
    rw [List.foldl_cons, ih, column?_dropColumn]
    by_cases hmem : name ∈ names
    · rw [if_pos hmem, if_pos (List.mem_cons_of_mem first hmem)]
    · rw [if_neg hmem]
      simp only [List.mem_cons, hmem, or_false]

/-- The table with a column declared anew, if there is such a column. -/
def modifyColumn (table : Table) (spec : ColumnSpec) : Table :=
  if table.hasColumn spec.name then table.addSpecs [spec] else table

/-- The table with a column moved to a new name, if there is such a column. -/
def renameColumn (table : Table) (source target : String) : Table :=
  { table with
    columns := table.columns.move source target ({ · with name := target }) }

theorem getD_renameColumn? (table : Table) (source target : String) :
    (table.renameColumn? source target).getD table
      = table.renameColumn source target := by
  unfold renameColumn? renameColumn column? Keyed.move
  cases table.columns.find? source <;> rfl

end Table

/-! ## Changes in one place -/

namespace Schema

variable {schema : Schema} {name : String}

/-- **The schema with a change in one place**: what is stored under the name,
or that nothing is, is changed into something or into nothing. -/
def alterTable (schema : Schema) (name : String)
    (change : Option Table → Option Table) : Schema :=
  match change (schema.table? name) with
  | some table => schema.putTable name table
  | none => schema.dropTable name

theorem table?_alterTable (schema : Schema) (name key : String)
    (change : Option Table → Option Table) :
    (schema.alterTable name change).table? key
      = if key = name then change (schema.table? name)
        else schema.table? key := by
  unfold alterTable
  cases change (schema.table? name) with
  | some table => exact schema.table?_putTable name key table
  | none => exact schema.table?_dropTable name key

theorem table?_alterTable_self (schema : Schema) (name : String)
    (change : Option Table → Option Table) :
    (schema.alterTable name change).table? name
      = change (schema.table? name) := by
  rw [table?_alterTable, if_pos rfl]

/-- **Changes in one place compose.** -/
theorem alterTable_alterTable (schema : Schema) (name : String)
    (first second : Option Table → Option Table) :
    (schema.alterTable name first).alterTable name second
      = schema.alterTable name fun found => second (first found) := by
  refine ext_table? fun key => ?_
  rw [table?_alterTable, table?_alterTable_self, table?_alterTable,
    table?_alterTable]
  by_cases hkey : key = name
  · rw [if_pos hkey, if_pos hkey]
  · rw [if_neg hkey, if_neg hkey, if_neg hkey]

/-- Only the change of what is there matters. -/
theorem alterTable_congr {first second : Option Table → Option Table}
    (h : first (schema.table? name) = second (schema.table? name)) :
    schema.alterTable name first = schema.alterTable name second := by
  unfold alterTable
  rw [h]

/-- A change that leaves what is there leaves the schema. -/
theorem alterTable_eq_self {change : Option Table → Option Table}
    (h : change (schema.table? name) = schema.table? name) :
    schema.alterTable name change = schema := by
  refine ext_table? fun key => ?_
  rw [table?_alterTable, h]
  split
  · next heq => rw [heq]
  · rfl

/-- A change that may find nothing to do, carried out or skipped. -/
theorem getD_updateTable? {change : Table → Option Table} :
    (schema.updateTable? name change).getD schema
      = schema.alterTable name
          (Option.map fun table => (change table).getD table) := by
  unfold updateTable? alterTable
  cases htable : schema.table? name with
  | none => exact (dropTable_eq_self htable).symm
  | some table =>
    show ((change table).map (schema.putTable name)).getD schema
      = schema.putTable name ((change table).getD table)
    cases change table with
    | none => exact (putTable_eq_self htable).symm
    | some changed => rfl

end Schema

/-! ## Effects -/

namespace Operation

/-- **An operation works in one place** unless it renames a table. -/
def InOnePlace : Operation → Prop
  | .renameTable .. => False
  | _ => True

theorem inOnePlace_or_renameTable (operation : Operation) :
    operation.InOnePlace
      ∨ ∃ source target, operation = .renameTable source target := by
  cases operation with
  | renameTable source target => exact .inr ⟨source, target, rfl⟩
  | _ => exact .inl trivial

/-- **The effect of an operation**: what is stored under the name of its table
afterwards. Of a table that is renamed nothing is left under its old name. -/
def effect (operation : Operation) (found : Option Table) : Option Table :=
  match operation with
  | .createTable table columns => some ((Table.empty table).addSpecs columns)
  | .dropTable _ | .renameTable _ _ => none
  | .addColumn table column =>
    some ((found.getD (.empty table)).addSpecs [column])
  | .modifyColumn _ column =>
    found.map (·.modifyColumn column)
  | .renameColumn _ source target =>
    found.map (·.renameColumn source target)
  | .addTimestamps table _ | .addSoftDeletes table _ _
  | .addMorphs table _ _ _ | .addRememberToken table =>
    some ((found.getD (.empty table)).addSpecs operation.generated)
  | .dropColumn _ _ | .dropTimestamps _ | .dropSoftDeletes _ _
  | .dropMorphs _ _ | .dropRememberToken _ =>
    found.map fun table => operation.dropped.foldl Table.dropColumn table

/-- The effects of operations, one after the other. -/
def effects (steps : List Operation) (found : Option Table) : Option Table :=
  steps.foldl (fun found step => step.effect found) found

end Operation

namespace Schema

variable {schema : Schema}

/-- Dropping columns, carried out or skipped, drops each that is there. -/
theorem getD_dropColumns? (table : Table) (names : List String) :
    (table.dropColumns? names).getD table
      = names.foldl Table.dropColumn table := by
  unfold Table.dropColumns?
  cases hany : names.any table.hasColumn with
  | true => rfl
  | false => exact (Table.foldl_dropColumn_eq_self hany).symm

/-- **To carry out an operation is to apply its effect** where its table is,
whether the operation is skipped or not. -/
theorem perform_eq_alterTable (schema : Schema) {operation : Operation}
    (h : operation.InOnePlace) :
    schema.perform operation
      = schema.alterTable operation.table operation.effect := by
  cases operation with
  | renameTable => exact h.elim
  | createTable => rfl
  | dropTable table =>
    show ((if schema.hasTable table then some (schema.dropTable table)
      else none).getD schema) = schema.dropTable table
    cases htable : schema.hasTable table with
    | true => rfl
    | false => exact (dropTable_eq_self (hasTable_eq_false.mp htable)).symm
  | addColumn | addTimestamps | addSoftDeletes | addMorphs
  | addRememberToken => rfl
  | modifyColumn table column =>
    refine getD_updateTable?.trans (alterTable_congr ?_)
    refine Option.map_congr fun found _ => ?_
    unfold Table.modifyColumn
    cases found.hasColumn column.name <;> rfl
  | renameColumn table source target =>
    refine getD_updateTable?.trans (alterTable_congr ?_)
    exact Option.map_congr fun found _ => found.getD_renameColumn? source target
  | dropColumn | dropTimestamps | dropSoftDeletes | dropMorphs
  | dropRememberToken =>
    refine getD_updateTable?.trans (alterTable_congr ?_)
    exact Option.map_congr fun found _ => getD_dropColumns? found _

/-- The one operation that works in two places. -/
theorem perform_renameTable (schema : Schema) (source target : String) :
    schema.perform (.renameTable source target)
      = ⟨schema.tables.move source target ({ · with name := target })⟩ := by
  show (schema.renameTable? source target).getD schema = _
  unfold renameTable? table? Keyed.move
  cases schema.tables.find? source <;> rfl

/-! ## Operations on one table -/

/-- **Operations on one table make one change**, the composition of their
effects. -/
theorem after_eq_alterTable (schema : Schema) {table : String}
    {steps : List Operation}
    (h : ∀ step ∈ steps, step.InOnePlace ∧ step.table = table) :
    schema.after steps = schema.alterTable table (Operation.effects steps) := by
  induction steps generalizing schema with
  | nil => exact (alterTable_eq_self rfl).symm
  | cons step steps ih =>
    obtain ⟨⟨hplace, htable⟩, hrest⟩ := List.forall_mem_cons.mp h
    rw [after_cons, ih _ hrest, perform_eq_alterTable schema hplace, htable,
      alterTable_alterTable]
    rfl

end Schema

end SchemaTyping
