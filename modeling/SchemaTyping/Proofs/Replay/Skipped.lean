import SchemaTyping.Migration.Replay

/-!
# What is skipped, and what skipping leaves

An operation that drops, renames or modifies something needs that to be there.
If its target is missing (`Operation.TargetMissing`) the operation is skipped,
and it is skipped for no other reason (`Schema.perform?_eq_none_iff`).

`Schema.perform?` looks before it changes anything. An operation may as well
be carried out **in place**: a table is taken out before it is known whether
there is one to put back, and columns are dropped one after the other,
whichever of them are there. That is `Schema.carryOut`, which reports at the
end whether it has found anything. The two come to the same
(`Schema.carryOut_eq`), because taking out what is not there changes nothing;
so a skipped operation leaves no trace even where it was begun.

For a log it follows that the skipped operations may be deleted: what is left
(`Schema.applied`) is applied from the first operation to the last and leaves
the same schema.
-/

namespace SchemaTyping

/-- A change that may find nothing to do, with a report of whether it did: what
it starts from is left as it was. -/
def reported {α : Type} (before : α) (after : Option α) : α × Bool :=
  (after.getD before, after.isSome)

/-! ## In place -/

namespace Table

/-- Drops columns one after the other, and reports whether one of them was
there. -/
def dropInTurn (table : Table) (names : List String) : Table × Bool :=
  names.foldl
    (fun state name =>
      (state.1.dropColumn name, state.2 || state.1.hasColumn name))
    (table, false)

/-- Takes a column out, and puts it back under another name if there was
one. -/
def moveColumn (table : Table) (source target : String) : Table × Bool :=
  let others := table.dropColumn source
  match table.column? source with
  | some column => (others.setColumn { column with name := target }, true)
  | none => (others, false)

variable {table : Table} {name : String}

theorem dropColumn_eq_self (h : table.column? name = none) :
    table.dropColumn name = table := by
  unfold dropColumn
  rw [Keyed.erase_eq_self h]

theorem hasColumn_eq_false : table.hasColumn name = false
    ↔ table.column? name = none :=
  Option.isSome_eq_false_iff.trans Option.isNone_iff_eq_none

theorem foldl_dropColumn_eq_self {names : List String}
    (h : names.any table.hasColumn = false) :
    names.foldl dropColumn table = table := by
  induction names with
  | nil => rfl
  | cons name names ih =>
    rw [List.any_cons, Bool.or_eq_false_iff] at h
    rw [List.foldl_cons, dropColumn_eq_self (hasColumn_eq_false.mp h.1),
      ih h.2]

/-- Dropping in turn finds a column if one is there at the start: a column
that was dropped before is not found a second time, but it has been
reported. -/
theorem foldl_dropInTurn (table : Table) (names : List String)
    (dropped : Bool) :
    names.foldl
        (fun state name =>
          (state.1.dropColumn name, state.2 || state.1.hasColumn name))
        (table, dropped)
      = (names.foldl dropColumn table,
        dropped || names.any table.hasColumn) := by
  induction names generalizing table dropped with
  | nil => rw [List.any_nil, Bool.or_false]; rfl
  | cons name names ih =>
    rw [List.foldl_cons, ih, List.foldl_cons, List.any_cons, Bool.or_assoc]
    cases hname : table.hasColumn name with
    | true => rfl
    | false => rw [dropColumn_eq_self (hasColumn_eq_false.mp hname)]

theorem dropInTurn_eq (table : Table) (names : List String) :
    table.dropInTurn names = reported table (table.dropColumns? names) := by
  unfold dropInTurn dropColumns?
  rw [foldl_dropInTurn, Bool.false_or]
  cases hany : names.any table.hasColumn with
  | true => rfl
  | false => rw [foldl_dropColumn_eq_self hany]; rfl

theorem moveColumn_eq (table : Table) (source target : String) :
    table.moveColumn source target
      = reported table (table.renameColumn? source target) := by
  unfold moveColumn renameColumn?
  cases hcolumn : table.column? source with
  | some column => rfl
  | none =>
    show (table.dropColumn source, false) = (table, false)
    rw [dropColumn_eq_self hcolumn]

end Table

namespace Schema

/-- Takes a table out, and puts it back under another name if there was
one. -/
def moveTable (schema : Schema) (source target : String) : Schema × Bool :=
  let others := schema.dropTable source
  match schema.table? source with
  | some table => (others.addTable { table with name := target }, true)
  | none => (others, false)

/-- Changes a table in place, if there is one. -/
def changeTable (schema : Schema) (name : String)
    (change : Table → Table × Bool) : Schema × Bool :=
  match schema.table? name with
  | some table => (schema.putTable name (change table).1, (change table).2)
  | none => (schema, false)

/-- **Carries out an operation in place**, and reports whether its target was
found. -/
def carryOut (schema : Schema) (operation : Operation) : Schema × Bool :=
  match operation with
  | .createTable .. | .addColumn .. | .addTimestamps .. | .addSoftDeletes ..
  | .addMorphs .. | .addRememberToken .. => (schema.perform operation, true)
  | .dropTable table => (schema.dropTable table, schema.hasTable table)
  | .renameTable source target => schema.moveTable source target
  | .modifyColumn table column =>
    schema.changeTable table fun found =>
      if found.hasColumn column.name then (found.addSpecs [column], true)
      else (found, false)
  | .renameColumn table source target =>
    schema.changeTable table (·.moveColumn source target)
  | .dropColumn table _ | .dropTimestamps table | .dropSoftDeletes table _
  | .dropMorphs table _ | .dropRememberToken table =>
    schema.changeTable table (·.dropInTurn operation.dropped)

variable {schema : Schema} {name : String}

theorem putTable_eq_self {table : Table}
    (h : schema.table? name = some table) :
    schema.putTable name table = schema := by
  unfold putTable
  rw [Keyed.insert_eq_self h]

theorem dropTable_eq_self (h : schema.table? name = none) :
    schema.dropTable name = schema := by
  unfold dropTable
  rw [Keyed.erase_eq_self h]

theorem hasTable_eq_false : schema.hasTable name = false
    ↔ schema.table? name = none :=
  Option.isSome_eq_false_iff.trans Option.isNone_iff_eq_none

theorem moveTable_eq (schema : Schema) (source target : String) :
    schema.moveTable source target
      = reported schema (schema.renameTable? source target) := by
  unfold moveTable renameTable?
  cases htable : schema.table? source with
  | some table => rfl
  | none =>
    show (schema.dropTable source, false) = (schema, false)
    rw [dropTable_eq_self htable]

/-- A change in place comes to the same as one that is decided on first, if
that is so of the table. -/
theorem changeTable_eq {change : Table → Table × Bool}
    {change? : Table → Option Table}
    (h : ∀ table, change table = reported table (change? table)) :
    schema.changeTable name change
      = reported schema (schema.updateTable? name change?) := by
  unfold changeTable updateTable?
  cases htable : schema.table? name with
  | none => rfl
  | some table =>
    dsimp only [Option.bind_some]
    rw [h table]
    cases change? table with
    | some changed => rfl
    | none =>
      show (schema.putTable name table, false) = (schema, false)
      rw [putTable_eq_self htable]

/-- **In place or not, an operation does the same**, and its report says
whether it was skipped. -/
theorem carryOut_eq (schema : Schema) (operation : Operation) :
    schema.carryOut operation
      = (schema.perform operation, (schema.perform? operation).isSome) := by
  cases operation with
  | createTable | addColumn | addTimestamps | addSoftDeletes | addMorphs
  | addRememberToken => rfl
  | dropTable table =>
    show (schema.dropTable table, schema.hasTable table) = reported schema
      (if schema.hasTable table then some (schema.dropTable table) else none)
    cases htable : schema.hasTable table with
    | true => rfl
    | false => rw [dropTable_eq_self (hasTable_eq_false.mp htable)]; rfl
  | renameTable source target => exact schema.moveTable_eq source target
  | modifyColumn table column =>
    refine changeTable_eq fun found => ?_
    cases found.hasColumn column.name <;> rfl
  | renameColumn table source target =>
    exact changeTable_eq fun found => found.moveColumn_eq source target
  | dropColumn | dropTimestamps | dropSoftDeletes | dropMorphs
  | dropRememberToken =>
    exact changeTable_eq fun found => found.dropInTurn_eq _

end Schema

/-! ## Missing targets -/

namespace Operation

/-- **The target of an operation is missing**: the table that is dropped or
renamed, the column that is modified or renamed, or each of the columns that
are dropped. A column is missing where its table is. What creates or adds has
no target to miss. -/
def TargetMissing (schema : Schema) : Operation → Prop
  | .createTable .. | .addColumn .. | .addTimestamps .. | .addSoftDeletes ..
  | .addMorphs .. | .addRememberToken .. => False
  | .dropTable table => schema.table? table = none
  | .renameTable source _ => schema.table? source = none
  | .modifyColumn table column => schema.column? table column.name = none
  | .renameColumn table source _ => schema.column? table source = none
  | .dropColumn table names =>
    ∀ name ∈ names, schema.column? table name = none
  | .dropTimestamps table =>
    ∀ name ∈ timestampNames, schema.column? table name = none
  | .dropSoftDeletes table column => schema.column? table column = none
  | .dropMorphs table name =>
    ∀ part ∈ morphNames name, schema.column? table part = none
  | .dropRememberToken table =>
    schema.column? table rememberTokenName = none

end Operation

namespace Schema

variable {schema : Schema} {name : String}

theorem column?_eq_none_iff {column : String} :
    schema.column? name column = none
      ↔ ∀ table, schema.table? name = some table →
        table.column? column = none := by
  unfold column?
  rw [Option.bind_eq_none_iff]

theorem updateTable?_eq_none_iff {change : Table → Option Table} :
    schema.updateTable? name change = none
      ↔ ∀ table, schema.table? name = some table → change table = none := by
  unfold updateTable?
  rw [Option.map_eq_none_iff, Option.bind_eq_none_iff]

theorem dropColumns?_eq_none_iff {table : Table} {names : List String} :
    table.dropColumns? names = none
      ↔ ∀ name ∈ names, table.column? name = none := by
  have hany : names.any table.hasColumn = false
      ↔ ∀ name ∈ names, table.column? name = none := by
    rw [List.any_eq_false]
    refine forall₂_congr fun name _ => ?_
    rw [Bool.not_eq_true, Table.hasColumn_eq_false]
  rw [← hany]
  unfold Table.dropColumns?
  cases names.any table.hasColumn with
  | true => exact ⟨nofun, nofun⟩
  | false => exact ⟨fun _ => rfl, fun _ => rfl⟩

/-- The columns of a list are dropped unless all of them are missing. -/
theorem updateTable?_dropColumns?_eq_none_iff {names : List String} :
    schema.updateTable? name (·.dropColumns? names) = none
      ↔ ∀ column ∈ names, schema.column? name column = none := by
  rw [updateTable?_eq_none_iff]
  constructor
  · intro h column hcolumn
    exact column?_eq_none_iff.mpr fun table htable =>
      dropColumns?_eq_none_iff.mp (h table htable) column hcolumn
  · intro h table htable
    exact dropColumns?_eq_none_iff.mpr fun column hcolumn =>
      column?_eq_none_iff.mp (h column hcolumn) table htable

/-- **Skipping is exact**: an operation is skipped if its target is missing,
and only then. -/
theorem perform?_eq_none_iff (schema : Schema) (operation : Operation) :
    schema.perform? operation = none ↔ operation.TargetMissing schema := by
  cases operation with
  | createTable | addColumn | addTimestamps | addSoftDeletes | addMorphs
  | addRememberToken => exact ⟨nofun, nofun⟩
  | dropTable table =>
    show (if schema.hasTable table then some (schema.dropTable table)
      else none) = none ↔ schema.table? table = none
    rw [← hasTable_eq_false]
    cases schema.hasTable table with
    | true => exact ⟨nofun, nofun⟩
    | false => exact ⟨fun _ => rfl, fun _ => rfl⟩
  | renameTable source target => exact Option.map_eq_none_iff
  | modifyColumn table column =>
    refine updateTable?_eq_none_iff.trans (Iff.trans ?_ column?_eq_none_iff.symm)
    refine forall₂_congr fun found _ => ?_
    rw [← Table.hasColumn_eq_false]
    cases found.hasColumn column.name with
    | true => exact ⟨nofun, nofun⟩
    | false => exact ⟨fun _ => rfl, fun _ => rfl⟩
  | renameColumn table source target =>
    refine updateTable?_eq_none_iff.trans (Iff.trans ?_ column?_eq_none_iff.symm)
    exact forall₂_congr fun found _ => Option.map_eq_none_iff
  | dropColumn | dropTimestamps | dropMorphs =>
    exact updateTable?_dropColumns?_eq_none_iff
  | dropSoftDeletes | dropRememberToken =>
    exact updateTable?_dropColumns?_eq_none_iff.trans List.forall_mem_singleton

/-! ## Logs without their skipped operations -/

/-- **The operations of a log that are applied**: the skipped ones are
deleted. Whether one is skipped is seen in the schema that it comes to. -/
def applied (schema : Schema) : List Operation → List Operation
  | [] => []
  | operation :: log =>
    match schema.perform? operation with
    | some next => operation :: next.applied log
    | none => schema.applied log

theorem applied_cons_of_some {operation : Operation} {log : List Operation}
    {next : Schema} (h : schema.perform? operation = some next) :
    schema.applied (operation :: log) = operation :: next.applied log := by
  rw [applied, h]

theorem applied_cons_of_none {operation : Operation} {log : List Operation}
    (h : schema.perform? operation = none) :
    schema.applied (operation :: log) = schema.applied log := by
  rw [applied, h]

theorem perform_of_some {operation : Operation} {next : Schema}
    (h : schema.perform? operation = some next) :
    schema.perform operation = next := by
  rw [perform, h, Option.getD_some]

theorem perform_of_none {operation : Operation}
    (h : schema.perform? operation = none) :
    schema.perform operation = schema := by
  rw [perform, h, Option.getD_none]

/-- Nothing but operations of the log is applied, each at most once and in
order. -/
theorem applied_sublist (schema : Schema) (log : List Operation) :
    (schema.applied log).Sublist log := by
  induction log generalizing schema with
  | nil => exact .slnil
  | cons operation log ih =>
    cases h : schema.perform? operation with
    | some next =>
      rw [applied_cons_of_some h]
      exact (ih next).cons_cons operation
    | none =>
      rw [applied_cons_of_none h]
      exact (ih schema).cons operation

/-- Of the applied operations every one is applied again. -/
theorem applied_applied (schema : Schema) (log : List Operation) :
    schema.applied (schema.applied log) = schema.applied log := by
  induction log generalizing schema with
  | nil => rfl
  | cons operation log ih =>
    cases h : schema.perform? operation with
    | some next =>
      rw [applied_cons_of_some h, applied_cons_of_some h, ih next]
    | none => rw [applied_cons_of_none h, ih schema]

/-- The skipped operations may be deleted. -/
theorem after_applied (schema : Schema) (log : List Operation) :
    schema.after (schema.applied log) = schema.after log := by
  induction log generalizing schema with
  | nil => rfl
  | cons operation log ih =>
    cases h : schema.perform? operation with
    | some next =>
      rw [applied_cons_of_some h, after_cons, after_cons, perform_of_some h,
        ih next]
    | none =>
      rw [applied_cons_of_none h, after_cons, perform_of_none h, ih schema]

/-- The counts of a replay are lengths: of the log, and of what is applied. -/
theorem foldl_replayStep (schema : Schema) (count : ReplayCount)
    (log : List Operation) :
    log.foldl replayStep (schema, count)
      = (schema.after log,
        ⟨count.applied + (schema.applied log).length,
          count.skipped + (log.length - (schema.applied log).length)⟩) := by
  induction log generalizing schema count with
  | nil => rfl
  | cons operation log ih =>
    rw [List.foldl_cons, replayStep_eq, ih, after_cons]
    dsimp only
    cases h : schema.perform? operation with
    | some next =>
      rw [applied_cons_of_some h, perform_of_some h]
      simp only [ReplayCount.add, Option.isSome_some, if_true,
        List.length_cons, Nat.add_sub_add_right, Nat.add_assoc,
        Nat.add_comm 1]
    | none =>
      have hle := (schema.applied_sublist log).length_le
      rw [applied_cons_of_none h, perform_of_none h, List.length_cons]
      simp only [ReplayCount.add, Option.isSome_none, Bool.false_eq_true,
        if_false, Prod.mk.injEq, ReplayCount.mk.injEq, true_and]
      omega

theorem replay_eq (schema : Schema) (log : List Operation) :
    schema.replay log
      = (schema.after log, ⟨(schema.applied log).length,
          log.length - (schema.applied log).length⟩) := by
  unfold replay
  rw [foldl_replayStep]
  simp only [Nat.zero_add]

/-- **A skipped operation changes nothing, and skipping is exact.** Carried
out in place, an operation reports that it found nothing if its target is
missing and only then, and it has left the schema as it was. So every
operation of a log is counted once, as applied or as skipped; and the log
without its skipped operations replays to the same schema, with as many
operations applied and none skipped. -/
theorem replay_skips_exactly (schema : Schema) :
    (∀ operation : Operation,
      schema.carryOut operation
          = (schema.perform operation, (schema.perform? operation).isSome)
        ∧ ((schema.carryOut operation).2 = false
            ↔ operation.TargetMissing schema)
        ∧ (schema.carryOut operation = (schema, false)
            ↔ operation.TargetMissing schema))
    ∧ ∀ log : List Operation,
        (schema.replay log).2.applied + (schema.replay log).2.skipped
            = log.length
          ∧ schema.replay (schema.applied log)
            = ((schema.replay log).1, ⟨(schema.replay log).2.applied, 0⟩) := by
  constructor
  · intro operation
    have hreport : (schema.perform? operation).isSome = false
        ↔ operation.TargetMissing schema := by
      rw [← perform?_eq_none_iff, Option.isSome_eq_false_iff,
        Option.isNone_iff_eq_none]
    rw [carryOut_eq]
    refine ⟨rfl, hreport, ?_⟩
    rw [← hreport, Prod.mk.injEq]
    refine and_iff_right_of_imp fun hskipped => perform_of_none ?_
    rwa [Option.isSome_eq_false_iff, Option.isNone_iff_eq_none] at hskipped
  · intro log
    have hle := (schema.applied_sublist log).length_le
    rw [replay_eq, replay_eq, applied_applied, after_applied]
    dsimp only
    refine ⟨by omega, ?_⟩
    rw [Nat.sub_self]

end Schema

end SchemaTyping
