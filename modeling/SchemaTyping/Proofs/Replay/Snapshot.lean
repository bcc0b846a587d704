import SchemaTyping.Inference
import SchemaTyping.Proofs.Replay.Effect
import SchemaTyping.Proofs.Replay.Locality
import SchemaTyping.Sql.Dump

/-!
# The snapshot of the dumps

Inference draws on a schema that is made in two steps: the dumps leave a snapshot
behind, and the migrations start from it. It is the schema of one replay, of what
the dumps say and of the migrations behind it. The dumps are read one by one, so
that a type which one of them declares is not known in another.

Of the snapshot alone more can be said, since dumps do nothing but create tables,
and to create a table is to put it in the place of the one that was there. A table
of the snapshot is the one that was defined last, whatever other definitions of it
stand before, in the same dump or in an earlier one; and of the columns with one
name it has the last (`snapshot_then_delta`). Twice the same happens, on the level
of tables and on that of columns, but for different reasons: a definition touches
one table (`Schema.table?_after`), and it leaves no column behind that it does not
declare (`Table.declaredBy_addSpecs`).
-/

namespace SchemaTyping

/-! ## Columns -/

namespace Table

variable {table : Table} {specs : List ColumnSpec} {name : String}

theorem hasColumn_addSpecs_iff (table : Table) (specs : List ColumnSpec)
    (name : String) :
    (table.addSpecs specs).hasColumn name = true
      ↔ (∃ spec ∈ specs, spec.name = name) ∨ table.hasColumn name = true := by
  induction specs generalizing table with
  | nil => simp [addSpecs, setColumns]
  | cons spec specs ih =>
    have hset : (table.setColumn (.ofSpec spec)).hasColumn name = true
        ↔ spec.name = name ∨ table.hasColumn name = true := by
      show ((table.setColumn (.ofSpec spec)).column? name).isSome = true ↔ _
      rw [column?_setColumn]
      split
      · next heq => exact iff_of_true rfl (.inl heq.symm)
      · next hne => exact (or_iff_right fun heq => hne heq.symm).symm
    rw [addSpecs_cons, ih, hset, or_left_comm, ← or_assoc]
    simp only [List.mem_cons, exists_eq_or_imp]

/-- **A table is declared by specifications** if it has a column for each name
among them and no other, and the last specification of a name counts. -/
structure DeclaredBy (table : Table) (specs : List ColumnSpec) : Prop where
  hasColumn_iff : ∀ name, table.hasColumn name = true
    ↔ ∃ spec ∈ specs, spec.name = name
  column?_of_last : ∀ front spec back, specs = front ++ spec :: back →
    (∀ later ∈ back, later.name ≠ spec.name) →
    table.column? spec.name = some (.ofSpec spec)

/-- **A table made from nothing** is declared by the specifications that it is
made of. -/
theorem declaredBy_addSpecs (name : String) (specs : List ColumnSpec) :
    ((empty name).addSpecs specs).DeclaredBy specs where
  hasColumn_iff key := by
    have hempty : ¬ (empty name).hasColumn key = true := Bool.false_ne_true
    rw [hasColumn_addSpecs_iff, or_iff_left hempty]
  column?_of_last front spec back heq hlast := by
    rw [heq, addSpecs_append, addSpecs_cons,
      column?_addSpecs_of_forall_ne _ hlast, column?_setColumn]
    exact if_pos rfl

end Table

/-! ## Tables -/

namespace Operation

/-- **A log of definitions**: it does nothing but create tables. -/
def AreDefinitions (log : List Operation) : Prop :=
  ∀ operation ∈ log, ∃ table columns, operation = .createTable table columns

variable {log : List Operation} {table : String}

/-- Definitions touch the tables that they define. -/
theorem AreDefinitions.mem_touchedBy_iff (h : AreDefinitions log) :
    table ∈ touchedBy log ↔ ∃ columns, .createTable table columns ∈ log := by
  constructor
  · intro hmem
    obtain ⟨operation, hoperation, htouched⟩ := List.mem_flatMap.mp hmem
    obtain ⟨name, columns, rfl⟩ := h operation hoperation
    cases List.mem_singleton.mp htouched
    exact ⟨columns, hoperation⟩
  · rintro ⟨columns, hmem⟩
    exact touched_subset_touchedBy hmem (List.mem_singleton_self table)

end Operation

namespace Schema

variable {schema : Schema} {log : List Operation} {table : String}

theorem perform_createTable (schema : Schema) (table : String)
    (columns : List ColumnSpec) :
    schema.perform (.createTable table columns)
      = schema.putTable table ((Table.empty table).addSpecs columns) := rfl

/-- **The last definition of a table counts.** -/
theorem table?_after_of_last (schema : Schema) {before behind : List Operation}
    (columns : List ColumnSpec) (hlast : table ∉ Operation.touchedBy behind) :
    (schema.after (before ++ .createTable table columns :: behind)).table? table
      = some ((Table.empty table).addSpecs columns) := by
  rw [after_append, after_cons, table?_after _ hlast, perform_createTable,
    table?_putTable]
  exact if_pos rfl

/-- A definition adds its table to those that are there. -/
theorem hasTable_perform_createTable (schema : Schema) (name : String)
    (columns : List ColumnSpec) :
    (schema.perform (.createTable name columns)).hasTable table = true
      ↔ table = name ∨ schema.hasTable table = true := by
  rw [perform_createTable]
  show ((schema.putTable name _).table? table).isSome = true ↔ _
  rw [table?_putTable]
  split
  · next heq => exact iff_of_true rfl (.inl heq)
  · next hne => exact (or_iff_right hne).symm

/-- Definitions remove no table. -/
theorem hasTable_after_iff (h : Operation.AreDefinitions log) :
    (schema.after log).hasTable table = true
      ↔ (∃ columns, .createTable table columns ∈ log)
        ∨ schema.hasTable table = true := by
  induction log generalizing schema with
  | nil => simp [after_nil]
  | cons operation log ih =>
    obtain ⟨⟨name, others, rfl⟩, hrest⟩ := List.forall_mem_cons.mp h
    have hmem : (∃ columns, .createTable table columns
          ∈ Operation.createTable name others :: log)
        ↔ table = name ∨ ∃ columns, .createTable table columns ∈ log := by
      simp only [List.mem_cons, Operation.createTable.injEq, exists_or,
        exists_and_left, exists_eq, and_true]
    rw [after_cons, ih hrest, hasTable_perform_createTable, hmem, or_left_comm,
      or_assoc]

/-- **The tables of a snapshot** are those that were defined. -/
theorem hasTable_empty_after_iff (h : Operation.AreDefinitions log) :
    (empty.after log).hasTable table = true
      ↔ ∃ columns, .createTable table columns ∈ log := by
  have hempty : ¬ empty.hasTable table = true := Bool.false_ne_true
  rw [hasTable_after_iff h, or_iff_left hempty]

end Schema

/-! ## Dumps -/

namespace Sql

variable {dialect : Dialect}

theorem exists_createTable_of_tableDefinition? {enums : EnumTypes}
    {statement : List Char} {operation : Operation}
    (h : tableDefinition? dialect enums statement = some operation) :
    ∃ table columns, operation = .createTable table columns := by
  obtain ⟨header, -, h⟩ := Option.bind_eq_some_iff.mp h
  obtain ⟨body, -, h⟩ := Option.bind_eq_some_iff.mp h
  exact ⟨_, _, (Option.some.inj h).symm⟩

/-- Statements define tables, whatever types are declared before. -/
theorem areDefinitions_definitions (dialect : Dialect) (enums : EnumTypes)
    (statements : List (List Char)) :
    Operation.AreDefinitions (definitions dialect enums statements) := by
  induction statements generalizing enums with
  | nil => exact fun _ hmem => absurd hmem List.not_mem_nil
  | cons statement rest ih =>
    rw [definitions]
    split
    · exact ih _
    · intro operation hmem
      rcases List.mem_append.mp hmem with hmem | hmem
      · exact exists_createTable_of_tableDefinition? (Option.mem_toList.mp hmem)
      · exact ih enums operation hmem

/-- **Dumps do nothing but create tables.** -/
theorem areDefinitions_dumps (dialect : Dialect) (dumps : List String) :
    Operation.AreDefinitions (dumps.flatMap (dumpOperations dialect)) := by
  intro operation hmem
  obtain ⟨dump, -, hmem⟩ := List.mem_flatMap.mp hmem
  exact areDefinitions_definitions dialect .empty _ operation hmem

end Sql

/-- **The snapshot first, then the migrations.** What inference draws on is the
schema of one replay of the dumps, read one by one, and of the log. The snapshot
has the tables that the dumps define; the last definition of a table declares it
alone, and in it the last specification of a column. -/
theorem snapshot_then_delta (dialect : Dialect) (dateClass : String)
    (registry : Registry) (dumps : List String) (log : List Operation) :
    let parsed := dumps.flatMap (Sql.dumpOperations dialect)
    let snapshot := Schema.empty.after parsed
    (Inference.ofOperations dialect dateClass registry parsed log).schema
        = Schema.empty.after (parsed ++ log)
      ∧ ∀ table,
        (snapshot.hasTable table = true
          ↔ ∃ columns, .createTable table columns ∈ parsed)
        ∧ ∀ before columns behind,
          parsed = before ++ .createTable table columns :: behind →
          (∀ others, .createTable table others ∉ behind) →
          ∃ found, snapshot.table? table = some found ∧ found.name = table
            ∧ found.DeclaredBy columns := by
  intro parsed snapshot
  have hparsed : Operation.AreDefinitions parsed :=
    Sql.areDefinitions_dumps dialect dumps
  refine ⟨(Schema.after_append _ parsed log).symm, fun table =>
    ⟨Schema.hasTable_empty_after_iff hparsed,
      fun before columns behind heq hlast => ?_⟩⟩
  have hbehind : Operation.AreDefinitions behind := by
    intro operation hmem
    rw [heq] at hparsed
    exact hparsed operation
      (List.mem_append_right before (List.mem_cons_of_mem _ hmem))
  have huntouched : table ∉ Operation.touchedBy behind := fun hmem =>
    (hbehind.mem_touchedBy_iff.mp hmem).elim hlast
  have hfound : snapshot.table? table
      = some ((Table.empty table).addSpecs columns) := by
    show (Schema.empty.after parsed).table? table = _
    rw [heq]
    exact Schema.empty.table?_after_of_last columns huntouched
  exact ⟨_, hfound, Table.name_addSpecs _ columns,
    Table.declaredBy_addSpecs table columns⟩

/-- Two dumps that define one table again, next to a table whose name differs in
case. The type of the first dump is not known in the second, and of two columns
of one name the later one is kept. -/
theorem snapshot_then_delta_redefined :
    let dumps :=
      ["CREATE TYPE m AS ENUM ('a');\nCREATE TABLE t (x m, y int);",
        "CREATE TABLE T (x m); CREATE TABLE t (x text, z m, x bigint NOT NULL)"]
    let log := [Operation.renameColumn "t" "z" "w"]
    let parsed := dumps.flatMap (Sql.dumpOperations .postgres)
    let snapshot := Schema.empty.after parsed
    let last : List ColumnSpec := [⟨"x", .simple .text, true⟩,
      ⟨"z", .other "m", true⟩, ⟨"x", .simple .bigInteger, false⟩]
    (Inference.ofOperations .postgres defaultDateClass .empty parsed log).schema
        = Schema.empty.after (parsed ++ log)
      ∧ parsed = [.createTable "t" [⟨"x", .enum ["a"], true⟩,
          ⟨"y", .simple .integer, true⟩],
        .createTable "T" [⟨"x", .other "m", true⟩], .createTable "t" last]
      ∧ ∃ found, snapshot.table? "t" = some found ∧ found.name = "t"
        ∧ found.DeclaredBy last := by
  intro dumps log parsed snapshot last
  have hparsed : parsed = [.createTable "t" [⟨"x", .enum ["a"], true⟩,
      ⟨"y", .simple .integer, true⟩],
      .createTable "T" [⟨"x", .other "m", true⟩], .createTable "t" last] := by
    decide +kernel
  obtain ⟨hschema, htables⟩ :=
    snapshot_then_delta .postgres defaultDateClass .empty dumps log
  refine ⟨hschema, hparsed, (htables "t").2
    [.createTable "t" [⟨"x", .enum ["a"], true⟩, ⟨"y", .simple .integer, true⟩],
      .createTable "T" [⟨"x", .other "m", true⟩]] last [] hparsed ?_⟩
  exact fun _ => List.not_mem_nil

end SchemaTyping
