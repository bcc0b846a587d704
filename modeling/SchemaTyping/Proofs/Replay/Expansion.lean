import Mathlib.Data.List.Forall2
import Mathlib.Data.List.Pairwise
import Mathlib.Data.List.Perm.Basic
import SchemaTyping.Proofs.Replay.Effect

/-!
# Shorthands and what they stand for

The shorthands of the migration language are there to save words: whatever they
do can be written with the creation of an empty table and with columns added
and dropped one at a time. `Operation.expansion` spells this out, with the
names and kinds of the columns written down once more, apart from those that
replaying uses.

**A log may be replaced by its expansion**, on every schema
(`Schema.after_expanded`). Three things could be different and are not. The
first step of an expansion creates a missing table, and the others then find
it. A shorthand that drops two columns is skipped only if both are missing,
while in its expansion each step is skipped by itself; but a column that is
missing is dropped for nothing in either case. And the order of the steps does
not matter, because those of one shorthand commute: they drop columns, or they
add columns of different names (`Operation.commuting_expansion`). The columns
of a new table may have one name, and these have to keep their order.
-/

namespace SchemaTyping

/-! ## Expansions -/

namespace Operation

/-- **The primitive operations that an operation stands for**; an operation
that is no shorthand stands for itself. -/
def expansion : Operation → List Operation
  | .createTable table columns =>
    .createTable table [] :: columns.map (.addColumn table)
  | .addTimestamps table withZone =>
    [.addColumn table ⟨"created_at", timestampKind withZone, true⟩,
      .addColumn table ⟨"updated_at", timestampKind withZone, true⟩]
  | .addSoftDeletes table column withZone =>
    [.addColumn table ⟨column, timestampKind withZone, true⟩]
  | .addMorphs table name key nullable =>
    [.addColumn table ⟨name ++ "_type", .string none, nullable⟩,
      .addColumn table ⟨name ++ "_id", key.columnKind, nullable⟩]
  | .addRememberToken table =>
    [.addColumn table ⟨"remember_token", .simple .rememberToken, true⟩]
  | .dropColumn table names => names.map fun name => .dropColumn table [name]
  | .dropTimestamps table =>
    [.dropColumn table ["created_at"], .dropColumn table ["updated_at"]]
  | .dropSoftDeletes table column => [.dropColumn table [column]]
  | .dropMorphs table name =>
    [.dropColumn table [name ++ "_type"], .dropColumn table [name ++ "_id"]]
  | .dropRememberToken table => [.dropColumn table ["remember_token"]]
  | operation => [operation]

/-- **An operation expands to steps** if these are the operations it stands
for. They may be in any order, but a new table is created first, and then its
columns are added in theirs. -/
def ExpandsTo (operation : Operation) (steps : List Operation) : Prop :=
  match operation with
  | .createTable .. => steps = operation.expansion
  | _ => steps.Perm operation.expansion

/-- An expansion works where the operation does. -/
theorem inOnePlace_of_mem_expansion {operation : Operation}
    (h : operation.InOnePlace) :
    ∀ step ∈ operation.expansion,
      step.InOnePlace ∧ step.table = operation.table := by
  cases operation with
  | renameTable => exact h.elim
  | createTable table columns =>
    refine List.forall_mem_cons.mpr ⟨⟨trivial, rfl⟩, ?_⟩
    exact List.forall_mem_map.mpr fun _ _ => ⟨trivial, rfl⟩
  | dropColumn table names =>
    exact List.forall_mem_map.mpr fun _ _ => ⟨trivial, rfl⟩
  | addTimestamps | addMorphs | dropTimestamps | dropMorphs =>
    exact List.forall_mem_cons.mpr
      ⟨⟨trivial, rfl⟩, List.forall_mem_singleton.mpr ⟨trivial, rfl⟩⟩
  | dropTable | addColumn | modifyColumn | renameColumn | addSoftDeletes
  | addRememberToken | dropSoftDeletes | dropRememberToken =>
    exact List.forall_mem_singleton.mpr ⟨trivial, rfl⟩

/-! ## The effect of an expansion -/

/-- Columns added one at a time to a table that is there. -/
theorem effects_map_addColumn (table : String) (specs : List ColumnSpec)
    (found : Table) :
    effects (specs.map (.addColumn table)) (some found)
      = some (found.addSpecs specs) := by
  induction specs generalizing found with
  | nil => rfl
  | cons spec specs ih => exact ih (found.addSpecs [spec])

/-- Columns dropped one at a time. -/
theorem effects_map_dropColumn (table : String) (names : List String)
    (found : Option Table) :
    effects (names.map fun name => .dropColumn table [name]) found
      = found.map fun found => names.foldl Table.dropColumn found := by
  induction names generalizing found with
  | nil => cases found <;> rfl
  | cons name names ih =>
    refine (ih _).trans ?_
    cases found <;> rfl

/-- **An expansion has the effect of the operation.** -/
theorem effects_expansion {operation : Operation} (h : operation.InOnePlace)
    (found : Option Table) :
    effects operation.expansion found = operation.effect found := by
  cases operation with
  | renameTable => exact h.elim
  | createTable table columns => exact effects_map_addColumn table columns _
  | dropColumn table names => exact effects_map_dropColumn table names found
  | dropTimestamps | dropMorphs => cases found <;> rfl
  | dropTable | addColumn | modifyColumn | renameColumn | addTimestamps
  | addSoftDeletes | addMorphs | addRememberToken | dropSoftDeletes
  | dropRememberToken => rfl

end Operation

/-! ## Steps in any order -/

namespace Table

variable {table : Table}

/-- Columns of different names may be put in any order. -/
theorem setColumn_comm (table : Table) {column other : Column}
    (h : column.name ≠ other.name) :
    (table.setColumn column).setColumn other
      = (table.setColumn other).setColumn column := by
  refine ext_column? rfl fun name => ?_
  simp only [column?_setColumn]
  by_cases hname : name = other.name
  · rw [if_pos hname, if_neg fun heq => h (heq.symm.trans hname), if_pos hname]
  · rw [if_neg hname, if_neg hname]

theorem dropColumn_comm (table : Table) (name other : String) :
    (table.dropColumn name).dropColumn other
      = (table.dropColumn other).dropColumn name := by
  refine ext_column? rfl fun key => ?_
  simp only [column?_dropColumn]
  by_cases hname : key = name
  · rw [if_pos hname, if_pos hname, ite_self]
  · rw [if_neg hname, if_neg hname]

end Table

namespace Operation

/-- **The operations commute**: on every schema they may be carried out in
either order. -/
def Commute (operation other : Operation) : Prop :=
  ∀ schema : Schema, (schema.perform operation).perform other
    = (schema.perform other).perform operation

instance : Std.Symm Commute := ⟨fun _ _ h schema => (h schema).symm⟩

/-- Operations on one table commute if their effects do. -/
theorem commute_of_effect {operation other : Operation}
    (hplace : operation.InOnePlace) (hother : other.InOnePlace)
    (htable : operation.table = other.table)
    (h : ∀ found, other.effect (operation.effect found)
      = operation.effect (other.effect found)) :
    operation.Commute other := by
  intro schema
  rw [Schema.perform_eq_alterTable schema hplace,
    Schema.perform_eq_alterTable schema hother,
    Schema.perform_eq_alterTable _ hplace,
    Schema.perform_eq_alterTable _ hother, htable,
    Schema.alterTable_alterTable, Schema.alterTable_alterTable]
  exact Schema.alterTable_congr (h _)

theorem commute_addColumn (table : String) {spec other : ColumnSpec}
    (h : spec.name ≠ other.name) :
    (Operation.addColumn table spec).Commute (.addColumn table other) :=
  commute_of_effect trivial trivial rfl fun _ =>
    congrArg some (Table.setColumn_comm _ h)

theorem commute_dropColumn (table name other : String) :
    (Operation.dropColumn table [name]).Commute
      (.dropColumn table [other]) := by
  refine commute_of_effect trivial trivial rfl fun found => ?_
  cases found with
  | none => rfl
  | some found => exact congrArg some (found.dropColumn_comm name other)

theorem morphNames_ne (name : String) : name ++ "_type" ≠ name ++ "_id" := by
  intro h
  have hlength := congrArg String.length h
  rw [String.length_append, String.length_append] at hlength
  exact absurd (Nat.add_left_cancel hlength) (by decide)

/-- **The steps of an expansion commute**, but for those that make a table. -/
theorem commuting_expansion {operation : Operation}
    (h : ∀ table columns, operation ≠ .createTable table columns) :
    operation.expansion.Pairwise Commute := by
  cases operation with
  | createTable table columns => exact absurd rfl (h table columns)
  | addTimestamps table withZone =>
    have hnames : "created_at" ≠ "updated_at" := by decide
    exact List.pairwise_pair.mpr (commute_addColumn table hnames)
  | addMorphs table name key nullable =>
    exact List.pairwise_pair.mpr (commute_addColumn table (morphNames_ne name))
  | dropColumn table names =>
    exact List.pairwise_map.mpr
      (List.pairwise_of_forall fun name other => commute_dropColumn table name other)
  | dropTimestamps table =>
    exact List.pairwise_pair.mpr (commute_dropColumn table _ _)
  | dropMorphs table name =>
    exact List.pairwise_pair.mpr (commute_dropColumn table _ _)
  | dropTable | renameTable | addColumn | modifyColumn | renameColumn
  | addSoftDeletes | addRememberToken | dropSoftDeletes | dropRememberToken =>
    exact List.pairwise_singleton _ _

end Operation

/-! ## Expanded logs -/

namespace Schema

/-- Steps that commute may be carried out in any order. -/
theorem after_perm (schema : Schema) {steps others : List Operation}
    (h : steps.Perm others) (hcommute : others.Pairwise Operation.Commute) :
    schema.after steps = schema.after others := by
  have hall : ∀ step ∈ others, ∀ other ∈ others, step.Commute other :=
    hcommute.forall_of_forall fun _ _ _ => rfl
  rw [after_eq_foldl, after_eq_foldl]
  exact (h.symm.foldl_eq' (fun step hstep other hother state =>
    hall step hstep other hother state) schema).symm

/-- An operation and its expansion leave the same schema. -/
theorem after_expansion (schema : Schema) (operation : Operation) :
    schema.after operation.expansion = schema.perform operation := by
  rcases operation.inOnePlace_or_renameTable with hplace | ⟨source, target, rfl⟩
  · rw [after_eq_alterTable schema (Operation.inOnePlace_of_mem_expansion hplace),
      perform_eq_alterTable schema hplace]
    exact alterTable_congr (Operation.effects_expansion hplace _)
  · exact schema.after_cons (.renameTable source target) []

/-- **An operation may be replaced by what it expands to.** -/
theorem after_of_expandsTo (schema : Schema) {operation : Operation}
    {steps : List Operation} (h : operation.ExpandsTo steps) :
    schema.after steps = schema.perform operation := by
  rw [← after_expansion schema operation]
  cases operation with
  | createTable => exact congrArg schema.after h
  | _ => exact schema.after_perm h (Operation.commuting_expansion nofun)

/-- **A log may be replaced by its expansion**: if every operation of it is
replaced by primitive operations that it expands to, the log leaves the same
schema, whatever schema it starts from. -/
theorem after_expanded (schema : Schema) {log : List Operation}
    {parts : List (List Operation)}
    (h : List.Forall₂ Operation.ExpandsTo log parts) :
    schema.after parts.flatten = schema.after log := by
  induction h generalizing schema with
  | nil => rfl
  | cons hpart _ ih =>
    rw [List.flatten_cons, after_append, after_of_expandsTo schema hpart, ih,
      after_cons]

/-- A table with two columns of one name, a relation whose table is not there
yet, and columns that are dropped in vain. -/
theorem after_expanded_comments :
    let log : List Operation :=
      [.createTable "posts" [⟨"state", .simple .integer, false⟩,
          ⟨"state", .string none, true⟩],
        .addMorphs "comments" "owner" .uuid true, .dropTimestamps "posts",
        .dropColumn "comments" ["owner_id", "text", "owner_id"],
        .renameTable "comments" "notes"]
    let parts : List (List Operation) :=
      [[.createTable "posts" [],
          .addColumn "posts" ⟨"state", .simple .integer, false⟩,
          .addColumn "posts" ⟨"state", .string none, true⟩],
        [.addColumn "comments" ⟨"owner_id", .simple .uuid, true⟩,
          .addColumn "comments" ⟨"owner_type", .string none, true⟩],
        [.dropColumn "posts" ["updated_at"], .dropColumn "posts" ["created_at"]],
        [.dropColumn "comments" ["text"], .dropColumn "comments" ["owner_id"],
          .dropColumn "comments" ["owner_id"]],
        [.renameTable "comments" "notes"]]
    List.Forall₂ Operation.ExpandsTo log parts
      ∧ empty.after parts.flatten = empty.after log
      ∧ (empty.after log).tableNames = ["notes", "posts"]
      ∧ (empty.after log).column? "posts" "state"
          = some (.ofSpec ⟨"state", .string none, true⟩) := by
  intro log parts
  have hparts : List.Forall₂ Operation.ExpandsTo log parts :=
    .cons rfl (.cons (.swap _ _ _) (.cons (.swap _ _ _)
      (.cons (.swap _ _ _) (.cons (.refl _) .nil))))
  exact ⟨hparts, empty.after_expanded hparts, by decide, by decide⟩

end Schema

end SchemaTyping
