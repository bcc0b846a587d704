import SchemaTyping.Migration.Replay

/-!
# Where the columns of a schema come from

A table is stored under a name and has a name, and so has a column; nothing in
the type of a schema says that the two are the same. Nor does it say that the
four attributes of a column belong together: a column could be read as one
specification declares and accept what another one does.

Replaying keeps both in order. The **origins** of a schema are the
specifications that its columns were declared by and the names that columns
were moved to, and `Schema.InOrder` says that every table and column is stored
under its own name and that every column is, but for its name, the column of
one of the specifications. A column has another name than its specification
only if that name was given by a renaming.

The induction is on the log. One operation adds its own origins to those of
the schema it is carried out on (`Schema.InOrder.perform`), so a log adds the
origins of its operations (`Schema.after_inOrder`).
-/

namespace SchemaTyping

/-! ## Origins -/

/-- **What columns may come from.** -/
structure Origins where
  /-- The specifications that declare columns. -/
  specs : List ColumnSpec
  /-- The names that columns are moved to. -/
  newNames : List String

namespace Origins

/-- No origins. -/
def none : Origins := ⟨[], []⟩

/-- The origins of both. -/
def append (origins others : Origins) : Origins :=
  ⟨origins.specs ++ others.specs, origins.newNames ++ others.newNames⟩

/-- The origins are among the others. -/
def Within (origins others : Origins) : Prop :=
  origins.specs ⊆ others.specs ∧ origins.newNames ⊆ others.newNames

variable (origins others : Origins)

theorem within_append_left : origins.Within (origins.append others) :=
  ⟨List.subset_append_left _ _, List.subset_append_left _ _⟩

theorem within_append_right : others.Within (origins.append others) :=
  ⟨List.subset_append_right _ _, List.subset_append_right _ _⟩

theorem none_append : none.append origins = origins := rfl

theorem append_assoc (more : Origins) :
    (origins.append others).append more
      = origins.append (others.append more) := by
  simp only [append, List.append_assoc]

end Origins

namespace Operation

/-- **The specifications an operation carries**, or generates if it is a
shorthand. -/
def declared : Operation → List ColumnSpec
  | .createTable _ columns => columns
  | .addColumn _ column | .modifyColumn _ column => [column]
  | operation => operation.generated

/-- The name to which an operation moves a column. -/
def newName : Operation → List String
  | .renameColumn _ _ target => [target]
  | _ => []

/-- The origins that an operation adds. -/
def origins (operation : Operation) : Origins :=
  ⟨operation.declared, operation.newName⟩

/-- **The origins of a log**: those of its operations together. -/
def originsOf (log : List Operation) : Origins :=
  ⟨log.flatMap declared, log.flatMap newName⟩

theorem originsOf_cons (operation : Operation) (log : List Operation) :
    originsOf (operation :: log)
      = operation.origins.append (originsOf log) := rfl

end Operation

/-! ## Columns, tables and schemas in order -/

/-- **A column comes from a specification** if it is the declared column, all
attributes of one specification, under a name of its own. -/
def Column.ComesFrom (column : Column) (spec : ColumnSpec) : Prop :=
  column = { Column.ofSpec spec with name := column.name }

theorem Column.ofSpec_comesFrom (spec : ColumnSpec) :
    (Column.ofSpec spec).ComesFrom spec := rfl

/-- **A column in order**: it has the name it is stored under and comes from
one of the specifications, with the name given there or by a renaming. -/
def Column.InOrder (origins : Origins) (key : String) (column : Column) :
    Prop :=
  column.name = key
    ∧ ∃ spec ∈ origins.specs, column.ComesFrom spec
      ∧ (column.name = spec.name ∨ column.name ∈ origins.newNames)

/-- **A table in order**: it has the name it is stored under, and its columns
are in order. -/
structure Table.InOrder (origins : Origins) (key : String) (table : Table) :
    Prop where
  name_eq : table.name = key
  column : ∀ {name column}, table.column? name = some column →
    column.InOrder origins name

/-- **A schema in order**: so are all its tables. -/
structure Schema.InOrder (origins : Origins) (schema : Schema) : Prop where
  table : ∀ {key table}, schema.table? key = some table →
    table.InOrder origins key

variable {origins others : Origins}

theorem Column.InOrder.mono {key : String} {column : Column}
    (h : column.InOrder origins key) (hwithin : origins.Within others) :
    column.InOrder others key := by
  obtain ⟨hname, spec, hspec, hfrom, hnames⟩ := h
  exact ⟨hname, spec, hwithin.1 hspec, hfrom,
    hnames.imp_right fun hmem => hwithin.2 hmem⟩

/-- A declared column is in order under its own name. -/
theorem Column.ofSpec_inOrder {spec : ColumnSpec} (h : spec ∈ origins.specs) :
    (Column.ofSpec spec).InOrder origins spec.name :=
  ⟨rfl, spec, h, Column.ofSpec_comesFrom spec, .inl rfl⟩

/-- A column moved to a new name is in order under that name. -/
theorem Column.InOrder.rename {key target : String} {column : Column}
    (h : column.InOrder origins key) (htarget : target ∈ origins.newNames) :
    { column with name := target }.InOrder origins target := by
  obtain ⟨-, spec, hspec, hfrom, -⟩ := h
  refine ⟨rfl, spec, hspec, ?_, .inr htarget⟩
  unfold Column.ComesFrom at hfrom ⊢
  rw [hfrom]

namespace Table

variable {key : String} {table : Table}

theorem InOrder.mono (h : table.InOrder origins key)
    (hwithin : origins.Within others) : table.InOrder others key :=
  ⟨h.name_eq, fun hcolumn => (h.column hcolumn).mono hwithin⟩

theorem empty_inOrder (origins : Origins) (key : String) :
    (empty key).InOrder origins key :=
  ⟨rfl, fun hcolumn => by cases hcolumn⟩

/-- A table moved to a new name keeps its columns in order. -/
theorem InOrder.rename (h : table.InOrder origins key) (target : String) :
    { table with name := target }.InOrder origins target :=
  ⟨rfl, h.column⟩

theorem InOrder.setColumn (h : table.InOrder origins key) {column : Column}
    (hcolumn : column.InOrder origins column.name) :
    (table.setColumn column).InOrder origins key := by
  refine ⟨h.name_eq, fun {name found} hfound => ?_⟩
  rw [column?, Table.setColumn, Keyed.find?_insert] at hfound
  split at hfound
  · next heq =>
    cases hfound
    rw [heq]
    exact hcolumn
  · exact h.column hfound

theorem InOrder.addSpecs (h : table.InOrder origins key)
    {specs : List ColumnSpec} (hspecs : specs ⊆ origins.specs) :
    (table.addSpecs specs).InOrder origins key := by
  unfold Table.addSpecs Table.setColumns
  induction specs generalizing table with
  | nil => exact h
  | cons spec specs ih =>
    obtain ⟨hspec, hrest⟩ := List.cons_subset.mp hspecs
    exact ih (h.setColumn (Column.ofSpec_inOrder hspec)) hrest

theorem InOrder.dropColumn (h : table.InOrder origins key) (name : String) :
    (table.dropColumn name).InOrder origins key := by
  refine ⟨h.name_eq, fun {other found} hfound => ?_⟩
  rw [column?, Table.dropColumn, Keyed.find?_erase] at hfound
  split at hfound
  · cases hfound
  · exact h.column hfound

theorem InOrder.dropEach (h : table.InOrder origins key)
    (names : List String) :
    (names.foldl Table.dropColumn table).InOrder origins key := by
  induction names generalizing table with
  | nil => exact h
  | cons name names ih => exact ih (h.dropColumn name)

theorem InOrder.dropColumns? (h : table.InOrder origins key)
    {names : List String} {next : Table}
    (hnext : table.dropColumns? names = some next) :
    next.InOrder origins key := by
  unfold Table.dropColumns? at hnext
  split at hnext
  · cases hnext
    exact h.dropEach names
  · cases hnext

theorem InOrder.renameColumn? (h : table.InOrder origins key)
    {source target : String} (htarget : target ∈ origins.newNames)
    {next : Table} (hnext : table.renameColumn? source target = some next) :
    next.InOrder origins key := by
  unfold Table.renameColumn? at hnext
  obtain ⟨column, hcolumn, rfl⟩ := Option.map_eq_some_iff.mp hnext
  exact (h.dropColumn source).setColumn ((h.column hcolumn).rename htarget)

end Table

namespace Schema

variable {schema : Schema}

theorem InOrder.mono (h : schema.InOrder origins)
    (hwithin : origins.Within others) : schema.InOrder others :=
  ⟨fun htable => (h.table htable).mono hwithin⟩

theorem empty_inOrder (origins : Origins) : empty.InOrder origins :=
  ⟨fun htable => by cases htable⟩

theorem InOrder.putTable (h : schema.InOrder origins) {name : String}
    {table : Table} (htable : table.InOrder origins name) :
    (schema.putTable name table).InOrder origins := by
  refine ⟨fun {key found} hfound => ?_⟩
  rw [table?, Schema.putTable, Keyed.find?_insert] at hfound
  split at hfound
  · next heq =>
    cases hfound
    rw [heq]
    exact htable
  · exact h.table hfound

theorem InOrder.dropTable (h : schema.InOrder origins) (name : String) :
    (schema.dropTable name).InOrder origins := by
  refine ⟨fun {key found} hfound => ?_⟩
  rw [table?, Schema.dropTable, Keyed.find?_erase] at hfound
  split at hfound
  · cases hfound
  · exact h.table hfound

theorem InOrder.tableOrEmpty (h : schema.InOrder origins) (name : String) :
    (schema.tableOrEmpty name).InOrder origins name := by
  unfold Schema.tableOrEmpty
  cases htable : schema.table? name with
  | none => exact Table.empty_inOrder origins name
  | some table => exact h.table htable

/-- Changing one table in place keeps a schema in order if the change keeps
the table in order. -/
theorem InOrder.updateTable? (h : schema.InOrder origins) {name : String}
    {change : Table → Option Table} {next : Schema}
    (hchange : ∀ {table changed}, table.InOrder origins name →
      change table = some changed → changed.InOrder origins name)
    (hnext : schema.updateTable? name change = some next) :
    next.InOrder origins := by
  unfold Schema.updateTable? at hnext
  obtain ⟨changed, hbind, rfl⟩ := Option.map_eq_some_iff.mp hnext
  obtain ⟨table, htable, hchanged⟩ := Option.bind_eq_some_iff.mp hbind
  exact h.putTable (hchange (h.table htable) hchanged)

theorem InOrder.addColumns (h : schema.InOrder origins) (name : String)
    {specs : List ColumnSpec} (hspecs : specs ⊆ origins.specs) :
    (schema.addColumns name specs).InOrder origins :=
  h.putTable ((h.tableOrEmpty name).addSpecs hspecs)

theorem InOrder.renameTable? (h : schema.InOrder origins)
    {source target : String} {next : Schema}
    (hnext : schema.renameTable? source target = some next) :
    next.InOrder origins := by
  unfold Schema.renameTable? at hnext
  obtain ⟨table, htable, rfl⟩ := Option.map_eq_some_iff.mp hnext
  exact (h.dropTable source).putTable ((h.table htable).rename target)

/-! ## One operation and a whole log -/

/-- An operation that is carried out keeps a schema in order, if its own
origins are among those of the schema. -/
theorem InOrder.perform? (h : schema.InOrder origins) {operation : Operation}
    (hwithin : operation.origins.Within origins) {next : Schema}
    (hnext : schema.perform? operation = some next) :
    next.InOrder origins := by
  obtain ⟨hspecs, hnames⟩ := hwithin
  cases operation with
  | createTable table columns =>
    cases hnext
    exact h.putTable ((Table.empty_inOrder origins table).addSpecs hspecs)
  | dropTable table =>
    change (if schema.hasTable table then some (schema.dropTable table)
      else none) = some next at hnext
    split at hnext
    · cases hnext
      exact h.dropTable table
    · cases hnext
  | renameTable source target => exact h.renameTable? hnext
  | addColumn table column =>
    cases hnext
    exact h.addColumns table hspecs
  | modifyColumn table column =>
    refine h.updateTable? (fun {found changed} hfound hchanged => ?_) hnext
    split at hchanged
    · cases hchanged
      exact hfound.addSpecs hspecs
    · cases hchanged
  | renameColumn table source target =>
    refine h.updateTable? (fun hfound hchanged => ?_) hnext
    exact hfound.renameColumn? (hnames List.mem_cons_self) hchanged
  | addTimestamps table _ | addSoftDeletes table _ _ | addMorphs table _ _ _
  | addRememberToken table =>
    cases hnext
    exact h.addColumns table hspecs
  | dropColumn table _ | dropTimestamps table | dropSoftDeletes table _
  | dropMorphs table _ | dropRememberToken table =>
    exact h.updateTable? (fun hfound hchanged => hfound.dropColumns? hchanged)
      hnext

/-- **One step of a replay** adds the origins of its operation. -/
theorem InOrder.perform (h : schema.InOrder origins) (operation : Operation) :
    (schema.perform operation).InOrder
      (origins.append operation.origins) := by
  have hmono := h.mono (origins.within_append_left operation.origins)
  unfold Schema.perform
  cases hnext : schema.perform? operation with
  | none => exact hmono
  | some next =>
    exact hmono.perform? (origins.within_append_right operation.origins) hnext

/-- The schema in order after a log, from one in order before it. -/
theorem InOrder.after (h : schema.InOrder origins) (log : List Operation) :
    (schema.after log).InOrder (origins.append (Operation.originsOf log)) := by
  induction log generalizing schema origins with
  | nil =>
    rw [Operation.originsOf, List.flatMap_nil, List.flatMap_nil]
    exact h.mono (origins.within_append_left _)
  | cons operation log ih =>
    rw [after_cons, Operation.originsOf_cons, ← Origins.append_assoc]
    exact ih (h.perform operation)

/-- **Replaying keeps a schema in order.** A schema that is in order for some
origins is in order after every log for those origins and the ones of the log;
so a schema replayed from nothing is in order for the origins of its log
alone. -/
theorem after_inOrder :
    (∀ (initial : Schema) (origins : Origins) (log : List Operation),
      initial.InOrder origins →
        (initial.after log).InOrder (origins.append (Operation.originsOf log)))
    ∧ ∀ log : List Operation,
        (empty.after log).InOrder (Operation.originsOf log) := by
  refine ⟨fun initial origins log h => h.after log, fun log => ?_⟩
  rw [← Origins.none_append (Operation.originsOf log)]
  exact (empty_inOrder Origins.none).after log

end Schema

end SchemaTyping
