import SchemaTyping.Proofs.Replay.Effect
import SchemaTyping.Proofs.Replay.Origin

/-!
# Migrations that are taken back

A migration may be followed by one that takes it back: what was created is
dropped, what was added is dropped, what was renamed gets its old name. The two
sides say by themselves which columns they mean, and they are of use only if
they mean the same ones, for every argument.

`Operation.TakenBackBy` lists the pairs, each with what has to hold before: a
table that is created, a name that is given and a column that is added must not
be there yet, because creating, renaming and adding write over what they find,
and nothing brings that back. Under this condition **the second operation
restores the schema** (`Schema.perform_perform_of_takenBackBy`), to the last
entry. For renamings a second condition is needed, on the whole schema: tables
and columns go by the names they are stored under. A table that is renamed is
given its name, and is given it once more when it comes back, so a table with
another name than its key would not come back as it was.

Replaying keeps that second condition (`Schema.StoredByName.perform`), whatever
the operation, so several operations may be taken back one by one, the last
one first (`Schema.rollback_restores`).
-/

namespace SchemaTyping

variable {schema : Schema} {table : Table}

/-! ## Names and keys -/

/-- An entry of a record in which one was moved is that one, or it was there
before. -/
theorem Keyed.of_find?_move {α : Type} {m : Keyed α} {source target key : String}
    {change : α → α} {found : α}
    (h : (m.move source target change).find? key = some found) :
    (key = target ∧ ∃ value, m.find? source = some value ∧ change value = found)
      ∨ m.find? key = some found := by
  cases hvalue : m.find? source with
  | none =>
    rw [move_of_none hvalue] at h
    exact .inr h
  | some value =>
    rw [find?_move hvalue] at h
    split at h
    · next heq => exact .inl ⟨heq, value, rfl, Option.some.inj h⟩
    · split at h
      · cases h
      · exact .inr h

/-- **A table is stored by name**: it has the name it is stored under, and so
have its columns. -/
structure Table.StoredByName (key : String) (table : Table) : Prop where
  name_eq : table.name = key
  column_name_eq : ∀ {name column}, table.column? name = some column →
    column.name = name

/-- **A schema is stored by name**: so are all its tables. -/
def Schema.StoredByName (schema : Schema) : Prop :=
  ∀ {key table}, schema.table? key = some table → table.StoredByName key

namespace Table

variable {key : String}

theorem empty_storedByName (key : String) : (empty key).StoredByName key :=
  ⟨rfl, fun hcolumn => by cases hcolumn⟩

theorem StoredByName.setColumn (h : table.StoredByName key)
    (column : Column) : (table.setColumn column).StoredByName key := by
  refine ⟨h.name_eq, fun {name found} hfound => ?_⟩
  rw [column?_setColumn] at hfound
  split at hfound
  · next heq =>
    cases hfound
    exact heq.symm
  · exact h.column_name_eq hfound

theorem StoredByName.addSpecs (h : table.StoredByName key)
    (specs : List ColumnSpec) : (table.addSpecs specs).StoredByName key := by
  induction specs generalizing table with
  | nil => exact h
  | cons spec specs ih => exact ih (h.setColumn (.ofSpec spec))

theorem StoredByName.dropColumn (h : table.StoredByName key) (name : String) :
    (table.dropColumn name).StoredByName key := by
  refine ⟨h.name_eq, fun {other found} hfound => ?_⟩
  rw [column?_dropColumn] at hfound
  split at hfound
  · cases hfound
  · exact h.column_name_eq hfound

theorem StoredByName.dropEach (h : table.StoredByName key)
    (names : List String) :
    (names.foldl Table.dropColumn table).StoredByName key := by
  induction names generalizing table with
  | nil => exact h
  | cons name names ih => exact ih (h.dropColumn name)

theorem StoredByName.modifyColumn (h : table.StoredByName key)
    (spec : ColumnSpec) : (table.modifyColumn spec).StoredByName key := by
  unfold Table.modifyColumn
  split
  · exact h.addSpecs [spec]
  · exact h

theorem StoredByName.renameColumn (h : table.StoredByName key)
    (source target : String) :
    (table.renameColumn source target).StoredByName key := by
  refine ⟨h.name_eq, fun {name found} hfound => ?_⟩
  rcases Keyed.of_find?_move hfound with ⟨heq, column, -, rfl⟩ | hfound
  · exact heq.symm
  · exact h.column_name_eq hfound

end Table

/-- An effect leaves a table that is stored by name. -/
theorem Operation.storedByName_of_effect {operation : Operation}
    {found : Option Table} {changed : Table}
    (h : ∀ table, found = some table → table.StoredByName operation.table)
    (hchanged : operation.effect found = some changed) :
    changed.StoredByName operation.table := by
  have hgetD : (found.getD (.empty operation.table)).StoredByName
      operation.table := by
    cases found with
    | none => exact Table.empty_storedByName operation.table
    | some table => exact h table rfl
  cases operation with
  | createTable table columns =>
    cases hchanged
    exact (Table.empty_storedByName table).addSpecs columns
  | dropTable | renameTable => cases hchanged
  | addColumn | addTimestamps | addSoftDeletes | addMorphs
  | addRememberToken =>
    cases hchanged
    exact hgetD.addSpecs _
  | modifyColumn table column =>
    obtain ⟨table, rfl, rfl⟩ := Option.map_eq_some_iff.mp hchanged
    exact (h table rfl).modifyColumn column
  | renameColumn _ source target =>
    obtain ⟨table, rfl, rfl⟩ := Option.map_eq_some_iff.mp hchanged
    exact (h table rfl).renameColumn source target
  | dropColumn | dropTimestamps | dropSoftDeletes | dropMorphs
  | dropRememberToken =>
    obtain ⟨table, rfl, rfl⟩ := Option.map_eq_some_iff.mp hchanged
    exact (h table rfl).dropEach _

namespace Schema

/-- A schema that is in order is stored by name. -/
theorem InOrder.storedByName {origins : Origins} (h : schema.InOrder origins) :
    schema.StoredByName := fun htable =>
  ⟨(h.table htable).name_eq, fun hcolumn => ((h.table htable).column hcolumn).1⟩

/-- **One step of a replay** keeps a schema stored by name. -/
theorem StoredByName.perform (h : schema.StoredByName)
    (operation : Operation) : (schema.perform operation).StoredByName := by
  intro key found hfound
  rcases operation.inOnePlace_or_renameTable with hplace | ⟨source, target, rfl⟩
  · rw [perform_eq_alterTable schema hplace, table?_alterTable] at hfound
    split at hfound
    · next heq =>
      rw [heq]
      exact Operation.storedByName_of_effect (fun _ htable => h htable) hfound
    · exact h hfound
  · rw [perform_renameTable] at hfound
    rcases Keyed.of_find?_move hfound with ⟨heq, table, htable, rfl⟩ | hfound
    · exact ⟨heq.symm, (h htable).column_name_eq⟩
    · exact h hfound

end Schema

/-! ## Pairs of operations -/

/-- **There is room for columns** in a table: the table is there and has none
of them. -/
def Schema.HasRoomFor (schema : Schema) (table : String)
    (names : List String) : Prop :=
  ∃ found ∈ schema.table? table, ∀ name ∈ names, found.hasColumn name = false

namespace Operation

/-- **An operation and the one that takes it back**, on a schema where it
writes over nothing. -/
inductive TakenBackBy (schema : Schema) : Operation → Operation → Prop
  | createTable {table : String} (columns : List ColumnSpec)
      (hfree : schema.hasTable table = false) :
      TakenBackBy schema (.createTable table columns) (.dropTable table)
  | addColumn {table : String} {column : ColumnSpec}
      (hroom : schema.HasRoomFor table [column.name]) :
      TakenBackBy schema (.addColumn table column)
        (.dropColumn table [column.name])
  | addTimestamps {table : String} (withZone : Bool)
      (hroom : schema.HasRoomFor table ["created_at", "updated_at"]) :
      TakenBackBy schema (.addTimestamps table withZone)
        (.dropTimestamps table)
  | addSoftDeletes {table column : String} (withZone : Bool)
      (hroom : schema.HasRoomFor table [column]) :
      TakenBackBy schema (.addSoftDeletes table column withZone)
        (.dropSoftDeletes table column)
  | addMorphs {table name : String} (key : MorphKey) (nullable : Bool)
      (hroom : schema.HasRoomFor table [name ++ "_type", name ++ "_id"]) :
      TakenBackBy schema (.addMorphs table name key nullable)
        (.dropMorphs table name)
  | addRememberToken {table : String}
      (hroom : schema.HasRoomFor table ["remember_token"]) :
      TakenBackBy schema (.addRememberToken table) (.dropRememberToken table)
  | renameTable {source target : String}
      (hsource : schema.hasTable source = true)
      (hfree : schema.hasTable target = false) :
      TakenBackBy schema (.renameTable source target)
        (.renameTable target source)
  | renameColumn {table source target : String}
      (hsource : (schema.column? table source).isSome = true)
      (hroom : schema.HasRoomFor table [target]) :
      TakenBackBy schema (.renameColumn table source target)
        (.renameColumn table target source)

end Operation

/-- **What was moved to a free key is moved back** without a trace, if it is
changed back on the way. -/
theorem Keyed.move_move_of_free {α : Type} {m : Keyed α}
    {source target : String} {change back : α → α} {value : α}
    (hsource : m.find? source = some value) (hfree : m.find? target = none)
    (hback : back (change value) = value) :
    (m.move source target change).move target source back = m := by
  have hmoved : (m.move source target change).find? target
      = some (change value) := by
    rw [find?_move hsource, if_pos rfl]
  refine ext fun key => ?_
  rw [find?_move hmoved, hback, find?_move hsource]
  by_cases hsrc : key = source
  · rw [if_pos hsrc, hsrc, hsource]
  · rw [if_neg hsrc, if_neg hsrc]
    by_cases htgt : key = target
    · rw [if_pos htgt, htgt, hfree]
    · rw [if_neg htgt, if_neg htgt]

namespace Table

/-- Columns that were added where none of their names was taken are dropped
again without a trace. -/
theorem dropEach_addSpecs {specs : List ColumnSpec}
    (h : ∀ spec ∈ specs, table.hasColumn spec.name = false) :
    (specs.map (·.name)).foldl dropColumn (table.addSpecs specs) = table := by
  refine ext_column? ((name_dropEach _ _).trans (name_addSpecs table specs))
    fun name => ?_
  rw [column?_dropEach]
  by_cases hname : name ∈ specs.map (·.name)
  · obtain ⟨spec, hspec, rfl⟩ := List.mem_map.mp hname
    rw [if_pos hname, hasColumn_eq_false.mp (h spec hspec)]
  · rw [if_neg hname]
    exact column?_addSpecs_of_forall_ne table fun spec hspec heq =>
      hname (List.mem_map.mpr ⟨spec, hspec, heq⟩)

/-- A column that was given a free name gets its old one back. -/
theorem renameColumn_renameColumn_of_free {key source target : String}
    (hnamed : table.StoredByName key) (hsource : table.hasColumn source = true)
    (hfree : table.hasColumn target = false) :
    (table.renameColumn source target).renameColumn target source = table := by
  obtain ⟨column, hcolumn⟩ := Option.isSome_iff_exists.mp hsource
  have hname : column.name = source := hnamed.column_name_eq hcolumn
  refine congrArg (Table.mk table.name) ?_
  refine Keyed.move_move_of_free hcolumn (hasColumn_eq_false.mp hfree) ?_
  rw [← hname]

end Table

namespace Schema

/-- Operations in one place take each other back if their effects do, on what
is there. -/
theorem perform_perform_eq_self {up down : Operation} (hup : up.InOnePlace)
    (hdown : down.InOnePlace) (htable : down.table = up.table)
    (h : down.effect (up.effect (schema.table? up.table))
      = schema.table? up.table) :
    (schema.perform up).perform down = schema := by
  rw [perform_eq_alterTable schema hup, perform_eq_alterTable _ hdown, htable,
    alterTable_alterTable]
  exact alterTable_eq_self h

/-- Columns that were added where there was room for them are dropped again
without a trace. -/
theorem HasRoomFor.map_dropEach {name : String} (specs : List ColumnSpec)
    (h : schema.HasRoomFor name (specs.map (·.name))) :
    (some (((schema.table? name).getD (.empty name)).addSpecs specs)).map
        (fun found => (specs.map (·.name)).foldl Table.dropColumn found)
      = schema.table? name := by
  obtain ⟨found, hfound, hroom⟩ := h
  rw [Option.mem_def.mp hfound]
  exact congrArg some (Table.dropEach_addSpecs (List.forall_mem_map.mp hroom))

/-- A table that was given a free name gets its old one back. -/
theorem perform_perform_renameTable_of_free (hnamed : schema.StoredByName)
    {source target : String} (hsource : schema.hasTable source = true)
    (hfree : schema.hasTable target = false) :
    (schema.perform (.renameTable source target)).perform
        (.renameTable target source) = schema := by
  obtain ⟨table, htable⟩ := Option.isSome_iff_exists.mp hsource
  have hname : table.name = source := (hnamed htable).name_eq
  rw [perform_renameTable, perform_renameTable]
  refine congrArg Schema.mk ?_
  refine Keyed.move_move_of_free htable (hasTable_eq_false.mp hfree) ?_
  rw [← hname]

/-- **An operation that is taken back leaves no trace.** -/
theorem perform_perform_of_takenBackBy (hnamed : schema.StoredByName)
    {up down : Operation} (h : up.TakenBackBy schema down) :
    (schema.perform up).perform down = schema := by
  cases h with
  | createTable columns hfree =>
    exact perform_perform_eq_self trivial trivial rfl
      (hasTable_eq_false.mp hfree).symm
  | addColumn hroom | addSoftDeletes _ hroom | addRememberToken hroom =>
    exact perform_perform_eq_self trivial trivial rfl
      (HasRoomFor.map_dropEach [_] hroom)
  | addTimestamps _ hroom | addMorphs _ _ hroom =>
    exact perform_perform_eq_self trivial trivial rfl
      (HasRoomFor.map_dropEach [_, _] hroom)
  | renameTable hsource hfree =>
    exact perform_perform_renameTable_of_free hnamed hsource hfree
  | @renameColumn name source target hsource hroom =>
    obtain ⟨found, hfound, hfree⟩ := hroom
    have htable := Option.mem_def.mp hfound
    rw [column?, htable] at hsource
    refine perform_perform_eq_self trivial trivial rfl ?_
    show ((schema.table? name).map _).map _ = schema.table? name
    rw [htable]
    exact congrArg some (Table.renameColumn_renameColumn_of_free
      (hnamed htable) hsource (hfree target (List.mem_singleton_self target)))

end Schema

/-! ## A migration taken back -/

namespace Operation

/-- **Operations are taken back one by one**, the last one first, each on the
schema that it was carried out on. -/
inductive AllTakenBackBy : Schema → List Operation → List Operation → Prop
  | nil {schema : Schema} : AllTakenBackBy schema [] []
  | cons {schema : Schema} {up down : Operation} {ups downs : List Operation}
      (h : up.TakenBackBy schema down)
      (hrest : AllTakenBackBy (schema.perform up) ups downs) :
      AllTakenBackBy schema (up :: ups) (downs ++ [down])

end Operation

namespace Schema

theorem after_append_of_allTakenBackBy {ups downs : List Operation}
    (hnamed : schema.StoredByName)
    (h : Operation.AllTakenBackBy schema ups downs) :
    schema.after (ups ++ downs) = schema := by
  induction h with
  | nil => rfl
  | @cons schema up down ups downs h hrest ih =>
    calc schema.after (up :: ups ++ (downs ++ [down]))
        = ((schema.perform up).after (ups ++ downs)).perform down := by
          rw [List.cons_append, after_cons, ← List.append_assoc, after_append,
            after_cons, after_nil]
      _ = (schema.perform up).perform down := by rw [ih (hnamed.perform up)]
      _ = schema := perform_perform_of_takenBackBy hnamed h

/-- **What goes up comes down.** On a schema that is stored by name, an
operation and the one that takes it back restore the schema, and so do many
operations and those that take them back, the last one first. -/
theorem rollback_restores (hnamed : schema.StoredByName) :
    (∀ up down : Operation, up.TakenBackBy schema down →
      (schema.perform up).perform down = schema)
    ∧ ∀ ups downs : List Operation,
        Operation.AllTakenBackBy schema ups downs →
          schema.after (ups ++ downs) = schema :=
  ⟨fun _ _ => perform_perform_of_takenBackBy hnamed,
    fun _ _ => after_append_of_allTakenBackBy hnamed⟩

/-- Every kind of pair, on a schema with one table: the posts are created,
filled with columns and renamed, and all of it is taken back. -/
theorem rollback_restores_posts :
    let schema := empty.after [.createTable "users" [⟨"id", .simple .id, false⟩]]
    let ups : List Operation :=
      [.createTable "posts" [⟨"id", .simple .id, false⟩],
        .addColumn "posts" ⟨"title", .string none, false⟩,
        .addTimestamps "posts" true, .addSoftDeletes "posts" "gone_at" false,
        .addMorphs "posts" "owner" .ulid true, .addRememberToken "posts",
        .renameColumn "posts" "owner_id" "author", .renameTable "posts" "notes"]
    let downs : List Operation :=
      [.renameTable "notes" "posts", .renameColumn "posts" "author" "owner_id",
        .dropRememberToken "posts", .dropMorphs "posts" "owner",
        .dropSoftDeletes "posts" "gone_at", .dropTimestamps "posts",
        .dropColumn "posts" ["title"], .dropTable "posts"]
    schema.StoredByName
      ∧ Operation.AllTakenBackBy schema ups downs
      ∧ (schema.after ups).tableNames = ["notes", "users"]
      ∧ schema.after (ups ++ downs) = schema := by
  intro schema ups downs
  have hnamed : schema.StoredByName :=
    ((empty_inOrder Origins.none).after _).storedByName
  have hback : Operation.AllTakenBackBy schema ups downs := by
    refine .cons (.createTable _ (by decide)) (.cons (.addColumn ?_)
      (.cons (.addTimestamps _ ?_) (.cons (.addSoftDeletes _ ?_)
        (.cons (.addMorphs _ _ ?_) (.cons (.addRememberToken ?_)
          (.cons (.renameColumn (by decide) ?_)
            (.cons (.renameTable (by decide) (by decide)) .nil)))))))
    all_goals unfold HasRoomFor; decide
  exact ⟨hnamed, hback, by decide, (rollback_restores hnamed).2 ups downs hback⟩

end Schema

end SchemaTyping
