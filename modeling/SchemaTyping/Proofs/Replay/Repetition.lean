import Mathlib.Data.List.Destutter
import SchemaTyping.Proofs.Replay.Effect

/-!
# Operations carried out twice in a row

A migration that is run again meets a schema that it has changed before: what
it drops is gone, what it creates is there, and what it renames has its new
name already. Nothing more happens. **An operation carried out a second time
in a row changes nothing**, on every schema, also on one that no log leads to
(`Schema.perform_perform`).

The reasons differ. What an operation declares is declared again in the same
way; what it drops is not there to be dropped; a renaming does not find its
source, unless source and target are the same, and then it puts back what it
takes out (`Keyed.move_move`, for columns and tables alike). But for the
renaming of a table, each of these is a fact about one table
(`Operation.effect_effect`).

For a log this means that immediate repetitions may be deleted. Repetitions
with something in between may not: a table that is created again loses the
columns that were added since.
-/

namespace SchemaTyping

/-! ## A change made again -/

/-- **What is moved again is not there**, or the new key is the old one. -/
theorem Keyed.move_move {α : Type} (m : Keyed α) (source target : String)
    {change : α → α} (h : ∀ value, change (change value) = change value) :
    (m.move source target change).move source target change
      = m.move source target change := by
  cases hvalue : m.find? source with
  | none => rw [move_of_none hvalue, move_of_none hvalue]
  | some value =>
    have hmoved : ∀ key, (m.move source target change).find? key
        = if key = target then some (change value)
          else if key = source then none else m.find? key :=
      find?_move hvalue
    by_cases hsame : source = target
    · subst hsame
      have hback : (m.move source source change).find? source
          = some (change value) := by
        rw [hmoved, if_pos rfl]
      refine ext fun key => ?_
      rw [find?_move hback, hmoved]
      by_cases hkey : key = source
      · rw [if_pos hkey, if_pos hkey, h]
      · rw [if_neg hkey, if_neg hkey, if_neg hkey, if_neg hkey]
    · refine move_of_none ?_
      rw [hmoved, if_neg hsame, if_pos rfl]

namespace Table

/-- Columns that are declared again are the same columns. -/
theorem addSpecs_addSpecs (table : Table) (specs : List ColumnSpec) :
    (table.addSpecs specs).addSpecs specs = table.addSpecs specs := by
  refine ext_column? (name_addSpecs _ specs) fun name => ?_
  rw [column?_addSpecs, column?_addSpecs]
  cases specs.findRev? (·.name == name) <;> rfl

/-- Columns that are dropped again are not there. -/
theorem dropEach_dropEach (table : Table) (names : List String) :
    names.foldl dropColumn (names.foldl dropColumn table)
      = names.foldl dropColumn table := by
  refine ext_column? (name_dropEach _ names) fun name => ?_
  rw [column?_dropEach, column?_dropEach]
  by_cases hmem : name ∈ names
  · rw [if_pos hmem, if_pos hmem]
  · rw [if_neg hmem, if_neg hmem]

theorem modifyColumn_modifyColumn (table : Table) (spec : ColumnSpec) :
    (table.modifyColumn spec).modifyColumn spec = table.modifyColumn spec := by
  unfold modifyColumn
  by_cases hcolumn : table.hasColumn spec.name = true
  · rw [if_pos hcolumn, addSpecs_addSpecs, ite_self]
  · rw [if_neg hcolumn, if_neg hcolumn]

theorem renameColumn_renameColumn (table : Table) (source target : String) :
    (table.renameColumn source target).renameColumn source target
      = table.renameColumn source target :=
  congrArg (Table.mk table.name)
    (table.columns.move_move source target fun _ => rfl)

end Table

/-- **Effects are idempotent.** -/
theorem Operation.effect_effect (operation : Operation)
    (found : Option Table) :
    operation.effect (operation.effect found) = operation.effect found := by
  cases operation with
  | createTable | dropTable | renameTable => rfl
  | addColumn | addTimestamps | addSoftDeletes | addMorphs
  | addRememberToken => exact congrArg some (Table.addSpecs_addSpecs _ _)
  | modifyColumn table column =>
    cases found with
    | none => rfl
    | some found => exact congrArg some (found.modifyColumn_modifyColumn column)
  | renameColumn table source target =>
    cases found with
    | none => rfl
    | some found =>
      exact congrArg some (found.renameColumn_renameColumn source target)
  | dropColumn | dropTimestamps | dropSoftDeletes | dropMorphs
  | dropRememberToken =>
    cases found with
    | none => rfl
    | some found => exact congrArg some (found.dropEach_dropEach _)

/-! ## The second time in a row -/

namespace Schema

/-- **An operation that is carried out twice in a row** does what it does the
first time. -/
theorem perform_perform (schema : Schema) (operation : Operation) :
    (schema.perform operation).perform operation
      = schema.perform operation := by
  rcases operation.inOnePlace_or_renameTable with hplace | ⟨source, target, rfl⟩
  · rw [perform_eq_alterTable schema hplace, perform_eq_alterTable _ hplace,
      alterTable_alterTable]
    exact alterTable_congr (operation.effect_effect _)
  · rw [perform_renameTable, perform_renameTable]
    exact congrArg Schema.mk
      (schema.tables.move_move source target fun _ => rfl)

/-- Deleting the repetitions of what is carried out next. -/
theorem after_destutter' (schema : Schema) (operation : Operation)
    (log : List Operation) :
    schema.after (log.destutter' (· ≠ ·) operation)
      = schema.after (operation :: log) := by
  induction log generalizing schema operation with
  | nil => rfl
  | cons next log ih =>
    rw [List.destutter'_cons]
    by_cases hnext : operation = next
    · subst hnext
      rw [if_neg (not_not.mpr rfl), ih, after_cons, after_cons, after_cons,
        perform_perform]
    · rw [if_pos hnext, after_cons, ih, after_cons schema]

/-- **Replaying absorbs repetitions.** Every single operation is idempotent,
with any arguments and on every schema; and so a log may be stripped of its
immediate repetitions, each run of one operation becoming a single one. -/
theorem replay_absorbs_repetition (schema : Schema) :
    (∀ operation : Operation,
      (schema.perform operation).perform operation = schema.perform operation)
    ∧ ∀ log : List Operation,
        schema.after (log.destutter (· ≠ ·)) = schema.after log := by
  refine ⟨schema.perform_perform, fun log => ?_⟩
  cases log with
  | nil => rfl
  | cons operation log => exact schema.after_destutter' operation log

end Schema

end SchemaTyping
