import Mathlib.Data.Set.Basic
import SchemaTyping.Migration.Replay

/-!
# The tables an operation touches

An operation works on one table, or on two if it moves a table to another
name. What is known of it here is known from outside, without a look at what
it does to a table:

* it leaves every table that it does not touch as it was
  (`Schema.table?_perform`);
* what it makes of the tables it touches, and whether it is skipped, depends
  on those tables alone (`Schema.AgreesOn.perform?`).

The second statement is about two schemas that agree on some tables, among
them all that the operation touches. It covers the creation of a table and the
overwriting of one: agreement says of a name that both schemas have the same
table there or that neither has one.
-/

namespace SchemaTyping

section Related

variable {α : Type} {R : α → α → Prop} {answer other : Option α}

theorem isSome_eq_of_rel (h : Option.Rel R answer other) :
    answer.isSome = other.isSome := by
  cases h <;> rfl

/-- Related answers stay related if related values stand in for none. -/
theorem getD_rel (h : Option.Rel R answer other) {a b : α} (hab : R a b) :
    R (answer.getD a) (other.getD b) := by
  cases h with
  | none => exact hab
  | some hvalue => exact hvalue

end Related

namespace Operation

/-- **The tables an operation touches**: the one it works on, and the name to
which it moves that table. -/
def touched : Operation → List String
  | .renameTable source target => [source, target]
  | operation => [operation.table]

theorem table_mem_touched (operation : Operation) :
    operation.table ∈ operation.touched := by
  cases operation <;> exact List.mem_cons_self

/-- The tables that the operations of a log touch. -/
def touchedBy (log : List Operation) : List String := log.flatMap touched

theorem touched_subset_touchedBy {operation : Operation}
    {log : List Operation} (h : operation ∈ log) :
    operation.touched ⊆ touchedBy log :=
  fun _ hname => List.mem_flatMap.mpr ⟨operation, h, hname⟩

end Operation

namespace Schema

variable {schema other next : Schema} {tables : Set String} {name : String}

/-! ## Tables that are not touched -/

theorem table?_of_updateTable? {change : Table → Option Table} {key : String}
    (hnext : schema.updateTable? name change = some next)
    (hkey : key ≠ name) : next.table? key = schema.table? key := by
  unfold updateTable? at hnext
  obtain ⟨changed, -, rfl⟩ := Option.map_eq_some_iff.mp hnext
  exact schema.table?_putTable_of_ne changed hkey

/-- An operation that is carried out leaves the other tables alone. -/
theorem table?_of_perform? {operation : Operation} {key : String}
    (hnext : schema.perform? operation = some next)
    (hkey : key ∉ operation.touched) :
    next.table? key = schema.table? key := by
  have hne : key ≠ operation.table := fun heq =>
    hkey (heq ▸ operation.table_mem_touched)
  cases operation with
  | createTable table columns =>
    cases hnext
    exact schema.table?_putTable_of_ne _ hne
  | dropTable table =>
    change (if schema.hasTable table then some (schema.dropTable table)
      else none) = some next at hnext
    split at hnext
    · cases hnext
      exact schema.table?_dropTable_of_ne hne
    · cases hnext
  | renameTable source target =>
    have htarget : key ≠ target := fun heq =>
      hkey (heq ▸ List.mem_cons_of_mem source List.mem_cons_self)
    obtain ⟨table, -, rfl⟩ := Option.map_eq_some_iff.mp hnext
    exact ((schema.dropTable source).table?_putTable_of_ne _ htarget).trans
      (schema.table?_dropTable_of_ne hne)
  | addColumn table _ | addTimestamps table _ | addSoftDeletes table _ _
  | addMorphs table _ _ _ | addRememberToken table =>
    cases hnext
    exact schema.table?_putTable_of_ne _ hne
  | modifyColumn table _ | renameColumn table _ _ | dropColumn table _
  | dropTimestamps table | dropSoftDeletes table _ | dropMorphs table _
  | dropRememberToken table =>
    exact table?_of_updateTable? hnext hne

/-- **An operation leaves the tables alone that it does not touch**, whether
it is skipped or not. -/
theorem table?_perform (schema : Schema) {operation : Operation} {key : String}
    (hkey : key ∉ operation.touched) :
    (schema.perform operation).table? key = schema.table? key := by
  unfold perform
  cases hnext : schema.perform? operation with
  | none => rfl
  | some next => exact table?_of_perform? hnext hkey

/-- **A log leaves the tables alone that it does not touch.** -/
theorem table?_after (schema : Schema) {log : List Operation} {key : String}
    (hkey : key ∉ Operation.touchedBy log) :
    (schema.after log).table? key = schema.table? key := by
  induction log generalizing schema with
  | nil => rfl
  | cons operation log ih =>
    rw [Operation.touchedBy, List.flatMap_cons, List.mem_append, not_or] at hkey
    rw [after_cons, ih _ hkey.2, table?_perform schema hkey.1]

/-! ## Agreement -/

/-- **The schemas agree on some tables**: each of them is the same in both, or
missing from both. -/
def AgreesOn (tables : Set String) (schema other : Schema) : Prop :=
  ∀ key ∈ tables, schema.table? key = other.table? key

theorem AgreesOn.refl (tables : Set String) (schema : Schema) :
    schema.AgreesOn tables schema :=
  fun _ _ => rfl

/-- An operation that touches none of the tables changes none of them. -/
theorem perform_agreesOn (schema : Schema) {operation : Operation}
    (h : ∀ name ∈ operation.touched, name ∉ tables) :
    (schema.perform operation).AgreesOn tables schema :=
  fun key hkey => schema.table?_perform fun hmem => h key hmem hkey

namespace AgreesOn

theorem symm (h : schema.AgreesOn tables other) :
    other.AgreesOn tables schema :=
  fun key hkey => (h key hkey).symm

theorem trans {third : Schema} (h : schema.AgreesOn tables other)
    (hother : other.AgreesOn tables third) : schema.AgreesOn tables third :=
  fun key hkey => (h key hkey).trans (hother key hkey)

theorem putTable (h : schema.AgreesOn tables other) (name : String)
    (table : Table) :
    (schema.putTable name table).AgreesOn tables
      (other.putTable name table) := by
  intro key hkey
  rw [table?_putTable, table?_putTable, h key hkey]

theorem dropTable (h : schema.AgreesOn tables other) (name : String) :
    (schema.dropTable name).AgreesOn tables (other.dropTable name) := by
  intro key hkey
  rw [table?_dropTable, table?_dropTable, h key hkey]

theorem addColumns (h : schema.AgreesOn tables other) (hname : name ∈ tables)
    (specs : List ColumnSpec) :
    (schema.addColumns name specs).AgreesOn tables
      (other.addColumns name specs) := by
  unfold Schema.addColumns tableOrEmpty
  rw [h name hname]
  exact h.putTable name _

theorem updateTable? (h : schema.AgreesOn tables other)
    (hname : name ∈ tables) (change : Table → Option Table) :
    Option.Rel (AgreesOn tables) (schema.updateTable? name change)
      (other.updateTable? name change) := by
  unfold Schema.updateTable?
  rw [h name hname]
  cases (other.table? name).bind change with
  | none => exact .none
  | some changed => exact .some (h.putTable name changed)

theorem renameTable? {source : String} (h : schema.AgreesOn tables other)
    (hsource : source ∈ tables) (target : String) :
    Option.Rel (AgreesOn tables) (schema.renameTable? source target)
      (other.renameTable? source target) := by
  unfold Schema.renameTable?
  rw [h source hsource]
  cases other.table? source with
  | none => exact .none
  | some table => exact .some ((h.dropTable source).putTable target _)

/-- **An operation reads nothing but the tables it touches.** Where schemas
agree on these, it is skipped in both or in neither, and the schemas still
agree. -/
theorem perform? (h : schema.AgreesOn tables other) {operation : Operation}
    (htouched : ∀ name ∈ operation.touched, name ∈ tables) :
    Option.Rel (AgreesOn tables) (schema.perform? operation)
      (other.perform? operation) := by
  have htable := htouched _ operation.table_mem_touched
  cases operation with
  | createTable table columns => exact .some (h.putTable table _)
  | dropTable table =>
    show Option.Rel _
      (if schema.hasTable table then some (schema.dropTable table) else none)
      (if other.hasTable table then some (other.dropTable table) else none)
    have hhas : schema.hasTable table = other.hasTable table :=
      congrArg Option.isSome (h table htable)
    rw [hhas]
    split
    · exact .some (h.dropTable table)
    · exact .none
  | renameTable source target => exact h.renameTable? htable target
  | addColumn table _ | addTimestamps table _ | addSoftDeletes table _ _
  | addMorphs table _ _ _ | addRememberToken table =>
    exact .some (h.addColumns htable _)
  | modifyColumn table _ | renameColumn table _ _ | dropColumn table _
  | dropTimestamps table | dropSoftDeletes table _ | dropMorphs table _
  | dropRememberToken table =>
    exact h.updateTable? htable _

variable {operation : Operation}

theorem isSome_perform? (h : schema.AgreesOn tables other)
    (htouched : ∀ name ∈ operation.touched, name ∈ tables) :
    (schema.perform? operation).isSome = (other.perform? operation).isSome :=
  isSome_eq_of_rel (h.perform? htouched)

theorem perform (h : schema.AgreesOn tables other)
    (htouched : ∀ name ∈ operation.touched, name ∈ tables) :
    (schema.perform operation).AgreesOn tables (other.perform operation) :=
  getD_rel (h.perform? htouched) h

end AgreesOn

end Schema

end SchemaTyping
