import SchemaTyping.Proofs.Inference.Agreement
import SchemaTyping.Proofs.PropertyType.Reading

/-!
# A column that may be empty

The types of a property that is a column come from one of many places: the
kind of the column, the class of dates, a keyword, a class that casts, or a
class at the end of a chain of casts. If the column may be empty, `null` is
added in the end, and to both types.

That it is added *in the end* is half of what `property_nullable` says:
whether the column may be empty is looked at nowhere else, so the answer for
such a column is the answer for the same column without that mark, with `null`
added to its two types and nothing changed besides. The other half is that
`null` is *added*, whatever types a project declares: a type that has `null`
already does not get it twice, and a type that says nothing stays as it is.
-/

namespace SchemaTyping

/-! ## Marking a column -/

namespace Keyed

variable {α : Type} (m : Keyed α)

/-- Changes the value stored under a key, if there is one. -/
def modify (key : String) (f : α → α) : Keyed α :=
  match m.find? key with
  | some value => m.insert key (f value)
  | none => m

/-- **Reading after a change**: the changed value under its key, and what was
there before under every other. -/
theorem find?_modify (key other : String) (f : α → α) :
    (m.modify key f).find? other
      = if other = key then (m.find? other).map f else m.find? other := by
  unfold modify
  by_cases heq : other = key
  · subst heq
    rw [if_pos rfl]
    cases hfound : m.find? other with
    | none => exact hfound
    | some value => exact m.find?_insert_self other (f value)
  · rw [if_neg heq]
    cases m.find? key with
    | none => rfl
    | some value => exact m.find?_insert_of_ne (f value) heq

end Keyed

/-- The column, marked as one that may be empty or as one that may not. -/
def Column.setNullable (nullable : Bool) (column : Column) : Column :=
  { column with nullable }

namespace Schema

/-- The schema in which one column is marked as one that may be empty, or as
one that may not. -/
def setNullable (schema : Schema) (table name : String) (nullable : Bool) :
    Schema :=
  ⟨schema.tables.modify table fun found =>
    { found with
      columns := found.columns.modify name (Column.setNullable nullable) }⟩

variable (schema : Schema) (table name : String) (nullable : Bool)

/-- **Marking a column changes the mark** of that column, and no other
column. -/
theorem column?_setNullable (otherTable other : String) :
    (schema.setNullable table name nullable).column? otherTable other
      = if otherTable = table ∧ other = name then
          (schema.column? otherTable other).map (Column.setNullable nullable)
        else schema.column? otherTable other := by
  unfold column? table? setNullable
  rw [Keyed.find?_modify]
  by_cases htable : otherTable = table
  · rw [if_pos htable]
    cases schema.tables.find? otherTable with
    | none => exact (ite_self none).symm
    | some found =>
      rw [Option.map_some, Option.bind_some, Option.bind_some]
      unfold Table.column?
      rw [Keyed.find?_modify]
      simp only [htable, true_and]
  · rw [if_neg htable, if_neg fun h => htable h.1]

/-- The marked column itself. -/
theorem column?_setNullable_self {column : Column}
    (h : schema.column? table name = some column) :
    (schema.setNullable table name nullable).column? table name
      = some (column.setNullable nullable) := by
  rw [column?_setNullable, if_pos ⟨rfl, rfl⟩, h, Option.map_some]

end Schema

/-! ## The types of a column that may be empty -/

namespace Inference

open PropertyType

/-- **The mark is looked at in the end.** Until `null` is added, a column that
may be empty has the types of one that may not, whether they are its own, those
of a date, or those of a cast of any kind. -/
theorem columnTypes_setNullable (engine : Inference) (schema : Schema)
    (model : Model) (name : String) (column : Column) (nullable : Bool) :
    { engine with schema }.columnTypes model name (column.setNullable nullable)
      = engine.columnTypes model name column :=
  rfl

variable {className name : String} {model : Model} {column : Column}

/-- **The types of a column that may be empty** are those of the same column
without the mark, with `null` added to both. So both accept `null`, and each
has it once among its members, or else nothing is known of the type. -/
theorem property_nullable (engine : Inference)
    (hmodel : engine.registry.instantiate className = .ok model)
    (hcolumn : engine.schema.column? model.tableName name = some column)
    (hnullable : column.nullable = true) :
    let unmarked : Inference := { engine with
      schema := engine.schema.setNullable model.tableName name false }
    ∃ readable writable : PropertyType,
      unmarked.property className name = .ok ⟨className, readable, writable⟩
        ∧ engine.property className name
          = .ok ⟨className, readable.nullable, writable.nullable⟩
        ∧ ∀ type ∈ [readable.nullable, writable.nullable],
            type.acceptsNull = true
              ∧ (type = .mixed ∨ type.members.count .null = 1) := by
  intro unmarked
  let types := engine.columnTypes model name column
  have hmodel' : unmarked.registry.instantiate className = .ok model := hmodel
  have hcolumn' : unmarked.schema.column? model.tableName name
      = some (column.setNullable false) :=
    engine.schema.column?_setNullable_self _ _ false hcolumn
  have htypes : unmarked.columnTypes model name (column.setNullable false)
      = types :=
    engine.columnTypes_setNullable _ model name column false
  have hplain : unmarked.property className name
      = .ok ⟨className, types.1, types.2⟩ := by
    rw [property_of_column hmodel' hcolumn', htypes]
    rfl
  have hmarked : engine.property className name
      = .ok ⟨className, types.1.nullable, types.2.nullable⟩ := by
    rw [property_of_column hmodel hcolumn, hnullable]
    rfl
  have hnull : ∀ type : PropertyType, type.nullable.acceptsNull = true
      ∧ (type.nullable = .mixed ∨ type.nullable.members.count .null = 1) :=
    fun type => ⟨type.acceptsNull_nullable, type.count_null_nullable⟩
  exact ⟨types.1, types.2, hplain, hmarked,
    List.forall_mem_cons.mpr ⟨hnull types.1,
      List.forall_mem_singleton.mpr (hnull types.2)⟩⟩

/-! A price that one class casts in the place of another. What is read has
`null` already, and of what may be assigned nothing is known. -/

/-- The registry of the price. -/
def priceRegistry : Registry where
  models := .ofList [("order", {
    model := {
      className := "Order", table := some "orders",
      casts := .ofList [("price", "encrypted:Money")] }
    isAbstract := false, instantiable := true, methods := .empty,
    propertyTags := [] })]
  castClasses := .ofList [("money", .castable "MoneyCast"),
    ("moneycast", .valueObject (.alternatives [.instanceOf "Money", .null])
      (some .mixed))]

/-- Inference on a table whose price may be empty. -/
def priceEngine : Inference :=
  ofOperations .mySql defaultDateClass priceRegistry []
    [.createTable "orders" [⟨"price", .decimal (some 8) (some 2), true⟩]]

theorem property_nullable_price :
    let unmarked : Inference := { priceEngine with
      schema := priceEngine.schema.setNullable "orders" "price" false }
    let money : PropertyType := .alternatives [.instanceOf "Money", .null]
    (∃ model column, priceEngine.registry.instantiate "Order" = .ok model
        ∧ priceEngine.schema.column? model.tableName "price" = some column
        ∧ column.nullable = true)
      ∧ unmarked.property "Order" "price" = .ok ⟨"Order", money, .mixed⟩
      ∧ priceEngine.property "Order" "price"
        = .ok ⟨"Order", money.nullable, PropertyType.nullable .mixed⟩
      ∧ money.nullable = money ∧ PropertyType.nullable .mixed = .mixed := by
  intro unmarked money
  let model : Model := {
    className := "Order", table := some "orders",
    casts := .ofList [("price", "encrypted:Money")] }
  let column : Column := .ofSpec ⟨"price", .decimal (some 8) (some 2), true⟩
  have hmodel : priceEngine.registry.instantiate "Order" = .ok model := rfl
  have hcolumn : priceEngine.schema.column? model.tableName "price"
      = some column := by
    decide +kernel
  have hplain : unmarked.property "Order" "price"
      = .ok ⟨"Order", money, .mixed⟩ :=
    eq_ok_of_toOption (by decide +kernel)
  obtain ⟨readable, writable, hread, hmarked, -⟩ :=
    priceEngine.property_nullable hmodel hcolumn rfl
  cases hread.symm.trans hplain
  exact ⟨⟨model, column, hmodel, hcolumn, rfl⟩, hplain, hmarked,
    by decide, by decide⟩

end Inference

end SchemaTyping
