import SchemaTyping.Inference
import SchemaTyping.Proofs.Replay.Locality

/-!
# Migrations that a model does not see

What is inferred of a model comes from one table. A log holds the migrations
of all tables, and most of them should not matter; but tables change their
names, and the table of a model may have been another one before.

A set of tables is **closed** under a log if no renaming of the log leads into
it or out of it (`Schema.ClosedUnder`). Then the log and the part of it that
works on the set leave the same tables in the set (`Schema.after_filter`): an
operation of that part reads and changes tables of the set only, and any other
operation touches none of them. So for a model whose table is in the set, the
rest of the log may be deleted, and all that is inferred of the model stays as
it was (`Inference.answers_of_closedUnder`).

Closedness is needed: without it a table could come into the set from outside.
-/

namespace SchemaTyping

namespace Schema

variable {schema other : Schema} {tables : Set String}

/-- **No renaming of the log leads into the set of tables or out of it.** -/
def ClosedUnder (tables : Set String) (log : List Operation) : Prop :=
  ∀ source target, .renameTable source target ∈ log →
    (source ∈ tables ↔ target ∈ tables)

theorem ClosedUnder.of_cons {operation : Operation} {log : List Operation}
    (h : ClosedUnder tables (operation :: log)) : ClosedUnder tables log :=
  fun source target hmem => h source target (List.mem_cons_of_mem _ hmem)

/-- With a closed set an operation touches only tables of the set, or only
others: that of the table it works on. -/
theorem ClosedUnder.mem_iff {operation : Operation} {log : List Operation}
    (h : ClosedUnder tables log) (hmem : operation ∈ log) {name : String}
    (hname : name ∈ operation.touched) :
    name ∈ tables ↔ operation.table ∈ tables := by
  cases operation with
  | renameTable source target =>
    rcases List.mem_cons.mp hname with rfl | hname
    · rfl
    · rw [List.mem_singleton.mp hname]
      exact (h source target hmem).symm
  | _ => rw [List.mem_singleton.mp hname]

/-- **Deleting what works on other tables** leaves the tables of a closed set
as they were. -/
theorem after_filter [DecidablePred (· ∈ tables)] {log : List Operation}
    (hclosed : ClosedUnder tables log) (h : schema.AgreesOn tables other) :
    (schema.after (log.filter (·.table ∈ tables))).AgreesOn tables
      (other.after log) := by
  induction log generalizing schema other with
  | nil => exact h
  | cons operation log ih =>
    have hside : ∀ name ∈ operation.touched,
        (name ∈ tables ↔ operation.table ∈ tables) :=
      fun name hname => hclosed.mem_iff List.mem_cons_self hname
    rw [after_cons]
    by_cases htable : operation.table ∈ tables
    · rw [List.filter_cons, if_pos (decide_eq_true htable), after_cons]
      exact ih hclosed.of_cons
        (h.perform fun name hname => (hside name hname).mpr htable)
    · rw [List.filter_cons, if_neg (by simpa using htable)]
      have hother : (other.perform operation).AgreesOn tables other :=
        other.perform_agreesOn fun name hname hmem =>
          htable ((hside name hname).mp hmem)
      exact ih hclosed.of_cons (h.trans hother.symm)

end Schema

namespace Inference

variable {engine : Inference} {schema : Schema} {className name : String}

/-! ## One table is enough -/

/-- The same inference on another schema. -/
def withSchema (engine : Inference) (schema : Schema) : Inference :=
  { engine with schema := schema }

theorem registry_withSchema (engine : Inference) (schema : Schema) :
    (engine.withSchema schema).registry = engine.registry := rfl

/-- **The schemas have the same table for the class**, if the class has one. -/
def SameTable (engine : Inference) (schema : Schema) (className : String) :
    Prop :=
  ∀ model, engine.registry.instantiate className = .ok model →
    schema.table? model.tableName = engine.schema.table? model.tableName

theorem SameTable.column? (h : engine.SameTable schema className)
    {model : Model}
    (hmodel : engine.registry.instantiate className = .ok model)
    (name : String) :
    (engine.withSchema schema).schema.column? model.tableName name
      = engine.schema.column? model.tableName name := by
  show (schema.table? model.tableName).bind _ = _
  rw [h model hmodel]
  rfl

/-- Whether a property is inferred is seen in one table. -/
theorem SameTable.hasProperty_eq (h : engine.SameTable schema className)
    (name : String) :
    (engine.withSchema schema).hasProperty className name
      = engine.hasProperty className name := by
  unfold hasProperty
  refine congrArg _ ?_
  rw [registry_withSchema]
  cases hmodel : engine.registry.instantiate className with
  | error error => rfl
  | ok model =>
    dsimp only
    rw [h.column? hmodel name]

/-- The types of a property come from one table. -/
theorem SameTable.property_eq (h : engine.SameTable schema className)
    (name : String) :
    (engine.withSchema schema).property className name
      = engine.property className name := by
  unfold property
  rw [registry_withSchema]
  cases hmodel : engine.registry.instantiate className with
  | error error => rfl
  | ok model =>
    dsimp only
    rw [h.column? hmodel name]
    rfl

/-- The properties of a class come from one table. -/
theorem SameTable.properties_eq (h : engine.SameTable schema className) :
    (engine.withSchema schema).properties className
      = engine.properties className := by
  have hhas : (engine.withSchema schema).hasProperty className
      = engine.hasProperty className := funext h.hasProperty_eq
  unfold properties
  rw [registry_withSchema, hhas]
  cases hmodel : engine.registry.instantiate className with
  | error error => rfl
  | ok model =>
    have htable : (engine.withSchema schema).schema.table? model.tableName
        = engine.schema.table? model.tableName := h model hmodel
    dsimp only
    unfold candidates
    rw [htable]

/-! ## The rest of a log -/

/-- **What is inferred of a model depends on its own tables.** If no renaming
leads into a set of tables or out of it, and the table of a class is in the
set, then all operations on other tables may be deleted from the log: the same
properties of the class are inferred, with the same types or the same
errors. -/
theorem answers_of_closedUnder (dialect : Dialect) (dateClass : String)
    (registry : Registry) (dumps log : List Operation) (className : String)
    (tables : Set String) [DecidablePred (· ∈ tables)]
    (hbound : ∀ model, registry.instantiate className = .ok model →
      model.tableName ∈ tables)
    (hclosed : Schema.ClosedUnder tables log) :
    let full := ofOperations dialect dateClass registry dumps log
    let part := ofOperations dialect dateClass registry dumps
      (log.filter (·.table ∈ tables))
    (∀ name, part.hasProperty className name = full.hasProperty className name)
      ∧ (∀ name, part.property className name = full.property className name)
      ∧ part.properties className = full.properties className := by
  intro full part
  have hsame : full.SameTable part.schema className := fun model hmodel =>
    Schema.after_filter hclosed (.refl tables _) model.tableName
      (hbound model hmodel)
  exact ⟨hsame.hasProperty_eq, hsame.property_eq, hsame.properties_eq⟩

/-! An invoice whose table was called `bills` before. The customers come and
go, and a table of theirs is dropped in vain. -/

/-- The registry of the invoice. -/
def invoiceRegistry : Registry where
  models := .ofList [("invoice", {
    model := { className := "Invoice" }
    isAbstract := false, instantiable := true, methods := .empty,
    propertyTags := [] })]
  castClasses := .empty

/-- The log of `invoiceRegistry`. -/
def invoiceLog : List Operation :=
  [.createTable "bills" [⟨"total", .decimal (some 8) (some 2), false⟩],
    .createTable "customers" [⟨"name", .string none, false⟩],
    .renameTable "bills" "invoices", .renameTable "customers" "clients",
    .dropTable "customers", .addColumn "invoices" ⟨"note", .simple .text, true⟩]

theorem answers_of_closedUnder_invoice :
    let tables : Set String := {name | name ∈ ["bills", "invoices"]}
    let part := ofOperations .mySql defaultDateClass invoiceRegistry []
      (invoiceLog.filter (·.table ∈ tables))
    (∀ model, invoiceRegistry.instantiate "Invoice" = .ok model →
        model.tableName ∈ tables)
      ∧ Schema.ClosedUnder tables invoiceLog
      ∧ invoiceLog.filter (·.table ∈ tables) ≠ invoiceLog
      ∧ part.properties "Invoice" = ["id", "note", "total"]
      ∧ (ofOperations .mySql defaultDateClass invoiceRegistry [] invoiceLog).properties
          "Invoice" = ["id", "note", "total"] := by
  intro tables part
  have hbound : ∀ model, invoiceRegistry.instantiate "Invoice" = .ok model →
      model.tableName ∈ tables := by
    intro model hmodel
    cases hmodel
    decide +kernel
  have hclosed : Schema.ClosedUnder tables invoiceLog := by
    intro source target hmem
    simp only [invoiceLog, List.mem_cons, reduceCtorEq, Operation.renameTable.injEq,
      List.not_mem_nil, or_false, false_or] at hmem
    rcases hmem with ⟨rfl, rfl⟩ | ⟨rfl, rfl⟩ <;> decide
  have hanswers := answers_of_closedUnder .mySql defaultDateClass invoiceRegistry []
    invoiceLog "Invoice" tables hbound hclosed
  have hpart : part.properties "Invoice" = ["id", "note", "total"] := by
    decide +kernel
  exact ⟨hbound, hclosed, by decide, hpart, hanswers.2.2.symm.trans hpart⟩

end Inference

end SchemaTyping
