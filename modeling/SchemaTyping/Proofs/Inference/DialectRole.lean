import SchemaTyping.Proofs.Inference.Agreement

/-!
# What the dialect decides

On one schema, the dialect of a project decides very little. It is looked at in
one place only, where a property is cast to a truth value: a database that
stores truth values as such accepts nothing else, and in all others a truth
value may also be given as the integer it is stored as.

So inference for two dialects gives two answers that are the same in all but
one place. `Inference.answers_of_dialects` says which place that is, what the
answers are there, and that they do differ: a cast to a truth value which is
not overruled by a date, whatever marks stand around it, and there the type
that may be assigned. A class that casts is followed in the same way for all
dialects, however many classes it leads through.
-/

namespace SchemaTyping

/-! ## Casts -/

namespace Caster

variable {caster : Caster} {cast : String}

/-- The same caster for another dialect. -/
def withDialect (caster : Caster) (dialect : Dialect) : Caster :=
  { caster with dialect }

/-- Classes are followed without a look at the dialect. -/
theorem follow_withDialect (caster : Caster) (dialect : Dialect) (links : Nat)
    (className : String) :
    (caster.withDialect dialect).follow links className
      = caster.follow links className := by
  have hcast : ∀ className,
      (caster.withDialect dialect).castClass? className
        = caster.castClass? className := fun _ => rfl
  induction links generalizing className with
  | zero =>
    unfold follow
    rw [hcast]
  | succ links ih =>
    unfold follow
    rw [hcast]
    simp only [ih]

/-- What a class prescribes is the same for each dialect. -/
theorem class_withDialect (caster : Caster) (dialect : Dialect)
    (className : String) (type : PropertyType) :
    (caster.withDialect dialect).classReadable className type
        = caster.classReadable className type
      ∧ (caster.withDialect dialect).classWritable className type
        = caster.classWritable className type := by
  unfold classReadable classWritable endpoint?
  rw [follow_withDialect]
  exact ⟨rfl, rfl⟩

/-- **What a cast is read as** is the same for each dialect. -/
theorem readableType_withDialect (caster : Caster) (dialect : Dialect)
    (cast : String) (stored : PropertyType) :
    (caster.withDialect dialect).readableType cast stored
      = caster.readableType cast stored := by
  unfold readableType
  cases CastKind.ofText cast with
  | byClass className =>
    exact (caster.class_withDialect dialect className stored).1
  | _ => rfl

/-- **What may be assigned to a cast property** is the same for each dialect,
unless the cast is one to a truth value. -/
theorem writableType_withDialect (caster : Caster) (dialect : Dialect)
    (hcast : CastKind.ofText cast ≠ .boolean) (accepted : PropertyType) :
    (caster.withDialect dialect).writableType cast accepted
      = caster.writableType cast accepted := by
  unfold writableType
  cases hkind : CastKind.ofText cast with
  | boolean => exact absurd hkind hcast
  | byClass className =>
    exact (caster.class_withDialect dialect className accepted).2
  | _ => rfl

end Caster

/-! ## Truth values -/

/-- **What may be assigned where a truth value is expected**: in a dialect that
stores truth values the value itself, and in the others also the integer that
stands for it. -/
def Dialect.acceptedBool (dialect : Dialect) (nullable : Bool) : PropertyType :=
  match dialect, nullable with
  | .postgres, false => .bool
  | .postgres, true => .alternatives [.bool, .null]
  | _, false => .alternatives [.intLiteral 0, .intLiteral 1, .bool]
  | _, true => .alternatives [.intLiteral 0, .intLiteral 1, .bool, .null]

/-- Two dialects accept different types if just one of them is PostgreSQL, and
only then. -/
theorem Dialect.acceptedBool_ne_iff (first second : Dialect) (nullable : Bool) :
    first.acceptedBool nullable ≠ second.acceptedBool nullable
      ↔ ¬ (first = .postgres ↔ second = .postgres) := by
  cases first <;> cases second <;> cases nullable <;> decide

/-! ## Answers -/

namespace Inference

variable {engine : Inference} {className name : String} {model : Model}
variable {column : Column} {dialect : Dialect}

/-- The same inference for another dialect. -/
def withDialect (engine : Inference) (dialect : Dialect) : Inference :=
  { engine with dialect }

/-- **A column that is cast to a truth value**: the property is a column, no
date overrules its cast, and the cast is one to a truth value. -/
def CastsToBool (engine : Inference) (className name : String)
    (column : Column) : Prop :=
  ∃ model cast, engine.registry.instantiate className = .ok model
    ∧ engine.schema.column? model.tableName name = some column
    ∧ model.isDate name = false
    ∧ model.cast? name = some cast
    ∧ CastKind.ofText cast = .boolean

/-- The types of a column are the same for each dialect, unless it is cast to
a truth value. -/
theorem columnTypes_withDialect (dialect : Dialect)
    (hcast : ∀ cast, model.isDate name = false → model.cast? name = some cast →
      CastKind.ofText cast ≠ .boolean) :
    (engine.withDialect dialect).columnTypes model name column
      = engine.columnTypes model name column := by
  unfold columnTypes
  cases hdate : model.isDate name with
  | true => rfl
  | false =>
    rw [if_neg Bool.false_ne_true, if_neg Bool.false_ne_true]
    cases hfound : model.cast? name with
    | none => rfl
    | some cast =>
      have hread := engine.caster.readableType_withDialect dialect cast
        column.readableType
      have hwrite := engine.caster.writableType_withDialect dialect
        (hcast cast hdate hfound) column.writableType
      exact Prod.ext hread hwrite

/-- **A property has the same types in each dialect**, or the same error, unless
it is cast to a truth value. -/
theorem property_withDialect (dialect : Dialect)
    (h : ¬ ∃ column, engine.CastsToBool className name column) :
    (engine.withDialect dialect).property className name
      = engine.property className name := by
  cases hmodel : engine.registry.instantiate className with
  | error error =>
    have hmodel' : (engine.withDialect dialect).registry.instantiate className
        = .error error := hmodel
    rw [property, property, hmodel, hmodel']
  | ok model =>
    have hmodel' : (engine.withDialect dialect).registry.instantiate className
        = .ok model := hmodel
    cases hcolumn : engine.schema.column? model.tableName name with
    | none =>
      have hcolumn' : (engine.withDialect dialect).schema.column?
          model.tableName name = none := hcolumn
      rw [property, property, hmodel, hmodel']
      dsimp only
      rw [hcolumn, hcolumn']
    | some column =>
      have htypes : (engine.withDialect dialect).columnTypes model name column
          = engine.columnTypes model name column :=
        columnTypes_withDialect dialect fun cast hdate hcast hbool =>
          h ⟨column, model, cast, hmodel, hcolumn, hdate, hcast, hbool⟩
      rw [property_of_column hmodel' hcolumn, property_of_column hmodel hcolumn,
        htypes]

/-- **The types of a property that is cast to a truth value.** -/
theorem property_of_castsToBool (h : engine.CastsToBool className name column)
    (dialect : Dialect) :
    (engine.withDialect dialect).property className name
      = .ok ⟨className,
          if column.nullable then .alternatives [.bool, .null] else .bool,
          dialect.acceptedBool column.nullable⟩ := by
  obtain ⟨model, cast, hmodel, hcolumn, hdate, hcast, hbool⟩ := h
  have htypes : (engine.withDialect dialect).columnTypes model name column
      = (.bool, dialect.acceptedBool false) := by
    unfold columnTypes Caster.readableType Caster.writableType
    rw [hdate, if_neg Bool.false_ne_true, hcast]
    dsimp only
    rw [hbool]
    cases dialect <;> rfl
  have hmodel' : (engine.withDialect dialect).registry.instantiate className
      = .ok model := hmodel
  rw [property_of_column hmodel' hcolumn, htypes]
  cases column.nullable <;> cases dialect <;> rfl

/-- **The dialect decides what may be assigned to a property that is cast to a
truth value, and nothing else.** On one schema, two dialects infer the same
properties, and the same types or the same error for each property without such
a cast. A property with such a cast is read as the same type, and what may be
assigned is different if and only if just one of the dialects is PostgreSQL. -/
theorem answers_of_dialects (engine : Inference) (first second : Dialect)
    (className name : String) :
    (engine.withDialect first).hasProperty className name
        = (engine.withDialect second).hasProperty className name
      ∧ (engine.withDialect first).properties className
        = (engine.withDialect second).properties className
      ∧ ((¬ ∃ column, engine.CastsToBool className name column) →
        (engine.withDialect first).property className name
          = (engine.withDialect second).property className name)
      ∧ ∀ column, engine.CastsToBool className name column →
        ∃ types other, (engine.withDialect first).property className name = .ok types
          ∧ (engine.withDialect second).property className name = .ok other
          ∧ types.className = other.className
          ∧ types.readable = other.readable
          ∧ types.writable = first.acceptedBool column.nullable
          ∧ other.writable = second.acceptedBool column.nullable
          ∧ (types.writable ≠ other.writable
            ↔ ¬ (first = .postgres ↔ second = .postgres)) := by
  refine ⟨rfl, rfl, fun h => ?_, fun column h => ?_⟩
  · rw [property_withDialect first h, property_withDialect second h]
  · exact ⟨_, _, property_of_castsToBool h first, property_of_castsToBool h second,
      rfl, rfl, rfl, rfl, first.acceptedBool_ne_iff second column.nullable⟩

/-! A switch that is cast behind the mark of an encrypted value, and a date
beside it that has a cast to a truth value, too. -/

/-- Inference on the table of the switch. -/
def switchEngine : Inference :=
  ofOperations .mySql defaultDateClass
    { models := .ofList [("lamp", {
        model := {
          className := "Lamp", table := some "lamps", dates := ["seen"],
          casts := .ofList [("on", "Encrypted: Bool"), ("seen", "bool")] }
        isAbstract := false, instantiable := true, methods := .empty,
        propertyTags := [] })]
      castClasses := .empty }
    []
    [.createTable "lamps" [⟨"on", .simple .text, true⟩, ⟨"seen", .simple .date, false⟩]]

theorem answers_of_dialects_switch :
    (∃ column, column.nullable = true ∧ switchEngine.CastsToBool "Lamp" "on" column
        ∧ ∃ types other,
          (switchEngine.withDialect .postgres).property "Lamp" "on" = .ok types
            ∧ (switchEngine.withDialect .sqlite).property "Lamp" "on" = .ok other
            ∧ types.readable = other.readable
            ∧ types.writable = .alternatives [.bool, .null]
            ∧ other.writable
              = .alternatives [.intLiteral 0, .intLiteral 1, .bool, .null])
      ∧ (¬ ∃ column, switchEngine.CastsToBool "Lamp" "seen" column)
      ∧ (switchEngine.withDialect .postgres).property "Lamp" "seen"
        = (switchEngine.withDialect .sqlite).property "Lamp" "seen" := by
  let model : Model := {
    className := "Lamp", table := some "lamps", dates := ["seen"],
    casts := .ofList [("on", "Encrypted: Bool"), ("seen", "bool")] }
  let column : Column := .ofSpec ⟨"on", .simple .text, true⟩
  have hmodel : switchEngine.registry.instantiate "Lamp" = .ok model := rfl
  have hcolumn : switchEngine.schema.column? model.tableName "on" = some column := by
    decide +kernel
  have hbool : switchEngine.CastsToBool "Lamp" "on" column :=
    ⟨model, "Encrypted: Bool", hmodel, hcolumn, by decide +kernel,
      by decide +kernel, by decide +kernel⟩
  have hdate : ¬ ∃ column, switchEngine.CastsToBool "Lamp" "seen" column := by
    rintro ⟨column, found, cast, hfound, -, hnone, -⟩
    cases hmodel.symm.trans hfound
    exact absurd hnone (by decide +kernel)
  obtain ⟨-, -, -, hanswers⟩ :=
    switchEngine.answers_of_dialects .postgres .sqlite "Lamp" "on"
  obtain ⟨types, other, htypes, hother, -, hread, hwrite, hwrite', -⟩ :=
    hanswers column hbool
  exact ⟨⟨column, rfl, hbool, types, other, htypes, hother, hread, hwrite, hwrite'⟩,
    hdate, (switchEngine.answers_of_dialects .postgres .sqlite "Lamp" "seen").2.2.1 hdate⟩

end Inference

end SchemaTyping
