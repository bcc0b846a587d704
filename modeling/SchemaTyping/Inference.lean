import SchemaTyping.Migration.Replay
import SchemaTyping.Model.Cast

/-!
# Inferring the types of properties

Which properties does a model have, and of which types are they? The answer
comes from the columns of the model's table, as the migrations leave them,
and from the casts the model declares.

A property is inferred (`Inference.hasProperty`) if it is the primary key or
a column, and nothing of the class says more about it: no accessor computes
it and the documentation gives it no type. `Inference.property` gives its
types. They are those of the column, of the date type for a date, or of the
cast for a property with a cast; and a column that may be empty adds `null`
to both of them.
-/

namespace SchemaTyping

open Text

/-- Why the types of a property cannot be given. -/
inductive InferenceError where
  /-- The property was asked for without being one that is inferred. -/
  | shouldNotHappen (className property reason : String)
  /-- The declared type of the primary key cannot be read. -/
  | keyType (error : TypeTextError)
  deriving DecidableEq, Repr

/-- The error in words. -/
def InferenceError.message : InferenceError → String
  | .shouldNotHappen className property reason =>
    "Internal error, this should not happen: " ++ reason ++ " (model: "
      ++ className ++ ", property: " ++ property ++ ")"
  | .keyType error => "Type parse error: " ++ error.message

/-- **The types of a property**: what it is read as and what may be assigned
to it. -/
structure PropertyTypes where
  /-- The class the property belongs to. -/
  className : String
  readable : PropertyType
  writable : PropertyType
  deriving DecidableEq, Repr

/-- **What inference draws on.** -/
structure Inference where
  dialect : Dialect
  /-- The class of dates in the project. -/
  dateClass : String := defaultDateClass
  registry : Registry
  /-- The schema as the dumps and the migrations leave it. -/
  schema : Schema

/-- Puts a name at its place among ascending names, unless it is there. -/
def insertName (name : String) : List String → List String
  | [] => [name]
  | first :: rest =>
    if name < first then name :: first :: rest
    else if name = first then first :: rest
    else first :: insertName name rest

namespace Inference

/-- Inference on the schema that the operations of the dumps leave behind,
and then those of the migrations. -/
def ofOperations (dialect : Dialect) (dateClass : String)
    (registry : Registry) (dumps migrations : List Operation) : Inference where
  dialect := dialect
  dateClass := dateClass
  registry := registry
  schema := (Schema.empty.after dumps).after migrations

/-- The types that the casts of the project give. -/
def caster (engine : Inference) : Caster :=
  ⟨engine.dialect, engine.dateClass, engine.registry⟩

/-- Whether a method of the class computes the property: a method with the
older kind of accessor name, or a protected one with the name of the property
that returns an object for it. -/
def hasAccessor (engine : Inference) (className property : String) : Bool :=
  (engine.registry.method? className
    (onString Naming.legacyAccessor property)).isSome
  || (engine.registry.method? className (onString Naming.camel property)).any
    fun method => method.visibility == .subclasses && method.returnsAttribute

/-- **Whether the types of the property are inferred.** -/
def hasProperty (engine : Inference) (className property : String) : Bool :=
  engine.registry.isModel className
    && !engine.registry.isAbstract className
    && !engine.hasAccessor className property
    && !engine.registry.hasTag className property
    && match engine.registry.instantiate className with
      | .ok model =>
        property == model.keyName
          || (engine.schema.column? model.tableName property).isSome
      | .error _ => false

/-- The types of a property that is a column, before `null` is added. -/
def columnTypes (engine : Inference) (model : Model) (property : String)
    (column : Column) : PropertyType × PropertyType :=
  if model.isDate property then
    (engine.caster.dateType, .union [engine.caster.dateType, .string])
  else
    match model.cast? property with
    | some cast =>
      (engine.caster.readableType cast column.readableType,
        engine.caster.writableType cast column.writableType)
    | none => (column.readableType, column.writableType)

/-- Both types with `null` added if the column may be empty. -/
def withNull (nullable : Bool) (types : PropertyType × PropertyType) :
    PropertyType × PropertyType :=
  if nullable then (types.1.nullable, types.2.nullable) else types

/-- **The types of a property.** A primary key that is no column has the type
the model declares for it. -/
def property (engine : Inference) (className property : String) :
    Except InferenceError PropertyTypes :=
  match engine.registry.instantiate className with
  | .error error =>
    .error (.shouldNotHappen className property error.message)
  | .ok model =>
    match engine.schema.column? model.tableName property with
    | some column =>
      let types := withNull column.nullable
        (engine.columnTypes model property column)
      .ok ⟨className, types.1, types.2⟩
    | none =>
      if property = model.keyName then
        match PropertyType.read model.keyType with
        | .ok type => .ok ⟨className, type, type⟩
        | .error error => .error (.keyType error)
      else
        .error (.shouldNotHappen className property
          ("column not found in table '" ++ model.tableName ++ "'"))

/-- The names that may be properties of a model: the primary key and the
columns of its table, in ascending order. -/
def candidates (engine : Inference) (model : Model) : List String :=
  insertName model.keyName
    (((engine.schema.table? model.tableName).map (·.columnNames)).getD [])

/-- **The properties whose types are inferred**, in ascending order. -/
def properties (engine : Inference) (className : String) : List String :=
  match engine.registry.instantiate className with
  | .ok model =>
    (engine.candidates model).filter (engine.hasProperty className)
  | .error _ => []

/-- The table of a class, if objects of the class can be made. -/
def tableOf? (engine : Inference) (className : String) : Option String :=
  match engine.registry.instantiate className with
  | .ok model => some model.tableName
  | .error _ => none

end Inference

end SchemaTyping
