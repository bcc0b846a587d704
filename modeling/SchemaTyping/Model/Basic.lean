import SchemaTyping.Keyed
import SchemaTyping.Naming
import SchemaTyping.PropertyType.Basic

/-!
# Models

A **model** is a class bound to a table. It may cast some of its properties,
name others as dates, and compute further ones by methods. What a class says
of itself comes in three parts: the model (`Model`), its methods (`Method`),
and, for a class that casts values, what kind of cast it is (`CastClass`).
-/

namespace SchemaTyping

/-- **A model**, with all that its class declares on the binding to a
table. -/
structure Model where
  className : String
  /-- The table, unless it follows from the name of the class. -/
  table : Option String := none
  /-- The name of the primary key. -/
  keyName : String := "id"
  /-- The text of the type of the primary key. -/
  keyType : String := "int"
  /-- The text of the cast of each property that has one. -/
  casts : Keyed String := .empty
  /-- The properties declared as dates. -/
  dates : List String := []
  /-- Whether the model keeps the times of creation and of the last change. -/
  timestamps : Bool := true
  createdAt : String := "created_at"
  updatedAt : String := "updated_at"
  /-- The property that holds the time of a soft deletion. -/
  deletedAt : Option String := none
  deriving DecidableEq

namespace Model

/-- **The table of the model.** -/
def tableName (model : Model) : String :=
  model.table.getD (Text.onString Naming.tableFor model.className)

/-- The text of the cast of a property. -/
def cast? (model : Model) (property : String) : Option String :=
  model.casts.find? property

/-- The properties that are dates: the two time stamps, if they are kept,
and then the declared ones, each once. -/
def dateNames (model : Model) : List String :=
  model.dates.foldl
    (fun names date => if date ∈ names then names else names ++ [date])
    (if model.timestamps then [model.createdAt, model.updatedAt] else [])

/-- Whether a property is read as a date without being cast. -/
def isDate (model : Model) (property : String) : Bool :=
  property ∈ model.dateNames || model.deletedAt == some property

end Model

/-- Who may call a method. -/
inductive Visibility where
  | anyone
  | subclasses
  | itself
  deriving DecidableEq, Repr, Inhabited

/-- A method of a model. -/
structure Method where
  name : String
  visibility : Visibility
  returnType : Option PropertyType
  deriving DecidableEq, Repr

/-- The class of the objects that compute a property. -/
def attributeClass : String :=
  "Illuminate\\Database\\Eloquent\\Casts\\Attribute"

/-- Whether the method returns an object that computes a property. -/
def Method.returnsAttribute (method : Method) : Bool :=
  method.returnType.any (·.isObjectOf attributeClass)

/-- **What a class does as a cast.** -/
inductive CastClass where
  /-- Reads values of the type `get`, and also accepts those of the type
  `set` if there is one. -/
  | valueObject (get : PropertyType) (set : Option PropertyType)
  /-- Changes values on assignment only. -/
  | inbound (set : Option PropertyType)
  /-- Leaves the cast to another class. -/
  | castable (caster : String)
  /-- The values are instances of the class itself. -/
  | plain
  deriving DecidableEq, Repr, Inhabited

/-- Why a class gives no model. -/
inductive ClassError where
  | notFound (className : String)
  | notInstantiable (className : String)
  deriving DecidableEq, Repr

/-- The error in words. -/
def ClassError.message : ClassError → String
  | .notFound className => "Class not found: " ++ className
  | .notInstantiable className =>
    "Class cannot be instantiated: " ++ className
      ++ " (declared as not instantiable)"

end SchemaTyping
