import SchemaTyping.Model.Basic
import SchemaTyping.PropertyType.Reader

/-!
# The registry of classes

The **registry** knows the models of a project and the classes that cast
values. A class is looked up by its name without regard to the case of ASCII
letters, to the backslash of the root namespace and to blanks around it; that
form of the name is its key (`classKey`). What a declaration gives as text,
the types of methods and casts, is read when the registry is built, so a
registry holds no text that is not a type.

Of several declarations with one key the last counts.
-/

namespace SchemaTyping

open Text

/-- The form of a class name by which classes are looked up. -/
def classKey (className : String) : String :=
  onString (fun name => asciiLower ((trim name).dropWhile (· == '\\')))
    className

/-- The form of a method name by which methods are looked up. -/
def methodKey (name : String) : String := onString asciiLower name

/-- A class name without the backslashes that mark the root namespace. -/
def withoutRoot (className : String) : String :=
  onString (·.dropWhile (· == '\\')) className

/-! ## Declarations -/

/-- The declaration of a method. -/
structure MethodDeclaration where
  name : String
  visibility : Visibility := .anyone
  /-- The text of the type it returns. -/
  returnType : Option String := none
  deriving DecidableEq, Repr

/-- The declaration of a model. -/
structure ModelDeclaration where
  className : String
  isAbstract : Bool := false
  instantiable : Bool := true
  table : Option String := none
  primaryKey : Option String := none
  keyType : Option String := none
  casts : List (String × String) := []
  dates : List String := []
  timestamps : Bool := true
  softDeletes : Bool := false
  deletedAtColumn : Option String := none
  /-- The properties that have a type of their own in the documentation. -/
  propertyTags : List String := []
  methods : List MethodDeclaration := []
  deriving DecidableEq, Repr

/-- What a declared class does as a cast, with types as text. -/
inductive CastDeclarationKind where
  | valueObject (get : String) (set : Option String)
  | inbound (set : Option String)
  | castable (caster : String)
  | plain
  deriving DecidableEq, Repr

/-- The declaration of a class that casts values. -/
structure CastDeclaration where
  className : String
  kind : CastDeclarationKind
  deriving DecidableEq, Repr

/-- **All declarations of a project.** -/
structure Declarations where
  models : List ModelDeclaration := []
  castClasses : List CastDeclaration := []
  deriving DecidableEq, Repr, Inhabited

/-- Where a declaration has the text of a type that cannot be read. -/
inductive DeclarationError where
  | returnType (className method : String) (error : TypeTextError)
  | castClass (className : String) (error : TypeTextError)
  deriving DecidableEq, Repr

/-! ## The registry -/

/-- A model as the registry keeps it. -/
structure ModelEntry where
  model : Model
  isAbstract : Bool
  instantiable : Bool
  /-- The methods by their keys. -/
  methods : Keyed Method
  propertyTags : List String
  deriving DecidableEq

/-- **The classes of a project**, by their keys. -/
structure Registry where
  models : Keyed ModelEntry
  castClasses : Keyed CastClass
  deriving DecidableEq, Inhabited

namespace Registry

/-- The registry that knows no class. -/
def empty : Registry := ⟨.empty, .empty⟩

/-- What is known of the model of that name. -/
def entry? (registry : Registry) (className : String) : Option ModelEntry :=
  registry.models.find? (classKey className)

/-- Whether the class is a model. -/
def isModel (registry : Registry) (className : String) : Bool :=
  (registry.entry? className).isSome

/-- Whether the class is an abstract model. -/
def isAbstract (registry : Registry) (className : String) : Bool :=
  (registry.entry? className).any (·.isAbstract)

/-- The method of a model. -/
def method? (registry : Registry) (className method : String) :
    Option Method :=
  (registry.entry? className).bind (·.methods.find? (methodKey method))

/-- Whether a property of the model has a type of its own in the
documentation. -/
def hasTag (registry : Registry) (className property : String) : Bool :=
  (registry.entry? className).any (·.propertyTags.contains property)

/-- **The model of a class**, if objects of the class can be made. -/
def instantiate (registry : Registry) (className : String) :
    Except ClassError Model :=
  match registry.entry? className with
  | none => .error (.notFound className)
  | some entry =>
    if entry.isAbstract || !entry.instantiable then
      .error (.notInstantiable entry.model.className)
    else .ok entry.model

/-- What a class does as a cast. -/
def castClass? (registry : Registry) (className : String) :
    Option CastClass :=
  registry.castClasses.find? (classKey className)

/-- Makes known what a class does as a cast. -/
def registerCast (registry : Registry) (className : String)
    (cast : CastClass) : Registry :=
  { registry with
    castClasses := registry.castClasses.insert (classKey className) cast }

/-- Makes a model known under the key of its class. -/
def registerModel (registry : Registry) (entry : ModelEntry) : Registry :=
  { registry with
    models := registry.models.insert (classKey entry.model.className) entry }

/-- The class names of the models in ascending order. -/
def classNames (registry : Registry) : List String :=
  (registry.models.values.map (·.model.className)).mergeSort (· ≤ ·)

/-- Whether the last part of a class name is the given name. -/
def hasBasename (name className : String) : Bool :=
  asciiEqual (Naming.classBasename className.toList) name.toList

/-- **The model that a name means**: the one with that class name, or else
the only one whose class name ends in that name. -/
def findModel? (registry : Registry) (name : String) : Option String :=
  match registry.entry? name with
  | some entry => some entry.model.className
  | none =>
    match (registry.models.values.map (·.model.className)).filter
        (hasBasename name) with
    | [className] => some className
    | _ => none

end Registry

/-! ## From declarations to the registry -/

/-- Reads the text of a type, if there is one. -/
def readOptionalType (text : Option String) :
    Except TypeTextError (Option PropertyType) :=
  match text with
  | some text => (PropertyType.read text).map some
  | none => .ok none

namespace MethodDeclaration

/-- The declared method of a class. -/
def toMethod (declaration : MethodDeclaration) (className : String) :
    Except DeclarationError Method :=
  match readOptionalType declaration.returnType with
  | .ok type => .ok ⟨declaration.name, declaration.visibility, type⟩
  | .error error => .error (.returnType className declaration.name error)

end MethodDeclaration

namespace ModelDeclaration

/-- The declared model. -/
def toModel (declaration : ModelDeclaration) : Model where
  className := withoutRoot declaration.className
  table := declaration.table
  keyName := declaration.primaryKey.getD "id"
  keyType := declaration.keyType.getD "int"
  casts := .ofList declaration.casts
  dates := declaration.dates
  timestamps := declaration.timestamps
  deletedAt :=
    declaration.deletedAtColumn <|>
      if declaration.softDeletes then some "deleted_at" else none

/-- What the registry keeps of the declared model. -/
def toEntry (declaration : ModelDeclaration) :
    Except DeclarationError ModelEntry := do
  let methods ← declaration.methods.mapM
    (·.toMethod (withoutRoot declaration.className))
  .ok {
    model := declaration.toModel
    isAbstract := declaration.isAbstract
    instantiable := declaration.instantiable
    methods := .ofList (methods.map fun method =>
      (methodKey method.name, method))
    propertyTags := declaration.propertyTags }

end ModelDeclaration

namespace CastDeclarationKind

/-- What the declared class does as a cast. -/
def toCastClass : CastDeclarationKind → Except TypeTextError CastClass
  | .valueObject get set => do
    let get ← PropertyType.read get
    let set ← readOptionalType set
    .ok (.valueObject get set)
  | .inbound set => do .ok (.inbound (← readOptionalType set))
  | .castable caster => .ok (.castable (withoutRoot caster))
  | .plain => .ok .plain

end CastDeclarationKind

namespace Registry

/-- Adds a declared model to the registry. -/
def addModel (registry : Registry) (declaration : ModelDeclaration) :
    Except DeclarationError Registry := do
  .ok (registry.registerModel (← declaration.toEntry))

/-- Adds a declared cast class to the registry. -/
def addCast (registry : Registry) (declaration : CastDeclaration) :
    Except DeclarationError Registry :=
  match declaration.kind.toCastClass with
  | .ok cast => .ok (registry.registerCast declaration.className cast)
  | .error error => .error (.castClass declaration.className error)

/-- **The registry of declarations**, the models first and then the cast
classes. The first text that is no type is the error. -/
def ofDeclarations (declarations : Declarations) :
    Except DeclarationError Registry := do
  let registry ← declarations.models.foldlM addModel .empty
  declarations.castClasses.foldlM addCast registry

end Registry

end SchemaTyping
