import SchemaTyping.Document.Field
import SchemaTyping.Model.Registry

/-!
# Documents of models

A document declares models under the key `models` and classes that cast
values under the key `cast_classes`. Every field but the name of the class
has a default. What a cast class declares besides its name is read as typed
values, so that a number there is no text.
-/

namespace SchemaTyping

open Document

/-- Who may call a method, by the word for it. -/
def Visibility.ofName? : String → Option Visibility
  | "public" => some .anyone
  | "protected" => some .subclasses
  | "private" => some .itself
  | _ => none

namespace MethodDeclaration

/-- Reads the declaration of a method. -/
def ofNode (node : Node) : Except DocumentError MethodDeclaration := do
  let entries ← node.entriesOf "methods"
  .ok {
    name := ← entries.required "name" Node.text?
    visibility :=
      ← entries.withDefault "visibility" (Node.named? Visibility.ofName?)
        .anyone
    returnType := ← entries.withDefault "return_type" Node.optionalText? none }

end MethodDeclaration

namespace ModelDeclaration

/-- **Reads the declaration of a model.** -/
def ofNode (node : Node) : Except DocumentError ModelDeclaration := do
  let entries ← node.entriesOf "models"
  .ok {
    className := ← entries.required "class" Node.text?
    isAbstract := ← entries.withDefault "abstract" Node.bool? false
    instantiable := ← entries.withDefault "instantiable" Node.bool? true
    table := ← entries.withDefault "table" Node.optionalText? none
    primaryKey := ← entries.withDefault "primary_key" Node.optionalText? none
    keyType := ← entries.withDefault "key_type" Node.optionalText? none
    casts := ← entries.withDefault "casts" Node.textEntries? []
    dates := ← entries.withDefault "dates" Node.texts? []
    timestamps := ← entries.withDefault "timestamps" Node.bool? true
    softDeletes := ← entries.withDefault "soft_deletes" Node.bool? false
    deletedAtColumn :=
      ← entries.withDefault "deleted_at_column" Node.optionalText? none
    propertyTags := ← entries.withDefault "property_tags" Node.texts? []
    methods := ← entries.eachOf "methods" MethodDeclaration.ofNode }

end ModelDeclaration

namespace CastDeclarationKind

/-- The names of the kinds, in the order in which they are counted. -/
def names : List String := ["value_object", "inbound", "castable", "plain"]

/-- The kind of that name with its parameters among the fields. -/
def ofNameAndFields? (name : String) (fields : Fields) :
    Option CastDeclarationKind :=
  let set := fields.withDefault "set" (Value.optional? Value.string?) none
  match name with
  | "value_object" => do
    some (.valueObject (← fields.required "get" Value.string?) (← set))
  | "inbound" => do some (.inbound (← set))
  | "castable" => do
    some (.castable (← fields.required "caster" Value.string?))
  | "plain" => some .plain
  | _ => none

/-- Reads a kind from the fields of a cast class. -/
def ofFields? (fields : Fields) : Option CastDeclarationKind := do
  ofNameAndFields? (← fields.required "kind" (Value.nameAmong? names)) fields

end CastDeclarationKind

namespace CastDeclaration

/-- **Reads the declaration of a cast class.** -/
def ofNode (node : Node) : Except DocumentError CastDeclaration := do
  let entries ← node.entriesOf "cast_classes"
  let className ← entries.required "class" Node.text?
  match CastDeclarationKind.ofFields?
      (Fields.without (entryValues entries) ["class"]) with
  | some kind => .ok ⟨className, kind⟩
  | none => .error (.unfit "kind")

end CastDeclaration

namespace Declarations

/-- Reads the declarations of a project. -/
def ofNode (node : Node) : Except DocumentError Declarations := do
  let entries ← node.entriesOf "document"
  .ok {
    models := ← entries.eachOf "models" ModelDeclaration.ofNode
    castClasses := ← entries.eachOf "cast_classes" CastDeclaration.ofNode }

/-- **The declarations of a document.** Blank text declares nothing. -/
def read (text : String) : Except DocumentError Declarations := do
  if (Text.trim text.toList).isEmpty then .ok {}
  else ofNode (← Node.read text)

end Declarations

end SchemaTyping
