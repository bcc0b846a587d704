import SchemaTyping.Dialect
import SchemaTyping.Model.Registry

/-!
# Casts

A model may cast a property: the stored value is changed when the property is
read, and changed back when it is assigned. The text of a cast names what the
value becomes, and may have parameters after a colon: `boolean`,
`decimal:2`, `encrypted:array`, `App\Casts\Money:EUR`. `CastKind.ofText` reads
it, and `Caster` says which types it gives a property.

A class may leave the cast to another class, which may leave it to a third.
The links are followed up to a bound, so that a circle ends, too; behind the
bound, and for an unknown class, nothing is known of the type.
-/

namespace SchemaTyping

open Text

/-- The class of dates, unless a project has its own. -/
def defaultDateClass : String := "Illuminate\\Support\\Carbon"

/-- The class of collections. -/
def collectionClass : String := "Illuminate\\Support\\Collection"

/-- The class of dates that do not change. -/
def immutableDateClass : String := "Carbon\\CarbonImmutable"

/-- **What a cast makes of a value.** -/
inductive CastKind where
  | boolean
  | integer
  | float
  | string
  | array
  | object
  | date
  | immutableDate
  | collection
  /-- The cast is done by a class. -/
  | byClass (className : String)
  deriving DecidableEq, Repr, Inhabited

namespace CastKind

/-- The cast that a word in small letters names. -/
def ofKeyword? (keyword : String) : Option CastKind :=
  match keyword with
  | "boolean" | "bool" => some .boolean
  | "integer" | "int" | "timestamp" => some .integer
  | "real" | "double" | "float" => some .float
  | "string" | "decimal" | "hashed" => some .string
  | "array" | "json" => some .array
  | "object" => some .object
  | "date" | "datetime" | "custom_datetime" => some .date
  | "immutable_date" | "immutable_datetime" | "immutable_custom_datetime" =>
    some .immutableDate
  | "collection" => some .collection
  | _ => none

/-- The cast of a name without parameters: a known word, or else a class. -/
def ofName (name : List Char) : CastKind :=
  (ofKeyword? (String.ofList (asciiLower name))).getD
    (.byClass (String.ofList (name.dropWhile (· == '\\'))))

/-- The name of a cast and what follows its colon, without blanks around
them. -/
def nameAndParameter (text : List Char) : List Char × List Char :=
  match cutFirst ':' (trim text) with
  | some (name, parameter) => (trim name, trim parameter)
  | none => (trim text, [])

theorem nameAndParameter_length {text : List Char}
    (h : (nameAndParameter text).2 ≠ []) :
    (nameAndParameter text).2.length < text.length := by
  rw [nameAndParameter] at h ⊢
  split
  · next name parameter hcut =>
    have := length_trim_le text
    have := length_trim_le parameter
    have hlength := congrArg List.length (append_of_cutFirst hcut)
    simp only [List.length_append, List.length_cons] at hlength
    simp only
    omega
  · next hcut => simp [hcut] at h

/-- **Reads the text of a cast.** An encrypted value is stored as a string
and cast as the parameter says, if there is one; other parameters do not
change what a cast makes of a value. -/
def ofChars (text : List Char) : CastKind :=
  let found := nameAndParameter text
  if asciiLower found.1 = "encrypted".toList then
    if _h : found.2 = [] then .string else ofChars found.2
  else ofName found.1
termination_by text.length
decreasing_by exact nameAndParameter_length _h

/-- Reads the text of a cast from a string. -/
def ofText (text : String) : CastKind := ofChars text.toList

end CastKind

/-- What the types of a cast depend on besides the cast. -/
structure Caster where
  dialect : Dialect
  /-- The class of dates in the project. -/
  dateClass : String
  registry : Registry

namespace Caster

/-- How many links from one class to the next are followed. -/
def maxLinks : Nat := 8

/-- What a class does as a cast. A model that is not declared as a cast class
stands for its own instances. -/
def castClass? (caster : Caster) (className : String) : Option CastClass :=
  caster.registry.castClass? className <|>
    if caster.registry.isModel className then some .plain else none

/-- The class that does the cast in the end, after at most `links` links, and
what it does; `none` if the class is unknown or there are more links. -/
def follow (caster : Caster) (links : Nat) (className : String) :
    Option (String × CastClass) :=
  match caster.castClass? className with
  | some (.castable next) =>
    match links with
    | 0 => none
    | links + 1 => follow caster links next
  | some cast => some (className, cast)
  | none => none

/-- **The class that does the cast in the end.** -/
def endpoint? (caster : Caster) (className : String) :
    Option (String × CastClass) :=
  caster.follow maxLinks className

/-- What a property cast by a class is read as, where the column is read as
`stored`. -/
def classReadable (caster : Caster) (className : String)
    (stored : PropertyType) : PropertyType :=
  match caster.endpoint? className with
  | some (_, .valueObject get _) => get
  | some (_, .inbound _) => stored
  | some (last, _) => .instanceOf last
  | none => .mixed

/-- What may be assigned to a property cast by a class, where the column
accepts `stored`. -/
def classWritable (caster : Caster) (className : String)
    (stored : PropertyType) : PropertyType :=
  match caster.endpoint? className with
  | some (_, .valueObject get (some set)) => .union [get, set]
  | some (_, .valueObject get none) => get
  | some (_, .inbound set) => set.getD stored
  | some (last, _) => .instanceOf last
  | none => .mixed

/-- The type of dates: the class of the project, and beside it the default
class if the two differ. -/
def dateType (caster : Caster) : PropertyType :=
  let configured := PropertyType.instanceOf caster.dateClass
  if configured.isObjectOf defaultDateClass then configured
  else .union [configured, .instanceOf defaultDateClass]

/-- The type of immutable dates. -/
def immutableDateType : PropertyType := .instanceOf immutableDateClass

/-- The type of collections of which nothing more is known. -/
def collectionType : PropertyType :=
  .generic collectionClass [.arrayKey, .mixed]

/-- **What a cast property is read as**, where the column is read as
`stored`. -/
def readableType (caster : Caster) (cast : String)
    (stored : PropertyType) : PropertyType :=
  match CastKind.ofText cast with
  | .boolean => .bool
  | .integer => .int
  | .float => .float
  | .string => .string
  | .array => .mixedArray
  | .object => .anyObject
  | .date => caster.dateType
  | .immutableDate => immutableDateType
  | .collection => collectionType
  | .byClass className => caster.classReadable className stored

/-- **What may be assigned to a cast property**, where the column accepts
`stored`. A truth value may be given as it is stored, and what is stored as
text may be given as text or as any value that can be written down. -/
def writableType (caster : Caster) (cast : String)
    (stored : PropertyType) : PropertyType :=
  match CastKind.ofText cast with
  | .boolean =>
    if caster.dialect.hasNativeBool then .bool
    else .union [.intLiteral 0, .intLiteral 1, .bool]
  | .integer => .int
  | .float => .float
  | .string => .string
  | .array => .union [.mixedArray, .int, .float, .string, .bool]
  | .object => .anyObject
  | .date => .union [caster.dateType, .string]
  | .immutableDate => .union [immutableDateType, .string]
  | .collection => .union [collectionType, .mixedArray]
  | .byClass className => caster.classWritable className stored

end Caster

end SchemaTyping
