/-!
# Structured values

Migrations, columns and cast classes are written down as **values**: records
with named fields, lists, and scalars that have a type of their own. A value
comes from a document or from another program; a reader for a domain type asks
for the fields it knows and ignores the others.

No field asks for a number with a fraction, so of such a number the value
keeps only that it is one.
-/

namespace SchemaTyping

/-- **A structured value.** -/
inductive Value where
  | null
  | bool (value : Bool)
  | int (value : Int)
  /-- A number that is not written as an integer. -/
  | fractional
  | string (value : String)
  | list (items : List Value)
  | record (fields : List (String × Value))
  deriving Repr, Inhabited

namespace Value

/-- The string, if the value is one. -/
def string? : Value → Option String
  | .string value => some value
  | _ => none

/-- The truth value, if the value is one. -/
def bool? : Value → Option Bool
  | .bool value => some value
  | _ => none

/-- A size: nothing, or an integer of 32 bits. -/
def size? : Value → Option (Option UInt32)
  | .null => some none
  | .int value =>
    if 0 ≤ value ∧ value.toNat < UInt32.size then
      some (some (UInt32.ofNat value.toNat))
    else none
  | _ => none

/-- Nothing, or a value that `read` accepts. -/
def optional? {α : Type} (read : Value → Option α) :
    Value → Option (Option α)
  | .null => some none
  | value => (read value).map some

/-- The items, if the value is a list of values that `read` accepts. -/
def list? {α : Type} (read : Value → Option α) : Value → Option (List α)
  | .list items => items.mapM read
  | _ => none

/-- One of several names: the name itself, or its position among them. -/
def nameAmong? (names : List String) : Value → Option String
  | .string value => if value ∈ names then some value else none
  | .int value => if 0 ≤ value then names[value.toNat]? else none
  | _ => none

/-- A size as a value. -/
def ofSize : Option UInt32 → Value
  | none => .null
  | some size => .int size.toNat

/-- A list of strings as a value. -/
def ofStrings (strings : List String) : Value := .list (strings.map .string)

end Value

/-- The fields of a record, each with its name. -/
abbrev Fields := List (String × Value)

namespace Fields

/-- The field of that name, which has to be there and to be accepted. -/
def required {α : Type} (fields : Fields) (name : String)
    (read : Value → Option α) : Option α :=
  (fields.lookup name).bind read

/-- The field of that name, which has to be accepted if it is there. -/
def withDefault {α : Type} (fields : Fields) (name : String)
    (read : Value → Option α) (default : α) : Option α :=
  match fields.lookup name with
  | some value => read value
  | none => some default

/-- Fields from values in the order of their names. The last ones may be
missing, but there may not be more values than names. -/
def ofList? (names : List String) (values : List Value) : Option Fields :=
  if values.length ≤ names.length then some (names.zip values) else none

/-- The fields but for those of the given names. -/
def without (fields : Fields) (names : List String) : Fields :=
  fields.filter fun field => !names.contains field.1

end Fields

end SchemaTyping
