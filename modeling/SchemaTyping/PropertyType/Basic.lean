import SchemaTyping.Text.Basic

/-!
# Types of a model's properties

A **property type** says what may be read from a property of a model, or what
may be assigned to it. The same property often has two of them: an integer
column is read as `int` and accepts `int|numeric-string`.

A union is built by `PropertyType.union`, which opens the unions among the
types it joins, keeps each member once in the order of first occurrence, and
is absorbed by `mixed`, the type of which nothing is known. The constructor
`PropertyType.alternatives` is the bare node; only it can hold a list that
`union` would not produce.
-/

namespace SchemaTyping

open Text

/-- The types without parts, named by a keyword. -/
inductive BasicType where
  | int
  | float
  | string
  /-- A string that spells a number. -/
  | numericString
  | bool
  | null
  /-- No constraint is known. -/
  | mixed
  /-- What may index an array: an integer or a string. -/
  | arrayKey
  /-- An object of some class. -/
  | anyObject
  deriving DecidableEq, Repr, Inhabited

/-- **The type of a property**, as read or as assigned. -/
inductive PropertyType where
  | basic (type : BasicType)
  /-- The type of one integer. -/
  | intLiteral (value : Int64)
  /-- The type of one string. -/
  | stringLiteral (value : String)
  | array (key value : PropertyType)
  /-- The instances of a class, with the arguments of a generic class. -/
  | object (className : String) (arguments : List PropertyType)
  /-- A bare union node; `PropertyType.union` builds the tidy ones. -/
  | alternatives (members : List PropertyType)
  deriving Repr, Inhabited

namespace PropertyType

@[match_pattern] abbrev int : PropertyType := .basic .int
@[match_pattern] abbrev float : PropertyType := .basic .float
@[match_pattern] abbrev string : PropertyType := .basic .string
@[match_pattern] abbrev numericString : PropertyType := .basic .numericString
@[match_pattern] abbrev bool : PropertyType := .basic .bool
@[match_pattern] abbrev null : PropertyType := .basic .null
@[match_pattern] abbrev mixed : PropertyType := .basic .mixed
@[match_pattern] abbrev arrayKey : PropertyType := .basic .arrayKey
@[match_pattern] abbrev anyObject : PropertyType := .basic .anyObject

/-! ## Equality is decidable -/

mutual

/-- Decides equality of types, node by node. -/
def decEq : (s t : PropertyType) → Decidable (s = t)
  | .basic a, t =>
    match t with
    | .basic b => decidable_of_iff (a = b) (by simp)
    | .intLiteral _ | .stringLiteral _ | .array _ _ | .object _ _
    | .alternatives _ => isFalse nofun
  | .intLiteral a, t =>
    match t with
    | .intLiteral b => decidable_of_iff (a = b) (by simp)
    | .basic _ | .stringLiteral _ | .array _ _ | .object _ _
    | .alternatives _ => isFalse nofun
  | .stringLiteral a, t =>
    match t with
    | .stringLiteral b => decidable_of_iff (a = b) (by simp)
    | .basic _ | .intLiteral _ | .array _ _ | .object _ _
    | .alternatives _ => isFalse nofun
  | .array k v, t =>
    match t with
    | .array k' v' =>
      have := decEq k k'
      have := decEq v v'
      decidable_of_iff (k = k' ∧ v = v') (by simp)
    | .basic _ | .intLiteral _ | .stringLiteral _ | .object _ _
    | .alternatives _ => isFalse nofun
  | .object c ts, t =>
    match t with
    | .object c' ts' =>
      have := decEqList ts ts'
      decidable_of_iff (c = c' ∧ ts = ts') (by simp)
    | .basic _ | .intLiteral _ | .stringLiteral _ | .array _ _
    | .alternatives _ => isFalse nofun
  | .alternatives ts, t =>
    match t with
    | .alternatives ts' =>
      have := decEqList ts ts'
      decidable_of_iff (ts = ts') (by simp)
    | .basic _ | .intLiteral _ | .stringLiteral _ | .array _ _
    | .object _ _ => isFalse nofun

/-- Decides equality of lists of types, member by member. -/
def decEqList : (ss ts : List PropertyType) → Decidable (ss = ts)
  | [], [] => isTrue rfl
  | [], _ :: _ => isFalse nofun
  | _ :: _, [] => isFalse nofun
  | s :: ss, t :: ts =>
    have := decEq s t
    have := decEqList ss ts
    decidable_of_iff (s = t ∧ ss = ts) (by simp)

end

instance : DecidableEq PropertyType := decEq

/-! ## Classes -/

/-- A class name as it is stored: without blanks around it and without the
backslashes that mark the root namespace. -/
def normalizeClass (name : String) : String :=
  onString (fun text => (trim text).dropWhile (· == '\\')) name

/-- The type of the instances of a class. -/
def instanceOf (className : String) : PropertyType :=
  .object (normalizeClass className) []

/-- The type of the instances of a class applied to type arguments. -/
def generic (className : String) (arguments : List PropertyType) :
    PropertyType :=
  .object (normalizeClass className) arguments

/-- The type of an array of which nothing more is known. -/
def mixedArray : PropertyType := .array .arrayKey .mixed

/-- The types of a value without parts. -/
def scalar : PropertyType := .alternatives [.int, .float, .string, .bool]

/-- Whether the type is a reference to the class, whatever its arguments.
Class names are compared without regard to the case of ASCII letters. -/
def isObjectOf (type : PropertyType) (className : String) : Bool :=
  match type with
  | .object own _ => asciiEqual own.toList (normalizeClass className).toList
  | _ => false

/-! ## Unions -/

/-- The members of a type on its top level: those of a union node, and the
type itself otherwise. -/
def members : PropertyType → List PropertyType
  | .alternatives types => types
  | type => [type]

/-- The types of the list, each at its first occurrence. -/
def distinct : List PropertyType → List PropertyType
  | [] => []
  | type :: rest => type :: (distinct rest).filter (· ≠ type)

/-- **The union of types.** Unions among them are opened, duplicates are
dropped, and `mixed` absorbs the rest; a union of one type is that type, and
the union of none is unknown. -/
def union (types : List PropertyType) : PropertyType :=
  let flat := types.flatMap members
  if .mixed ∈ flat then .mixed
  else match distinct flat with
    | [] => .mixed
    | [type] => type
    | several => .alternatives several

/-- The type with `null` added. -/
def nullable (type : PropertyType) : PropertyType := union [type, .null]

mutual

/-- Whether `null` is one of the values of the type. -/
def acceptsNull : PropertyType → Bool
  | .basic type => type == .null || type == .mixed
  | .alternatives types => anyAcceptsNull types
  | .intLiteral _ | .stringLiteral _ | .array _ _ | .object _ _ => false

/-- Whether `null` is a value of one of the types. -/
def anyAcceptsNull : List PropertyType → Bool
  | [] => false
  | type :: rest => acceptsNull type || anyAcceptsNull rest

end

end PropertyType

end SchemaTyping
