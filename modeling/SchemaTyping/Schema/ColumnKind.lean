import SchemaTyping.PropertyType.Basic

/-!
# Kinds of columns

A migration declares a column by its **kind**, in the vocabulary of the
migration language and not of a database: `big_increments`, `enum`, `json`.
The kind decides what the column is read as and what may be assigned to it. A
column of integers also accepts a string that spells a number; dates are
plain strings until a model casts them.
-/

namespace SchemaTyping

/-- The kinds of columns that take no parameter. -/
inductive SimpleKind where
  | id
  | increments
  | bigIncrements
  | mediumIncrements
  | smallIncrements
  | tinyIncrements
  | integer
  | bigInteger
  | mediumInteger
  | smallInteger
  | tinyInteger
  | unsignedInteger
  | unsignedBigInteger
  | unsignedMediumInteger
  | unsignedSmallInteger
  | unsignedTinyInteger
  | foreignId
  | year
  | float
  | double
  | boolean
  | text
  | tinyText
  | mediumText
  | longText
  | uuid
  | ulid
  | foreignUuid
  | foreignUlid
  | ipAddress
  | macAddress
  | binary
  | json
  | jsonb
  | rememberToken
  | date
  | dateTime
  | dateTimeTz
  | time
  | timeTz
  | timestamp
  | timestampTz
  | geometry
  | point
  deriving DecidableEq, Repr, Inhabited

/-- **The kind of a column.** -/
inductive ColumnKind where
  | simple (kind : SimpleKind)
  /-- A number of `precision` digits, `scale` of them after the point. -/
  | decimal (precision scale : Option UInt32)
  | unsignedDecimal (precision scale : Option UInt32)
  /-- A string of fixed length. -/
  | char (length : Option UInt32)
  /-- A string of at most the length. -/
  | string (length : Option UInt32)
  /-- One of the values. -/
  | enum (values : List String)
  /-- A subset of the values. -/
  | set (values : List String)
  /-- A type of the database that is not understood. -/
  | other (name : String)
  deriving DecidableEq, Repr, Inhabited

namespace SimpleKind

/-- Whether the columns of the kind hold integers. -/
def isInteger : SimpleKind → Bool
  | .id | .increments | .bigIncrements | .mediumIncrements | .smallIncrements
  | .tinyIncrements | .integer | .bigInteger | .mediumInteger | .smallInteger
  | .tinyInteger | .unsignedInteger | .unsignedBigInteger
  | .unsignedMediumInteger | .unsignedSmallInteger | .unsignedTinyInteger
  | .foreignId | .year => true
  | _ => false

/-- Whether the columns of the kind hold floating-point numbers. -/
def isFloating : SimpleKind → Bool
  | .float | .double => true
  | _ => false

end SimpleKind

namespace ColumnKind

/-- Whether the columns of the kind hold integers. -/
def isInteger : ColumnKind → Bool
  | .simple kind => kind.isInteger
  | _ => false

/-- Whether the columns of the kind hold numbers with a fraction. -/
def isFractional : ColumnKind → Bool
  | .simple kind => kind.isFloating
  | .decimal .. | .unsignedDecimal .. => true
  | _ => false

/-- The type of a kind that is neither integer nor fractional. -/
def plainType : ColumnKind → PropertyType
  | .simple .boolean => .bool
  | .enum [] => .string
  | .enum values => .union (values.map .stringLiteral)
  | .other _ => .mixed
  | _ => .string

/-- **What a column of the kind is read as.** -/
def readableType (kind : ColumnKind) : PropertyType :=
  if kind.isInteger then .int
  else if kind.isFractional then .float
  else kind.plainType

/-- **What may be assigned to a column of the kind.** -/
def writableType (kind : ColumnKind) : PropertyType :=
  if kind.isInteger then .union [.int, .numericString]
  else if kind.isFractional then .union [.float, .int, .numericString]
  else kind.plainType

/-- The values a column of the kind chooses from; none for most kinds. -/
def options : ColumnKind → List String
  | .enum values | .set values => values
  | _ => []

end ColumnKind

end SchemaTyping
