import SchemaTyping.PropertyType.Basic

/-!
# The text of a property type

Types are shown in one notation everywhere: a keyword or a class name, with
type arguments in angle brackets, literals as they are, and the members of a
union parted by bars. `PropertyType.chars` writes it; the reader for the same
notation is in `SchemaTyping.PropertyType.Reader`.
-/

namespace SchemaTyping

/-- The keyword that names a type without parts. -/
def BasicType.keyword : BasicType → String
  | .int => "int"
  | .float => "float"
  | .string => "string"
  | .numericString => "numeric-string"
  | .bool => "bool"
  | .null => "null"
  | .mixed => "mixed"
  | .arrayKey => "array-key"
  | .anyObject => "object"

namespace PropertyType

/-- A character inside a string literal: the quote and the backslash are
written with a backslash in front. -/
def escapeChar (c : Char) : List Char :=
  if c = '\\' ∨ c = '\'' then ['\\', c] else [c]

/-- A string in single quotes. -/
def quote (text : List Char) : List Char :=
  '\'' :: (text.flatMap escapeChar ++ ['\''])

mutual

/-- **The text of a type**, as a list of characters. -/
def chars : PropertyType → List Char
  | .basic type => type.keyword.toList
  | .intLiteral value => (toString value.toInt).toList
  | .stringLiteral value => quote value.toList
  | .array key value =>
    "array<".toList ++ key.chars ++ ", ".toList ++ value.chars ++ ['>']
  | .object className [] => className.toList
  | .object className (type :: types) =>
    className.toList ++ ['<']
      ++ (", ".toList.intercalate (charsOfAll (type :: types))) ++ ['>']
  | .alternatives types => ['|'].intercalate (charsOfAll types)

/-- The texts of a list of types. -/
def charsOfAll : List PropertyType → List (List Char)
  | [] => []
  | type :: types => type.chars :: charsOfAll types

end

instance : ToString PropertyType := ⟨fun type => String.ofList type.chars⟩

theorem charsOfAll_eq_map (types : List PropertyType) :
    charsOfAll types = types.map chars := by
  induction types with
  | nil => rfl
  | cons type types ih => rw [charsOfAll, ih, List.map_cons]

end PropertyType

end SchemaTyping
