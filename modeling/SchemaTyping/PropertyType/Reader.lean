import SchemaTyping.PropertyType.Basic
import SchemaTyping.Text.Number

/-!
# Reading a property type

Types are declared as text: `int|null`, `?string`, `array<string, int>`,
`App\Money`. `PropertyType.read` reads such a text. Bars outside brackets and
quotes part the members of a union, a leading question mark adds `null`, and
a name may be followed by type arguments in angle brackets, parted by commas.

The reader follows the text: a type argument is a piece of the text it is
read from, so every step reads less, and `pieces_weight` is the count that
shows it.
-/

namespace SchemaTyping

open Text

/-- What is wrong with the text of a type. -/
inductive TypeTextError where
  /-- There is nothing but blanks. -/
  | empty
  /-- A bracket or a quote has no partner. -/
  | unbalanced (text : String)
  /-- A part of the text is neither a literal nor a name. -/
  | unexpectedToken (token text : String)
  deriving DecidableEq, Repr

namespace TypeTextError

/-- The error in words. -/
def message : TypeTextError → String
  | .empty => "Empty type expression"
  | .unbalanced text => "Unbalanced type expression: " ++ text
  | .unexpectedToken token text =>
    "Unexpected token '" ++ token ++ "' in type expression: " ++ text

/-- The error of a whole type, told of a type argument: an argument left out
shows as a misplaced comma of the text around it. -/
def asArgument (source : List Char) : TypeTextError → TypeTextError
  | .empty => .unexpectedToken "," (String.ofList source)
  | other => other

end TypeTextError

namespace PropertyType

/-! ## Pieces of a text -/

/-- **The pieces of a text between separators** that stand outside angle
brackets and quotes, where the first argument is the quote that is open and
the second the number of open brackets. `none` if a bracket or a quote has no
partner. -/
def piecesFrom (separator : Char) :
    Option Char → Nat → List Char → Option (List (List Char))
  | none, 0, [] => some [[]]
  | _, _, [] => none
  | some quote, depth, c :: rest =>
    (piecesFrom separator (if c = quote then none else some quote) depth
      rest).map (prepend c)
  | none, depth, c :: rest =>
    if c = '\'' ∨ c = '"' then
      (piecesFrom separator (some c) depth rest).map (prepend c)
    else if c = '<' then
      (piecesFrom separator none (depth + 1) rest).map (prepend c)
    else if c = '>' then
      if depth = 0 then none
      else (piecesFrom separator none (depth - 1) rest).map (prepend c)
    else if c = separator ∧ depth = 0 then
      (piecesFrom separator none 0 rest).map ([] :: ·)
    else (piecesFrom separator none depth rest).map (prepend c)

/-- The pieces of a whole text. -/
def pieces (separator : Char) (text : List Char) : Option (List (List Char)) :=
  piecesFrom separator none 0 text

/-- The number of characters in the pieces and of ends of pieces. -/
def weight : List (List Char) → Nat
  | [] => 0
  | piece :: pieces => piece.length + 1 + weight pieces

theorem weight_prepend (c : Char) {pieces : List (List Char)}
    (h : pieces ≠ []) : weight (prepend c pieces) = weight pieces + 1 := by
  cases pieces with
  | nil => exact absurd rfl h
  | cons piece pieces => simp [weight, prepend]; omega

theorem piecesFrom_weight {separator : Char} {quote : Option Char}
    {depth : Nat} {text : List Char} {found : List (List Char)}
    (h : piecesFrom separator quote depth text = some found) :
    found ≠ [] ∧ weight found = text.length + 1 := by
  have hcons : ∀ {c : Char} {rest : List Char} {inner : List (List Char)},
      inner ≠ [] ∧ weight inner = rest.length + 1 →
      prepend c inner ≠ [] ∧
        weight (prepend c inner) = (c :: rest).length + 1 := by
    intro c rest inner ⟨hne, hweight⟩
    refine ⟨?_, ?_⟩
    · cases inner <;> simp [prepend]
    · rw [weight_prepend c hne, hweight, List.length_cons]
  fun_induction piecesFrom separator quote depth text generalizing found <;>
    try cases h
  · simp [weight]
  all_goals
    obtain ⟨inner, hinner, rfl⟩ := Option.map_eq_some_iff.mp h
  case case8 ih =>
    obtain ⟨-, hweight⟩ := ih hinner
    refine ⟨by simp, ?_⟩
    simp only [weight, List.length_nil, List.length_cons] at hweight ⊢
    omega
  all_goals
    rename_i ih
    exact hcons (ih hinner)

/-- The pieces hold the characters of the text but for the separators. -/
theorem pieces_weight {separator : Char} {text : List Char}
    {found : List (List Char)} (h : pieces separator text = some found) :
    weight found = text.length + 1 :=
  (piecesFrom_weight h).2

/-! ## Parts of the notation -/

/-- A string in quotes of either kind, of which the backslashes in front of
that quote are left out. -/
def stringLiteral? (text : List Char) : Option (List Char) :=
  match text with
  | quote :: rest =>
    if (quote = '\'' ∨ quote = '"') ∧ rest.getLast? = some quote then
      some (dropBefore '\\' quote rest.dropLast)
    else none
  | [] => none

/-- The characters of keywords and class names. -/
def isNameChar (c : Char) : Bool :=
  c.isAlphanum || c == '_' || c == '\\' || c == '-'

/-- Whether the text is a keyword or a class name. -/
def isName (text : List Char) : Bool := !text.isEmpty && text.all isNameChar

/-- The type that a keyword in small letters names by itself. -/
def ofKeyword? (keyword : String) : Option PropertyType :=
  match keyword with
  | "int" | "integer" => some .int
  | "float" | "double" => some .float
  | "string" => some .string
  | "numeric-string" => some .numericString
  | "bool" | "boolean" => some .bool
  | "null" => some .null
  | "mixed" => some .mixed
  | "array-key" => some .arrayKey
  | "object" => some .anyObject
  | "scalar" => some scalar
  | _ => none

/-- The array type with the given arguments: key and value, value alone, or
nothing known. -/
def arrayOf : List PropertyType → PropertyType
  | [] => mixedArray
  | [value] => .array .arrayKey value
  | key :: value :: _ => .array key value

/-- The type of a name and its arguments. Keywords are known in any case of
letters, and of them only `array` looks at its arguments; any other name is
that of a class. -/
def ofName (name : List Char) (arguments : List PropertyType) :
    PropertyType :=
  let keyword := String.ofList (asciiLower name)
  if keyword = "array" then arrayOf arguments
  else (ofKeyword? keyword).getD (generic (String.ofList name) arguments)

/-- The name and the text of the arguments of a generic type; `none` for the
arguments of a bare name. The outer `none` says that the bracket which opens
the arguments is not closed at the end. -/
def nameAndArguments (atom : List Char) :
    Option (List Char × Option (List Char)) :=
  match cutFirst '<' atom with
  | none => some (atom, none)
  | some (name, rest) =>
    if rest.getLast? = some '>' then some (trim name, some rest.dropLast)
    else none

theorem nameAndArguments_length {atom name inner : List Char}
    (h : nameAndArguments atom = some (name, some inner)) :
    inner.length + 2 ≤ atom.length := by
  rw [nameAndArguments] at h
  split at h
  · cases h
  · next before rest hcut =>
    split at h
    · next hlast =>
      cases h
      have hrest : rest ≠ [] := by rintro rfl; simp at hlast
      have := List.length_pos_iff.mpr hrest
      rw [append_of_cutFirst hcut, List.length_append, List.length_cons,
        List.length_dropLast]
      omega
    · cases h

/-- The type of a name and its arguments in the type that `source` declares,
if the name is made of the right characters. -/
def readName (source name : List Char) (arguments : List PropertyType) :
    Except TypeTextError PropertyType :=
  if isName name then .ok (ofName name arguments)
  else .error (.unexpectedToken (String.ofList name) (String.ofList source))

/-! ## The reader -/

mutual

/-- **Reads a type.** The text may have blanks around it. -/
def readChars (text : List Char) : Except TypeTextError PropertyType :=
  if (trim text).isEmpty then .error .empty
  else
    match _h : pieces '|' (trim text) with
    | none => .error (.unbalanced (String.ofList text))
    | some found => (readMembers text found).map union
termination_by 2 * text.length + 3
decreasing_by
  have := pieces_weight ‹_›
  have := length_trim_le text
  omega

/-- Reads the members of a union. -/
def readMembers (source : List Char) :
    List (List Char) → Except TypeTextError (List PropertyType)
  | [] => .ok []
  | piece :: rest => do
    let type ← readAtom source (trim piece)
    let types ← readMembers source rest
    .ok (type :: types)
termination_by found => 2 * weight found
decreasing_by
  · have := length_trim_le piece
    simp [weight]; omega
  · simp [weight]

/-- Reads one member of a union, without blanks around it, of the type that
`source` declares. -/
def readAtom (source : List Char) (atom : List Char) :
    Except TypeTextError PropertyType :=
  match atom with
  | [] => .error (.unexpectedToken "|" (String.ofList source))
  | '?' :: rest => (readAtom source (trim rest)).map nullable
  | first :: rest =>
    match stringLiteral? (first :: rest) with
    | some value => .ok (.stringLiteral (String.ofList value))
    | none =>
      match readInt64 (first :: rest) with
      | some value => .ok (.intLiteral value)
      | none =>
        match _h : nameAndArguments (first :: rest) with
        | none => .error (.unbalanced (String.ofList source))
        | some (name, none) => readName source name []
        | some (name, some inner) =>
          match _hp : pieces ',' inner with
          | none => .error (.unbalanced (String.ofList source))
          | some found => do
            let arguments ← readArguments source found
            readName source name arguments
termination_by 2 * atom.length + 1
decreasing_by
  · have := length_trim_le rest
    simp only [List.length_cons]; omega
  · have := pieces_weight ‹_›
    have := nameAndArguments_length ‹_›
    simp only [List.length_cons] at *; omega

/-- Reads the type arguments of a name. -/
def readArguments (source : List Char) :
    List (List Char) → Except TypeTextError (List PropertyType)
  | [] => .ok []
  | piece :: rest => do
    let type ← (readChars piece).mapError (.asArgument source)
    let types ← readArguments source rest
    .ok (type :: types)
termination_by found => 2 * weight found + 2
decreasing_by
  · simp [weight]; omega
  · simp [weight]

end

/-- Reads a type from a string. -/
def read (text : String) : Except TypeTextError PropertyType :=
  readChars text.toList

end PropertyType

end SchemaTyping
