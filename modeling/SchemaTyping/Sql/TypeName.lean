import SchemaTyping.Sql.Bracket

/-!
# Type names in a column definition

After the name of a column comes its type: one or several words, some of them
with arguments in brackets, and perhaps `[]` for an array:
`timestamp(0) without time zone`, `int unsigned`, `varchar(255)`,
`integer[]`. The type ends at the first word that starts a constraint.

`typeParts` takes the text apart into words with what belongs to each, and
`TypeName.ofParts` puts the type together.
-/

namespace SchemaTyping.Sql

open Text

/-- The words that end a type, because they start a constraint. -/
def constraintWords : List String :=
  ["not", "null", "default", "primary", "unique", "references", "check",
    "collate", "auto_increment", "autoincrement", "generated", "comment",
    "constraint", "on", "identity", "as", "invisible", "visible"]

/-- **The type of a column as a database writes it.** -/
structure TypeName where
  /-- The words of the name in small letters, with one space between two. -/
  name : String
  /-- The arguments in brackets, without quotes. -/
  arguments : List String := []
  unsigned : Bool := false
  array : Bool := false
  deriving DecidableEq, Repr, Inhabited

/-- A word of a type with what follows it. -/
structure TypePart where
  /-- The word in small letters. -/
  word : List Char
  /-- What stands in brackets after the word. -/
  group : Option (List Char)
  /-- Whether `[]` comes next. -/
  array : Bool
  deriving DecidableEq, Repr

/-- The characters of a word of a type. -/
def isTypeChar (c : Char) : Bool := isAsciiWord c || c == '.'

/-- Whether the type ends before a word, given in small letters, that `after`
follows. -/
def endsType (word after : List Char) : Bool :=
  constraintWords.contains (String.ofList word)
    || word == "charset".toList
    || (word == "character".toList
      && "set".toList.isPrefixOf (asciiLower after))

/-- What stands in brackets at the start of the text, and what follows it. -/
def takeGroup (text : List Char) : Option (List Char) × List Char :=
  match group? text with
  | some (inner, after) => (some inner, trimStart after)
  | none => (none, text)

/-- Whether `[]` stands at the start of the text, and what follows it. -/
def takeArray : List Char → Bool × List Char
  | '[' :: ']' :: after => (true, trimStart after)
  | text => (false, text)

theorem length_takeGroup_le (text : List Char) :
    (takeGroup text).2.length ≤ text.length := by
  rw [takeGroup]
  split
  · next inner after h =>
    have := length_trimStart_le after
    rw [append_of_group? h]
    simp only [List.length_cons, List.length_append]
    omega
  · exact Nat.le_refl _

theorem length_takeArray_le (text : List Char) :
    (takeArray text).2.length ≤ text.length := by
  rw [takeArray.eq_def]
  split
  · next after =>
    have := length_trimStart_le after
    simp only [List.length_cons]
    omega
  · exact Nat.le_refl _

/-- **The parts of a type** at the start of a text, and what follows it. -/
def typeParts (text : List Char) : List TypePart × List Char :=
  let word := asciiLower (text.takeWhile isTypeChar)
  let after := trimStart (text.dropWhile isTypeChar)
  if _h : word = [] ∨ endsType word after then ([], text)
  else
    let group := takeGroup after
    let array := takeArray group.2
    let next := typeParts array.2
    (⟨word, group.1, array.1⟩ :: next.1, next.2)
termination_by text.length
decreasing_by
  have hword : text.takeWhile isTypeChar ≠ [] := fun h =>
    _h (.inl (by simp [word, h, asciiLower]))
  have hlength := congrArg List.length
    (List.takeWhile_append_dropWhile (p := isTypeChar) (l := text))
  have := List.length_pos_iff.mpr hword
  have := length_trimStart_le (text.dropWhile isTypeChar)
  have := length_takeGroup_le after
  have := length_takeArray_le (takeGroup after).2
  simp only [List.length_append] at hlength
  simp only [after] at *
  omega

/-- The words that say something of a type without naming it. -/
def typeModifiers : List String := ["unsigned", "signed", "zerofill"]

/-- **The type with the given parts.** The first group that holds an argument
gives the arguments. -/
def TypeName.ofParts (parts : List TypePart) : TypeName where
  name := String.ofList <| [' '].intercalate <|
    (parts.map (·.word)).filter fun word =>
      !typeModifiers.contains (String.ofList word)
  arguments := (parts.findSome? fun part =>
    (part.group.map Sql.arguments).filter (!·.isEmpty)).getD []
  unsigned := parts.any fun part => part.word == "unsigned".toList
  array := parts.any (·.array)

/-- The type at the start of a text, and the constraints that follow it. -/
def readTypeName (text : List Char) : TypeName × List Char :=
  let found := typeParts (trimStart text)
  (.ofParts found.1, found.2)

end SchemaTyping.Sql
