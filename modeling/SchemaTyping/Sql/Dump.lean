import SchemaTyping.Migration.Operation
import SchemaTyping.Sql.ColumnMapping
import SchemaTyping.Sql.Header

/-!
# Reading a schema dump

A dump is read for the tables it creates. `dumpOperations` gives one
`Operation.createTable` for each table definition, in the order of the text.
Enumerated types are remembered as they are declared and stand for their
values in the columns of later tables; all other statements are passed over.
-/

namespace SchemaTyping.Sql

open Text

/-! ## Columns -/

/-- The quote that closes a name which the character opens. -/
def closingQuote? (c : Char) : Option Char :=
  if c = '[' then some ']'
  else if c = '"' ∨ c = backquote then some c
  else none

/-- The name at the start of a definition, and what follows it: a quoted name
ends at its closing quote, any other at a blank. -/
def columnName? (definition : List Char) :
    Option (List Char × List Char) :=
  match definition with
  | [] => none
  | c :: rest =>
    match closingQuote? c with
    | some quote => cutFirst quote rest
    | none =>
      some (definition.takeWhile (!isBlank ·),
        definition.dropWhile (!isBlank ·))

/-- The words that start a definition which belongs to the whole table. -/
def tableWords : List String :=
  ["primary", "unique", "constraint", "foreign", "check", "exclude"]

/-- The words that start the definition of an index. Some dialects allow them
as the names of columns. -/
def indexWords : List String := ["key", "index", "fulltext", "spatial"]

/-- Whether a definition that starts with the word, followed by `rest`,
defines something else than a column. Where the words of an index may name a
column, the bracket of an index has to follow at once. -/
def definesNoColumn (dialect : Dialect) (word rest : List Char) : Bool :=
  let word := String.ofList (asciiLower word)
  tableWords.contains word
    || (indexWords.contains word
      && match dialect with
        | .mySql | .sqlServer => true
        | .postgres | .sqlite => (trimStart rest).head? == some '(')

/-- The enumerated types declared so far, by name in small letters. -/
abbrev EnumTypes := Keyed (List String)

/-- The kind of column that a type makes where the enumerated types are
known. The name of an enumerated type may be qualified. -/
def kindOf (dialect : Dialect) (enums : EnumTypes) (type : TypeName) :
    ColumnKind :=
  match enums.find? (onString (afterLast '.') type.name) with
  | some values =>
    if type.array then type.columnKind dialect else .enum values
  | none => type.columnKind dialect

/-- Whether the constraints leave a column free to be empty. -/
def allowsNull (constraints : List Char) : Bool :=
  !containsPhrase "not" "null" constraints
    && !containsPhrase "primary" "key" constraints

/-- **The column that an item of a table body defines**; `none` if it defines
something else. -/
def columnSpec? (dialect : Dialect) (enums : EnumTypes)
    (item : List Char) : Option ColumnSpec := do
  let definition := trim item
  let (name, rest) ← columnName? definition
  let quoted := definition.head?.any fun c => (closingQuote? c).isSome
  if !quoted && definesNoColumn dialect name rest then none
  else
    let (type, constraints) := readTypeName rest
    some ⟨String.ofList name, kindOf dialect enums type,
      allowsNull constraints⟩

/-! ## Statements -/

/-- **The table that a statement creates.** -/
def tableDefinition? (dialect : Dialect) (enums : EnumTypes)
    (statement : List Char) : Option Operation := do
  let (name, text) ← tableHeader? statement
  let (body, _) ← group? text
  some (.createTable (String.ofList name)
    ((items body).filterMap (columnSpec? dialect enums)))

/-- The tables that statements create after some enumerated types have been
declared. -/
def definitions (dialect : Dialect) (enums : EnumTypes) :
    List (List Char) → List Operation
  | [] => []
  | statement :: rest =>
    match enumDefinition? statement with
    | some (name, values) =>
      definitions dialect
        (enums.insert (String.ofList (asciiLower name)) (arguments values)) rest
    | none =>
      (tableDefinition? dialect enums statement).toList
        ++ definitions dialect enums rest

/-- **The operations of a dump**: the tables it creates, in order. -/
def dumpOperations (dialect : Dialect) (dump : String) : List Operation :=
  definitions dialect .empty (statements dump.toList)

end SchemaTyping.Sql
