import SchemaTyping.Migration.Operation
import SchemaTyping.Proofs.Sql.Sealed
import SchemaTyping.Sql.ColumnMapping

/-!
# Tables as a dump describes them

A **description** is what a dump says of a table: its name and those of the
schemas around it, and for each column the name, the type with its arguments,
the sign, and whether it may be empty. It says how each name is quoted too, so
a description has one text, `chars`.

Every description can be written down: what no dump could hold – a quoted name
with its own quote in it, a type whose name says something else – is no
description. A quoted name may hold anything else, semicolons, brackets and
the marks of comments included, and so may an argument, apart from the
backslash. The text of a description is sealed all the same.

```
CREATE TABLE `app`.orders ("a;(b" enum('new','it''s') NOT NULL, `n` int(11) unsigned);
```
-/

namespace SchemaTyping.Sql

open Text

/-! ## Names -/

/-- A word of ASCII letters, digits and underscores. -/
structure Word where
  chars : List Char
  ne_nil : chars ≠ []
  isWord : ∀ c ∈ chars, isAsciiWord c = true

/-- The quotes of a name. -/
inductive NameQuote where
  | double
  | back
  deriving DecidableEq, Repr

/-- The character that opens and closes a quoted name. -/
def NameQuote.mark : NameQuote → Char
  | .double => '"'
  | .back => backquote

/-- A part of the name of a table: a word, perhaps in quotes. -/
structure NamePart where
  word : Word
  quote : Option NameQuote

/-- The text of a part of a name. -/
def NamePart.chars (part : NamePart) : List Char :=
  match part.quote with
  | none => part.word.chars
  | some quote => quote.mark :: (part.word.chars ++ [quote.mark])

/-- A name and the names of the schemas around what it names. -/
structure QualifiedName where
  qualifiers : List NamePart
  name : NamePart

/-- The text of a qualified name. -/
def QualifiedName.chars (name : QualifiedName) : List Char :=
  name.qualifiers.flatMap (·.chars ++ ['.']) ++ name.name.chars

/-- The name of a column in quotes. Its text may be anything in which the
quote does not occur. -/
structure QuotedName where
  name : List Char
  quote : NameQuote
  not_mem : quote.mark ∉ name

/-- The text of a quoted name. -/
def QuotedName.chars (name : QuotedName) : List Char :=
  name.quote.mark :: (name.name ++ [name.quote.mark])

/-! ## Types -/

/-- An argument of a type: a number, or a text in quotes. -/
inductive Argument where
  | number (digits : List Char) (ne_nil : digits ≠ [])
      (isDigit : ∀ c ∈ digits, c.isDigit = true)
  | text (value : List Char) (ne_nil : value ≠ [])
      (no_backslash : '\\' ∉ value)

/-- The text of an argument, in which quotes are doubled. -/
def Argument.chars : Argument → List Char
  | .number digits _ _ => digits
  | .text value _ _ => enquoted '\'' value

/-- What an argument says. -/
def Argument.value : Argument → List Char
  | .number digits _ _ => digits
  | .text value _ _ => value

/-- The words that do not name a type: those that start a constraint, those
that start the character set of a column, and those that modify a type. -/
def reservedWords : List String :=
  constraintWords ++ ["character", "charset"] ++ typeModifiers

/-- The name of a type: a word that is not reserved, in any case of
letters. -/
structure TypeWord extends Word where
  not_reserved : String.ofList (asciiLower chars) ∉ reservedWords

/-! ## Columns and tables -/

/-- **The description of a column.** -/
structure ColumnText where
  name : QuotedName
  type : TypeWord
  /-- What stands in brackets after the type, if there are brackets. -/
  arguments : Option (List Argument)
  unsigned : Bool
  notNull : Bool

namespace ColumnText

variable (column : ColumnText)

/-- The texts of the arguments, with commas between them. -/
def argumentChars (arguments : List Argument) : List Char :=
  [','].intercalate (arguments.map (·.chars))

/-- What follows the name of the type. -/
def groupChars : List Char :=
  match column.arguments with
  | none => []
  | some arguments => '(' :: (argumentChars arguments ++ [')'])

/-- What follows the type. -/
def flagChars : List Char :=
  (if column.unsigned then " unsigned".toList else [])
    ++ (if column.notNull then " NOT NULL".toList else [])

/-- **The text of a column.** -/
def chars : List Char :=
  column.name.chars
    ++ ' ' :: (column.type.chars ++ (column.groupChars ++ column.flagChars))

/-- The type that is described. -/
def typeName : TypeName where
  name := String.ofList (asciiLower column.type.chars)
  arguments :=
    (column.arguments.getD []).map fun argument =>
      String.ofList argument.value
  unsigned := column.unsigned

/-- **The column that is described**, in the dialect. -/
def spec (dialect : Dialect) : ColumnSpec where
  name := String.ofList column.name.name
  kind := column.typeName.columnKind dialect
  nullable := !column.notNull

end ColumnText

/-- **The description of a table.** -/
structure TableText where
  /-- The names of the schemas around the table. -/
  qualifiers : List NamePart
  name : NamePart
  columns : List ColumnText

namespace TableText

variable (table : TableText)

/-- The qualified name. -/
def nameChars : List Char :=
  table.qualifiers.flatMap (·.chars ++ ['.']) ++ table.name.chars

/-- The name of the table, with the schemas around it. -/
def qualifiedName : QualifiedName := ⟨table.qualifiers, table.name⟩

/-- The texts of the columns, with commas between them. -/
def body : List Char :=
  [',', ' '].intercalate (table.columns.map (·.chars))

/-- **The text of a table**: the statement that creates it. -/
def chars : List Char :=
  "CREATE TABLE ".toList
    ++ (table.nameChars ++ ' ' :: '(' :: (table.body ++ [')']))

/-- **The table that is described**, without the schemas around it. -/
def operation (dialect : Dialect) : Operation :=
  .createTable (String.ofList table.name.word.chars)
    (table.columns.map (·.spec dialect))

end TableText

/-- **The dump of some tables**: each statement with its semicolon, on a line
of its own. -/
def dumpText (tables : List TableText) : String :=
  String.ofList (['\n'].intercalate (tables.map (·.chars ++ [';'])))

/-! ## The texts are sealed -/

theorem isInert_of_isAsciiWord {c : Char} (h : isAsciiWord c = true) :
    isInert c = true := by
  have hnone : (['\'', '"', backquote] ++ structural).all (!isAsciiWord ·)
      = true := by decide
  have hc : c ∉ ['\'', '"', backquote] ++ structural := by
    intro hmem
    have hword := List.all_eq_true.mp hnone c hmem
    rw [h] at hword
    cases hword
  simpa [isInert, isQuote, structural, and_assoc] using hc

theorem isQuote_mark (quote : NameQuote) : isQuote quote.mark = true := by
  cases quote <;> rfl

theorem mark_ne_apostrophe (quote : NameQuote) : quote.mark ≠ '\'' := by
  cases quote <;> decide

theorem noQuoteAhead_of_isInert {text : List Char}
    (h : ∀ c ∈ text, isInert c = true) : NoQuoteAhead text :=
  fun c hc => (of_isInert (h c (List.mem_of_head? hc))).1

variable {commas : Bool}

theorem Word.isInert (word : Word) : ∀ c ∈ word.chars, isInert c = true :=
  fun c hc => isInert_of_isAsciiWord (word.isWord c hc)

theorem QuotedName.chars_eq (name : QuotedName) :
    name.chars = enquoted name.quote.mark name.name := by
  unfold chars enquoted
  rw [doubled_eq_self name.not_mem]

theorem QuotedName.sealed (name : QuotedName) : Sealed commas name.chars := by
  rw [name.chars_eq]
  exact .of_enquoted (isQuote_mark _)
    fun h => absurd h (mark_ne_apostrophe name.quote)

theorem QuotedName.solid (name : QuotedName) : Solid name.chars := by
  rw [name.chars_eq]
  exact solid_enquoted (by cases name.quote <;> decide) name.name

/-- A quoted word is a quoted name. -/
def Word.quoted (word : Word) (quote : NameQuote) : QuotedName where
  name := word.chars
  quote := quote
  not_mem := fun h =>
    Bool.false_ne_true ((of_isInert (word.isInert _ h)).1.symm.trans
      (isQuote_mark quote))

theorem NamePart.sealed (part : NamePart) : Sealed commas part.chars := by
  unfold chars
  cases part.quote with
  | none => exact .of_inert part.word.isInert
  | some quote => exact (part.word.quoted quote).sealed

theorem QualifiedName.sealed_append (name : QualifiedName) {rest : List Char}
    (hrest : Sealed commas rest) (hahead : NoQuoteAhead rest) :
    Sealed commas (name.chars ++ rest) := by
  unfold chars
  rw [List.append_assoc]
  induction name.qualifiers with
  | nil => exact name.name.sealed.append hrest hahead
  | cons part parts ih =>
    rw [List.flatMap_cons, List.append_assoc, List.append_assoc]
    exact part.sealed.append (.inert rfl ih) (noQuoteAhead_cons rfl _)

theorem Argument.sealed (argument : Argument) :
    Sealed commas argument.chars := by
  cases argument with
  | number digits ne_nil isDigit =>
    exact .of_inert fun c hc =>
      isInert_of_isAsciiWord (isAsciiWord_of_isDigit (isDigit c hc))
  | text value ne_nil no_backslash =>
    exact .of_enquoted rfl fun _ => no_backslash

namespace ColumnText

theorem argumentChars_sealed (arguments : List Argument) :
    Sealed true (argumentChars arguments) :=
  .intercalate (List.forall_mem_nil _)
    (List.forall_mem_map.mpr fun argument _ => argument.sealed)

variable (column : ColumnText)

theorem groupChars_sealed : Sealed commas column.groupChars := by
  unfold groupChars
  cases column.arguments with
  | none => exact .nil commas
  | some arguments =>
    exact .group (argumentChars_sealed arguments) (.nil commas)

theorem flagChars_isInert : ∀ c ∈ column.flagChars, isInert c = true := by
  unfold flagChars
  refine List.all_eq_true.mp ?_
  cases column.unsigned <;> cases column.notNull <;> decide

/-- **The text of a column is sealed**, and no comma in it parts a list. -/
theorem sealed : Sealed commas column.chars := by
  have hflags := column.flagChars_isInert
  have htype : Sealed commas
      (column.type.chars ++ (column.groupChars ++ column.flagChars)) :=
    .inert_append column.type.isInert
      (column.groupChars_sealed.append (.of_inert hflags)
        (noQuoteAhead_of_isInert hflags))
  exact column.name.sealed.append (.inert rfl htype)
    (noQuoteAhead_cons rfl _)

end ColumnText

namespace TableText

theorem body_sealed (table : TableText) : Sealed true table.body :=
  .intercalate (List.forall_mem_singleton.mpr rfl)
    (List.forall_mem_map.mpr fun column _ => column.sealed)

/-- **The text of a table is sealed**: no semicolon in it ends the
statement. -/
theorem sealed (table : TableText) : Sealed true table.chars :=
  .inert_append (List.all_eq_true.mp (by decide))
    (table.qualifiedName.sealed_append
      (.inert rfl (.group table.body_sealed (.nil true)))
      (noQuoteAhead_cons rfl _))

end TableText

end SchemaTyping.Sql
