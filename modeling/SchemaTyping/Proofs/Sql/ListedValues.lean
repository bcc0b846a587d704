import SchemaTyping.Proofs.Sql.ColumnLine
import SchemaTyping.Proofs.Sql.HeaderReading

/-!
# The values of a list in a dump

The values of an `enum` or a `set` stand behind the type of a column, or in
the definition of a type that a column names. They pass through every reader
of the dump: the scanner that finds the end of the statement, the search for
the bracket of the body, the cut at commas, the reader of types, and the one
that takes off the quotes. Anything but a backslash may stand in a value, and
around it stand the items of a table of which nothing is known.

`dumpOperations_values` says what becomes of them. Every value that is not
empty comes back, unchanged and in its place; an empty one is lost, because
what has no characters left without its quotes counts for no argument.

```
CREATE TYPE app.mood AS ENUM ('it''s; (a, b', '--');
CREATE TABLE t ("c" app.Mood NOT NULL, d set('x','y') DEFAULT 'x');
```
-/

namespace SchemaTyping.Sql

open Text

/-! ## Dumps of any statements -/

/-- The dump of some statements, each with its semicolon, on a line of its
own. -/
def dumpOf (statements : List (List Char)) : String :=
  String.ofList (['\n'].intercalate (statements.map (· ++ [';'])))

/-- **A dump is read statement by statement**, if no semicolon in them ends
one too early. -/
theorem dumpOperations_dumpOf (dialect : Dialect) {texts : List (List Char)}
    (h : ∀ text ∈ texts, Sealed true text ∧ Solid text) :
    dumpOperations dialect (dumpOf texts) = definitions dialect .empty texts := by
  have htrim : texts.map trim = texts :=
    (List.map_congr_left fun text hmem => (h text hmem).2.trim_eq).trans
      (List.map_id texts)
  have hstatements := statements_intercalate fun text hmem =>
    ⟨(h text hmem).1, by
      rw [(h text hmem).2.trim_eq]
      exact (h text hmem).2.ne_nil⟩
  unfold dumpOperations dumpOf
  rw [String.toList_ofList, hstatements, htrim]

theorem solid_create : Solid "CREATE".toList :=
  .of_forall (by decide) (eq_false_of_all (by decide))

/-! ## Tables -/

/-- **An item of the body of a table**: any text that brings its own quotes
and brackets to an end. -/
structure BodyItem where
  chars : List Char
  isSealed : Sealed false chars

/-- What stands behind the body of a table. -/
structure TableOptions where
  chars : List Char
  isSealed : Sealed true chars
  ends : EndsSolid chars

/-- The columns that some items define. -/
def columnsOf (dialect : Dialect) (enums : EnumTypes) (items : List BodyItem) :
    List ColumnSpec :=
  items.filterMap (columnSpec? dialect enums ·.chars)

/-- **A table with any items** in its body. -/
structure TableLines where
  name : QualifiedName
  entries : List BodyItem
  options : TableOptions

namespace TableLines

variable (table : TableLines)

/-- The items with commas between them. -/
def body : List Char := [',', ' '].intercalate (table.entries.map (·.chars))

/-- **The text of a table**: the statement that creates it. -/
def chars : List Char :=
  "CREATE TABLE ".toList
    ++ (table.name.chars ++ ' ' :: '(' :: (table.body ++ ')' :: table.options.chars))

/-- **The table that is created**, where the enumerated types are known. -/
def operation (dialect : Dialect) (enums : EnumTypes) : Operation :=
  .createTable (String.ofList table.name.name.word.chars)
    (columnsOf dialect enums table.entries)

theorem body_sealed : Sealed true table.body :=
  .intercalate (List.forall_mem_singleton.mpr rfl)
    (List.forall_mem_map.mpr fun item _ => item.isSealed.allow_commas)

theorem sealed : Sealed true table.chars :=
  .inert_append (List.all_eq_true.mp (by decide))
    (table.name.sealed_append
      (.inert rfl (.group table.body_sealed table.options.isSealed))
      (noQuoteAhead_cons rfl _))

theorem solid : Solid table.chars := by
  have hclose : Solid [')'] := .singleton (by decide)
  have hend : EndsSolid (')' :: table.options.chars) :=
    hclose.ends.append table.options.ends
  have hchars : table.chars = "CREATE".toList ++ (" TABLE ".toList
      ++ table.name.chars ++ ' ' :: '(' :: table.body
        ++ ')' :: table.options.chars) := by
    unfold chars
    rw [show "CREATE TABLE ".toList = "CREATE".toList ++ " TABLE ".toList from rfl]
    simp only [List.append_assoc, List.cons_append]
  rw [hchars]
  exact solid_create.append _ ⟨List.cons_ne_nil _ _, hclose.starts, hend⟩

/-- **The columns of a body** are those of its items. -/
theorem filterMap_items_body (dialect : Dialect) (enums : EnumTypes) :
    (items table.body).filterMap (columnSpec? dialect enums)
      = columnsOf dialect enums table.entries := by
  unfold body columnsOf
  rw [filterMap_items (List.forall_mem_map.mpr fun entry _ => entry.isSealed),
    List.filterMap_map]
  rfl

/-- **The statement of a table** creates it. -/
theorem tableDefinition?_chars (dialect : Dialect) (enums : EnumTypes) :
    tableDefinition? dialect enums table.chars
      = some (table.operation dialect enums) := by
  unfold tableDefinition? chars
  rw [tableHeader?_append, Option.bind_eq_bind, Option.bind_some]
  dsimp only
  rw [table.body_sealed.group?_eq, Option.bind_some]
  dsimp only
  rw [table.filterMap_items_body]
  rfl

theorem definitions_chars_cons (dialect : Dialect) (enums : EnumTypes)
    (statements : List (List Char)) :
    definitions dialect enums (table.chars :: statements)
      = table.operation dialect enums :: definitions dialect enums statements := by
  have hnone : enumDefinition? table.chars = none := rfl
  rw [definitions, hnone]
  dsimp only
  rw [table.tableDefinition?_chars]
  rfl

end TableLines

/-! ## Enumerated types -/

/-- **The description of an enumerated type.** -/
structure EnumText where
  name : QualifiedName
  values : List Literal

namespace EnumText

variable (type : EnumText)

/-- **The text of an enumerated type**: the statement that creates it. -/
def chars : List Char :=
  "CREATE TYPE ".toList
    ++ (type.name.chars ++ ' ' :: ("AS ENUM (".toList
      ++ (literalChars type.values ++ [')'])))

/-- The name by which a column finds the type. -/
def key : String := String.ofList (asciiLower type.name.name.word.chars)

/-- The enumerated types once this one has been declared, too. -/
def declaredIn (enums : EnumTypes) : EnumTypes :=
  enums.insert type.key (keptValues type.values)

theorem sealed : Sealed true type.chars := by
  have hend : Sealed true ("AS ENUM ".toList
      ++ '(' :: (literalChars type.values ++ [')'])) :=
    .inert_append (List.all_eq_true.mp (by decide))
      (.group (literalChars_sealed type.values) (.nil true))
  exact .inert_append (List.all_eq_true.mp (by decide))
    (type.name.sealed_append (.inert rfl hend) (noQuoteAhead_cons rfl _))

theorem solid : Solid type.chars := by
  have hclose : Solid [')'] := .singleton (by decide)
  have hchars : type.chars = "CREATE".toList ++ (" TYPE ".toList
      ++ type.name.chars ++ ' ' :: "AS ENUM (".toList
        ++ literalChars type.values ++ [')']) := by
    unfold chars
    rw [show "CREATE TYPE ".toList = "CREATE".toList ++ " TYPE ".toList from rfl]
    simp only [List.append_assoc, List.cons_append]
  rw [hchars]
  exact solid_create.append _ hclose

/-- **The statement of a type** declares it, with the values that are not
empty. -/
theorem definitions_chars_cons (dialect : Dialect) (enums : EnumTypes)
    (statements : List (List Char)) :
    definitions dialect enums (type.chars :: statements)
      = definitions dialect (type.declaredIn enums) statements := by
  unfold chars
  rw [definitions, enumDefinition?_append]
  dsimp only
  rw [arguments_literalChars]
  rfl

end EnumText

/-! ## Columns with values -/

/-- The types that list their values. -/
inductive ListType where
  | enum
  | set
  deriving DecidableEq, Repr

/-- The keyword of such a type, in small letters. -/
def ListType.keyword : ListType → String
  | .enum => "enum"
  | .set => "set"

/-- The kind of column that such a type makes. -/
def ListType.kind : ListType → List String → ColumnKind
  | .enum => .enum
  | .set => .set

/-- No dialect has another meaning for the keyword. -/
theorem ListType.columnKind_eq (list : ListType) (values : List String)
    (dialect : Dialect) :
    ({ name := list.keyword, arguments := values } : TypeName).columnKind dialect
      = list.kind values := by
  let type : TypeName := { name := list.keyword, arguments := values }
  have hnumeric : list.keyword ≠ "numeric" := by cases list <;> decide
  have hinteger : (containsText "int".toList list.keyword.toList
      && !containsText "point".toList list.keyword.toList) = false := by
    cases list <;> decide
  have hdialect : type.dialectKind? dialect = none := by
    cases dialect with
    | postgres | mySql | sqlServer => cases list <;> rfl
    | sqlite =>
      show (if (containsText "int".toList list.keyword.toList
        && !containsText "point".toList list.keyword.toList) = true then _
          else if list.keyword = "numeric" ∧ values = [] then _ else none) = none
      rw [hinteger, if_neg Bool.false_ne_true, if_neg fun h => hnumeric h.1]
  have hshared : type.sharedKind? = some (list.kind values) := by
    cases list <;> rfl
  show (type.dialectKind? dialect <|> type.sharedKind?).getD _ = _
  rw [hdialect, hshared]
  rfl

/-- **A column that lists its values.** The keyword may have letters of any
case. -/
structure ListedColumn where
  label : ColumnLabel
  list : ListType
  keyword : Word
  isKeyword : asciiLower keyword.chars = list.keyword.toList
  values : List Literal
  constraints : Option Constraints

namespace ListedColumn

variable (column : ListedColumn)

/-- The line of the column. -/
def line : ColumnLine where
  label := column.label
  qualifiers := []
  type := {
    toWord := column.keyword
    not_reserved := by
      rw [column.isKeyword, String.ofList_toList]
      cases column.list <;> decide }
  values := some column.values
  constraints := column.constraints

/-- **The column that is described**: its kind has the values that are not
empty. -/
def spec : ColumnSpec where
  name := String.ofList column.label.name
  kind := column.list.kind (keptValues column.values)
  nullable := allowsNull column.line.constraintChars

theorem typeName_line : column.line.typeName
    = { name := column.list.keyword, arguments := keptValues column.values } := by
  have hname : String.ofList (asciiLower column.keyword.chars)
      = column.list.keyword := by
    rw [column.isKeyword, String.ofList_toList]
  rw [← hname]
  rfl

/-- A line with listed values is read with those that are not empty, as long
as no type is declared that has the keyword for its name. -/
theorem spec_line (dialect : Dialect) :
    column.line.spec dialect .empty = column.spec := by
  have hkind : kindOf dialect .empty column.line.typeName
      = column.list.kind (keptValues column.values) := by
    rw [column.typeName_line]
    exact column.list.columnKind_eq (keptValues column.values) dialect
  unfold ColumnLine.spec
  rw [hkind]
  rfl

end ListedColumn

/-- **A column of an enumerated type**, which it names with letters of any
case. -/
structure EnumColumn (type : EnumText) where
  line : ColumnLine
  names_type : String.ofList (asciiLower line.type.chars) = type.key

namespace EnumColumn

variable {type : EnumText} (column : EnumColumn type)

/-- **The column that is described**: its kind has the values of the type. -/
def spec : ColumnSpec where
  name := String.ofList column.line.label.name
  kind := .enum (keptValues type.values)
  nullable := allowsNull column.line.constraintChars

theorem spec_line (dialect : Dialect) (enums : EnumTypes) :
    column.line.spec dialect (type.declaredIn enums) = column.spec := by
  have hname : onString (afterLast '.') column.line.typeName.name = type.key := by
    rw [← column.names_type]
    show String.ofList (afterLast '.' (String.ofList _).toList) = _
    rw [String.toList_ofList, afterLast_typeChars]
  have hkind : kindOf dialect (type.declaredIn enums) column.line.typeName
      = .enum (keptValues type.values) := by
    unfold kindOf EnumText.declaredIn
    rw [hname, Keyed.find?_insert_self]
    rfl
  unfold ColumnLine.spec
  rw [hkind]
  rfl

end EnumColumn

/-! ## The values that come back -/

section Values

variable (dialect : Dialect) (name : QualifiedName)
  (before after : List BodyItem) (options : TableOptions)

/-- A line as an item of a body. -/
def ColumnLine.item (line : ColumnLine) : BodyItem := ⟨line.chars, line.sealed⟩

/-- The columns of a body around a line. -/
theorem columnsOf_around (enums : EnumTypes) (line : ColumnLine) :
    columnsOf dialect enums (before ++ line.item :: after)
      = columnsOf dialect enums before ++ line.spec dialect enums
          :: columnsOf dialect enums after := by
  have hline : columnSpec? dialect enums line.item.chars
      = some (line.spec dialect enums) :=
    line.columnSpec?_of_trim line.solid.trim_eq
  unfold columnsOf
  rw [List.filterMap_append, List.filterMap_cons, hline]

/-- **The values in the line of a column** that are not empty come back in
order. -/
theorem dumpOperations_listedColumn (column : ListedColumn) :
    dumpOperations dialect
        (dumpOf [(TableLines.mk name (before ++ column.line.item :: after)
          options).chars])
      = [.createTable (String.ofList name.name.word.chars)
          (columnsOf dialect .empty before
            ++ column.spec :: columnsOf dialect .empty after)] := by
  rw [dumpOperations_dumpOf dialect (List.forall_mem_singleton.mpr
      ⟨TableLines.sealed _, TableLines.solid _⟩),
    TableLines.definitions_chars_cons, TableLines.operation, columnsOf_around,
    column.spec_line]
  rfl

/-- **The values of a declared type** that are not empty come back in order in
every column of that type. -/
theorem dumpOperations_enumColumn (type : EnumText) (column : EnumColumn type) :
    dumpOperations dialect
        (dumpOf [type.chars,
          (TableLines.mk name (before ++ column.line.item :: after)
            options).chars])
      = [.createTable (String.ofList name.name.word.chars)
          (columnsOf dialect (type.declaredIn .empty) before
            ++ column.spec :: columnsOf dialect (type.declaredIn .empty) after)] := by
  rw [dumpOperations_dumpOf dialect (List.forall_mem_cons.mpr
      ⟨⟨type.sealed, type.solid⟩, List.forall_mem_singleton.mpr
        ⟨TableLines.sealed _, TableLines.solid _⟩⟩),
    type.definitions_chars_cons, TableLines.definitions_chars_cons,
    TableLines.operation, columnsOf_around, column.spec_line]
  rfl

/-- **Listed values come back from the dump** in order, each as it was written,
but for the empty ones: those of an `enum` or a `set` in the column itself, and
those of a declared type in each column of that type. So all of them come back
if none is empty, and only then. -/
theorem dumpOperations_values :
    (∀ column : ListedColumn,
      dumpOperations dialect
          (dumpOf [(TableLines.mk name (before ++ column.line.item :: after)
            options).chars])
        = [.createTable (String.ofList name.name.word.chars)
            (columnsOf dialect .empty before
              ++ column.spec :: columnsOf dialect .empty after)])
    ∧ (∀ (type : EnumText) (column : EnumColumn type),
      dumpOperations dialect
          (dumpOf [type.chars,
            (TableLines.mk name (before ++ column.line.item :: after)
              options).chars])
        = [.createTable (String.ofList name.name.word.chars)
            (columnsOf dialect (type.declaredIn .empty) before
              ++ column.spec :: columnsOf dialect (type.declaredIn .empty) after)])
    ∧ ∀ literals : List Literal,
      keptValues literals = literals.map (·.value)
        ↔ ∀ literal ∈ literals, literal.value ≠ "" :=
  ⟨dumpOperations_listedColumn dialect name before after options,
    dumpOperations_enumColumn dialect name before after options,
    fun _ => keptValues_eq_iff⟩

/-- An empty value is lost, in a column and in a type alike. -/
theorem dumpOperations_empty_value :
    dumpOperations .mySql "CREATE TABLE t (\"c\" enum('','a'));"
        = [.createTable "t" [⟨"c", .enum ["a"], true⟩]]
      ∧ dumpOperations .postgres
          "CREATE TYPE mood AS ENUM ('','a');\nCREATE TABLE t (\"c\" mood);"
        = [.createTable "t" [⟨"c", .enum ["a"], true⟩]] := by
  let word (chars : List Char) (hne : chars ≠ [])
    (hword : chars.all isAsciiWord = true) : Word :=
    ⟨chars, hne, List.all_eq_true.mp hword⟩
  let table : QualifiedName := ⟨[], ⟨word ['t'] (by decide) rfl, none⟩⟩
  let label : ColumnLabel := .quoted ⟨['c'], .double, by decide⟩
  let values : List Literal := [⟨"", by decide⟩, ⟨"a", by decide⟩]
  let options : TableOptions := ⟨[], .nil true, nofun⟩
  have hlisted := dumpOperations_listedColumn .mySql table [] [] options
    ⟨label, .enum, word "enum".toList (by decide) rfl, rfl, values, none⟩
  let mood : Word := word "mood".toList (by decide) rfl
  have hdeclared := dumpOperations_enumColumn .postgres table [] [] options
    ⟨⟨[], ⟨mood, none⟩⟩, values⟩
    ⟨⟨label, [], ⟨mood, by decide⟩, none, none⟩, rfl⟩
  exact ⟨hlisted, hdeclared⟩

end Values

end SchemaTyping.Sql
