import SchemaTyping.PropertyType.Printer
import SchemaTyping.Report.Basic
import SchemaTyping.Report.Style

/-!
# Reports as text

For a reader, a report is a heading and a line for each property or column.
The type to be assigned is shown only where it differs from the one that is
read. Styles are shown on request; without them the text is the same but for
the control sequences.
-/

namespace SchemaTyping

/-- The text with spaces behind it up to the given count of characters. -/
def padRight (width : Nat) (text : String) : String :=
  text ++ String.ofList (List.replicate (width - text.length) ' ')

/-- A type that is read. -/
def readableText (styled : Bool) (type : PropertyType) : String :=
  Style.green.paint styled (toString type)

/-- A type that may be assigned, after a gap, unless it is the one that is
read. -/
def writableSuffix (styled : Bool) (gap : String)
    (readable writable : PropertyType) : String :=
  if writable = readable then ""
  else gap ++ Style.dimmed.paint styled "write:" ++ " "
    ++ Style.cyan.paint styled (toString writable)

namespace PropertyReport

/-- The property with its class. -/
def name (report : PropertyReport) : String :=
  report.className ++ "::$" ++ report.property

/-- **The answer on one property as text.** -/
def text (styled : Bool) (report : PropertyReport) : String :=
  match report.types with
  | none =>
    Style.yellow.paint styled "✗" ++ " " ++ report.name
      ++ " is not inferred from the schema"
  | some types =>
    Style.bold.paint styled (report.name ++ "\n")
      ++ "  read:  " ++ readableText styled types.readable ++ "\n"
      ++ "  write: " ++ Style.cyan.paint styled (toString types.writable)

end PropertyReport

/-- The line of a property. -/
def PropertyRow.line (styled : Bool) (width : Nat) (row : PropertyRow) :
    String :=
  "  $" ++ padRight width row.name ++ "  "
    ++ readableText styled row.types.readable
    ++ writableSuffix styled "  " row.types.readable row.types.writable

namespace ModelReport

/-- The heading of the answer on a model. -/
def heading (styled : Bool) (report : ModelReport) : String :=
  Style.bold.paint styled report.className ++ " "
    ++ Style.dimmed.paint styled ("(table: " ++ report.table ++ ")")

/-- The room for names: the size in bytes of the longest one. -/
def nameWidth (report : ModelReport) : Nat :=
  (report.rows.map (·.name.utf8ByteSize)).foldl max 0

/-- **The answer on a model as text.** -/
def text (styled : Bool) (report : ModelReport) : String :=
  report.heading styled ++ "\n"
    ++ if report.rows.isEmpty then "  No inferable properties"
      else "\n".intercalate
        (report.rows.map (·.line styled report.nameWidth))

end ModelReport

/-- The line of a column. -/
def Column.line (styled : Bool) (column : Column) : String :=
  "  " ++ column.name ++ ": " ++ readableText styled column.readableType
    ++ writableSuffix styled " " column.readableType column.writableType
    ++ (if column.nullable then " " ++ Style.yellow.paint styled "nullable"
      else "")
    ++ if column.options.isEmpty then ""
      else " [" ++ ", ".intercalate column.options ++ "]"

/-- The lines of a table. -/
def TableReport.text (styled : Bool) (report : TableReport) : String :=
  "\n".intercalate
    (Style.bold.paint styled report.name
      :: report.columns.map (·.line styled))

/-- **The answer on tables as text.** -/
def TablesReport.text (styled : Bool) (report : TablesReport) : String :=
  if report.tables.isEmpty then "No tables found"
  else "\n\n".intercalate (report.tables.map (·.text styled))

end SchemaTyping
