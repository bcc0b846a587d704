import SchemaTyping.Document.Field
import SchemaTyping.Migration.Encoding

/-!
# Documents of migrations

A document of a migration lists operations under the key `operations`. The
operations are read as typed values: a name that reads as a number or as a
truth value has to be in quotes.
-/

namespace SchemaTyping

open Document

namespace Operation

/-- Reads an operation of a document. -/
def ofNode (node : Node) : Except DocumentError Operation :=
  match ofValue? node.toValue with
  | some operation => .ok operation
  | none => .error (.unfit "operations")

/-- Reads the operations of a document. -/
def listOfNode (node : Node) : Except DocumentError (List Operation) := do
  (← node.entriesOf "document").eachOf "operations" ofNode

/-- **The operations of a document.** Blank text has none. -/
def readList (text : String) : Except DocumentError (List Operation) := do
  if (Text.trim text.toList).isEmpty then .ok []
  else listOfNode (← Node.read text)

end Operation

end SchemaTyping
