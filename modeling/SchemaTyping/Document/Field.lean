import SchemaTyping.Document.Scalar

/-!
# Fields of a document

A configuration or a declaration is a mapping with known keys. A field of it
is read as text, a truth value, a list or a mapping; keys that nothing asks
for are ignored.

Text is any scalar that is not nothing, quoted or not. An optional text may
be nothing, and a list or a mapping that is nothing has no items.
-/

namespace SchemaTyping.Document

/-- The entries of a mapping. -/
abbrev Entries := List (String × Node)

namespace Node

/-- Whether nothing is written. -/
def isNull : Node → Bool
  | .plain text => isNullText text
  | _ => false

/-- The text of a scalar that is not nothing. -/
def text? : Node → Option String
  | .plain text => if isNullText text then none else some text
  | .quoted text => some text
  | _ => none

/-- The text of a scalar, which may be nothing. -/
def optionalText? (node : Node) : Option (Option String) :=
  if node.isNull then some none else node.text?.map some

/-- The truth value of a scalar. -/
def bool? : Node → Option Bool
  | .plain text | .quoted text => readBool text
  | _ => none

/-- The items of a sequence, none of them if nothing is written. -/
def items? : Node → Option (List Node)
  | .sequence items => some items
  | node => if node.isNull then some [] else none

/-- The entries of a mapping, none of them if nothing is written. -/
def entries? : Node → Option Entries
  | .mapping entries => some entries
  | node => if node.isNull then some [] else none

/-- A list of texts. -/
def texts? (node : Node) : Option (List String) := do
  (← node.items?).mapM text?

/-- A mapping from names to texts. -/
def textEntries? (node : Node) : Option (List (String × String)) := do
  (← node.entries?).mapM fun (key, value) => value.text?.map (key, ·)

end Node

namespace Entries

/-- The field of that name, which has to be there and to be accepted. -/
def required {α : Type} (entries : Entries) (name : String)
    (read : Node → Option α) : Except DocumentError α :=
  match entries.lookup name with
  | none => .error (.missing name)
  | some node =>
    match read node with
    | some value => .ok value
    | none => .error (.unfit name)

/-- The field of that name, which has to be accepted if it is there. -/
def withDefault {α : Type} (entries : Entries) (name : String)
    (read : Node → Option α) (default : α) : Except DocumentError α :=
  match entries.lookup name with
  | none => .ok default
  | some node =>
    match read node with
    | some value => .ok value
    | none => .error (.unfit name)

/-- The list in the field of that name, its items read one by one; no items
if the field is not there. -/
def eachOf {α : Type} (entries : Entries) (name : String)
    (read : Node → Except DocumentError α) : Except DocumentError (List α) := do
  let items ← entries.withDefault name Node.items? []
  items.mapM read

end Entries

/-- The entries of a node that has to be a mapping or nothing. -/
def Node.entriesOf (node : Node) (name : String) :
    Except DocumentError Entries :=
  match node.entries? with
  | some entries => .ok entries
  | none => .error (.unfit name)

/-- What a scalar that names one of several things stands for. -/
def Node.named? {α : Type} (ofName? : String → Option α) (node : Node) :
    Option α :=
  node.text?.bind ofName?

end SchemaTyping.Document
