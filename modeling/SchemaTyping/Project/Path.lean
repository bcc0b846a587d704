import SchemaTyping.Text.Basic

/-!
# Paths

A **path** is kept as it is written. What it is made of are its components:
a slash repeated, a slash at the end and a dot that is not the first component
say nothing. Paths are put in order by their components, so that what lies
below a directory comes before a longer name beside the directory.
-/

namespace SchemaTyping

/-- **A path** to a file or a directory. -/
structure Path where
  text : String
  deriving DecidableEq, Repr, Inhabited

/-- A component of a path. -/
inductive Component where
  | root
  /-- The directory itself. -/
  | here
  /-- The directory above. -/
  | above
  | name (name : String)
  deriving DecidableEq, Repr

namespace Component

/-- The rank of a kind of component in the order. -/
def rank : Component → Nat
  | .root => 0
  | .here => 1
  | .above => 2
  | .name _ => 3

/-- The order of components: by kind, and names by their text. -/
def le : Component → Component → Bool
  | .name a, .name b => a ≤ b
  | a, b => a.rank ≤ b.rank

end Component

/-- The order of lists, from the order of their items. -/
def lexLe {α : Type} [DecidableEq α] (le : α → α → Bool) :
    List α → List α → Bool
  | [], _ => true
  | _ :: _, [] => false
  | a :: as, b :: bs => if a = b then lexLe le as bs else le a b

namespace Path

instance : ToString Path := ⟨text⟩

/-- What stands between the slashes of a text. -/
def piecesOf : List Char → List (List Char)
  | [] => [[]]
  | c :: rest =>
    if c = '/' then [] :: piecesOf rest else Text.prepend c (piecesOf rest)

/-- What stands between the slashes of a path. -/
def segments (path : Path) : List String :=
  (piecesOf path.text.toList).map String.ofList

/-- Whether a path starts at the root. -/
def isAbsolute (path : Path) : Bool := path.text.toList.head? == some '/'

/-- The component that a segment is, except for a dot. -/
def componentOf? (segment : String) : Option Component :=
  if segment = "" ∨ segment = "." then none
  else if segment = ".." then some .above
  else some (.name segment)

/-- **The components of a path.** -/
def components (path : Path) : List Component :=
  let rest := path.segments.filterMap componentOf?
  if path.isAbsolute then .root :: rest
  else if path.segments.head? = some "." then .here :: rest
  else rest

/-- A path below a directory. An absolute path stays as it is. -/
def join (base path : Path) : Path :=
  if path.isAbsolute then path
  else if base.text.isEmpty || base.text.toList.getLast? == some '/' then
    ⟨base.text ++ path.text⟩
  else ⟨base.text ++ "/" ++ path.text⟩

/-- The name at the end of a path. -/
def fileName? (path : Path) : Option String :=
  match path.components.getLast? with
  | some (.name name) => some name
  | _ => none

/-- A file name without its extension, and the extension. A point at the start
of the name starts no extension. -/
def splitExtension (name : String) : String × Option String :=
  match Text.cutLast '.' name.toList with
  | some ([], _) | none => (name, none)
  | some (stem, extension) =>
    (String.ofList stem, some (String.ofList extension))

/-- The file name without its extension. -/
def stem (path : Path) : String :=
  (path.fileName?.map fun name => (splitExtension name).1).getD ""

/-- The extension of the file name. -/
def extension? (path : Path) : Option String :=
  path.fileName?.bind fun name => (splitExtension name).2

/-- **The order of paths**, component by component. -/
def le (a b : Path) : Bool := lexLe Component.le a.components b.components

/-- The order of files by their names, those of one name by their paths. -/
def leByName (a b : Path) : Bool :=
  if a.fileName? = b.fileName? then a.le b
  else a.fileName?.getD "" ≤ b.fileName?.getD ""

end Path

end SchemaTyping
