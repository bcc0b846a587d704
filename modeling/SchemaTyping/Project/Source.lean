import SchemaTyping.Migration.Document
import SchemaTyping.Model.Document
import SchemaTyping.Project.Failure
import SchemaTyping.Sql.Dump
import SchemaTyping.Timestamp

/-!
# What a project reads

Configurations, models, migrations and schema dumps come from the files of a
tree. A configuration and the models have to be readable. Of migrations and
dumps, what cannot be read is left out: a directory that is not there and a
file that is no text or, in the case of a migration, no list of operations.

Migrations are put in order by their file names, whichever directory they are
in, because the names start with the time of the migration.
-/

namespace SchemaTyping

namespace FileTree

/-- The text of a file that has to be readable. -/
def readFile (tree : FileTree) (path : Path) : Except Failure String :=
  failing (fun error => .file (.unreadable path error)) (tree.read path)

/-- The text of a file that has to be there. -/
def readExisting (tree : FileTree) (path : Path) : Except Failure String :=
  if tree.exists? path then tree.readFile path
  else .error ⟨[], .file (.notFound path)⟩

end FileTree

namespace Config

/-- The configuration that a text describes. -/
def ofText (text : String) : Except Failure Config :=
  within .parsingConfig (failing .document (read text))

/-- Whether a configuration makes sense. -/
def check (config : Config) : Except Failure Unit :=
  match config.problem? with
  | some problem => .error ⟨[], .config problem⟩
  | none => .ok ()

/-- **The configuration in a file.** -/
def ofFile (tree : FileTree) (path : Path) : Except Failure Config := do
  let config ← ofText (← tree.readExisting path)
  within (.checkingConfig path) config.check
  .ok config

end Config

/-- A declaration with a text that is no type, as a failure. -/
def DeclarationError.failure : DeclarationError → Failure
  | .returnType className method error =>
    ⟨[.returnType className method], .typeText error⟩
  | .castClass className error => ⟨[.castClass className], .typeText error⟩

namespace Registry

/-- **The registry that a text describes.** -/
def ofText (text : String) : Except Failure Registry := do
  let declarations ←
    within .parsingModels (failing .document (Declarations.read text))
  (ofDeclarations declarations).mapError (·.failure)

/-- **The registry in a file.** -/
def ofFile (tree : FileTree) (path : Path) : Except Failure Registry := do
  let text ← tree.readExisting path
  within (.readingModels path) (ofText text)

/-- The model that a name means, which has to be there. -/
def findModel (registry : Registry) (name : String) : Except Failure String :=
  match registry.findModel? name with
  | some className => .ok className
  | none => .error ⟨[], .unknownModel name⟩

end Registry

/-! ## Migrations -/

/-- **A migration**: the operations in a file. -/
structure Migration where
  /-- The file name without its extension. -/
  version : String
  operations : List Operation
  deriving DecidableEq, Repr

namespace Migration

/-- The time that the version of a migration starts with. -/
def createdAt? (migration : Migration) : Option Timestamp :=
  Timestamp.ofVersion? migration.version

/-- **The migration in a file.** -/
def ofFile (tree : FileTree) (path : Path) : Except Failure Migration := do
  let text ← tree.readFile path
  let operations ←
    within (.parsingMigration path)
      (failing .document (Operation.readList text))
  .ok ⟨path.stem, operations⟩

/-- The extensions of files that hold a migration. -/
def extensions : List String := ["yaml", "yml"]

/-- The files of migrations in a directory, in the order of their paths. -/
def filesIn (tree : FileTree) (directory : Path) : List Path :=
  (tree.filesIn extensions directory).mergeSort Path.le

/-- The files of migrations in some directories, in order. -/
def files (tree : FileTree) (directories : List Path) : List Path :=
  (directories.flatMap (filesIn tree)).mergeSort Path.leByName

/-- The migration in a file, if it can be read. -/
def ofFile? (tree : FileTree) (path : Path) : Option Migration :=
  match ofFile tree path with
  | .ok migration => some migration
  | .error _ => none

/-- **The migrations in some directories**, in order. -/
def inDirectories (tree : FileTree) (directories : List Path) :
    List Migration :=
  (files tree directories).filterMap (ofFile? tree)

/-- The operations of the migrations in some directories, in order. -/
def operationsIn (tree : FileTree) (directories : List Path) :
    List Operation :=
  (inDirectories tree directories).flatMap (·.operations)

end Migration

/-! ## Schema dumps -/

namespace SchemaDump

/-- The extensions of files that hold a schema dump. -/
def extensions : List String := ["dump", "sql"]

/-- The files of schema dumps in a directory, in order. -/
def files (tree : FileTree) (directory : Path) : List Path :=
  (tree.filesIn extensions directory).mergeSort Path.le

/-- The text of a file, if it can be read. -/
def text? (tree : FileTree) (path : Path) : Option String :=
  match tree.read path with
  | .ok text => some text
  | .error _ => none

/-- **The operations of the schema dumps in a directory**, in order. -/
def operationsIn (tree : FileTree) (dialect : Dialect) (directory : Path) :
    List Operation :=
  ((files tree directory).filterMap (text? tree)).flatMap
    (Sql.dumpOperations dialect)

end SchemaDump

end SchemaTyping
