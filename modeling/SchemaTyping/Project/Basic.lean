import SchemaTyping.Project.Source

/-!
# Projects

A **project** is a root directory and a configuration. All paths of the
configuration are meant from the root. The models file may be missing; then
there are no models.
-/

namespace SchemaTyping

/-- **A project.** -/
structure Project where
  root : Path
  /-- The file that the configuration was read from. -/
  configPath : Path
  config : Config
  deriving DecidableEq, Repr

namespace Project

/-- **The project at a root**, with the configuration in the given file, or in
the usual one. -/
def load (tree : FileTree) (root : Path) (configPath : Option Path) :
    Except Failure Project := do
  let path := configPath.getD (root.join ⟨Config.fileName⟩)
  if tree.exists? path then
    .ok ⟨root, path, ← within .readingConfig (Config.ofFile tree path)⟩
  else .error ⟨[], .noConfig path⟩

/-- The directories of migrations. -/
def migrationDirectories (project : Project) : List Path :=
  project.config.migrationPaths.map fun path => project.root.join ⟨path⟩

/-- The directory of schema dumps. -/
def dumpDirectory (project : Project) : Path :=
  project.root.join ⟨project.config.dumpPath⟩

/-- The file that declares the models. -/
def modelsFile (project : Project) : Path :=
  project.root.join ⟨project.config.modelsFile⟩

/-- **The registry of a project.** -/
def registry (project : Project) (tree : FileTree) :
    Except Failure Registry :=
  if tree.exists? project.modelsFile then
    Registry.ofFile tree project.modelsFile
  else .ok .empty

/-- The operations of the schema dumps. -/
def dumpOperations (project : Project) (tree : FileTree) : List Operation :=
  if project.config.skipsDumps then []
  else SchemaDump.operationsIn tree project.config.dialect
    project.dumpDirectory

/-- The operations of the migrations. -/
def migrationOperations (project : Project) (tree : FileTree) :
    List Operation :=
  if project.config.skipsMigrations then []
  else Migration.operationsIn tree project.migrationDirectories

/-- **What inference draws on in a project**, with a registry. -/
def inference (project : Project) (tree : FileTree) (registry : Registry) :
    Inference :=
  .ofOperations project.config.dialect project.config.dateClass registry
    (project.dumpOperations tree) (project.migrationOperations tree)

end Project

end SchemaTyping
