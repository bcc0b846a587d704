import SchemaTyping.Dialect
import SchemaTyping.Document.Field
import SchemaTyping.Model.Cast

/-!
# Configurations

A project says in its **configuration** which dialect its dumps are in, where
its migrations, dumps and models are, and which class its dates have. Only
the version and the dialect have no default. Being well formed is not all: a
configuration is also checked for settings that make no sense
(`Config.problem?`).
-/

namespace SchemaTyping

open Document

/-- **The configuration of a project.** Paths are meant from the root of the
project. -/
structure Config where
  version : String := "1.0"
  dialect : Dialect
  /-- The directories of migrations. -/
  migrationPaths : List String := ["database/migrations"]
  /-- The directory of schema dumps. -/
  dumpPath : String := "database/schema"
  /-- The file that declares the models. -/
  modelsFile : String := "models.yaml"
  /-- The class of dates. -/
  dateClass : String := defaultDateClass
  /-- Whether the migrations are left out. -/
  skipsMigrations : Bool := false
  /-- Whether the schema dumps are left out. -/
  skipsDumps : Bool := false
  deriving DecidableEq, Repr

/-- What makes no sense in a configuration. -/
inductive ConfigProblem where
  | noVersion
  | noMigrationPath
  | blankDateClass
  deriving DecidableEq, Repr

/-- The problem in words. -/
def ConfigProblem.message : ConfigProblem → String
  | .noVersion => "Config file version is not specified"
  | .noMigrationPath =>
    "At least one migration path is required unless migration scanning is "
      ++ "disabled"
  | .blankDateClass => "date_class must not be empty"

namespace Config

/-- The name of the file in which a configuration is looked for. -/
def fileName : String := ".schemacast.yaml"

/-- **The first problem of a configuration**, if there is one. -/
def problem? (config : Config) : Option ConfigProblem :=
  if config.version.isEmpty then some .noVersion
  else if !config.skipsMigrations && config.migrationPaths.isEmpty then
    some .noMigrationPath
  else if (Text.trim config.dateClass.toList).isEmpty then some .blankDateClass
  else none

/-- Reads a configuration. -/
def ofNode (node : Node) : Except DocumentError Config := do
  let entries ← node.entriesOf "document"
  let version ← entries.required "version" Node.text?
  let dialect ← entries.required "dialect" (Node.named? Dialect.ofConfigName?)
  let default : Config := { dialect }
  let text (name : String) (value : String) :=
    entries.withDefault name Node.text? value
  .ok {
    version
    dialect
    migrationPaths :=
      ← entries.withDefault "migration_paths" Node.texts?
        default.migrationPaths
    dumpPath := ← text "schema_dump_path" default.dumpPath
    modelsFile := ← text "models_file" default.modelsFile
    dateClass := ← text "date_class" default.dateClass
    skipsMigrations :=
      ← entries.withDefault "disable_migration_scan" Node.bool? false
    skipsDumps :=
      ← entries.withDefault "disable_schema_scan" Node.bool? false }

/-- **The configuration of a document.** -/
def read (text : String) : Except DocumentError Config := do
  ofNode (← Node.read text)

end Config

end SchemaTyping
