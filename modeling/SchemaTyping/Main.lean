import SchemaTyping.Command.Run

/-!
# The command line

The program reads from the disk the files that a command may ask for, makes a
file tree of them, and prints what the command answers. All else is decided by
`Invocation.run`.
-/

namespace SchemaTyping

/-- Takes over what is on the disk under the names from the root. -/
def FileTree.readEntry (tree : FileTree) (names : List String) :
    IO FileTree := do
  let path := (← IO.currentDir) / ("/" ++ "/".intercalate names)
  if ← path.isDir then return tree.write names .directory
  if ← path.pathExists then
    match String.fromUTF8? (← IO.FS.readBinFile path) with
    | some content => return tree.write names (.text content)
    | none => return tree.write names .binary
  return tree

/-- Takes over what is on the disk along a path. -/
def FileTree.readPath (tree : FileTree) (path : Path) : IO FileTree :=
  (List.range path.segments.length).foldlM (fun tree count =>
    match (path.segments.take (count + 1)).foldlM tree.step [] with
    | .ok names => if names.isEmpty then pure tree else tree.readEntry names
    | .error _ => pure tree) tree

/-- Takes over the files in a directory on the disk that have one of the
extensions. -/
def FileTree.readDirectory (tree : FileTree) (extensions : List String)
    (directory : Path) : IO FileTree := do
  let tree ← tree.readPath directory
  match tree.follow directory with
  | .ok names =>
    if !tree.isDirectory directory then return tree
    let entries ← ((← IO.currentDir) / directory.text).readDir
    let files := entries.toList.map (·.fileName)
    (files.filter fun name =>
      (Path.splitExtension name).2.any extensions.contains).foldlM
      (fun tree name => tree.readEntry (names ++ [name])) tree
  | .error _ => return tree

/-- Takes over the files of a project on the disk. -/
def FileTree.readProject (tree : FileTree) (project : Project) :
    IO FileTree := do
  let tree ← tree.readPath project.modelsFile
  let tree ← tree.readDirectory SchemaDump.extensions project.dumpDirectory
  project.migrationDirectories.foldlM
    (fun tree directory => tree.readDirectory Migration.extensions directory)
    tree

/-- What the program can be asked. -/
def helpText : String :=
  "\n".intercalate
    ["Usage: schemacast [OPTIONS] <COMMAND>",
      "",
      "Commands:",
      "  property <MODEL> <PROPERTY>  the types of one property",
      "  model <MODEL>                the inferred properties of a model",
      "  tables [TABLE]               the tables of the schema",
      "",
      "Options:",
      "  -c, --config <FILE>          the file of the configuration",
      "  --format <text|json>         how the answer is written",
      "  --no-color                   no styles in the answer",
      "  -v, --verbose                more messages",
      "  -h, --help                   this text",
      "  -V, --version                the version"]

/-- The name and version of the program. -/
def versionText : String := "schemacast 0.1.0"

/-- Ends a command line that is not carried out. -/
def endUsage (error : UsageError) : IO UInt32 := do
  match error with
  | .helpRequested => IO.println helpText; return 0
  | .versionRequested => IO.println versionText; return 0
  | error =>
    IO.eprintln ("error: " ++ error.message ++ "\n\n" ++ helpText)
    return 2

/-- Carries out a command line in the current directory. -/
def runHere (invocation : Invocation) : IO UInt32 := do
  let root : Path := ⟨toString (← IO.currentDir)⟩
  let configPath := (invocation.configPath? root).getD
    (root.join ⟨Config.fileName⟩)
  let tree ← FileTree.empty.readPath configPath
  let tree ← match Project.load tree root (some configPath) with
    | .ok project => tree.readProject project
    | .error _ => pure tree
  let styled := (← IO.getEnv "NO_COLOR").isNone && (← (← IO.getStdout).isTty)
  match invocation.run tree root styled with
  | .ok answer =>
    unless answer.isEmpty do IO.println answer
    return 0
  | .error failure =>
    IO.eprintln ("Error: " ++ failure.message)
    return 1

end SchemaTyping

/-- Runs the program on the words of a command line. -/
def main (words : List String) : IO UInt32 :=
  match SchemaTyping.Invocation.ofWords words with
  | .ok invocation => SchemaTyping.runHere invocation
  | .error usage => SchemaTyping.endUsage usage
