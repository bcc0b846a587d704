import SchemaTyping.Command.Arguments
import SchemaTyping.Project.Basic
import SchemaTyping.Report.Json
import SchemaTyping.Report.Printer

/-!
# Carrying out a command

A command loads the project, asks the inference for a report, and writes the
report down. It reads from a file tree and gives a text, so that all of it is
a function of the tree.
-/

namespace SchemaTyping

/-- A model to ask about: the class that a name means, and the inference that
answers. -/
structure ModelQuery where
  className : String
  engine : Inference

namespace Project

/-- **The inference of a project and the model that a name means.** -/
def query (project : Project) (tree : FileTree) (name : String) :
    Except Failure ModelQuery := do
  let registry ← project.registry tree
  let className ← registry.findModel name
  .ok ⟨className, project.inference tree registry⟩

/-- The answer on one property of a model. -/
def reportProperty (project : Project) (tree : FileTree)
    (name property : String) : Except Failure PropertyReport := do
  let query ← project.query tree name
  failing .inference (query.engine.reportProperty query.className property)

/-- The answer on a model. -/
def reportModel (project : Project) (tree : FileTree) (name : String) :
    Except Failure ModelReport := do
  let query ← project.query tree name
  failing .inference (query.engine.reportModel query.className)

/-- The answer on one table, or on all of them. -/
def reportTables (project : Project) (tree : FileTree)
    (name : Option String) : Except Failure TablesReport :=
  match (project.inference tree .empty).schema.report? name with
  | some report => .ok report
  | none => .error ⟨[], .unknownTable (name.getD "")⟩

end Project

namespace Command

/-- **The text that a command answers with** in a project. -/
def answer (command : Command) (project : Project) (tree : FileTree)
    (format : Format) (styled : Bool) : Except Failure String := do
  match command with
  | .property className propertyName =>
    let report ← project.reportProperty tree className propertyName
    match format with
    | .text => .ok (report.text styled)
    | .json => .ok report.json.text
  | .model className =>
    let report ← project.reportModel tree className
    match format with
    | .text => .ok (report.text styled)
    | .json => .ok report.json.text
  | .tables tableName =>
    let report ← project.reportTables tree tableName
    match format with
    | .text => .ok (report.text styled)
    | .json => .ok report.json.text

end Command

namespace Invocation

/-- The file of the configuration, if one is given, as a path from the
root. -/
def configPath? (invocation : Invocation) (root : Path) : Option Path :=
  invocation.settings.config.map fun path => root.join ⟨path⟩

/-- **Carries out a command line** in the project at a root. Styles are shown
if `styled` says so and the options do not forbid it. -/
def run (invocation : Invocation) (tree : FileTree) (root : Path)
    (styled : Bool) : Except Failure String := do
  let project ← Project.load tree root (invocation.configPath? root)
  invocation.command.answer project tree (invocation.settings.format.getD .text)
    (styled && !invocation.settings.noColor)

end Invocation

end SchemaTyping
