import SchemaTyping.Config
import SchemaTyping.Inference
import SchemaTyping.Project.FileTree
import SchemaTyping.Text.Quoted

/-!
# Failures

A **failure** is a cause together with what was being done, from the outside
to the inside. In words it is one line, the parts joined by colons: first the
contexts, then the cause.
-/

namespace SchemaTyping

/-- Why a file is not read. -/
inductive FileError where
  | notFound (path : Path)
  | unreadable (path : Path) (cause : AccessError)
  deriving DecidableEq, Repr

/-- The error in words. -/
def FileError.message : FileError → String
  | .notFound path => "File not found: " ++ path.text
  | .unreadable path cause =>
    "Failed to read file: " ++ path.text ++ " (cause: " ++ cause.message ++ ")"

/-- What was being done when something failed. -/
inductive Context where
  | readingConfig
  | parsingConfig
  | checkingConfig (path : Path)
  | parsingModels
  | readingModels (path : Path)
  | returnType (className method : String)
  | castClass (className : String)
  | parsingMigration (path : Path)
  deriving DecidableEq, Repr

/-- A path in quotes. -/
def Path.quoted (path : Path) : String := Text.onString Text.quoted path.text

/-- The context in words. -/
def Context.message : Context → String
  | .readingConfig => "Failed to read config file"
  | .parsingConfig => "Failed to parse config file"
  | .checkingConfig path => "Invalid config file: " ++ path.text
  | .parsingModels => "Failed to parse models YAML"
  | .readingModels path => "Invalid models file: " ++ path.text
  | .returnType className method =>
    "Invalid return type for " ++ className ++ "::" ++ method
  | .castClass className => "Invalid cast class: " ++ className
  | .parsingMigration path => "Failed to parse migration YAML: " ++ path.quoted

/-- Why something failed. -/
inductive Cause where
  | file (error : FileError)
  | document (error : Document.DocumentError)
  | typeText (error : TypeTextError)
  | inference (error : InferenceError)
  | noConfig (path : Path)
  | config (problem : ConfigProblem)
  | unknownModel (name : String)
  | unknownTable (name : String)
  deriving DecidableEq, Repr

/-- The cause in words: one text, but two where the types of a property fail
for a type that cannot be read. -/
def Cause.messages : Cause → List String
  | .file error => [error.message]
  | .document error => [error.message]
  | .typeText error => [error.message]
  | .inference (.keyType error) =>
    [(InferenceError.keyType error).message, error.message]
  | .inference error => [error.message]
  | .noConfig path =>
    ["Config file not found: " ++ path.quoted ++ ". Create " ++ Config.fileName
      ++ " in the project root or pass --config."]
  | .config problem => [problem.message]
  | .unknownModel name => ["Model not found in models file: " ++ name]
  | .unknownTable name => ["Table not found: " ++ name]

/-- **A failure.** -/
structure Failure where
  /-- What was being done, the outermost first. -/
  contexts : List Context := []
  cause : Cause
  deriving DecidableEq, Repr

namespace Failure

/-- The same failure inside one more context. -/
def inside (failure : Failure) (context : Context) : Failure :=
  { failure with contexts := context :: failure.contexts }

/-- **The failure in words.** -/
def message (failure : Failure) : String :=
  ": ".intercalate
    (failure.contexts.map Context.message ++ failure.cause.messages)

end Failure

/-- Puts what fails inside a context. -/
def within {α : Type} (context : Context) (result : Except Failure α) :
    Except Failure α :=
  result.mapError (·.inside context)

/-- Fails with a cause of its own. -/
def failing {α ε : Type} (cause : ε → Cause) (result : Except ε α) :
    Except Failure α :=
  result.mapError fun error => ⟨[], cause error⟩

end SchemaTyping
