import SchemaTyping.Text.Basic

/-!
# Database dialects

The four families of databases whose dumps can be read. They differ in the
types they know and in whether they store truth values as such.
-/

namespace SchemaTyping

/-- A family of databases. -/
inductive Dialect where
  | postgres
  | mySql
  | sqlite
  | sqlServer
  deriving DecidableEq, Repr, Inhabited

namespace Dialect

/-- The name of a dialect. -/
def name : Dialect → String
  | .postgres => "postgresql"
  | .mySql => "mysql"
  | .sqlite => "sqlite"
  | .sqlServer => "sqlsrv"

instance : ToString Dialect := ⟨name⟩

/-- Whether truth values are stored as such. The other dialects store them as
the integers 0 and 1. -/
def hasNativeBool (dialect : Dialect) : Bool := dialect == .postgres

/-- The dialect a configuration names, by its name or by that of a close
relative, in small letters. -/
def ofConfigName? : String → Option Dialect
  | "postgresql" | "pgsql" => some .postgres
  | "mysql" | "mariadb" => some .mySql
  | "sqlite" => some .sqlite
  | "sqlsrv" => some .sqlServer
  | _ => none

/-- The dialect a user names: the names of `ofConfigName?` and two more, in
any case of letters. -/
def ofUserName? (text : String) : Option Dialect :=
  match Text.onString Text.asciiLower text with
  | "postgres" => some .postgres
  | "sqlserver" => some .sqlServer
  | name => ofConfigName? name

/-- What is said of a name that no dialect has. -/
def unsupportedMessage (text : String) : String :=
  "Unsupported dialect '" ++ Text.onString Text.asciiLower text
    ++ "'. Supported: postgresql, mysql, sqlite, sqlsrv"

end Dialect

end SchemaTyping
