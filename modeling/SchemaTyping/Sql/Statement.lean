import SchemaTyping.Text.Basic

/-!
# Statements of a dump

A schema dump is a text of SQL statements with semicolons between them. A
semicolon inside a string, a quoted name, a dollar-quoted body or a comment
parts nothing, and comments are left out of the statements.

The scanner reads one character at a time and looks at what follows. Where
two or more characters belong together – an escaped quote, the marks of a
comment, a dollar tag – the first decides and the state says what to do with
the others: `Scan.copy` keeps them and `Scan.skip` drops one. So every step
is on one character, and `Scan.step` is all there is to know of a state.
-/

namespace SchemaTyping.Sql

open Text

/-- The backquote, which encloses names in some dialects. -/
def backquote : Char := '\x60'

/-- **What the scanner is in the middle of.** -/
inductive Scan where
  /-- Nothing in particular. -/
  | normal
  /-- A string or a quoted name, which ends at the quote. -/
  | quoted (quote : Char)
  /-- A dollar-quoted body with the name between the dollar signs. -/
  | dollar (name : List Char)
  /-- A comment to the end of the line. -/
  | line
  /-- A bracketed comment inside as many others. -/
  | block (outer : Nat)
  /-- Characters that are kept as they are: one and `more`. -/
  | copy (more : Nat) (next : Scan)
  /-- One character that is dropped. -/
  | skip (next : Scan)
  deriving DecidableEq, Repr, Inhabited

/-- What the scanner passes on. -/
inductive Mark where
  /-- A character of a statement. -/
  | char (c : Char)
  /-- The end of a statement. -/
  | stop
  deriving DecidableEq, Repr

namespace Scan

/-- The state that keeps the next `count` characters. -/
def copying (count : Nat) (next : Scan) : Scan :=
  match count with
  | 0 => next
  | more + 1 => .copy more next

/-- The name of a dollar tag of which the first dollar sign has been read:
word characters up to the second one, the first of them no digit. -/
def dollarName? (rest : List Char) : Option (List Char) :=
  let name := rest.takeWhile isAsciiWord
  match rest.drop name.length with
  | '$' :: _ => if name.head?.any Char.isDigit then none else some name
  | _ => none

/-- What a character outside quotes and comments does. -/
def stepNormal (c : Char) (rest : List Char) : Scan × Option Mark :=
  if c = '\'' ∨ c = '"' ∨ c = backquote then (.quoted c, some (.char c))
  else if c = '#' ∨ (c = '-' ∧ rest.head? = some '-') then (.line, none)
  else if c = '/' ∧ rest.head? = some '*' then (.skip (.block 0), none)
  else if c = ';' then (.normal, some .stop)
  else if c = '$' then
    match dollarName? rest with
    | some name => (copying (name.length + 1) (.dollar name), some (.char c))
    | none => (.normal, some (.char c))
  else (.normal, some (.char c))

/-- What a character inside quotes does. A backslash in a string keeps the
character after it, and a doubled quote stands for itself. -/
def stepQuoted (quote c : Char) (rest : List Char) : Scan :=
  if c = '\\' ∧ quote = '\'' then .copy 0 (.quoted quote)
  else if c = quote then
    if rest.head? = some quote then .copy 0 (.quoted quote) else .normal
  else .quoted quote

/-- What a character inside bracketed comments does. The outermost comment
leaves a space behind. -/
def stepBlock (outer : Nat) (c : Char) (rest : List Char) :
    Scan × Option Mark :=
  if c = '/' ∧ rest.head? = some '*' then (.skip (.block (outer + 1)), none)
  else if c = '*' ∧ rest.head? = some '/' then
    match outer with
    | 0 => (.skip .normal, some (.char ' '))
    | outer + 1 => (.skip (.block outer), none)
  else (.block outer, none)

/-- **One step of the scanner**: the state after a character that `rest`
follows, and what is passed on. -/
def step (state : Scan) (c : Char) (rest : List Char) : Scan × Option Mark :=
  match state with
  | .normal => stepNormal c rest
  | .quoted quote => (stepQuoted quote c rest, some (.char c))
  | .dollar name =>
    if c = '$' ∧ (name ++ ['$']).isPrefixOf rest then
      (copying (name.length + 1) .normal, some (.char c))
    else (.dollar name, some (.char c))
  | .line => if c = '\n' then (.normal, some (.char c)) else (.line, none)
  | .block outer => stepBlock outer c rest
  | .copy more next => (copying more next, some (.char c))
  | .skip next => (next, none)

/-- Everything the scanner passes on for a text. -/
def marks (state : Scan) : List Char → List Mark
  | [] => []
  | c :: rest =>
    (state.step c rest).2.toList ++ marks (state.step c rest).1 rest

/-- The state after a text that nothing follows. -/
def after (state : Scan) : List Char → Scan
  | [] => state
  | c :: rest => after (state.step c rest).1 rest

end Scan

/-- The texts between the ends of statements. -/
def chunks : List Mark → List (List Char)
  | [] => [[]]
  | .stop :: rest => [] :: chunks rest
  | .char c :: rest => prepend c (chunks rest)

/-- **The statements of a dump**, without comments, without blanks around
them, and without the empty ones. -/
def statements (dump : List Char) : List (List Char) :=
  ((chunks (Scan.marks .normal dump)).map trim).filter (!·.isEmpty)

end SchemaTyping.Sql
