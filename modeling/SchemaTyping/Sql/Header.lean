import SchemaTyping.Sql.Statement
import SchemaTyping.Text.Case

/-!
# Headers of statements

Two kinds of statements matter: those that create a table and those that
create an enumerated type. Their headers are recognised word by word, in any
case of letters and with blanks of any length between the words.

Letters are compared by the simple case folding of Unicode, which takes two
more characters for letters of a keyword: the long `ſ` for an `s` and the
sign of the kelvin for a `k`.
-/

namespace SchemaTyping.Sql

open Text

/-- The small ASCII letter that a character stands for in a keyword; other
characters stand for themselves. -/
def foldLetter (c : Char) : Char :=
  if c = '\u017f' then 's' else if c = '\u212a' then 'k' else c.toLower

/-- What follows a keyword, given in small letters, at the start of a
text. -/
def afterKeyword? : List Char → List Char → Option (List Char)
  | [], text => some text
  | k :: keyword, c :: text =>
    if foldLetter c = k then afterKeyword? keyword text else none
  | _ :: _, [] => none

/-- What follows the blanks at the start of a text, of which there has to be
one. -/
def afterBlanks? : List Char → Option (List Char)
  | c :: rest => if isBlank c then some (trimStart rest) else none
  | [] => none

/-- What follows a keyword and the blanks after it. -/
def afterWord? (keyword : String) (text : List Char) : Option (List Char) :=
  (afterKeyword? keyword.toList text).bind afterBlanks?

/-- What follows the first of the keywords that the text starts with; all of
the text if it starts with none. -/
def afterOptional (keywords : List String) (text : List Char) : List Char :=
  (keywords.findSome? (afterWord? · text)).getD text

/-! ## Qualified names -/

/-- The characters of a name without quotes. -/
def isNameChar (c : Char) : Bool := isWord c || c == '$'

/-- The characters that may open and close the parts of a qualified name. -/
structure NameQuotes where
  opening : List Char
  closing : List Char

/-- The quotes of a table name. -/
def tableQuotes : NameQuotes :=
  ⟨[backquote, '"', '['], [backquote, '"', ']']⟩

/-- The quotes of the name of a type. -/
def typeQuotes : NameQuotes := ⟨[backquote, '"'], [backquote, '"']⟩

/-- Where in a part of a qualified name the reader stands. -/
inductive NameStage where
  /-- Before the part. -/
  | start
  /-- After its opening quote. -/
  | opened
  /-- In the name itself. -/
  | inside
  /-- After its closing quote. -/
  | closed
  deriving DecidableEq, Repr

/-- Reads on in a qualified name, where `name` is what has been read of the
part, in reverse order. The parts have dots between them, and every part may
have a quote on either side. -/
def nameFrom (quotes : NameQuotes) :
    NameStage → List Char → List Char → Option (List Char × List Char)
  | .start, _, c :: rest =>
    if quotes.opening.contains c then nameFrom quotes .opened [] rest
    else if isNameChar c then nameFrom quotes .inside [c] rest
    else none
  | .opened, _, c :: rest =>
    if isNameChar c then nameFrom quotes .inside [c] rest else none
  | .inside, name, c :: rest =>
    if isNameChar c then nameFrom quotes .inside (c :: name) rest
    else if quotes.closing.contains c then nameFrom quotes .closed name rest
    else if c = '.' then nameFrom quotes .start [] rest
    else some (name.reverse, c :: rest)
  | .closed, name, c :: rest =>
    if c = '.' then nameFrom quotes .start [] rest
    else some (name.reverse, c :: rest)
  | .start, _, [] | .opened, _, [] => none
  | .inside, name, [] | .closed, name, [] => some (name.reverse, [])

/-- **The last part of the qualified name** at the start of a text, without
quotes, and what follows the name. -/
def qualifiedName? (quotes : NameQuotes) (text : List Char) :
    Option (List Char × List Char) :=
  nameFrom quotes .start [] text

/-! ## The two headers -/

/-- What follows the words that create a table only where there is none. -/
def afterIfNotExists (text : List Char) : List Char :=
  (afterWord? "if" text >>= afterWord? "not" >>= afterWord? "exists").getD text

/-- **The header of a table definition**: the name of the table, and the text
from the bracket that opens the body. -/
def tableHeader? (statement : List Char) :
    Option (List Char × List Char) := do
  let text ← afterWord? "create" statement
  let text := afterOptional ["global", "local"] text
  let text := afterOptional ["temporary", "temp", "unlogged"] text
  let text ← afterWord? "table" text
  let (name, text) ← qualifiedName? tableQuotes (afterIfNotExists text)
  match trimStart text with
  | '(' :: body => some (name, '(' :: body)
  | _ => none

/-- **The definition of an enumerated type**: its name, and the text between
the bracket after the header and the one that ends the statement. -/
def enumDefinition? (statement : List Char) :
    Option (List Char × List Char) := do
  let text ← afterWord? "create" statement >>= afterWord? "type"
  let (name, text) ← qualifiedName? typeQuotes text
  let text ← afterBlanks? text >>= afterWord? "as" >>=
    afterKeyword? "enum".toList
  match trimStart text with
  | '(' :: body =>
    if (trimEnd body).getLast? = some ')' then
      some (name, (trimEnd body).dropLast)
    else none
  | _ => none

/-! ## Phrases -/

/-- Whether the text starts with the two words, with blanks between them and
no word character after them. -/
def startsWithPhrase (first second : String) (text : List Char) : Bool :=
  match afterWord? first text >>= afterKeyword? second.toList with
  | some (c :: _) => !isWord c
  | some [] => true
  | none => false

/-- Whether the two words stand somewhere in the text as words of their own;
`inWord` says whether a word character comes before. -/
def containsPhraseFrom (first second : String) (inWord : Bool) :
    List Char → Bool
  | [] => false
  | c :: rest =>
    (!inWord && startsWithPhrase first second (c :: rest))
      || containsPhraseFrom first second (isWord c) rest

/-- **Whether the two words stand somewhere in the text**, one after the
other, as words of their own. -/
def containsPhrase (first second : String) (text : List Char) : Bool :=
  containsPhraseFrom first second false text

end SchemaTyping.Sql
