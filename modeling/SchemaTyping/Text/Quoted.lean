import SchemaTyping.Text.HiddenTable
import SchemaTyping.Text.Number

/-!
# Quoted text

An error message quotes a path so that nothing in it is lost on the screen: in
double quotes, with an escape for each character that could not be seen as
itself.
-/

namespace SchemaTyping.Text

/-- The escape of a character by its number. -/
def codeEscape (c : Char) : List Char :=
  "\\u\x7b".toList ++ hexDigits c.toNat ++ ['\x7d']

/-- A character between quotes. -/
def visibleChar (c : Char) : List Char :=
  match c with
  | '\x00' => ['\\', '0']
  | '\t' => ['\\', 't']
  | '\r' => ['\\', 'r']
  | '\n' => ['\\', 'n']
  | '\\' | '"' | '\'' => ['\\', c]
  | c => if inRanges hiddenRanges c.toNat then codeEscape c else [c]

/-- **A text in quotes**, each of its characters visible. -/
def quoted (text : List Char) : List Char :=
  '"' :: text.flatMap visibleChar ++ ['"']

end SchemaTyping.Text
