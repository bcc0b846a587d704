import SchemaTyping.Text.Basic

/-!
# Styles on a terminal

A terminal shows text in a style from one control sequence to the next. A
styled text ends with the sequence that resets the style; where the text
itself holds that sequence, the style is opened again behind it.
-/

namespace SchemaTyping

/-- A style of text. -/
inductive Style where
  | bold
  | dimmed
  | green
  | yellow
  | cyan
  deriving DecidableEq, Repr

namespace Style

/-- The number of a style. -/
def code : Style → String
  | .bold => "1"
  | .dimmed => "2"
  | .green => "32"
  | .yellow => "33"
  | .cyan => "36"

/-- The sequence that opens a style. -/
def opening (style : Style) : List Char :=
  "\x1b[".toList ++ style.code.toList ++ ['m']

/-- The sequence that resets the style. -/
def reset : List Char := "\x1b[0m".toList

/-- The text with the style opened again behind each reset. The first
argument counts the characters of a reset that are still to come. -/
def reopen (style : Style) : Nat → List Char → List Char
  | 0, [] => []
  | _ + 1, [] => []
  | 0, c :: rest =>
    c :: reopen style (if reset.isPrefixOf (c :: rest) then 3 else 0) rest
  | 1, c :: rest => c :: style.opening ++ reopen style 0 rest
  | more + 2, c :: rest => c :: reopen style (more + 1) rest

/-- **A text in a style**, if styles are shown at all. -/
def paint (style : Style) (shown : Bool) (text : String) : String :=
  if shown then
    String.ofList
      (style.opening ++ reopen style 0 text.toList ++ reset)
  else text

end Style

end SchemaTyping
