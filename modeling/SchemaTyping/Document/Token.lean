import SchemaTyping.Text.Basic

/-!
# Tokens of a document

Configurations, models and migrations are written as indented documents of
mappings, sequences and scalars. A document is first cut into **tokens**, each
with the place where it starts, because the structure of a document is in the
lines and columns of its tokens.

The lexer reads one character at a time and looks at what follows, so that a
plain scalar ends with the character that the end is known from. Comments and
blanks give no token. Brackets open a **flow**, inside which commas and
brackets are tokens wherever they stand and a dash is never one.
-/

namespace SchemaTyping.Document

open Text

/-- A place in a document, counted from zero. -/
structure Place where
  line : Nat := 0
  column : Nat := 0
  deriving DecidableEq, Repr, Inhabited

/-- **A token of a document.** -/
inductive Token where
  /-- A scalar without quotes. -/
  | plain (text : List Char)
  /-- A scalar in quotes, without them and with its escapes resolved. -/
  | quoted (text : List Char)
  /-- The colon between a key and its value. -/
  | colon
  /-- The dash in front of an item. -/
  | dash
  | comma
  | openList
  | closeList
  | openMap
  | closeMap
  deriving DecidableEq, Repr, Inhabited

/-- A token and the place where it starts. -/
structure PlacedToken where
  token : Token
  place : Place
  deriving DecidableEq, Repr, Inhabited

/-- Why a document cannot be read. -/
inductive Fault where
  /-- The character cannot start a token. -/
  | character (c : Char)
  /-- The backslash is followed by no escape. -/
  | escape
  /-- The quotes are not closed on their line. -/
  | openQuote
  /-- The token cannot stand where it does. -/
  | token
  /-- The document ends inside a flow. -/
  | ended
  /-- The key is in the mapping already. -/
  | repeatedKey (key : String)
  deriving DecidableEq, Repr

/-- The fault in words. -/
def Fault.message : Fault → String
  | .character c => "unexpected character '" ++ c.toString ++ "'"
  | .escape => "unknown escape"
  | .openQuote => "quotes are not closed"
  | .token => "unexpected token"
  | .ended => "unexpected end"
  | .repeatedKey key => "duplicate key '" ++ key ++ "'"

/-- Where and why reading stops; the end of the document is no place. -/
structure Stop where
  place : Option Place
  fault : Fault
  deriving DecidableEq, Repr

/-- What the lexer is in the middle of. The text of a scalar is kept in
reverse. -/
inductive Lexing where
  | between
  | comment
  | plain (start : Place) (text : List Char)
  /-- A scalar in single quotes. -/
  | single (start : Place) (text : List Char)
  /-- A single quote that the next one repeats. -/
  | quote (start : Place) (text : List Char)
  /-- A scalar in double quotes. -/
  | double (start : Place) (text : List Char)
  /-- A backslash in double quotes. -/
  | escape (start : Place) (text : List Char)
  /-- An escape by number with the given count of digits left to read. -/
  | code (start : Place) (text : List Char) (digits value : Nat)
  deriving DecidableEq, Repr, Inhabited

/-- **The state of the lexer.** -/
structure Lexer where
  lexing : Lexing := .between
  place : Place := {}
  /-- How many brackets are open. -/
  depth : Nat := 0
  /-- Whether the character before is a blank or the text starts here. -/
  spaced : Bool := true
  /-- Whether a quoted scalar or a bracket ended just before, so that a colon
  inside a flow needs no blank after it. -/
  closed : Bool := false
  deriving Repr, Inhabited

/-- Spaces, tabs and the ends of lines. -/
def isGap (c : Char) : Bool := c == ' ' || c == '\t' || c == '\n' || c == '\r'

/-- The characters that are tokens wherever they stand in a flow. -/
def isFlowMark (c : Char) : Bool :=
  c == ',' || c == '[' || c == ']' || c == '\x7b' || c == '\x7d'

/-- The characters that no plain scalar starts with: marks of constructs that
documents here do not use. -/
def isReserved (c : Char) : Bool :=
  c == '&' || c == '*' || c == '!' || c == '|' || c == '>' || c == '%'
    || c == '@' || c == '\x60'

/-- Whether a dash or a colon in front of `rest` stands on its own. -/
def standsAlone (depth : Nat) (rest : List Char) : Bool :=
  match rest with
  | [] => true
  | c :: _ => isGap c || (depth != 0 && isFlowMark c)

/-- Whether a plain scalar ends with the character `c` in front of `rest`. -/
def endsPlain (depth : Nat) (c : Char) (rest : List Char) : Bool :=
  match rest with
  | [] => true
  | next :: more =>
    next == '\n' || (next == ':' && standsAlone depth more)
      || (next == '#' && isGap c) || (depth != 0 && isFlowMark next)

/-- The character that an escape of one letter stands for. -/
def simpleEscape? : Char → Option Char
  | '0' => some '\x00'
  | 'a' => some '\x07'
  | 'b' => some '\x08'
  | 't' | '\t' => some '\t'
  | 'n' => some '\n'
  | 'v' => some '\x0b'
  | 'f' => some '\x0c'
  | 'r' => some '\r'
  | 'e' => some '\x1b'
  | ' ' => some ' '
  | '"' => some '"'
  | '/' => some '/'
  | '\\' => some '\\'
  | 'N' => some '\x85'
  | '_' => some '\xa0'
  | 'L' => some '\u2028'
  | 'P' => some '\u2029'
  | _ => none

/-- The count of digits in an escape by number. -/
def codeLength? : Char → Option Nat
  | 'x' => some 2
  | 'u' => some 4
  | 'U' => some 8
  | _ => none

/-- The value of a digit in base sixteen. -/
def hexValue? (c : Char) : Option Nat :=
  if c.isDigit then some (c.toNat - '0'.toNat)
  else if 'a' ≤ c ∧ c ≤ 'f' then some (c.toNat - 'a'.toNat + 10)
  else if 'A' ≤ c ∧ c ≤ 'F' then some (c.toNat - 'A'.toNat + 10)
  else none

/-- The character of that number, if there is one. -/
def charOfCode? (code : Nat) : Option Char :=
  if code.isValidChar then some (Char.ofNat code) else none

namespace Place

/-- The place after a character. -/
def after (place : Place) (c : Char) : Place :=
  if c = '\n' then ⟨place.line + 1, 0⟩ else ⟨place.line, place.column + 1⟩

end Place

/-- A plain scalar, from its reversed text. -/
def Token.ofPlain (text : List Char) : Token :=
  .plain (text.dropWhile isGap).reverse

/-- A quoted scalar, from its reversed text. -/
def Token.ofQuoted (text : List Char) : Token := .quoted text.reverse

/-- What a step of the lexer gives: a fault, or the next thing to be in the
middle of, how many brackets are open, and the token that is complete. -/
abbrev LexStep := Except Fault (Lexing × Nat × Option PlacedToken)

namespace Lexer

/-- Goes on with a scalar. -/
def goOn (lexer : Lexer) (lexing : Lexing) : LexStep :=
  .ok (lexing, lexer.depth, none)

/-- Completes a token. -/
def complete (lexer : Lexer) (token : Token) (start : Place) : LexStep :=
  .ok (.between, lexer.depth, some ⟨token, start⟩)

/-- A character of a plain scalar in front of `rest`. -/
def plainStep (lexer : Lexer) (start : Place) (text : List Char)
    (rest : List Char) : LexStep :=
  if endsPlain lexer.depth (text.headD ' ') rest then
    lexer.complete (.ofPlain text) start
  else lexer.goOn (.plain start text)

/-- A character between tokens, in front of `rest`. -/
def betweenStep (lexer : Lexer) (c : Char) (rest : List Char) : LexStep :=
  if isGap c then lexer.goOn .between
  else if c = '#' then
    if lexer.spaced then lexer.goOn .comment else .error (.character c)
  else if c = '\'' then lexer.goOn (.single lexer.place [])
  else if c = '"' then lexer.goOn (.double lexer.place [])
  else if c = '[' then
    .ok (.between, lexer.depth + 1, some ⟨.openList, lexer.place⟩)
  else if c = '\x7b' then
    .ok (.between, lexer.depth + 1, some ⟨.openMap, lexer.place⟩)
  else if c = ']' then
    .ok (.between, lexer.depth - 1, some ⟨.closeList, lexer.place⟩)
  else if c = '\x7d' then
    .ok (.between, lexer.depth - 1, some ⟨.closeMap, lexer.place⟩)
  else if c = ',' then
    if lexer.depth = 0 then .error (.character c)
    else lexer.complete .comma lexer.place
  -- Inside a flow, the colon after a quoted key needs no blank behind it.
  else if c = ':' ∧ (standsAlone lexer.depth rest
      ∨ (lexer.closed ∧ lexer.depth ≠ 0)) then
    lexer.complete .colon lexer.place
  else if c = '-' ∧ standsAlone lexer.depth rest then
    if lexer.depth = 0 then lexer.complete .dash lexer.place
    else .error (.character c)
  else if isReserved c ∨ (c = '?' ∧ standsAlone lexer.depth rest) then
    .error (.character c)
  else lexer.plainStep lexer.place [c] rest

/-- **One step of the lexer**, on a character in front of `rest`. -/
def lexStep (lexer : Lexer) (c : Char) (rest : List Char) : LexStep :=
  match lexer.lexing with
  | .between => lexer.betweenStep c rest
  | .comment => lexer.goOn (if c = '\n' then .between else .comment)
  | .plain start text => lexer.plainStep start (c :: text) rest
  | .single start text =>
    if c = '\n' then .error .openQuote
    else if c = '\'' then
      if rest.head? = some '\'' then lexer.goOn (.quote start text)
      else lexer.complete (.ofQuoted text) start
    else lexer.goOn (.single start (c :: text))
  | .quote start text => lexer.goOn (.single start (c :: text))
  | .double start text =>
    if c = '\n' then .error .openQuote
    else if c = '"' then lexer.complete (.ofQuoted text) start
    else if c = '\\' then lexer.goOn (.escape start text)
    else lexer.goOn (.double start (c :: text))
  | .escape start text =>
    match simpleEscape? c, codeLength? c with
    | some escaped, _ => lexer.goOn (.double start (escaped :: text))
    | none, some digits => lexer.goOn (.code start text digits 0)
    | none, none => .error .escape
  | .code start text digits value =>
    match hexValue? c with
    | none => .error .escape
    | some digit =>
      if 1 < digits then
        lexer.goOn (.code start text (digits - 1) (16 * value + digit))
      else
        match charOfCode? (16 * value + digit) with
        | some escaped => lexer.goOn (.double start (escaped :: text))
        | none => .error .escape

/-- Whether a colon right after the token belongs to it. -/
def closes (token : Option PlacedToken) : Bool :=
  match token with
  | some ⟨.quoted _, _⟩ | some ⟨.closeList, _⟩ | some ⟨.closeMap, _⟩ => true
  | _ => false

/-- The tokens of a text that the lexer has come to. -/
def tokensFrom (lexer : Lexer) :
    List Char → Except Stop (List PlacedToken)
  | [] =>
    match lexer.lexing with
    | .between | .comment | .plain .. => .ok []
    | _ => .error ⟨none, .openQuote⟩
  | c :: rest =>
    match lexer.lexStep c rest with
    | .error fault => .error ⟨some lexer.place, fault⟩
    | .ok (lexing, depth, token) =>
      (tokensFrom ⟨lexing, lexer.place.after c, depth, isGap c, closes token⟩
        rest).map (token.toList ++ ·)

end Lexer

/-- **The tokens of a document.** -/
def tokens (text : List Char) : Except Stop (List PlacedToken) :=
  Lexer.tokensFrom {} text

end SchemaTyping.Document
