import SchemaTyping.Data.Value
import SchemaTyping.Document.Node
import SchemaTyping.Text.Number

/-!
# Typed scalars

A scalar in quotes is a string. A scalar without quotes has a type that its
text decides: nothing, a truth value, an integer, a number with a fraction,
or else a string. `Node.toValue` types all the scalars of a node, for readers
that ask for more than text.
-/

namespace SchemaTyping.Document

open Text

/-- Whether a scalar without quotes is nothing. -/
def isNullText (text : String) : Bool :=
  text == "" || text == "~" || asciiEqual text.toList "null".toList

/-- The words for true, in small letters. -/
def trueWords : List String := ["true", "yes", "y", "on"]

/-- The words for false, in small letters. -/
def falseWords : List String := ["false", "no", "n", "off"]

/-- The truth value that a word stands for, in any case of letters. -/
def readBool (text : String) : Option Bool :=
  let word := onString (fun text => asciiLower (trim text)) text
  if word ∈ trueWords then some true
  else if word ∈ falseWords then some false
  else none

/-- The value of digits in the given base, underscores left out. -/
def readBase (base : Nat) (text : List Char) : Option Nat :=
  let digits := text.filter (· != '_')
  if digits.isEmpty then none
  else digits.foldlM (fun number c => do
    let digit ← hexValue? c
    if digit < base then some (base * number + digit) else none) 0

/-- The value of digits, in the base that the text starts with. -/
def readNatural : List Char → Option Nat
  | '0' :: 'x' :: digits | '0' :: 'X' :: digits => readBase 16 digits
  | '0' :: 'o' :: digits | '0' :: 'O' :: digits => readBase 8 digits
  | '0' :: 'b' :: digits | '0' :: 'B' :: digits => readBase 2 digits
  | digits => readBase 10 digits

/-- The text without a sign, and whether the sign is a minus. -/
def splitSign : List Char → Bool × List Char
  | '-' :: text => (true, text)
  | '+' :: text => (false, text)
  | text => (false, text)

/-- The integer that a scalar without quotes stands for. -/
def readInteger (text : List Char) : Option Int :=
  let (negative, digits) := splitSign text
  (readNatural digits).map fun number =>
    if negative then -(number : Int) else number

/-- The words for numbers that no digits stand for. -/
def numberWords : List String :=
  ["inf", "infinity", "nan", ".inf", ".nan"]

/-- Whether the text is decimal digits, at least one of them. -/
def isDigits (text : List Char) : Bool :=
  !text.isEmpty && text.all Char.isDigit

/-- Whether the text is nothing or an exponent of ten. -/
def isExponent : List Char → Bool
  | [] => true
  | c :: text => (c == 'e' || c == 'E') && isDigits (splitSign text).2

/-- Whether a scalar without quotes is a number that need not be an integer:
a word for one, or digits with a point among them or an exponent. -/
def isDecimal (text : List Char) : Bool :=
  let number := (splitSign text).2
  let whole := number.takeWhile Char.isDigit
  let isDigitNumber := match number.dropWhile Char.isDigit with
    | '.' :: rest =>
      (!whole.isEmpty || rest.head?.any Char.isDigit)
        && isExponent (rest.dropWhile Char.isDigit)
    | rest => !whole.isEmpty && isExponent rest
  isDigitNumber || String.ofList (asciiLower number) ∈ numberWords

/-- The value of a scalar without quotes. -/
def scalarValue (text : String) : Value :=
  if isNullText text then .null
  else
    match readBool text, readInteger text.toList with
    | some value, _ => .bool value
    | none, some value => .int value
    | none, none =>
      if isDecimal text.toList then .fractional else .string text

mutual

/-- **The value of a node**, with its scalars typed. -/
def Node.toValue : Node → Value
  | .plain text => scalarValue text
  | .quoted text => .string text
  | .sequence items => .list (itemValues items)
  | .mapping entries => .record (entryValues entries)

/-- The values of the items of a sequence. -/
def itemValues : List Node → List Value
  | [] => []
  | item :: items => item.toValue :: itemValues items

/-- The values of the entries of a mapping. -/
def entryValues : List (String × Node) → List (String × Value)
  | [] => []
  | (key, node) :: entries => (key, node.toValue) :: entryValues entries

end

end SchemaTyping.Document
