import SchemaTyping.Text.Basic

/-!
# Decimal numbers of fixed width

A decimal number is a sign, if the width allows one, and at least one ASCII
digit; leading zeros are free. A number that does not fit its width is no
number, so the readers answer `none` for it as they do for other text.
-/

namespace SchemaTyping.Text

/-- The value of a non-empty run of decimal digits. -/
def readDigits (text : List Char) : Option Nat :=
  if !text.isEmpty && text.all Char.isDigit then
    some (text.foldl (fun n c => 10 * n + (c.toNat - '0'.toNat)) 0)
  else none

/-- Reads an integer, with a sign or without, of any size. -/
def readInt (text : List Char) : Option Int :=
  match text with
  | '-' :: digits => (readDigits digits).map fun n => -(n : Int)
  | '+' :: digits => (readDigits digits).map Int.ofNat
  | digits => (readDigits digits).map Int.ofNat

/-- Reads a signed number of 64 bits. -/
def readInt64 (text : List Char) : Option Int64 :=
  (readInt text).bind fun n =>
    if Int64.minValue.toInt ≤ n ∧ n ≤ Int64.maxValue.toInt then
      some (Int64.ofInt n)
    else none

/-- Reads an unsigned number of 32 bits. A plus sign is allowed, a minus sign
is not. -/
def readUInt32 (text : List Char) : Option UInt32 :=
  let digits := match text with
    | '+' :: digits => digits
    | digits => digits
  (readDigits digits).bind fun n =>
    if n < UInt32.size then some (UInt32.ofNat n) else none

/-- The number in decimal digits, with a zero in front of it as often as
needed to reach the width. -/
def padDecimal (width n : Nat) : List Char :=
  let digits := Nat.toDigits 10 n
  List.replicate (width - digits.length) '0' ++ digits

/-- The digits of a number in base sixteen, with small letters. -/
def hexDigits (n : Nat) : List Char := Nat.toDigits 16 n

end SchemaTyping.Text
