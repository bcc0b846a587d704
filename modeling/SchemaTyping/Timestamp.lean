import SchemaTyping.Text.Number

/-!
# Timestamps of migration files

The name of a migration file starts with the moment it was written,
`2024_01_15_093000`: year, month and day with underscores after them, then
hour, minute and second. `Timestamp.ofVersion?` reads it from the first
seventeen bytes of a version and refuses what is no date of the Gregorian
calendar. A minute may have a second 60, the leap second, which comes after
59 and before the next minute.

A number may be written with fewer digits than it has room for, and with
blanks in front of it; the year alone may have a sign, and then any number of
digits.
-/

namespace SchemaTyping

open Text

/-- A moment of the Gregorian calendar, to the second. -/
structure Timestamp where
  year : Int
  month : Nat
  day : Nat
  hour : Nat
  minute : Nat
  second : Nat
  deriving DecidableEq, Repr

namespace Timestamp

/-- The fields from the largest unit to the smallest: moments are ordered as
these lists are. -/
def fields (t : Timestamp) : List Int :=
  [t.year, t.month, t.day, t.hour, t.minute, t.second]

instance : LT Timestamp := ⟨fun t u => t.fields < u.fields⟩

instance (t u : Timestamp) : Decidable (t < u) :=
  inferInstanceAs (Decidable (t.fields < u.fields))

/-- Whether the year has a 29th of February. -/
def isLeapYear (year : Int) : Bool :=
  year % 4 == 0 && (year % 100 != 0 || year % 400 == 0)

/-- The number of days of a month; no days if there is no such month. -/
def daysInMonth (year : Int) (month : Nat) : Nat :=
  match month with
  | 2 => if isLeapYear year then 29 else 28
  | 4 | 6 | 9 | 11 => 30
  | 1 | 3 | 5 | 7 | 8 | 10 | 12 => 31
  | _ => 0

/-- Whether the fields are those of a moment, in the years for which the
calendar is kept. -/
def isValid (t : Timestamp) : Bool :=
  -262143 ≤ t.year && t.year ≤ 262142
    && 1 ≤ t.day && t.day ≤ daysInMonth t.year t.month
    && t.hour ≤ 23 && t.minute ≤ 59 && t.second ≤ 60

/-- The characters that take up exactly `size` bytes at the start of the
text, if the text is that long and no character crosses the limit. -/
def takeBytes (size : Nat) : List Char → Option (List Char)
  | [] => if size = 0 then some [] else none
  | c :: rest =>
    if size = 0 then some []
    else if c.utf8Size ≤ size then
      (takeBytes (size - c.utf8Size) rest).map (c :: ·)
    else none

/-- The number at the start of a text, after blanks, of at most `width`
digits, and what follows it. -/
def readNumber (width : Nat) (text : List Char) : Option (Nat × List Char) :=
  let digits := (trimStart text).take width |>.takeWhile Char.isDigit
  (readDigits digits).map fun n => (n, (trimStart text).drop digits.length)

/-- The year at the start of a text, after blanks, and what follows it. -/
def readYear (text : List Char) : Option (Int × List Char) :=
  match trimStart text with
  | '-' :: rest => (readSigned rest).map fun (n, rest) => (-(n : Int), rest)
  | '+' :: rest => (readSigned rest).map fun (n, rest) => ((n : Int), rest)
  | rest => (readNumber 4 rest).map fun (n, rest) => ((n : Int), rest)
where
  /-- The digits right after a sign, as many as there are. -/
  readSigned (text : List Char) : Option (Nat × List Char) :=
    let digits := text.takeWhile Char.isDigit
    (readDigits digits).map fun n => (n, text.drop digits.length)

/-- What follows an underscore at the start of a text. -/
def afterUnderscore : List Char → Option (List Char)
  | '_' :: rest => some rest
  | _ => none

/-- **Reads a moment** that is all of the text. -/
def ofChars? (text : List Char) : Option Timestamp := do
  let (year, text) ← readYear text
  let (month, text) ← readNumber 2 (← afterUnderscore text)
  let (day, text) ← readNumber 2 (← afterUnderscore text)
  let (hour, text) ← readNumber 2 (← afterUnderscore text)
  let (minute, text) ← readNumber 2 text
  let (second, text) ← readNumber 2 text
  let moment : Timestamp := ⟨year, month, day, hour, minute, second⟩
  if text.isEmpty && moment.isValid then some moment else none

/-- **The moment a version starts with.** -/
def ofVersion? (version : String) : Option Timestamp :=
  (takeBytes 17 version.toList).bind ofChars?

/-- A year in at least four digits. A year outside the four-digit ones has a
sign, which takes the place of no digit. -/
def yearChars (year : Int) : List Char :=
  if year < 0 then '-' :: padDecimal 4 year.natAbs
  else if year < 10000 then padDecimal 4 year.natAbs
  else '+' :: padDecimal 4 year.natAbs

/-- The moment as `2024-01-15 09:30:00`. -/
def chars (t : Timestamp) : List Char :=
  yearChars t.year ++ '-' :: padDecimal 2 t.month ++ '-' :: padDecimal 2 t.day
    ++ ' ' :: padDecimal 2 t.hour ++ ':' :: padDecimal 2 t.minute
    ++ ':' :: padDecimal 2 t.second

instance : ToString Timestamp := ⟨fun t => String.ofList t.chars⟩

end Timestamp

end SchemaTyping
