/-!
# Text as lists of characters

The readers and printers of this library work on lists of characters, so that
they can be defined by recursion on what is left to read. This file holds what
they share: blank characters and trimming, cutting a text at a character, and
the comparison of ASCII letters without regard to case.

**Blank** is the Unicode property `White_Space`, the set that also ends a word
in a schema dump or in a name. The ASCII case map touches the 26 letters only;
the full case maps are in `SchemaTyping.Text.Case`.
-/

namespace SchemaTyping.Text

/-- Whether some range of the table, both ends included, holds the number. -/
def inRanges (table : List (Nat × Nat)) (n : Nat) : Bool :=
  table.any fun range => range.1 ≤ n && n ≤ range.2

/-- The characters with the Unicode property `White_Space`. -/
def blankRanges : List (Nat × Nat) :=
  [(9, 13), (32, 32), (133, 133), (160, 160), (5760, 5760), (8192, 8202),
    (8232, 8233), (8239, 8239), (8287, 8287), (12288, 12288)]

/-- **A blank character**: white space in the sense of Unicode. -/
def isBlank (c : Char) : Bool := inRanges blankRanges c.toNat

/-- Core's ASCII white space is blank. -/
theorem isBlank_of_isWhitespace {c : Char} (h : c.isWhitespace = true) :
    isBlank c = true := by
  simp only [Char.isWhitespace, Bool.or_eq_true, decide_eq_true_eq] at h
  rcases h with ((rfl | rfl) | rfl) | rfl <;> decide

/-- The text without the blanks at its start. -/
def trimStart (text : List Char) : List Char := text.dropWhile isBlank

/-- The text without the blanks at its end. -/
def trimEnd (text : List Char) : List Char :=
  (text.reverse.dropWhile isBlank).reverse

/-- The text without the blanks at its two ends. -/
def trim (text : List Char) : List Char := trimEnd (trimStart text)

theorem length_trimStart_le (text : List Char) :
    (trimStart text).length ≤ text.length :=
  (List.dropWhile_sublist _).length_le

theorem length_trimEnd_le (text : List Char) :
    (trimEnd text).length ≤ text.length := by
  simpa [trimEnd] using
    (List.dropWhile_sublist (l := text.reverse) isBlank).length_le

/-- Trimming never makes a text longer. -/
theorem length_trim_le (text : List Char) :
    (trim text).length ≤ text.length :=
  Nat.le_trans (length_trimEnd_le _) (length_trimStart_le _)

/-- What comes before the first `mark`, and what comes after it, if the text
has one. -/
def cutFirst (mark : Char) : List Char → Option (List Char × List Char)
  | [] => none
  | c :: rest =>
    if c = mark then some ([], rest)
    else (cutFirst mark rest).map fun (before, after) => (c :: before, after)

theorem append_of_cutFirst {mark : Char} {text before after : List Char}
    (h : cutFirst mark text = some (before, after)) :
    text = before ++ mark :: after := by
  induction text generalizing before with
  | nil => simp [cutFirst] at h
  | cons c rest ih =>
    by_cases hc : c = mark
    · simp_all [cutFirst]
    · rw [cutFirst, if_neg hc, Option.map_eq_some_iff] at h
      obtain ⟨⟨b, a⟩, hcut, heq⟩ := h
      cases heq
      simp [ih hcut]

/-- What comes before the last `mark`, and what comes after it, if the text
has one. -/
def cutLast (mark : Char) (text : List Char) :
    Option (List Char × List Char) :=
  (cutFirst mark text.reverse).map fun (after, before) =>
    (before.reverse, after.reverse)

/-- What comes after the last `mark`: the whole text if there is none. -/
def afterLast (mark : Char) (text : List Char) : List Char :=
  match cutLast mark text with
  | some (_, after) => after
  | none => text

/-- The text with its ASCII capitals made small. -/
def asciiLower (text : List Char) : List Char := text.map Char.toLower

/-- Equality up to the case of ASCII letters. -/
def asciiEqual (a b : List Char) : Bool := asciiLower a == asciiLower b

/-- Whether the text ends in `ending`. -/
def endsWith (text ending : List Char) : Bool :=
  ending.reverse.isPrefixOf text.reverse

/-- The word characters of an ASCII identifier: letters, digits and the
underscore. -/
def isAsciiWord (c : Char) : Bool := c.isAlphanum || c == '_'

/-- Whether the text has `part` somewhere in it. -/
def containsText (part : List Char) : List Char → Bool
  | [] => part.isEmpty
  | c :: rest => part.isPrefixOf (c :: rest) || containsText part rest

/-- Puts a character in front of the first of several pieces of text. -/
def prepend (c : Char) : List (List Char) → List (List Char)
  | [] => [[c]]
  | piece :: pieces => (c :: piece) :: pieces

/-- A function on lists of characters, used on a string. -/
def onString (f : List Char → List Char) (s : String) : String :=
  String.ofList (f s.toList)

/-- Every occurrence of the two characters `first`, `second` in a row, read
from the left without overlap, becomes the single character `second`. -/
def dropBefore (first second : Char) : List Char → List Char
  | a :: b :: rest =>
    if a = first ∧ b = second then second :: dropBefore first second rest
    else a :: dropBefore first second (b :: rest)
  | text => text

end SchemaTyping.Text
