import SchemaTyping.Text.Basic
import SchemaTyping.Text.CaseTable
import SchemaTyping.Text.WordTable

/-!
# Letter case and word characters

The full Unicode case maps: the upper or lower form of a character may be
longer than one character (`ß` becomes `SS`). Lowering a whole text has one
rule that looks at the neighbours: a capital sigma becomes the final sigma
`ς` at the end of a word and `σ` elsewhere.
-/

namespace SchemaTyping.Text

/-- Whether some run `(first, last, step)` of the table holds the number. -/
def inRuns (table : List (Nat × Nat × Nat)) (n : Nat) : Bool :=
  table.any fun (first, last, step) =>
    first ≤ n && n ≤ last && (n - first) % step == 0

/-- The capital letters of Unicode. -/
def isUpper (c : Char) : Bool := inRuns upperCaseRuns c.toNat

/-- The small letters of Unicode. -/
def isLower (c : Char) : Bool := inRuns lowerCaseRuns c.toNat

/-- The letters that have a case at all. -/
def isCased (c : Char) : Bool :=
  isUpper c || isLower c || inRanges titleCaseRanges c.toNat

/-- The characters that are passed over when the end of a word is sought. -/
def isCaseIgnorable (c : Char) : Bool := inRanges caseIgnorableRanges c.toNat

/-- **A word character**: a character of a word for regular expressions. -/
def isWord (c : Char) : Bool := inRanges wordRanges c.toNat

/-- The form of a character that the two tables give: the long forms first,
then the runs, and else the character itself. -/
def caseForm (long : List (Nat × List Nat))
    (runs : List (Nat × Nat × Nat × Nat)) (c : Char) : List Char :=
  match long.lookup c.toNat with
  | some form => form.map Char.ofNat
  | none =>
    match runs.find? fun (first, last, step, _) =>
        first ≤ c.toNat && c.toNat ≤ last
          && (c.toNat - first) % step == 0 with
    | some (first, _, _, image) => [Char.ofNat (image + (c.toNat - first))]
    | none => [c]

/-- The upper form of a character. -/
def upperForm (c : Char) : List Char :=
  if c.toNat < 128 then [c.toUpper] else caseForm toUpperLong toUpperRuns c

/-- The lower form of a character on its own. -/
def lowerForm (c : Char) : List Char :=
  if c.toNat < 128 then [c.toLower] else caseForm toLowerLong toLowerRuns c

/-- Whether the first character that is not passed over is cased. -/
def startsCased (text : List Char) : Bool :=
  match text.dropWhile isCaseIgnorable with
  | c :: _ => isCased c
  | [] => false

/-- Lowers a text whose part before, in reverse order, is `before`. -/
def lowerAfter (before : List Char) : List Char → List Char
  | [] => []
  | c :: rest =>
    let form :=
      if c = 'Σ' then
        if startsCased before && !startsCased rest then ['ς'] else ['σ']
      else lowerForm c
    form ++ lowerAfter (c :: before) rest

/-- The lower form of a text. -/
def lower (text : List Char) : List Char := lowerAfter [] text

end SchemaTyping.Text
