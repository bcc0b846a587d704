import SchemaTyping.Proofs.Sql.ColumnReading
import SchemaTyping.Proofs.Sql.TableBody

/-!
# Items that define no column

Besides the columns the body of a table holds definitions that belong to the
whole table: its keys, its checks, its constraints. They start with a word of
their own, and an item that starts with such a word is passed over.

Where that word ends is another matter. A bare name of a column goes on to the
next blank, whatever stands in it, and the first word of an item is read like
a name. So a word with a blank behind it is found, and any number of such
items may be put into a body or taken out of it. In `UNIQUE(a)` the word that
is read is `UNIQUE(a)`, which is no word of a table, and the item defines a
column of that name.

```
CREATE TABLE t (a int, CHECK (a > 0), UNIQUE (a));
```
-/

namespace SchemaTyping.Sql

open Text

variable {dialect : Dialect} {enums : EnumTypes}
variable {c : Char} {item word rest : List Char}

/-! ## The first word of an item -/

/-- **A word that starts a definition of the whole table**, in any case of
letters. -/
def IsTableWord (word : List Char) : Prop :=
  String.ofList (asciiLower word) ∈ tableWords

instance : DecidablePred IsTableWord := fun _ =>
  inferInstanceAs (Decidable (_ ∈ _))

/-- **An item defines something of the whole table**: one of these words with
a blank behind it, or with nothing more. -/
def IsTableItem (item : List Char) : Prop :=
  ∃ word rest, trim item = word ++ rest ∧ IsTableWord word
    ∧ ∀ c, rest.head? = some c → isBlank c = true

/-- **An item has a bracket right behind such a word.** -/
def IsBracketItem (item : List Char) : Prop :=
  ∃ word rest, trim item = word ++ '(' :: rest ∧ IsTableWord word

/-- The letters of such a word are letters of ASCII. -/
theorem isAsciiWord_of_isTableWord (h : IsTableWord word) :
    ∀ c ∈ word, isAsciiWord c = true := by
  have hwords : tableWords.all (·.toList.all isAsciiWord) = true := by decide
  have hword := List.all_eq_true.mp hwords _ h
  rw [String.toList_ofList, List.all_eq_true] at hword
  intro c hc
  exact isAsciiWord_of_toLower (hword _ (List.mem_map_of_mem hc))

theorem not_isBlank_of_isTableWord (h : IsTableWord word) :
    ∀ c ∈ word, (!isBlank c) = true := by
  intro c hc
  rw [isBlank_of_isAsciiWord (isAsciiWord_of_isTableWord h c hc)]
  rfl

/-- No quote opens a name that starts with a word character. -/
theorem closingQuote?_of_isAsciiWord (h : isAsciiWord c = true) :
    closingQuote? c = none := by
  unfold closingQuote?
  rw [if_neg, if_neg]
  · rintro (rfl | rfl) <;> cases h
  · rintro rfl
    cases h

/-- The name of an item that starts with such a word goes on to the first
blank. -/
theorem columnSpec?_of_isTableWord (hword : IsTableWord word)
    (h : trim item = word ++ rest) :
    columnSpec? dialect enums item
      = if definesNoColumn dialect (word ++ rest.takeWhile (!isBlank ·))
            (rest.dropWhile (!isBlank ·)) = true then none
        else some ⟨String.ofList (word ++ rest.takeWhile (!isBlank ·)),
          kindOf dialect enums (readTypeName (rest.dropWhile (!isBlank ·))).1,
          allowsNull (readTypeName (rest.dropWhile (!isBlank ·))).2⟩ := by
  have hletters := isAsciiWord_of_isTableWord hword
  have hsolid := not_isBlank_of_isTableWord hword
  have hne : word ≠ [] := by
    rintro rfl
    revert hword
    decide
  obtain ⟨c, letters, rfl⟩ := List.exists_cons_of_ne_nil hne
  have hquote : closingQuote? c = none :=
    closingQuote?_of_isAsciiWord (hletters c List.mem_cons_self)
  have hname : columnName? (trim item)
      = some ((c :: letters) ++ rest.takeWhile (!isBlank ·),
          rest.dropWhile (!isBlank ·)) := by
    rw [h, ← List.takeWhile_append_of_pos hsolid,
      ← List.dropWhile_append_of_pos hsolid, List.cons_append, columnName?,
      hquote]
  have hbare : ((trim item).head?.any fun c => (closingQuote? c).isSome)
      = false := by
    rw [h]
    show (closingQuote? c).isSome = false
    rw [hquote]
    rfl
  rw [columnSpec?_of_columnName? hname, hbare, Bool.not_false, Bool.true_and]

/-- **A definition of the whole table defines no column.** -/
theorem columnSpec?_of_isTableItem (h : IsTableItem item) :
    columnSpec? dialect enums item = none := by
  obtain ⟨word, rest, htrim, hword, hrest⟩ := h
  have htake : rest.takeWhile (!isBlank ·) = [] := by
    cases rest with
    | nil => rfl
    | cons c rest => exact List.takeWhile_cons_of_neg (by simp [hrest c rfl])
  have hno : ∀ rest, definesNoColumn dialect word rest = true := by
    intro rest
    unfold definesNoColumn
    dsimp only
    rw [List.contains_iff_mem.mpr hword, Bool.true_or]
  rw [columnSpec?_of_isTableWord hword htrim, htake, List.append_nil,
    if_pos (hno _)]

/-- A word with a bracket in it starts no definition but that of a column. -/
theorem definesNoColumn_of_bracket (h : '(' ∈ word) (rest : List Char) :
    definesNoColumn dialect word rest = false := by
  have hnone : (tableWords ++ indexWords).all (!·.toList.contains '(') = true := by
    decide
  have hfree : String.ofList (asciiLower word) ∉ tableWords ++ indexWords := by
    intro hmem
    have hfound := List.all_eq_true.mp hnone _ hmem
    have hbracket : '(' ∈ asciiLower word := List.mem_map.mpr ⟨'(', h, by decide⟩
    rw [String.toList_ofList, List.contains_iff_mem.mpr hbracket] at hfound
    cases hfound
  rw [List.mem_append, not_or] at hfree
  unfold definesNoColumn
  dsimp only
  rw [List.contains_eq_mem, List.contains_eq_mem, decide_eq_false hfree.1,
    decide_eq_false hfree.2, Bool.false_and, Bool.or_false]

/-- **With a bracket right behind its word an item defines a column**, whose
name goes on to the first blank. -/
theorem exists_columnSpec?_of_isBracketItem (h : IsBracketItem item) :
    ∃ spec, columnSpec? dialect enums item = some spec
      ∧ spec.name = String.ofList ((trim item).takeWhile (!isBlank ·)) := by
  obtain ⟨word, rest, htrim, hword⟩ := h
  have hbracket : '(' ∈ word ++ ('(' :: rest).takeWhile (!isBlank ·) := by
    rw [List.takeWhile_cons_of_pos (by decide)]
    exact List.mem_append_right _ List.mem_cons_self
  rw [columnSpec?_of_isTableWord hword htrim, definesNoColumn_of_bracket hbracket,
    if_neg Bool.false_ne_true, htrim,
    List.takeWhile_append_of_pos (not_isBlank_of_isTableWord hword)]
  exact ⟨_, rfl, rfl⟩

/-! ## Bodies with such items -/

/-- **The second list is the first with definitions of the whole table put
in**, any number of them at any place. -/
inductive AddsTableItems : List (List Char) → List (List Char) → Prop
  | nil : AddsTableItems [] []
  | keep {parts others : List (List Char)} (part : List Char)
      (adds : AddsTableItems parts others) :
      AddsTableItems (part :: parts) (part :: others)
  | put {parts others : List (List Char)} {item : List Char}
      (isTableItem : IsTableItem item) (adds : AddsTableItems parts others) :
      AddsTableItems parts (item :: others)

/-- The items that are put in add no column. -/
theorem AddsTableItems.filterMap_eq {parts others : List (List Char)}
    (h : AddsTableItems parts others) :
    others.filterMap (columnSpec? dialect enums)
      = parts.filterMap (columnSpec? dialect enums) := by
  induction h with
  | nil => rfl
  | keep part _ ih => rw [List.filterMap_cons, List.filterMap_cons, ih]
  | put hitem _ ih =>
    rw [List.filterMap_cons, columnSpec?_of_isTableItem hitem]
    exact ih

theorem AddsTableItems.operation_eq {table other : TableStatement}
    (h : AddsTableItems table.parts other.parts)
    (hheader : other.header = table.header) :
    other.operation dialect enums = table.operation dialect enums := by
  unfold TableStatement.operation
  rw [hheader, h.filterMap_eq]

/-- **Definitions of the whole table never become columns** where a blank
follows their first word: they may be put into the body of any statement that
creates a table, or taken out of it, and the dump says the same. Where a
bracket follows the word, the item always becomes a column. -/
theorem tableItems_define_no_column (dialect : Dialect) (enums : EnumTypes) :
    (∀ item, IsTableItem item → columnSpec? dialect enums item = none)
    ∧ (∀ item, IsBracketItem item →
      ∃ spec, columnSpec? dialect enums item = some spec
        ∧ spec.name = String.ofList ((trim item).takeWhile (!isBlank ·)))
    ∧ (∀ statement operation,
      tableDefinition? dialect enums statement = some operation
        ↔ ∃ table : TableStatement, table.chars = statement
          ∧ table.operation dialect enums = operation)
    ∧ ∀ table other : TableStatement, other.header = table.header →
      AddsTableItems table.parts other.parts →
      other.operation dialect enums = table.operation dialect enums
      ∧ ∀ dump otherDump front back,
        statements dump.toList = front ++ table.chars :: back →
        statements otherDump.toList = front ++ other.chars :: back →
        dumpOperations dialect otherDump = dumpOperations dialect dump := by
  refine ⟨fun _ => columnSpec?_of_isTableItem,
    fun _ => exists_columnSpec?_of_isBracketItem,
    fun _ _ => tableDefinition?_eq_some_iff, fun table other hheader hadds => ?_⟩
  refine ⟨hadds.operation_eq hheader, fun dump otherDump front back hdump hother => ?_⟩
  rw [dumpOperations_of_statements table hdump,
    dumpOperations_of_statements other hother, hadds.operation_eq hheader]

theorem tableItems_define_no_column_check :
    dumpOperations .mySql
        "CREATE TABLE t (Primary Key (a),a int,CHECK (a <> ')'));"
      = dumpOperations .mySql "CREATE TABLE t (a int);" := by
  let column := "a int".toList
  let key := "Primary Key (a)".toList
  let check := "CHECK (a <> ')')".toList
  let table : TableStatement :=
    ⟨⟨"CREATE TABLE t ".toList, by decide, by decide +kernel⟩, [column], [],
      by decide⟩
  let other : TableStatement :=
    ⟨table.header, [key, column, check], [], by decide⟩
  have hkey : IsTableItem key :=
    ⟨"Primary".toList, " Key (a)".toList, by decide, by decide,
      fun c hc => by cases hc; decide⟩
  have hcheck : IsTableItem check :=
    ⟨"CHECK".toList, " (a <> ')')".toList, by decide, by decide,
      fun c hc => by cases hc; decide⟩
  obtain ⟨-, -, -, hsame⟩ := tableItems_define_no_column .mySql .empty
  exact (hsame table other rfl (.put hkey (.keep column (.put hcheck .nil)))).2
    _ _ [] [] (by decide +kernel) (by decide +kernel)

/-- Without a blank behind its word a definition of the table is taken for a
column. -/
theorem dumpOperations_unique_bracket :
    IsBracketItem "UNIQUE(a)".toList
      ∧ dumpOperations .mySql "CREATE TABLE t (a int, UNIQUE(a));"
        = [.createTable "t"
            [⟨"a", .simple .integer, true⟩, ⟨"UNIQUE(a)", .other "", true⟩]]
      ∧ dumpOperations .mySql "CREATE TABLE t (a int);"
        = [.createTable "t" [⟨"a", .simple .integer, true⟩]] :=
  ⟨⟨"UNIQUE".toList, "a)".toList, by decide, by decide⟩, by decide +kernel,
    by decide +kernel⟩

end SchemaTyping.Sql
