import SchemaTyping.Proofs.Sql.Boundary
import SchemaTyping.Proofs.Sql.ListedValues
import SchemaTyping.Proofs.Sql.TableBody

/-!
# Where a literal ends

Three readers go through a literal in the body of a table: the scanner of
statements, the search for the bracket that closes the body, and the cut at the
commas between the columns. The scanner takes a backslash in a literal for an
escape, and so it finds the end of every text that is escaped for it
(`Scan.marks_literal`). The other two know no escapes: each quote opens or
closes for them, also one behind a backslash.

So they agree on a literal only if it is closed for the other two as well, and
if the pieces into which they cut it define no column (`ReadWhole`). Of that
nothing but the literal decides, neither the name of the table nor the columns
that follow (`sameTables_comment_iff`).

```
CREATE TABLE t (c1 int COMMENT 'it\'s', c2 int);
```
-/

namespace SchemaTyping.Sql

open Text

variable {dialect : Dialect} {text other : List Char}

/-! ## Escaped literals -/

/-- A text with a backslash in front of its backslashes and single quotes. -/
def escaped (text : List Char) : List Char :=
  text.flatMap fun c => if c = '\\' ∨ c = '\'' then ['\\', c] else [c]

/-- **The literal of a text**, as the scanner of statements reads one. -/
def literal (text : List Char) : List Char := '\'' :: (escaped text ++ ['\''])

theorem escaped_cons_of_mem {c : Char} (h : c = '\\' ∨ c = '\'')
    (text : List Char) : escaped (c :: text) = '\\' :: c :: escaped text := by
  rw [escaped, List.flatMap_cons, if_pos h]
  rfl

theorem escaped_cons_of_not_mem {c : Char} (h : ¬ (c = '\\' ∨ c = '\''))
    (text : List Char) : escaped (c :: text) = c :: escaped text := by
  rw [escaped, List.flatMap_cons, if_neg h]
  rfl

/-- **The scanner finds the end of a literal.** -/
theorem Scan.marks_literal (h : other.head? ≠ some '\'') :
    Scan.marks .normal (literal text ++ other)
      = (literal text).map .char ++ Scan.marks .normal other := by
  have hinside : Scan.marks (.quoted '\'') (escaped text ++ '\'' :: other)
      = (escaped text).map .char ++ .char '\'' :: Scan.marks .normal other := by
    induction text with
    | nil => exact marks_cons_of_step _ (step_quoted_closing rfl h)
    | cons c text ih =>
      by_cases hc : c = '\\' ∨ c = '\''
      · rw [escaped_cons_of_mem hc, List.cons_append, List.cons_append,
          marks_cons_of_step (.copy 0 (.quoted '\'')) rfl,
          marks_cons_of_step (.quoted '\'') rfl, ih]
        rfl
      · obtain ⟨hback, hquote⟩ := not_or.mp hc
        rw [escaped_cons_of_not_mem hc, List.cons_append,
          marks_cons_of_step _ (step_quoted_of_ne hquote (fun _ => hback) _), ih]
        rfl
  rw [literal, List.cons_append, List.append_assoc, List.singleton_append,
    marks_cons_of_step _ (step_quote rfl _), hinside, List.map_cons,
    List.map_append, List.cons_append, List.append_assoc]
  rfl

/-- Without a quote a text has the same literal for all readers. -/
theorem closed_literal_of_not_mem (h : '\'' ∉ text) :
    Closed false (literal text) := by
  have hescaped : '\'' ∉ escaped text := by
    rw [escaped, List.mem_flatMap]
    rintro ⟨c, hc, hmem⟩
    split at hmem
    · rcases List.mem_cons.mp hmem with hback | hquote
      · cases hback
      · exact h (List.mem_singleton.mp hquote ▸ hc)
    · exact h (List.mem_singleton.mp hmem ▸ hc)
  exact .quoted rfl hescaped (.nil false)

/-! ## Columns behind a literal -/

/-- The start of a column with a comment. -/
def commentStart : List Char := "c1 int COMMENT ".toList

/-- **The columns that a literal brings** besides the one it belongs to. -/
def broughtColumns (dialect : Dialect) (text : List Char) : List ColumnSpec :=
  (items (literal text)).tail.filterMap (columnSpec? dialect .empty)

/-- Of a column with a comment only the end can be trimmed. -/
theorem trim_comment (rest : List Char) :
    trim (commentStart ++ '\'' :: rest) = commentStart ++ '\'' :: trimEnd rest := by
  have hends : EndsSolid (commentStart ++ ['\'']) := .concat _ (by decide)
  have happend (rest : List Char) :
      commentStart ++ '\'' :: rest = (commentStart ++ ['\'']) ++ rest :=
    List.append_cons _ _ _
  have hstart : trimStart (commentStart ++ '\'' :: rest)
      = commentStart ++ '\'' :: rest := rfl
  rw [trim, hstart, happend, hends.trimEnd_append, ← happend]

/-- The type ends in front of the comment. -/
theorem readTypeName_comment (rest : List Char) :
    readTypeName (" int COMMENT ".toList ++ rest)
      = ({ name := "int" }, "COMMENT ".toList ++ rest) := by
  have hcomment : typeParts ("COMMENT ".toList ++ rest)
      = ([], "COMMENT ".toList ++ rest) := by
    rw [typeParts]
    exact dif_pos (.inr rfl)
  have hparts : typeParts ("int".toList ++ (" COMMENT ".toList ++ rest))
      = ([⟨"int".toList, none, false⟩], "COMMENT ".toList ++ rest) :=
    typeParts_append (List.all_eq_true.mp (by decide)) (by decide) rfl
      (fun c hc => by cases hc; rfl) (takeGroup_eq_self fun h => by cases h)
      (takeArray_eq_self fun h => by cases h) hcomment
  have htrim : trimStart (" int COMMENT ".toList ++ rest)
      = "int".toList ++ (" COMMENT ".toList ++ rest) := rfl
  unfold readTypeName
  rw [htrim, hparts]
  rfl

/-- **The column of the comment** has its name and its type, whatever the
comment is. -/
theorem columnSpec?_comment (dialect : Dialect) (rest : List Char) :
    ∃ nullable, columnSpec? dialect .empty (commentStart ++ '\'' :: rest)
      = some ⟨"c1", .simple .integer, nullable⟩ := by
  let definition := " int COMMENT ".toList ++ '\'' :: trimEnd rest
  have hname : columnName? (trim (commentStart ++ '\'' :: rest))
      = some ("c1".toList, definition) := by
    rw [trim_comment]
    rfl
  have hword : (!((trim (commentStart ++ '\'' :: rest)).head?.any fun c =>
        (closingQuote? c).isSome)
      && definesNoColumn dialect "c1".toList definition) = false := by
    rw [trim_comment]
    rfl
  have hkind : kindOf dialect .empty { name := "int" } = .simple .integer := by
    cases dialect <;> rfl
  rw [columnSpec?_of_columnName? hname, hword, if_neg Bool.false_ne_true,
    readTypeName_comment, hkind]
  exact ⟨_, rfl⟩

theorem commentStart_closed : Closed false commentStart :=
  closed_of_inert (List.all_eq_true.mp (by decide))

/-- **The columns of a body that starts with a comment**: the one that has the
comment, those that its literal brings, and those of the rest. -/
theorem columns_of_closed (dialect : Dialect) (h : Closed true (literal text)) :
    ∃ nullable,
      (items (commentStart ++ literal text)).filterMap (columnSpec? dialect .empty)
          = ⟨"c1", .simple .integer, nullable⟩ :: broughtColumns dialect text
      ∧ ∀ rest,
        (items (commentStart ++ (literal text ++ ',' :: rest))).filterMap
            (columnSpec? dialect .empty)
          = ⟨"c1", .simple .integer, nullable⟩ :: (broughtColumns dialect text
            ++ (items rest).filterMap (columnSpec? dialect .empty)) := by
  obtain ⟨first, parts, hitems⟩ : ∃ first parts,
      items (literal text) = ('\'' :: first) :: parts := by
    show ∃ first parts, prepend '\'' (itemsFrom (some '\'') 0 _) = _
    cases itemsFrom (some '\'') 0 (escaped text ++ ['\'']) with
    | nil => exact ⟨[], [], rfl⟩
    | cons part parts => exact ⟨part, parts, rfl⟩
  obtain ⟨nullable, hcolumn⟩ := columnSpec?_comment dialect first
  have hbrought : broughtColumns dialect text
      = parts.filterMap (columnSpec? dialect .empty) := by
    rw [broughtColumns, hitems, List.tail_cons]
  refine ⟨nullable, ?_, fun rest => ?_⟩
  · rw [commentStart_closed.items_append, hitems, foldr_prepend,
      List.filterMap_cons_some hcolumn, hbrought]
  · rw [commentStart_closed.items_append, items_append_comma_of_closed h, hitems,
      List.cons_append, foldr_prepend, List.filterMap_cons_some hcolumn,
      List.filterMap_append, hbrought]

/-! ## Statements with a comment -/

/-- **A header that the scanner leaves as it is**: it has no comment in it, and
all its quotes are closed. -/
structure ScannedHeader extends TableHeader where
  kept : Scan.marks .normal chars = chars.map .char
  ends : Scan.after .normal chars = .normal

/-- The columns behind the first one, and the bracket that closes the body. -/
def furtherColumns (columns : List (List Char)) : List Char :=
  columns.flatMap ([',', ' '] ++ ·) ++ [')']

/-- **The statement of a table** whose first column has the text for its
comment. -/
def commented (header : ScannedHeader) (text : List Char)
    (columns : List (List Char)) : List Char :=
  header.chars
    ++ '(' :: (commentStart ++ (literal text ++ furtherColumns columns))

/-- **What the scanner makes of the further columns**: the rest of the statement,
which starts with a comma or with the bracket, and the chunks behind it. -/
structure FurtherChunks (columns : List (List Char)) (mark : Char)
    (chunk : List Char) (others : List (List Char)) : Prop where
  isMark : mark = ',' ∨ mark = ')'
  head?_eq : (furtherColumns columns).head? = some mark
  chunks_eq : chunks (Scan.marks .normal (furtherColumns columns))
    = (mark :: chunk) :: others

theorem exists_furtherChunks (columns : List (List Char)) :
    ∃ mark chunk others, FurtherChunks columns mark chunk others := by
  have hread {mark : Char} (hmark : mark = ',' ∨ mark = ')') (rest : List Char) :
      ∃ chunk others, chunks (Scan.marks .normal (mark :: rest))
        = (mark :: chunk) :: others := by
    have hstep : Scan.normal.step mark rest = (.normal, some (.char mark)) := by
      rcases hmark with rfl | rfl <;> rfl
    obtain ⟨chunk, others, h⟩ :=
      List.exists_cons_of_ne_nil (chunks_ne_nil (Scan.marks .normal rest))
    refine ⟨chunk, others, ?_⟩
    rw [Scan.marks_cons_of_step .normal hstep, chunks, h]
    rfl
  cases columns with
  | nil =>
    obtain ⟨chunk, others, h⟩ := hread (.inr rfl) []
    exact ⟨_, chunk, others, .inr rfl, rfl, h⟩
  | cons column columns =>
    obtain ⟨chunk, others, h⟩ := hread (.inl rfl)
      (' ' :: (column ++ columns.flatMap ([',', ' '] ++ ·)) ++ [')'])
    exact ⟨_, chunk, others, .inl rfl, rfl, h⟩

section Statement

variable {header : ScannedHeader} {columns others : List (List Char)}
variable {mark : Char} {chunk : List Char}

/-- A statement with a comment has no blanks at its start. -/
theorem trim_commented (hmark : mark = ',' ∨ mark = ')') :
    trim (header.chars ++ '(' :: (commentStart ++ (literal text ++ mark :: chunk)))
      = header.chars
        ++ '(' :: (commentStart ++ (literal text ++ mark :: trimEnd chunk)) := by
  let front := header.chars ++ '(' :: (commentStart ++ (literal text ++ [mark]))
  have happend (rest : List Char) :
      header.chars ++ '(' :: (commentStart ++ (literal text ++ mark :: rest))
        = front ++ rest := by
    simp [front]
  have hends : EndsSolid front := by
    have hlast : EndsSolid [mark] :=
      .concat [] (by rcases hmark with rfl | rfl <;> decide)
    have hfront : front = (header.chars ++ '(' :: (commentStart ++ literal text))
        ++ [mark] := by
      simp [front]
    rw [hfront]
    exact hlast.append_left (List.cons_ne_nil mark []) _
  have hstart : trimStart (front ++ chunk) = front ++ chunk :=
    trimStart_eq_self fun c hc => by
      rw [List.append_assoc] at hc
      exact header.isBlank_head hc
  rw [happend, happend, trim, hstart, hends.trimEnd_append]

/-- **The statement is scanned as it is written**, up to the end that the
further columns give it. -/
theorem statements_commented (h : FurtherChunks columns mark chunk others)
    (text : List Char) :
    statements (commented header text columns)
      = (header.chars
          ++ '(' :: (commentStart ++ (literal text ++ mark :: trimEnd chunk)))
        :: (others.map trim).filter (!·.isEmpty) := by
  let front := header.chars ++ '(' :: (commentStart ++ literal text)
  have hquote : (furtherColumns columns).head? ≠ some '\'' := by
    rw [h.head?_eq]
    rcases h.isMark with rfl | rfl <;> decide
  have hstart : Scan.marks .normal
        ('(' :: (commentStart ++ (literal text ++ furtherColumns columns)))
      = ('(' :: commentStart).map .char
        ++ Scan.marks .normal (literal text ++ furtherColumns columns) := rfl
  have hmarks : Scan.marks .normal (commented header text columns)
      = front.map .char ++ Scan.marks .normal (furtherColumns columns) := by
    have hnormal : Scan.normal.WellFormed := trivial
    have hborder : Separate header.chars
        ('(' :: (commentStart ++ (literal text ++ furtherColumns columns))) :=
      separate_cons (by decide) (by decide) _ _
    rw [commented, Scan.marks_append hnormal hborder header.ends, header.kept,
      hstart, Scan.marks_literal hquote]
    simp [front]
  have hfront : front ++ mark :: chunk
      = header.chars
        ++ '(' :: (commentStart ++ (literal text ++ mark :: chunk)) := by
    simp [front]
  unfold statements
  rw [hmarks, chunks_append, h.chunks_eq, foldr_prepend, List.map_cons, hfront,
    trim_commented h.isMark, List.filter_cons_of_pos (by simp)]

end Statement

/-! ## Names and kinds -/

/-- An operation without what it says of empty columns: only names and kinds are
left. -/
def namesAndKinds : Operation → Operation
  | .createTable table columns =>
    .createTable table (columns.map fun column => { column with nullable := true })
  | operation => operation

/-- **Two dumps create the same tables** but for which columns may be empty. -/
def SameTables (dialect : Dialect) (text other : List Char) : Prop :=
  (dumpOperations dialect (String.ofList text)).map namesAndKinds
    = (dumpOperations dialect (String.ofList other)).map namesAndKinds

/-- **A literal is read as a whole** by the readers of the body: they do not
end it too early or too late, and find no column in it. -/
def ReadWhole (dialect : Dialect) (text : List Char) : Prop :=
  Closed true (literal text) ∧ broughtColumns dialect text = []

instance : DecidablePred (ReadWhole dialect) := fun _ =>
  inferInstanceAs (Decidable (_ ∧ _))

theorem readWhole_of_not_mem (h : '\'' ∉ text) : ReadWhole dialect text := by
  have hclosed := closed_literal_of_not_mem h
  refine ⟨hclosed.allow_commas, ?_⟩
  rw [broughtColumns, items_of_closed hclosed]
  rfl

/-- The operations of a dump with a comment are those of its table and of the
statements behind it. -/
theorem sameTables_commented_iff {header : ScannedHeader}
    {columns others : List (List Char)} {mark : Char} {chunk : List Char}
    (h : FurtherChunks columns mark chunk others) (text other : List Char) :
    SameTables dialect (commented header text columns) (commented header other columns)
      ↔ (header.table? dialect .empty
            (commentStart ++ (literal text ++ mark :: trimEnd chunk))).map namesAndKinds
        = (header.table? dialect .empty
            (commentStart ++ (literal other ++ mark :: trimEnd chunk))).map
          namesAndKinds := by
  have hread (text : List Char) :
      dumpOperations dialect (String.ofList (commented header text columns))
        = (header.table? dialect .empty
            (commentStart ++ (literal text ++ mark :: trimEnd chunk))).toList
          ++ definitions dialect .empty ((others.map trim).filter (!·.isEmpty)) := by
    unfold dumpOperations
    rw [String.toList_ofList, statements_commented h, definitions,
      header.enumDefinition?_append]
    dsimp only
    rw [header.tableDefinition?_append]
  have hinjective {first second : Option Operation} :
      first.toList = second.toList ↔ first = second := by
    cases first <;> cases second <;> simp
  unfold SameTables
  rw [hread, hread, List.map_append, List.map_append, List.append_cancel_right_eq,
    ← Option.toList_map, ← Option.toList_map, hinjective]

/-! ## When the readers agree -/

section Table

variable {header : TableHeader}

/-- **The table behind a closed literal** has the columns that the literal brings
between the first one and the further ones. -/
theorem table?_of_closed (dialect : Dialect) (header : TableHeader)
    (h : Closed true (literal text)) :
    ∃ nullable, ∀ rest,
      header.table? dialect .empty (commentStart ++ (literal text ++ ')' :: rest))
          = some (.createTable header.tableName
            (⟨"c1", .simple .integer, nullable⟩ :: broughtColumns dialect text))
      ∧ header.table? dialect .empty
            (commentStart ++ (literal text ++ ',' :: rest))
          = (groupFrom none 0 rest).map fun found =>
            .createTable header.tableName
              (⟨"c1", .simple .integer, nullable⟩ :: (broughtColumns dialect text
                ++ (items found.1).filterMap (columnSpec? dialect .empty))) := by
  obtain ⟨nullable, hlast, hmore⟩ := columns_of_closed dialect h
  have hgroup (rest : List Char) :
      groupFrom none 0 (commentStart ++ (literal text ++ rest))
        = (groupFrom none 0 rest).map
          (inFront commentStart ∘ inFront (literal text)) := by
    rw [commentStart_closed.groupFrom_append, h.groupFrom_append, Option.map_map]
  refine ⟨nullable, fun rest => ⟨?_, ?_⟩⟩
  · have hclose : groupFrom none 0 (')' :: rest) = some ([], rest) := rfl
    unfold TableHeader.table?
    rw [hgroup, hclose, Option.map_some, Option.map_some, ← hlast]
    simp [inFront]
  · unfold TableHeader.table?
    rw [hgroup, groupFrom_plain rfl (by decide), Option.map_map, Option.map_map]
    refine congrArg (Option.map · _) (funext fun found => ?_)
    rw [← hmore]
    rfl

theorem exists_group_of_table? {table : String} {columns : List ColumnSpec}
    (h : (header.table? dialect .empty text).map namesAndKinds
      = some (.createTable table columns)) :
    ∃ inner after, groupFrom none 0 text = some (inner, after)
      ∧ ((items inner).filterMap (columnSpec? dialect .empty)).length
        = columns.length := by
  obtain ⟨operation, htable, hkinds⟩ := Option.map_eq_some_iff.mp h
  obtain ⟨⟨inner, after⟩, hgroup, rfl⟩ := Option.map_eq_some_iff.mp htable
  obtain ⟨-, rfl⟩ := Operation.createTable.inj hkinds
  exact ⟨inner, after, hgroup, (List.length_map _).symm⟩

end Table

/-- **A literal that is read as a whole is as good as an empty one**, whatever
columns follow. -/
theorem sameTables_of_readWhole (h : ReadWhole dialect text)
    (header : ScannedHeader) (columns : List (List Char)) :
    SameTables dialect (commented header text columns)
      (commented header [] columns) := by
  obtain ⟨mark, chunk, others, hchunks⟩ := exists_furtherChunks columns
  have hnil : ReadWhole dialect [] := readWhole_of_not_mem List.not_mem_nil
  obtain ⟨nullable, hread⟩ :=
    table?_of_closed dialect header.toTableHeader h.1
  obtain ⟨nullable', hread'⟩ :=
    table?_of_closed dialect header.toTableHeader hnil.1
  rw [h.2] at hread
  rw [hnil.2] at hread'
  rw [sameTables_commented_iff hchunks]
  rcases hchunks.isMark with rfl | rfl
  · rw [(hread _).2, (hread' _).2, Option.map_map, Option.map_map]
    rfl
  · rw [(hread _).1, (hread' _).1]
    rfl

/-- **A literal that is not read as a whole** spoils the table, alone in its body
or with one more column. -/
theorem readWhole_of_sameTables {header : ScannedHeader}
    (hnone : SameTables dialect (commented header text []) (commented header [] []))
    (hone : SameTables dialect (commented header text ["c2 int".toList])
      (commented header [] ["c2 int".toList])) : ReadWhole dialect text := by
  have hnil : ReadWhole dialect [] := readWhole_of_not_mem List.not_mem_nil
  obtain ⟨nullable, hempty⟩ :=
    table?_of_closed dialect header.toTableHeader hnil.1
  rw [hnil.2] at hempty
  have hbracket : FurtherChunks [] ')' [] [] := ⟨.inr rfl, rfl, by decide⟩
  have hcolumn : FurtherChunks ["c2 int".toList] ',' " c2 int)".toList [] :=
    ⟨.inl rfl, rfl, by decide⟩
  have htwo : (groupFrom none 0 (trimEnd " c2 int)".toList)).map
      (fun found => (items found.1).filterMap (columnSpec? dialect .empty))
        = some [⟨"c2", .simple .integer, true⟩] := by
    cases dialect <;> decide +kernel
  obtain ⟨found, hfound, hcolumns⟩ := Option.map_eq_some_iff.mp htwo
  rw [sameTables_commented_iff hbracket, (hempty _).1] at hnone
  rw [sameTables_commented_iff hcolumn, (hempty _).2, hfound, Option.map_some,
    hcolumns] at hone
  -- One column is read without the second one, and two are read with it.
  obtain ⟨inner, after, hgroup, hlength⟩ := exists_group_of_table? hnone
  obtain ⟨inner', after', hgroup', hlength'⟩ := exists_group_of_table? hone
  rw [← List.append_assoc] at hgroup hgroup'
  rcases closed_or_forall_groupFrom hgroup with ⟨hclosed, rfl⟩ | hearly
  · have hclosed := commentStart_closed.of_append_left hclosed
    obtain ⟨nullable, hbody, -⟩ := columns_of_closed dialect hclosed
    rw [hbody] at hlength
    exact ⟨hclosed, List.length_eq_zero_iff.mp (Nat.succ.inj hlength)⟩
  · obtain ⟨behind, hsame⟩ := hearly (',' :: trimEnd " c2 int)".toList)
    have hinner : inner = inner' :=
      (Prod.mk.inj (Option.some.inj (hsame.symm.trans hgroup'))).1
    rw [← hinner, hlength] at hlength'
    cases hlength'

/-! ## Columns that are whole -/

section Items

variable (columns : List BodyItem)

theorem furtherColumns_sealed :
    Sealed true ((columns.map (·.chars)).flatMap ([',', ' '] ++ ·))
      ∧ NoQuoteAhead ((columns.map (·.chars)).flatMap ([',', ' '] ++ ·)) := by
  induction columns with
  | nil => exact ⟨.nil true, nofun⟩
  | cons column columns ih =>
    refine ⟨.comma (.inert rfl ?_), noQuoteAhead_cons rfl _⟩
    exact column.isSealed.allow_commas.append ih.1 ih.2

/-- Columns that are whole do not end the statement. -/
theorem chunks_furtherColumns :
    chunks (Scan.marks .normal (furtherColumns (columns.map (·.chars))))
      = [furtherColumns (columns.map (·.chars))] := by
  have hbracket : Scan.marks .normal [')'] = [')'].map .char := rfl
  rw [furtherColumns,
    (furtherColumns_sealed columns).1.marks_append (noQuoteAhead_cons rfl []),
    hbracket, ← List.map_append, ← List.append_nil (List.map _ _), chunks_append,
    chunks, foldr_prepend, List.append_nil]

/-- The table of a column with an empty comment and of further columns. -/
def commentedTable (header : TableHeader) : TableStatement where
  header := header
  parts := (commentStart ++ literal []) :: columns.map (' ' :: ·.chars)
  options := []
  closed := by
    refine List.forall_mem_cons.mpr ⟨by decide, ?_⟩
    exact List.forall_mem_map.mpr fun column _ =>
      .plain rfl (by decide) (by decide) column.isSealed.closed

theorem chars_commentedTable (header : ScannedHeader) :
    (commentedTable columns header.toTableHeader).chars
      = commented header [] (columns.map (·.chars)) := by
  have hjoin (first : List Char) :
      [','].intercalate (first :: columns.map (' ' :: ·.chars))
        = first ++ (columns.map (·.chars)).flatMap ([',', ' '] ++ ·) := by
    induction columns generalizing first with
    | nil =>
      rw [List.map_nil, List.intercalate_singleton]
      exact (List.append_nil first).symm
    | cons column columns ih =>
      rw [List.map_cons, List.intercalate_cons_cons, ih]
      simp
  unfold TableStatement.chars commentedTable commented furtherColumns
  rw [hjoin]
  simp

/-- **A column with an empty comment and further columns** make the table that
they describe. -/
theorem dumpOperations_commented_nil (dialect : Dialect) (header : ScannedHeader) :
    dumpOperations dialect
        (String.ofList (commented header [] (columns.map (·.chars))))
      = [.createTable header.tableName
          (⟨"c1", .simple .integer, true⟩ :: columnsOf dialect .empty columns)] := by
  have hstatements : statements
      (String.ofList (commented header [] (columns.map (·.chars)))).toList
        = [] ++ (commentedTable columns header.toTableHeader).chars :: [] := by
    obtain ⟨mark, chunk, others, hchunks⟩ :=
      exists_furtherChunks (columns.map (·.chars))
    obtain ⟨hrest, rfl⟩ :=
      List.cons.inj (hchunks.chunks_eq.symm.trans (chunks_furtherColumns columns))
    have hends : EndsSolid [mark] :=
      .concat [] (by rcases hchunks.isMark with rfl | rfl <;> decide)
    have hsolid : EndsSolid (furtherColumns (columns.map (·.chars))) :=
      .concat _ (by decide)
    have htrim : mark :: trimEnd chunk = furtherColumns (columns.map (·.chars)) := by
      rw [← List.singleton_append, ← hends.trimEnd_append, List.singleton_append,
        hrest, hsolid.trimEnd_eq]
    rw [String.toList_ofList, statements_commented hchunks, htrim,
      chars_commentedTable]
    rfl
  have hcolumns : (columns.map (' ' :: ·.chars)).filterMap
      (columnSpec? dialect .empty) = columnsOf dialect .empty columns := by
    rw [List.filterMap_map]
    exact congrArg (List.filterMap · columns) (funext fun column =>
      columnSpec?_congr (trim_cons_of_isBlank (by decide)))
  have hfirst : columnSpec? dialect .empty (commentStart ++ literal [])
      = some ⟨"c1", .simple .integer, true⟩ := by
    cases dialect <;> decide +kernel
  have hoperation : (commentedTable columns header.toTableHeader).operation dialect
        .empty
      = .createTable header.tableName
          (⟨"c1", .simple .integer, true⟩ :: columnsOf dialect .empty columns) := by
    rw [← hcolumns, ← List.filterMap_cons_some hfirst]
    rfl
  rw [dumpOperations_of_statements _ hstatements]
  exact congrArg (fun operation => [operation]) hoperation

end Items

/-- **The readers of a statement agree where a literal ends** just where the
literal is read as a whole: then the comment of a column says nothing of the
table, whatever columns follow, and else it spoils some table. A text without
single quotes is always read as a whole. -/
theorem sameTables_comment_iff (dialect : Dialect) (text : List Char) :
    ((∀ (header : ScannedHeader) (columns : List (List Char)),
        SameTables dialect (commented header text columns)
          (commented header [] columns))
      ↔ ReadWhole dialect text)
    ∧ ('\'' ∉ text → ReadWhole dialect text)
    ∧ ∀ (header : ScannedHeader) (columns : List BodyItem),
      dumpOperations dialect
          (String.ofList (commented header [] (columns.map (·.chars))))
        = [.createTable header.tableName
            (⟨"c1", .simple .integer, true⟩ :: columnsOf dialect .empty columns)] := by
  refine ⟨⟨fun h => ?_, fun h => sameTables_of_readWhole h⟩,
    readWhole_of_not_mem, fun header columns => ?_⟩
  · let header : ScannedHeader :=
      ⟨⟨"CREATE TABLE t ".toList, by decide, by decide +kernel⟩, by decide, by decide⟩
    exact readWhole_of_sameTables (h header []) (h header ["c2 int".toList])
  · exact dumpOperations_commented_nil columns dialect header

theorem sameTables_comment_check :
    let header : ScannedHeader :=
      ⟨⟨"CREATE TABLE t ".toList, by decide, by decide +kernel⟩, by decide, by decide⟩
    SameTables .mySql
      (commented header "a), (b; \\ \"c".toList ["c2 int".toList])
      (commented header [] ["c2 int".toList]) := by
  intro header
  obtain ⟨hiff, hfree, -⟩ := sameTables_comment_iff .mySql "a), (b; \\ \"c".toList
  exact hiff.mpr (hfree (by decide)) header ["c2 int".toList]

/-- A quote in a comment loses the table or brings a column. -/
theorem dumpOperations_comment :
    dumpOperations .mySql "CREATE TABLE t (c1 int COMMENT 'it\\'s', c2 int);" = []
      ∧ dumpOperations .mySql
        "CREATE TABLE t (c1 int COMMENT 'a\\',\\'b', c2 int);"
      = [.createTable "t"
          [⟨"c1", .simple .integer, true⟩, ⟨"\\'b'", .other "", true⟩,
            ⟨"c2", .simple .integer, true⟩]]
      ∧ dumpOperations .mySql "CREATE TABLE t (c1 int COMMENT '', c2 int);"
      = [.createTable "t"
          [⟨"c1", .simple .integer, true⟩, ⟨"c2", .simple .integer, true⟩]] := by
  refine ⟨?_, ?_, ?_⟩ <;> decide +kernel

end SchemaTyping.Sql
