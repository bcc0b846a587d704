import SchemaTyping.Proofs.Sql.Closed
import SchemaTyping.Proofs.Sql.Phrase
import SchemaTyping.Sql.Dump

/-!
# Tables with any body

A statement that creates a table has a header up to its first bracket, a body
in brackets, and options behind the body. No word, blank or name of a header
reaches over a bracket, so the header is read in the same way whatever the
body holds (`tableHeader?_append_bracket`), and the body can be taken out of
one statement and another put in.

A `TableStatement` is put together of the three parts. It creates the table
that they describe, and every statement that creates a table is one
(`tableDefinition?_eq_some_iff`). Of the items of the body it need only be
said that they are closed, which those of a body that has been read always
are.
-/

namespace SchemaTyping.Sql

open Text

variable {dialect : Dialect} {enums : EnumTypes}
variable {front rest text name left : List Char}

/-! ## Headers do not reach over a bracket -/

section Bracket

theorem afterKeyword?_append_bracket {keyword : List Char} (h : '(' ∉ keyword) :
    afterKeyword? keyword (front ++ '(' :: rest)
      = (afterKeyword? keyword front).map (· ++ '(' :: rest) := by
  induction keyword generalizing front with
  | nil => rfl
  | cons k keyword ih =>
    have hkeyword := List.not_mem_of_not_mem_cons h
    cases front with
    | nil => exact if_neg (List.ne_of_not_mem_cons h)
    | cons c front =>
      rw [List.cons_append, afterKeyword?, afterKeyword?]
      split
      · exact ih hkeyword
      · rfl

theorem afterBlanks?_append_bracket :
    afterBlanks? (front ++ '(' :: rest)
      = (afterBlanks? front).map (· ++ '(' :: rest) := by
  cases front with
  | nil => rfl
  | cons c front =>
    rw [List.cons_append, afterBlanks?, afterBlanks?]
    split
    · exact congrArg some (trimStart_append_cons (by decide) front rest)
    · rfl

theorem afterWord?_append_bracket {keyword : String}
    (h : '(' ∉ keyword.toList) :
    afterWord? keyword (front ++ '(' :: rest)
      = (afterWord? keyword front).map (· ++ '(' :: rest) := by
  unfold afterWord?
  rw [afterKeyword?_append_bracket h, Option.bind_map]
  cases afterKeyword? keyword.toList front with
  | none => rfl
  | some left => exact afterBlanks?_append_bracket

theorem afterOptional_append_bracket {keywords : List String}
    (h : ∀ keyword ∈ keywords, '(' ∉ keyword.toList) :
    afterOptional keywords (front ++ '(' :: rest)
      = afterOptional keywords front ++ '(' :: rest := by
  unfold afterOptional
  induction keywords with
  | nil => rfl
  | cons keyword keywords ih =>
    obtain ⟨hkeyword, hkeywords⟩ := List.forall_mem_cons.mp h
    rw [List.findSome?_cons, List.findSome?_cons,
      afterWord?_append_bracket hkeyword]
    cases afterWord? keyword front with
    | none => exact ih hkeywords
    | some left => rfl

theorem afterIfNotExists_append_bracket :
    afterIfNotExists (front ++ '(' :: rest)
      = afterIfNotExists front ++ '(' :: rest := by
  have hread : ((afterWord? "if" (front ++ '(' :: rest) >>= afterWord? "not")
        >>= afterWord? "exists")
      = ((afterWord? "if" front >>= afterWord? "not")
          >>= afterWord? "exists").map (· ++ '(' :: rest) := by
    rw [afterWord?_append_bracket (by decide)]
    cases afterWord? "if" front with
    | none => rfl
    | some left =>
      show (afterWord? "not" (left ++ '(' :: rest) >>= _)
        = (afterWord? "not" left >>= _).map _
      rw [afterWord?_append_bracket (by decide)]
      cases afterWord? "not" left with
      | none => rfl
      | some left => exact afterWord?_append_bracket (by decide)
  unfold afterIfNotExists
  rw [hread]
  cases (afterWord? "if" front >>= afterWord? "not") >>= afterWord? "exists" <;>
    rfl

/-- A name of a table ends at a bracket. -/
theorem nameFrom_append_bracket (stage : NameStage) (name front : List Char) :
    nameFrom tableQuotes stage name (front ++ '(' :: rest)
      = (nameFrom tableQuotes stage name front).map
          fun (found, left) => (found, left ++ '(' :: rest) := by
  have hmark : ∀ c ∈ ['('], isNameChar c = false :=
    isNameChar_eq_false_of_all (by decide)
  have hname : isNameChar '(' = false := hmark '(' List.mem_cons_self
  have hopening : '(' ∉ tableQuotes.opening := by decide
  have hclosing : '(' ∉ tableQuotes.closing := by decide
  induction front generalizing stage name with
  | nil => cases stage <;> simp [nameFrom, hname, hopening, hclosing]
  | cons c front ih =>
    rw [List.cons_append]
    cases stage with
    | start =>
      rw [nameFrom, nameFrom]
      split
      · exact ih _ _
      split
      · exact ih _ _
      · rfl
    | opened =>
      rw [nameFrom, nameFrom]
      split
      · exact ih _ _
      · rfl
    | inside =>
      rw [nameFrom, nameFrom]
      split
      · exact ih _ _
      split
      · exact ih _ _
      split
      · exact ih _ _
      · rfl
    | closed =>
      rw [nameFrom, nameFrom]
      split
      · exact ih _ _
      · rfl

end Bracket

/-! ## What is left of a header -/

section Suffix

theorem afterWord?_suffix {keyword : String}
    (h : afterWord? keyword text = some left) : left <:+ text := by
  obtain ⟨found, hfound, hleft⟩ := Option.bind_eq_some_iff.mp h
  obtain ⟨word, rfl, -⟩ := afterKeyword?_eq_some_iff.mp hfound
  obtain ⟨gap, rfl, -⟩ := afterBlanks?_eq_some_iff.mp hleft
  exact (List.suffix_append _ _).trans (List.suffix_append _ _)

theorem afterOptional_suffix (keywords : List String) (text : List Char) :
    afterOptional keywords text <:+ text := by
  unfold afterOptional
  cases hfound : keywords.findSome? (afterWord? · text) with
  | none => exact List.suffix_refl text
  | some left =>
    obtain ⟨keyword, -, hleft⟩ := List.exists_of_findSome?_eq_some hfound
    exact afterWord?_suffix hleft

theorem afterIfNotExists_suffix (text : List Char) :
    afterIfNotExists text <:+ text := by
  unfold afterIfNotExists
  cases hfound :
      (afterWord? "if" text >>= afterWord? "not") >>= afterWord? "exists" with
  | none => exact List.suffix_refl text
  | some left =>
    obtain ⟨second, hsecond, hthird⟩ := Option.bind_eq_some_iff.mp hfound
    obtain ⟨first, hfirst, hsecond⟩ := Option.bind_eq_some_iff.mp hsecond
    exact ((afterWord?_suffix hthird).trans (afterWord?_suffix hsecond)).trans
      (afterWord?_suffix hfirst)

theorem nameFrom_suffix {quotes : NameQuotes} {stage : NameStage}
    {read : List Char} (h : nameFrom quotes stage read text = some (name, left)) :
    left <:+ text := by
  fun_induction nameFrom quotes stage read text with
  | case3 | case5 | case12 | case13 => cases h
  | case9 | case11 | case14 | case15 =>
    cases h
    exact List.suffix_refl _
  | _ =>
    rename_i ih
    exact (ih h).trans (List.suffix_cons _ _)

end Suffix

/-! ## The two parts of a header -/

/-- The name of the table that a statement creates, and what follows it. -/
def createdName? (statement : List Char) : Option (List Char × List Char) := do
  let text ← afterWord? "create" statement
  let text := afterOptional ["global", "local"] text
  let text := afterOptional ["temporary", "temp", "unlogged"] text
  let text ← afterWord? "table" text
  qualifiedName? tableQuotes (afterIfNotExists text)

theorem tableHeader?_eq (statement : List Char) :
    tableHeader? statement
      = (createdName? statement).bind fun (name, text) =>
          match trimStart text with
          | '(' :: body => some (name, '(' :: body)
          | _ => none := by
  unfold tableHeader? createdName?
  cases afterWord? "create" statement with
  | none => rfl
  | some text =>
    show (afterWord? "table" _).bind _ = ((afterWord? "table" _).bind _).bind _
    exact (Option.bind_assoc _ _ _).symm

theorem createdName?_append_bracket (front rest : List Char) :
    createdName? (front ++ '(' :: rest)
      = (createdName? front).map
          fun (found, left) => (found, left ++ '(' :: rest) := by
  unfold createdName?
  rw [afterWord?_append_bracket (by decide)]
  cases afterWord? "create" front with
  | none => rfl
  | some left =>
    dsimp only [Option.map_some, Option.bind_eq_bind, Option.bind_some]
    rw [afterOptional_append_bracket (by decide),
      afterOptional_append_bracket (by decide),
      afterWord?_append_bracket (by decide)]
    cases afterWord? "table" _ with
    | none => rfl
    | some left =>
      dsimp only [Option.map_some, Option.bind_some]
      rw [afterIfNotExists_append_bracket]
      exact nameFrom_append_bracket .start [] _

theorem createdName?_suffix (h : createdName? text = some (name, left)) :
    left <:+ text := by
  obtain ⟨first, hfirst, h⟩ := Option.bind_eq_some_iff.mp h
  obtain ⟨second, hsecond, h⟩ := Option.bind_eq_some_iff.mp h
  have hname : left <:+ afterIfNotExists second := nameFrom_suffix h
  have htable := hname.trans (afterIfNotExists_suffix second)
  have hoptions := htable.trans (afterWord?_suffix hsecond)
  have hscope := hoptions.trans (afterOptional_suffix _ _)
  exact (hscope.trans (afterOptional_suffix _ _)).trans
    (afterWord?_suffix hfirst)

/-- **The name in a header**: a text that creates a table as soon as a body
follows it. -/
def headerName? (header : List Char) : Option (List Char) :=
  (createdName? header).bind fun (name, left) =>
    if trimStart left = [] then some name else none

/-- **A header is read in the same way whatever the body holds.** -/
theorem tableHeader?_append_bracket (h : '(' ∉ front) :
    tableHeader? (front ++ '(' :: rest)
      = (headerName? front).map (·, '(' :: rest) := by
  rw [tableHeader?_eq, createdName?_append_bracket, headerName?]
  cases hname : createdName? front with
  | none => rfl
  | some found =>
    obtain ⟨name, left⟩ := found
    dsimp only [Option.map_some, Option.bind_some]
    rw [trimStart_append_cons (by decide)]
    cases htrim : trimStart left with
    | nil => rfl
    | cons c more =>
      -- What is left of the header has no bracket in it.
      have hc : c ∈ front := by
        refine (createdName?_suffix hname).subset ?_
        refine (List.dropWhile_suffix isBlank).subset ?_
        rw [← trimStart, htrim]
        exact List.mem_cons_self
      rw [if_neg (List.cons_ne_nil c more), List.cons_append]
      split
      · next heq =>
        obtain ⟨rfl, -⟩ := List.cons.inj heq
        exact absurd hc h
      · rfl

/-- A header ends at the first bracket. -/
theorem exists_header_of_tableHeader?
    (h : tableHeader? text = some (name, left)) :
    ∃ header rest, text = header ++ '(' :: rest ∧ '(' ∉ header
      ∧ headerName? header = some name ∧ left = '(' :: rest := by
  have hmem : '(' ∈ text := by
    rw [tableHeader?_eq] at h
    obtain ⟨⟨found, behind⟩, hname, h⟩ := Option.bind_eq_some_iff.mp h
    dsimp only at h
    split at h
    · next body htrim =>
      refine (createdName?_suffix hname).subset ?_
      refine (List.dropWhile_suffix isBlank).subset ?_
      rw [← trimStart, htrim]
      exact List.mem_cons_self
    · cases h
  obtain ⟨header, rest, rfl, hheader⟩ := List.eq_append_cons_of_mem hmem
  rw [tableHeader?_append_bracket hheader] at h
  obtain ⟨found, hfound, heq⟩ := Option.map_eq_some_iff.mp h
  cases heq
  exact ⟨header, rest, rfl, hheader, hfound, rfl⟩

/-! ## A table is no type -/

/-- Of two keywords that a text starts with, one starts with the other. -/
theorem isPrefix_or_of_afterWord? {first second : String}
    {behind : List Char} (hfirst : afterWord? first text = some left)
    (hsecond : afterWord? second text = some behind) :
    first.toList <+: second.toList ∨ second.toList <+: first.toList := by
  obtain ⟨_, hfirst, -⟩ := Option.bind_eq_some_iff.mp hfirst
  obtain ⟨_, hsecond, -⟩ := Option.bind_eq_some_iff.mp hsecond
  obtain ⟨word, htext, hword⟩ := afterKeyword?_eq_some_iff.mp hfirst
  obtain ⟨other, htext', hother⟩ := afterKeyword?_eq_some_iff.mp hsecond
  rw [← hword, ← hother]
  have hstart : word <+: text := htext ▸ List.prefix_append _ _
  have hstart' : other <+: text := htext' ▸ List.prefix_append _ _
  have hor := List.prefix_or_prefix_of_prefix hstart hstart'
  exact hor.imp (·.map foldLetter) (·.map foldLetter)

/-- Where none of the keywords stands, none is passed over. -/
theorem afterOptional_eq_self {keywords : List String}
    (h : ∀ keyword ∈ keywords, afterWord? keyword text = none) :
    afterOptional keywords text = text := by
  unfold afterOptional
  rw [List.findSome?_eq_none_iff.mpr h]
  rfl

/-- **A statement that creates a table declares no type.** -/
theorem enumDefinition?_eq_none (h : (createdName? text).isSome = true) :
    enumDefinition? text = none := by
  obtain ⟨found, hfound⟩ := Option.isSome_iff_exists.mp h
  obtain ⟨behind, hcreate, hname⟩ := Option.bind_eq_some_iff.mp hfound
  cases htype : afterWord? "type" behind with
  | none =>
    have hread : (afterWord? "create" text >>= afterWord? "type") = none := by
      rw [hcreate]
      exact htype
    unfold enumDefinition?
    rw [hread]
    rfl
  | some left =>
    -- None of the words before the name of a table starts as `type` does.
    have hnone {keyword : String}
        (hkeyword : ¬ ("type".toList <+: keyword.toList
          ∨ keyword.toList <+: "type".toList)) :
        afterWord? keyword behind = none :=
      Option.eq_none_iff_forall_ne_some.mpr fun _ hword =>
        hkeyword (isPrefix_or_of_afterWord? htype hword)
    have hscope : afterOptional ["global", "local"] behind = behind :=
      afterOptional_eq_self (by simp [hnone])
    have hduration :
        afterOptional ["temporary", "temp", "unlogged"] behind = behind :=
      afterOptional_eq_self (by simp [hnone])
    dsimp only at hname
    rw [hscope, hduration, hnone (by decide)] at hname
    cases hname

/-! ## Statements with a body -/

/-- **The header of a table**: it names the table and ends before the first
bracket. -/
structure TableHeader where
  chars : List Char
  no_bracket : '(' ∉ chars
  named : (headerName? chars).isSome = true

namespace TableHeader

variable (header : TableHeader)

/-- The name of the table. -/
def tableName : String := String.ofList ((headerName? header.chars).get header.named)

/-- **The table behind a header** and the bracket that opens the body: its
columns are those of the text up to the bracket that closes it. -/
def table? (dialect : Dialect) (enums : EnumTypes) (text : List Char) :
    Option Operation :=
  (groupFrom none 0 text).map fun found =>
    .createTable header.tableName
      ((items found.1).filterMap (columnSpec? dialect enums))

theorem tableDefinition?_append (text : List Char) :
    tableDefinition? dialect enums (header.chars ++ '(' :: text)
      = header.table? dialect enums text := by
  have hname : headerName? header.chars
      = some ((headerName? header.chars).get header.named) :=
    (Option.some_get _).symm
  unfold tableDefinition?
  rw [tableHeader?_append_bracket header.no_bracket, hname, Option.map_some,
    Option.bind_eq_bind, Option.bind_some]
  dsimp only
  rw [group?, table?]
  cases groupFrom none 0 text with
  | none => rfl
  | some found => rfl

/-- The statement declares no type. -/
theorem enumDefinition?_append (text : List Char) :
    enumDefinition? (header.chars ++ '(' :: text) = none := by
  refine enumDefinition?_eq_none ?_
  have hnamed := header.named
  unfold headerName? at hnamed
  rw [createdName?_append_bracket, Option.isSome_map]
  exact Option.isSome_of_isSome_bind hnamed

/-- A header starts with no blank. -/
theorem isBlank_head {c : Char}
    (hc : (header.chars ++ rest).head? = some c) : isBlank c = false := by
  obtain ⟨name, hname⟩ := Option.isSome_iff_exists.mp header.named
  obtain ⟨found, hfound, -⟩ := Option.bind_eq_some_iff.mp hname
  obtain ⟨text, hcreate, -⟩ := Option.bind_eq_some_iff.mp hfound
  obtain ⟨left, hleft, -⟩ := Option.bind_eq_some_iff.mp hcreate
  obtain ⟨word, hchars, hword⟩ := afterKeyword?_eq_some_iff.mp hleft
  have hspells : Spells "create" word := hword
  rw [hchars, List.append_assoc] at hc
  exact hspells.isBlank_head (by decide) hc

end TableHeader

/-- **A statement that creates a table**: a header, the items of the body, and
what stands behind the body. -/
structure TableStatement where
  header : TableHeader
  parts : List (List Char)
  options : List Char
  closed : ∀ part ∈ parts, Closed false part

namespace TableStatement

variable (table : TableStatement)

/-- The text of the statement, with commas between the items. -/
def chars : List Char :=
  table.header.chars
    ++ '(' :: ([','].intercalate table.parts ++ ')' :: table.options)

/-- **The table that is created**, where the enumerated types are known: its
columns are those of the items. -/
def operation (dialect : Dialect) (enums : EnumTypes) : Operation :=
  .createTable table.header.tableName
    (table.parts.filterMap (columnSpec? dialect enums))

/-- The columns of a body are those of its items. -/
theorem filterMap_items :
    (items ([','].intercalate table.parts)).filterMap (columnSpec? dialect enums)
      = table.parts.filterMap (columnSpec? dialect enums) := by
  have hclosed := table.closed
  cases hparts : table.parts with
  | nil => rfl
  | cons part parts =>
    rw [hparts] at hclosed
    rw [items_intercalate (.nil false) hclosed]
    exact congrArg (List.filterMap _ <| part :: ·) (List.map_id parts)

theorem tableDefinition?_chars :
    tableDefinition? dialect enums table.chars
      = some (table.operation dialect enums) := by
  have hbody : Closed true ([','].intercalate table.parts) :=
    .intercalate (.nil true) fun part hmem =>
      (table.closed part hmem).allow_commas
  have hgroup : groupFrom none 0
      ([','].intercalate table.parts ++ ')' :: table.options)
        = some ([','].intercalate table.parts, table.options) :=
    hbody.group?_eq
  unfold chars
  rw [table.header.tableDefinition?_append, TableHeader.table?, hgroup,
    Option.map_some]
  dsimp only
  rw [table.filterMap_items]
  rfl

/-- The statement declares no type. -/
theorem enumDefinition?_chars : enumDefinition? table.chars = none :=
  table.header.enumDefinition?_append _

/-- The table of a body in which an item defines a column. -/
theorem operation_of_item {before after : List (List Char)} {item : List Char}
    {spec : ColumnSpec}
    (hparts : table.parts = before ++ item :: after)
    (hitem : columnSpec? dialect enums item = some spec) :
    table.operation dialect enums
      = .createTable table.header.tableName
          (before.filterMap (columnSpec? dialect enums)
            ++ spec :: after.filterMap (columnSpec? dialect enums)) := by
  rw [TableStatement.operation, hparts, List.filterMap_append,
    List.filterMap_cons_some hitem]

end TableStatement

/-- **Every statement that creates a table is of this form**, and one of this
form creates the table that it says. -/
theorem tableDefinition?_eq_some_iff {statement : List Char}
    {operation : Operation} :
    tableDefinition? dialect enums statement = some operation
      ↔ ∃ table : TableStatement, table.chars = statement
        ∧ table.operation dialect enums = operation := by
  constructor
  · intro h
    have hdefinition := h
    obtain ⟨⟨name, text⟩, hname, h⟩ := Option.bind_eq_some_iff.mp h
    obtain ⟨⟨body, options⟩, hgroup, -⟩ := Option.bind_eq_some_iff.mp h
    obtain ⟨header, rest, rfl, hheader, hfound, rfl⟩ :=
      exists_header_of_tableHeader? hname
    obtain ⟨htext, hbody⟩ := group?_eq_some_iff.mp hgroup
    obtain ⟨part, parts, -, hjoin, hparts⟩ := hbody.itemsClosed
    let table : TableStatement :=
      ⟨⟨header, hheader, by rw [hfound]; rfl⟩, part :: parts, options, hparts⟩
    have hchars : table.chars = header ++ '(' :: rest := by
      unfold TableStatement.chars
      rw [hjoin, htext]
    rw [← hchars, table.tableDefinition?_chars] at hdefinition
    exact ⟨table, hchars, Option.some.inj hdefinition⟩
  · rintro ⟨table, rfl, rfl⟩
    exact table.tableDefinition?_chars

/-! ## Statements in a dump -/

/-- **The enumerated types that some statements declare**, besides those
declared before. -/
def declared (enums : EnumTypes) : List (List Char) → EnumTypes
  | [] => enums
  | statement :: rest =>
    match enumDefinition? statement with
    | some (name, values) =>
      declared
        (enums.insert (String.ofList (asciiLower name)) (arguments values)) rest
    | none => declared enums rest

theorem declared_append (enums : EnumTypes) (front back : List (List Char)) :
    declared enums (front ++ back) = declared (declared enums front) back := by
  induction front generalizing enums with
  | nil => rfl
  | cons statement front ih =>
    rw [List.cons_append, declared, declared]
    cases enumDefinition? statement with
    | none => exact ih enums
    | some found => exact ih _

/-- **Later statements are read with the types of the earlier ones.** -/
theorem definitions_append (enums : EnumTypes) (front back : List (List Char)) :
    definitions dialect enums (front ++ back)
      = definitions dialect enums front
        ++ definitions dialect (declared enums front) back := by
  induction front generalizing enums with
  | nil => rfl
  | cons statement front ih =>
    rw [List.cons_append, definitions, definitions, declared]
    cases enumDefinition? statement with
    | none =>
      dsimp only
      rw [ih, List.append_assoc]
    | some found =>
      obtain ⟨name, values⟩ := found
      exact ih _

/-- The operations of a dump in which a table is created. -/
theorem dumpOperations_of_statements {dump : String}
    {front back : List (List Char)} (table : TableStatement)
    (h : statements dump.toList = front ++ table.chars :: back) :
    dumpOperations dialect dump
      = definitions dialect .empty front
        ++ table.operation dialect (declared .empty front)
          :: definitions dialect (declared .empty front) back := by
  unfold dumpOperations
  rw [h, definitions_append, definitions, table.enumDefinition?_chars]
  dsimp only
  rw [table.tableDefinition?_chars]
  rfl

end SchemaTyping.Sql
