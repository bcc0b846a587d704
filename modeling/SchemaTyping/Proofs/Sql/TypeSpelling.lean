import SchemaTyping.Proofs.Sql.ColumnLine
import SchemaTyping.Proofs.Sql.SchemaName

/-!
# How the name of a type is written

The name of a type may be written with the schemas around it, and with quotes
around each of its parts: `int4`, `pg_catalog.int4`, `"pg_catalog"."int4"` and
`[int4]` name one type. A `Spelling` says which of these ways is taken.

The reader of types knows words and dots, but no quotes. Schemas become part of
the name (`TypeText.readTypeName_of_isBare`), and at the first quote the name
ends, with all that should follow (`TypeText.typeName_of_not_isBare`). So a
declared type may have schemas in front of its name, but any other type loses
its kind, and so does a declared one in quotes.

```
CREATE TABLE t (a int4, b pg_catalog.int4, c "int4");
```
-/

namespace SchemaTyping.Sql

open Text

variable {dialect : Dialect} {enums : EnumTypes}
variable {front word text rest : List Char}

/-! ## Reading the name of a type -/

/-- A text that starts with a word has no blank to trim. -/
theorem trimStart_word (hword : ∀ c ∈ word, isTypeChar c = true)
    (hne : word ≠ []) (rest : List Char) :
    trimStart (word ++ rest) = word ++ rest :=
  trimStart_eq_self fun c hc =>
    isBlank_of_isTypeChar (hword c (mem_of_head?_append hne hc))

theorem takeArray_of_ne {c d : Char} (h : d ≠ ']') (text : List Char) :
    takeArray (c :: d :: text) = (false, c :: d :: text) := by
  rw [takeArray.eq_def]
  split
  · next heq =>
    cases heq
    exact absurd rfl h
  · rfl

/-- What stands in front of the first word stands in front of the name. -/
theorem ofParts_behind {group : Option (List Char)} {array : Bool}
    {parts : List TypePart} (hword : String.ofList word ∉ typeModifiers)
    (hfront : String.ofList (front ++ word) ∉ typeModifiers) :
    TypeName.ofParts (⟨front ++ word, group, array⟩ :: parts)
      = (TypeName.ofParts (⟨word, group, array⟩ :: parts)).behind front := by
  have hname {word : List Char} (h : String.ofList word ∉ typeModifiers) :
      (((⟨word, group, array⟩ : TypePart) :: parts).map (·.word)).filter
          (fun word => !typeModifiers.contains (String.ofList word))
        = word :: (parts.map (·.word)).filter
          (fun word => !typeModifiers.contains (String.ofList word)) := by
    rw [List.map_cons, List.filter_cons_of_pos]
    rw [List.contains_eq_mem, decide_eq_false h]
    rfl
  have hsign {word : List Char} (h : String.ofList word ∉ typeModifiers) :
      ((⟨word, group, array⟩ : TypePart) :: parts).any
          (·.word == "unsigned".toList)
        = parts.any (·.word == "unsigned".toList) := by
    have hne : (word == "unsigned".toList) = false := by
      refine beq_false_of_ne ?_
      rintro rfl
      rw [String.ofList_toList] at h
      exact h (by decide)
    rw [List.any_cons, hne, Bool.false_or]
  unfold TypeName.ofParts TypeName.behind
  dsimp only
  rw [hname hword, hname hfront, hsign hword, hsign hfront,
    ← append_intercalate_cons]
  simp only [String.toList_ofList]
  rfl

/-! ## Spellings -/

/-- The quotes around a part of the name of a type. -/
structure TypeQuote where
  opening : Char
  closing : Char
  closes : closingQuote? opening = some closing

/-- The characters that open a quoted name. -/
theorem TypeQuote.opening_cases (quote : TypeQuote) :
    quote.opening = '[' ∨ quote.opening = '"' ∨ quote.opening = backquote := by
  have h := quote.closes
  unfold closingQuote? at h
  split at h
  · next hsquare => exact .inl hsquare
  · split at h
    · next hround => exact .inr hround
    · cases h

/-- A quote belongs to no word, and it opens no group. -/
theorem TypeQuote.not_word (quote : TypeQuote) :
    isTypeChar quote.opening = false ∧ isBlank quote.opening = false
      ∧ quote.opening ≠ '(' := by
  rcases quote.opening_cases with h | h | h <;> rw [h] <;> decide

/-- **The name of a type ends at a quote.** -/
theorem TypeQuote.typeParts_cons (quote : TypeQuote) (inside : List Char) :
    typeParts (quote.opening :: inside) = ([], quote.opening :: inside) := by
  have hempty : (quote.opening :: inside).takeWhile isTypeChar = [] :=
    List.takeWhile_cons_of_neg (Bool.eq_false_iff.mp quote.not_word.1)
  rw [typeParts, hempty]
  exact dif_pos (.inl rfl)

/-- The part of a name with its quotes, if it has any. -/
def inQuotes (quote : Option TypeQuote) (part : List Char) : List Char :=
  match quote with
  | none => part
  | some quote => quote.opening :: (part ++ [quote.closing])

/-- **How the name of a type is written**: the schemas in front of it, and the
quotes around each of them and around the name itself. -/
structure Spelling where
  schemas : List (Word × Option TypeQuote)
  quote : Option TypeQuote

namespace Spelling

/-- The spelling with nothing but the name. -/
def plain : Spelling := ⟨[], none⟩

/-- The text of a name in this spelling. -/
def chars (spelling : Spelling) (name : List Char) : List Char :=
  spelling.schemas.foldr
    (fun schema text => inQuotes schema.2 schema.1.chars ++ '.' :: text)
    (inQuotes spelling.quote name)

/-- The schemas in front of the first quote, each with its dot. -/
def bareSchemas (spelling : Spelling) : List Char :=
  (spelling.schemas.takeWhile (·.2.isNone)).flatMap (·.1.chars ++ ['.'])

/-- Whether no part of the name is in quotes. -/
def isBare (spelling : Spelling) : Bool :=
  spelling.schemas.all (·.2.isNone) && spelling.quote.isNone

variable (spelling : Spelling)

/-- **What is read as the name of a type**: in front of the first quote there
may be schemas, and if there is no quote the name follows. -/
def readName (name : String) : String :=
  String.ofList
    (asciiLower spelling.bareSchemas ++ if spelling.isBare then name.toList else [])

theorem bareSchemas_eq : spelling.bareSchemas
    = schemaChars ((spelling.schemas.takeWhile (·.2.isNone)).map (·.1)) := by
  rw [schemaChars, List.flatMap_map]
  rfl

theorem isTypeChar_bareSchemas : ∀ c ∈ spelling.bareSchemas, isTypeChar c = true := by
  rw [bareSchemas_eq]
  exact isTypeChar_schemaChars _

theorem bareSchemas_cases :
    spelling.bareSchemas = [] ∨ spelling.bareSchemas.getLast? = some '.' := by
  rw [bareSchemas_eq]
  exact schemaChars_cases _

theorem chars_of_isBare (h : spelling.isBare = true) (name : List Char) :
    spelling.chars name = spelling.bareSchemas ++ name := by
  obtain ⟨schemas, quote⟩ := spelling
  induction schemas with
  | nil =>
    cases quote with
    | none => rfl
    | some quote => cases h
  | cons schema schemas ih =>
    obtain ⟨schema, none | quoted⟩ := schema
    · show schema.chars ++ '.' :: chars ⟨schemas, quote⟩ name
        = (schema.chars ++ ['.'] ++ bareSchemas ⟨schemas, quote⟩) ++ name
      rw [ih h]
      simp only [List.append_assoc, List.cons_append, List.nil_append]
    · cases h

/-- **The first quote** stands behind the bare schemas and has a word behind
it. -/
theorem chars_of_not_isBare (h : spelling.isBare = false) (word : Word)
    (words : List Char) :
    ∃ (quote : TypeQuote) (c : Char) (inside : List Char), isAsciiWord c = true
      ∧ spelling.chars (word.chars ++ words)
        = spelling.bareSchemas ++ quote.opening :: c :: inside := by
  obtain ⟨schemas, quote⟩ := spelling
  induction schemas with
  | nil =>
    cases quote with
    | none => cases h
    | some quote =>
      obtain ⟨c, letters, heq⟩ := List.exists_cons_of_ne_nil word.ne_nil
      refine ⟨quote, c, letters ++ words ++ [quote.closing],
        word.isWord c (heq ▸ List.mem_cons_self), ?_⟩
      rw [heq]
      rfl
  | cons schema schemas ih =>
    obtain ⟨schema, none | quoted⟩ := schema
    · obtain ⟨first, c, inside, hc, hchars⟩ := ih h
      refine ⟨first, c, inside, hc, ?_⟩
      show schema.chars ++ '.' :: chars ⟨schemas, quote⟩ (word.chars ++ words)
        = (schema.chars ++ ['.'] ++ bareSchemas ⟨schemas, quote⟩) ++ _
      rw [hchars]
      simp only [List.append_assoc, List.cons_append, List.nil_append]
    · obtain ⟨c, letters, heq⟩ := List.exists_cons_of_ne_nil schema.ne_nil
      refine ⟨quoted, c, letters ++ [quoted.closing]
        ++ '.' :: chars ⟨schemas, quote⟩ (word.chars ++ words),
        schema.isWord c (heq ▸ List.mem_cons_self), ?_⟩
      show quoted.opening :: (schema.chars ++ [quoted.closing])
        ++ '.' :: chars ⟨schemas, quote⟩ (word.chars ++ words) = _
      rw [heq]
      rfl

theorem name_not_reserved (h : spelling.bareSchemas.getLast? = some '.')
    (name : List Char) :
    String.ofList (asciiLower (spelling.bareSchemas ++ name)) ∉ reservedWords := by
  rw [bareSchemas_eq] at h ⊢
  exact not_reserved_of_schemas _ h name

/-- A spelling without quotes has schemas, or is nothing but the name. -/
theorem bareSchemas_ne_nil (h : spelling.isBare = true) (hne : spelling ≠ plain) :
    asciiLower spelling.bareSchemas ≠ [] := by
  obtain ⟨_ | ⟨⟨schema, none | quoted⟩, schemas⟩, quote⟩ := spelling
  · cases quote with
    | none => exact absurd rfl hne
    | some quote => cases h
  · rw [ne_eq, asciiLower, List.map_eq_nil_iff]
    show (schema.chars ++ ['.'] ++ bareSchemas ⟨schemas, quote⟩) ≠ []
    simp
  · cases h

end Spelling

/-! ## Types in a definition -/

/-- **The type of a column and what follows it.** The name of the type is a
word and perhaps some more. -/
structure TypeText where
  word : Word
  /-- The other words of the name, with the blanks in front of them. -/
  words : List Char
  /-- What follows the name: arguments, a sign, constraints. -/
  rest : List Char
  separate : ∀ c, (words ++ rest).head? = some c → isTypeChar c = false
  starts : endsType (asciiLower word.chars) (trimStart (words ++ rest)) = false
  names : String.ofList (asciiLower word.chars) ∉ typeModifiers

namespace TypeText

variable (type : TypeText)

/-- The text of the type, with its name in some spelling. -/
def chars (spelling : Spelling) : List Char :=
  spelling.chars (type.word.chars ++ type.words) ++ type.rest

/-- What is read of the type in a spelling. -/
def typeName (spelling : Spelling) : TypeName :=
  (readTypeName (type.chars spelling)).1

/-- The first word of the type starts one, and is no word that only modifies
it, with or without schemas. -/
theorem starts_behind (spelling : Spelling) :
    endsType (asciiLower (spelling.bareSchemas ++ type.word.chars))
        (trimStart (type.words ++ type.rest)) = false
      ∧ String.ofList (asciiLower (spelling.bareSchemas ++ type.word.chars))
        ∉ typeModifiers := by
  rcases spelling.bareSchemas_cases with hnil | hdot
  · rw [hnil]
    exact ⟨type.starts, type.names⟩
  · have hreserved := spelling.name_not_reserved hdot type.word.chars
    exact ⟨endsType_eq_false hreserved _, not_modifier_of_not_reserved hreserved⟩

/-- **A type is read with the schemas in front of its name** where nothing is
in quotes, and what follows the name is read as ever. -/
theorem readTypeName_of_isBare {spelling : Spelling} (h : spelling.isBare = true) :
    readTypeName (type.chars spelling)
      = ((type.typeName .plain).behind (asciiLower spelling.bareSchemas),
        (readTypeName (type.chars .plain)).2) := by
  have hword := type.word.isTypeChar
  have hbehind : ∀ c ∈ spelling.bareSchemas ++ type.word.chars,
      isTypeChar c = true :=
    List.forall_mem_append.mpr ⟨spelling.isTypeChar_bareSchemas, hword⟩
  have hne := List.append_ne_nil_of_right_ne_nil spelling.bareSchemas
    type.word.ne_nil
  obtain ⟨hstarts, hnames⟩ := type.starts_behind spelling
  have hlower : asciiLower (spelling.bareSchemas ++ type.word.chars)
      = asciiLower spelling.bareSchemas ++ asciiLower type.word.chars :=
    List.map_append
  have hplain : type.chars .plain
      = type.word.chars ++ (type.words ++ type.rest) :=
    List.append_assoc _ _ _
  have hchars : type.chars spelling
      = (spelling.bareSchemas ++ type.word.chars) ++ (type.words ++ type.rest) := by
    unfold chars
    rw [spelling.chars_of_isBare h]
    simp only [List.append_assoc]
  unfold typeName
  rw [hplain, hchars]
  unfold readTypeName
  rw [trimStart_word hword type.word.ne_nil, trimStart_word hbehind hne,
    typeParts_word hword type.word.ne_nil type.starts type.separate,
    typeParts_word hbehind hne hstarts type.separate]
  dsimp only
  rw [hlower] at hnames ⊢
  rw [ofParts_behind type.names hnames]

/-- **At a quote the name ends**, and with it the type. -/
theorem typeName_of_not_isBare {spelling : Spelling} (h : spelling.isBare = false) :
    type.typeName spelling
      = { name := String.ofList (asciiLower spelling.bareSchemas) } := by
  obtain ⟨quote, c, inside, hc, hchars⟩ :=
    spelling.chars_of_not_isBare h type.word type.words
  obtain ⟨hword, hblank, hbracket⟩ := quote.not_word
  let text := quote.opening :: c :: (inside ++ type.rest)
  have hchars : type.chars spelling = spelling.bareSchemas ++ text := by
    unfold chars
    rw [hchars, List.append_assoc]
    rfl
  have htrim : trimStart text = text :=
    trimStart_eq_self fun d hd => by cases hd; exact hblank
  unfold typeName
  rw [hchars]
  rcases spelling.bareSchemas_cases with hnil | hdot
  · rw [hnil]
    unfold readTypeName
    rw [List.nil_append, htrim, quote.typeParts_cons]
    rfl
  · have hreserved := spelling.name_not_reserved hdot []
    rw [List.append_nil] at hreserved
    have hne : spelling.bareSchemas ≠ [] :=
      List.ne_nil_of_mem (List.mem_of_getLast? hdot)
    have hgroup : takeGroup (trimStart text) = (none, text) := by
      rw [htrim]
      exact takeGroup_eq_self fun hhead => hbracket (Option.some.inj hhead)
    have harray : takeArray text = (false, text) :=
      takeArray_of_ne (fun heq => by rw [heq] at hc; cases hc) _
    have hparts := typeParts_append spelling.isTypeChar_bareSchemas hne
      (endsType_eq_false hreserved _) (fun d hd => by cases hd; exact hword)
      hgroup harray (quote.typeParts_cons _)
    unfold readTypeName
    rw [trimStart_word spelling.isTypeChar_bareSchemas hne, hparts]
    exact ofParts_single (not_modifier_of_not_reserved hreserved) none

/-- The text of a type starts with a letter, a dot or a quote. -/
theorem head?_chars (spelling : Spelling) :
    ∀ c, (type.chars spelling).head? = some c → isBlank c = false ∧ c ≠ '(' := by
  have hword {c : Char} (h : isTypeChar c = true) :
      isBlank c = false ∧ c ≠ '(' := by
    refine ⟨isBlank_of_isTypeChar h, ?_⟩
    rintro rfl
    cases h
  have hstart {text : List Char}
      (htext : ∀ c, text.head? = some c → isBlank c = false ∧ c ≠ '(') :
      ∀ c, (spelling.bareSchemas ++ text).head? = some c
        → isBlank c = false ∧ c ≠ '(' := by
    intro c hc
    by_cases hnil : spelling.bareSchemas = []
    · rw [hnil] at hc
      exact htext c hc
    · exact hword (spelling.isTypeChar_bareSchemas c (mem_of_head?_append hnil hc))
  unfold chars
  cases hbare : spelling.isBare with
  | true =>
    rw [spelling.chars_of_isBare hbare, List.append_assoc, List.append_assoc]
    exact hstart fun c hc => hword (type.word.isTypeChar c
      (mem_of_head?_append type.word.ne_nil hc))
  | false =>
    obtain ⟨quote, d, inside, -, hchars⟩ :=
      spelling.chars_of_not_isBare hbare type.word type.words
    rw [hchars, List.append_assoc]
    refine hstart fun c hc => ?_
    cases hc
    exact quote.not_word.2

/-- **In which spellings the kind of a known type is what it is for the bare
name.** -/
theorem kindOf_typeName_eq_iff (spelling : Spelling)
    (hempty : enums.find? "" = none)
    (hknown : ∀ name, kindOf dialect enums (type.typeName .plain) ≠ .other name) :
    kindOf dialect enums (type.typeName spelling)
        = kindOf dialect enums (type.typeName .plain)
      ↔ spelling = .plain
        ∨ (spelling.isBare = true ∧ IsDeclared enums (type.typeName .plain).name)
        ∨ (kindOf dialect enums (type.typeName .plain) = .simple .integer
          ∧ TakenForInteger dialect
            (spelling.readName (type.typeName .plain).name)) := by
  have hschemas : asciiLower spelling.bareSchemas = []
      ∨ (asciiLower spelling.bareSchemas).getLast? = some '.' :=
    spelling.bareSchemas_cases.imp (congrArg asciiLower) fun hdot => by
      rw [asciiLower, List.getLast?_map, hdot]
      rfl
  cases hbare : spelling.isBare with
  | false =>
    have hne : spelling ≠ .plain := by
      rintro rfl
      cases hbare
    have hread : spelling.readName (type.typeName .plain).name
        = String.ofList (asciiLower spelling.bareSchemas) := by
      rw [Spelling.readName, hbare, if_neg Bool.false_ne_true, List.append_nil]
    rw [type.typeName_of_not_isBare hbare, kindOf_of_schemas hempty hschemas, hread,
      or_iff_right hne, or_iff_right fun h => Bool.false_ne_true h.1]
    split
    · next hinteger => exact ⟨fun h => ⟨h.symm, hinteger⟩, fun h => h.1.symm⟩
    · next hinteger =>
      exact ⟨fun h => absurd h.symm (hknown _), fun h => absurd h.2 hinteger⟩
  | true =>
    have htype : type.typeName spelling
        = (type.typeName .plain).behind (asciiLower spelling.bareSchemas) :=
      congrArg Prod.fst (type.readTypeName_of_isBare hbare)
    by_cases hplain : spelling = .plain
    · rw [hplain]
      exact iff_of_true rfl (.inl rfl)
    · have hdot := hschemas.resolve_left (spelling.bareSchemas_ne_nil hbare hplain)
      have hread : spelling.readName (type.typeName .plain).name
          = ((type.typeName .plain).behind (asciiLower spelling.bareSchemas)).name := by
        rw [Spelling.readName, hbare, if_pos rfl]
        rfl
      rw [htype, hread, kindOf_behind_eq_iff hdot hknown, or_iff_right hplain,
        and_iff_right rfl]

end TypeText

/-! ## Columns -/

/-- **What a definition of a column starts with**: the name, and the blanks
behind it. Only a name in quotes may stand without a blank. -/
structure ColumnHead where
  chars : List Char
  name : List Char
  gap : List Char
  reads : columnName? chars = some (name, gap)
  blank : ∀ c ∈ gap, isBlank c = true
  ends : gap = [] → (chars.head?.any fun c => (closingQuote? c).isSome) = true

namespace ColumnHead

variable (head : ColumnHead)

/-- The name is read whatever follows. -/
theorem columnName?_append (text : List Char) :
    columnName? (head.chars ++ text) = some (head.name, head.gap ++ text) := by
  have hreads := head.reads
  have hends := head.ends
  cases hchars : head.chars with
  | nil =>
    rw [hchars] at hreads
    cases hreads
  | cons c rest =>
    rw [hchars] at hreads hends
    rw [columnName?] at hreads
    rw [List.cons_append, columnName?]
    cases hquote : closingQuote? c with
    | some quote =>
      rw [hquote] at hreads
      exact cutFirst_append_of_eq_some hreads text
    | none =>
      rw [hquote] at hreads
      have hgap : head.gap ≠ [] := by
        intro hgap
        have hsome : (closingQuote? c).isSome = true := hends hgap
        rw [hquote] at hsome
        cases hsome
      have heq : (some ((c :: rest).takeWhile (!isBlank ·),
          (c :: rest).dropWhile (!isBlank ·)) : Option (List Char × List Char))
          = some (head.name, head.gap) := hreads
      obtain ⟨hname, hdrop⟩ := Prod.mk.inj (Option.some.inj heq)
      have hsolid : ∀ c ∈ head.name, (!isBlank c) = true := by
        rw [← hname]
        exact fun c hc => List.mem_takeWhile_imp (p := (!isBlank ·)) hc
      obtain ⟨htake, hrest⟩ := takeWhile_append_of_head hsolid
        (fun c hc => by rw [head.blank c (mem_of_head?_append hgap hc)]; rfl :
          ∀ c, (head.gap ++ text).head? = some c → (!isBlank c) = false)
      have htext : c :: (rest ++ text) = head.name ++ (head.gap ++ text) := by
        rw [← List.append_assoc, ← hname, ← hdrop,
          List.takeWhile_append_dropWhile]
        rfl
      dsimp only
      rw [htext, htake, hrest]

/-- **Whether a column is defined** is decided by its name, and the text behind
it says of which type. -/
theorem columnSpec?_append {item text : List Char}
    (h : trim item = head.chars ++ text)
    (htext : ∀ c, text.head? = some c → isBlank c = false ∧ c ≠ '(') :
    columnSpec? dialect enums item
      = if (!(head.chars.head?.any fun c => (closingQuote? c).isSome)
            && definesNoColumn dialect head.name []) = true then none
        else some ⟨String.ofList head.name,
          kindOf dialect enums (readTypeName text).1,
          allowsNull (readTypeName text).2⟩ := by
  have hhead : (trim item).head? = head.chars.head? := by
    rw [h]
    have hreads := head.reads
    cases hchars : head.chars with
    | nil =>
      rw [hchars] at hreads
      cases hreads
    | cons c rest => rfl
  have htrim : trimStart (head.gap ++ text) = text :=
    trimStart_append_of_isBlank head.blank fun c hc => (htext c hc).1
  have htype : readTypeName (head.gap ++ text) = readTypeName text := by
    unfold readTypeName
    rw [htrim, trimStart_eq_self fun c hc => (htext c hc).1]
  have hword : definesNoColumn dialect head.name (head.gap ++ text)
      = definesNoColumn dialect head.name [] := by
    have hbracket : ((text.head? == some '(') : Bool)
        = ((trimStart []).head? == some '(') :=
      beq_false_of_ne fun hc => (htext _ hc).2 rfl
    unfold definesNoColumn
    rw [htrim, hbracket]
  rw [columnSpec?_of_columnName? (h ▸ head.columnName?_append text), hhead, hword,
    htype]

end ColumnHead

/-- **The kind of a column in the spellings of its type.** The bare name and
any other spelling define a column of the same name. Where the type is known,
the kinds are the same

* if nothing stands around the name,
* if nothing is in quotes and the type is declared, whatever schemas stand in
  front of it, or
* if the type is an integer, and the dialect takes for one what is read of the
  other name.

In all other spellings the kind is lost. -/
theorem kind_of_spelling (dialect : Dialect) (head : ColumnHead) (type : TypeText)
    (spelling : Spelling) (earlier : List (List Char)) {item other : List Char}
    {spec : ColumnSpec} (hitem : trim item = head.chars ++ type.chars .plain)
    (hother : trim other = head.chars ++ type.chars spelling)
    (hspec : columnSpec? dialect (declared .empty earlier) item = some spec)
    (hknown : ∀ name, spec.kind ≠ .other name) :
    ∃ spelled, columnSpec? dialect (declared .empty earlier) other = some spelled
      ∧ spelled.name = spec.name
      ∧ (spelled.kind = spec.kind
        ↔ spelling = .plain
          ∨ (spelling.isBare = true
            ∧ IsDeclared (declared .empty earlier) (type.typeName .plain).name)
          ∨ (spec.kind = .simple .integer
            ∧ TakenForInteger dialect
              (spelling.readName (type.typeName .plain).name)))
      ∧ ∀ (table : TableStatement) before after later dump,
        table.parts = before ++ other :: after →
        statements dump.toList = earlier ++ table.chars :: later →
        dumpOperations dialect dump
          = definitions dialect .empty earlier
            ++ .createTable table.header.tableName
                (before.filterMap (columnSpec? dialect (declared .empty earlier))
                  ++ spelled
                    :: after.filterMap (columnSpec? dialect (declared .empty earlier)))
              :: definitions dialect (declared .empty earlier) later := by
  have hempty : (declared .empty earlier).find? "" = none :=
    find?_declared (Keyed.find?_empty "") earlier
  have hspelled : columnSpec? dialect (declared .empty earlier) other = _ :=
    head.columnSpec?_append hother (type.head?_chars spelling)
  rw [head.columnSpec?_append hitem (type.head?_chars .plain)] at hspec
  split at hspec
  · cases hspec
  · next hcolumn =>
    rw [if_neg hcolumn] at hspelled
    cases hspec
    refine ⟨_, hspelled, rfl, type.kindOf_typeName_eq_iff spelling hempty hknown, ?_⟩
    intro table before after later dump hparts hdump
    rw [dumpOperations_of_statements table hdump,
      table.operation_of_item hparts hspelled]

theorem kind_of_spelling_check :
    ∃ spelled, columnSpec? .postgres
        (declared .empty ["CREATE TYPE mood AS ENUM ('a','b')".toList])
        "m public.Mood NOT NULL".toList = some spelled
      ∧ spelled.kind = .enum ["a", "b"] := by
  let word (chars : List Char) (hne : chars ≠ [])
    (hword : chars.all isAsciiWord = true) : Word :=
    ⟨chars, hne, List.all_eq_true.mp hword⟩
  let head : ColumnHead :=
    ⟨"m ".toList, "m".toList, " ".toList, by decide,
      List.all_eq_true.mp (by decide), nofun⟩
  let mood : TypeText :=
    ⟨word "Mood".toList (by decide) rfl, [], " NOT NULL".toList,
      fun c hc => by cases hc; decide, by decide, by decide⟩
  let spelling : Spelling := ⟨[(word "public".toList (by decide) rfl, none)], none⟩
  have hitem : trim "m Mood NOT NULL".toList = head.chars ++ mood.chars .plain := by
    decide
  have hother : trim "m public.Mood NOT NULL".toList
      = head.chars ++ mood.chars spelling := by
    decide
  have hspec : columnSpec? .postgres
      (declared .empty ["CREATE TYPE mood AS ENUM ('a','b')".toList])
      "m Mood NOT NULL".toList = some ⟨"m", .enum ["a", "b"], false⟩ := by
    decide +kernel
  obtain ⟨spelled, hspelled, -, hkind, -⟩ :=
    kind_of_spelling .postgres head mood spelling _ hitem hother hspec nofun
  exact ⟨spelled, hspelled, hkind.mpr (.inr (.inl ⟨rfl, by decide +kernel⟩))⟩

/-- Schemas and quotes both cost the type its kind, and quotes a declared one,
too. -/
theorem dumpOperations_spellings :
    dumpOperations .postgres
        "CREATE TABLE t (a int4, b pg_catalog.int4, c \"int4\");"
      = [.createTable "t"
          [⟨"a", .simple .integer, true⟩,
            ⟨"b", .other "pg_catalog.int4", true⟩, ⟨"c", .other "", true⟩]]
      ∧ dumpOperations .postgres
        "CREATE TYPE mood AS ENUM ('a'); CREATE TABLE t (a mood, b q.mood, c \"mood\");"
      = [.createTable "t"
          [⟨"a", .enum ["a"], true⟩, ⟨"b", .enum ["a"], true⟩,
            ⟨"c", .other "", true⟩]] := by
  constructor <;> decide +kernel

end SchemaTyping.Sql
