import SchemaTyping.Proofs.Sql.EnumStatement
import SchemaTyping.Proofs.Sql.TypeSpelling

/-!
# Which declaration a column means

An enumerated type may be declared more than once, with the name of a type that
the dialects know, and before or after the tables that name it. The two sides
write the name in ways of their own: a declaration may have any schemas in front
of it, a column may have others, and either may choose the case of its letters.

A column means the last declaration in front of its table that has its name in
small letters, without schemas (`kind_of_declarations`). Other declarations,
those behind the table among them, do not matter to it. Where there is none, the
name is a type of the dialect or an unknown one. An array is of no enumerated
type, whatever is declared.

```
CREATE TYPE app.Mood AS ENUM ('a');
CREATE TYPE mood AS ENUM ('b', 'c');
CREATE TABLE t (m public.MOOD NOT NULL, n mood[]);
CREATE TYPE mood AS ENUM ('d');
```
-/

namespace SchemaTyping.Sql

open Text

variable {dialect : Dialect} {enums : EnumTypes}
variable {array : Bool} {text ending : List Char}

/-! ## Declarations in a dump -/

/-- **A statement of a dump**: it declares a type or creates a table. -/
inductive DumpStatement where
  | type (declaration : EnumStatement)
  | table (table : TableStatement)

namespace DumpStatement

/-- The text of a statement. -/
def chars : DumpStatement → List Char
  | .type declaration => declaration.chars
  | .table created => created.chars

/-- The enumerated types that are known behind a statement. -/
def declaredIn (enums : EnumTypes) : DumpStatement → EnumTypes
  | .type declaration => enums.insert declaration.key declaration.texts
  | .table _ => enums

/-- **What one statement declares**: its own type, and nothing if it creates a
table. -/
theorem declared_chars_cons (statement : DumpStatement)
    (texts : List (List Char)) :
    declared enums (statement.chars :: texts)
      = declared (statement.declaredIn enums) texts := by
  cases statement with
  | type declaration =>
    unfold chars
    rw [declared, declaration.enumDefinition?_chars]
    dsimp only
    rw [EnumValue.arguments_valueChars]
    rfl
  | table created =>
    unfold chars
    rw [declared, created.enumDefinition?_chars]
    rfl

variable {statements front back : List DumpStatement} {key : String}

/-- **A look-up passes over what is declared under other names.** -/
theorem find?_declared_of_forall_ne
    (h : ∀ declaration, .type declaration ∈ statements → declaration.key ≠ key) :
    (declared enums (statements.map (·.chars))).find? key = enums.find? key := by
  induction statements generalizing enums with
  | nil => rfl
  | cons statement statements ih =>
    rw [List.map_cons, declared_chars_cons,
      ih fun declaration hmem => h declaration (List.mem_cons_of_mem _ hmem)]
    cases statement with
    | type declaration =>
      have hne : key ≠ declaration.key := (h declaration List.mem_cons_self).symm
      exact Keyed.find?_insert_of_ne enums declaration.texts hne
    | table created => rfl

/-- **The last declaration of a name is the one that is found.** -/
theorem find?_declared_of_last {declaration : EnumStatement}
    (h : ∀ other, .type other ∈ back → other.key ≠ declaration.key) :
    (declared enums ((front ++ .type declaration :: back).map (·.chars))).find?
        declaration.key
      = some declaration.texts := by
  rw [List.map_append, declared_append, List.map_cons, declared_chars_cons,
    find?_declared_of_forall_ne h]
  exact Keyed.find?_insert_self _ declaration.key declaration.texts

end DumpStatement

/-! ## Types that columns name -/

/-- **The type of a column, named without quotes**: a word, perhaps with schemas
in front of it. The word starts no constraint and no character set, and it is
none that says something of a type. -/
structure TypeMention where
  qualifiers : List Word
  word : Word
  free : String.ofList (asciiLower word.chars)
    ∉ constraintWords ++ ["charset"] ++ typeModifiers

namespace TypeMention

variable (type : TypeMention)

/-- The text of the name. -/
def chars : List Char := schemaChars type.qualifiers ++ type.word.chars

/-- What is read as the type. -/
def typeName : TypeName where
  name := String.ofList (asciiLower type.chars)

/-- The name under which a declaration of the type is found. -/
def key : String := String.ofList (asciiLower type.word.chars)

theorem isTypeChar : ∀ c ∈ type.chars, Sql.isTypeChar c = true :=
  List.forall_mem_append.mpr
    ⟨isTypeChar_schemaChars type.qualifiers, type.word.isTypeChar⟩

theorem ne_nil : type.chars ≠ [] :=
  List.append_ne_nil_of_right_ne_nil _ type.word.ne_nil

/-- The name starts with no blank and no bracket. -/
theorem head?_append {c : Char} (hc : (type.chars ++ text).head? = some c) :
    isBlank c = false ∧ c ≠ '(' := by
  have hchar := type.isTypeChar c (mem_of_head?_append type.ne_nil hc)
  refine ⟨isBlank_of_isTypeChar hchar, ?_⟩
  rintro rfl
  cases hchar

/-- **A declaration is found by the word**, whatever schemas stand in front of
it. -/
theorem key_typeName :
    onString (afterLast '.') type.typeName.name = type.key := by
  show String.ofList (afterLast '.' (String.ofList _).toList) = _
  rw [String.toList_ofList]
  exact congrArg String.ofList (afterLast_schemaChars type.qualifiers type.word)

theorem not_modifier : String.ofList (asciiLower type.chars) ∉ typeModifiers := by
  unfold chars
  rcases schemaChars_cases type.qualifiers with hnil | hdot
  · rw [hnil]
    exact fun hmem => type.free (List.mem_append_right _ hmem)
  · exact not_modifier_of_not_reserved (not_reserved_of_schemas _ hdot _)

/-- **The reader does not stop in front of the name.** Of all words that are
free, `character` alone could be stopped at, if `set` came next. -/
theorem endsType_chars (h : ∀ c, text.head? = some c → c.toLower ≠ 's') :
    endsType (asciiLower type.chars) text = false := by
  unfold chars
  rcases schemaChars_cases type.qualifiers with hnil | hdot
  · have hconstraint : constraintWords.contains
        (String.ofList (asciiLower type.word.chars)) = false := by
      rw [List.contains_eq_mem, decide_eq_false_iff_not]
      exact fun hmem =>
        type.free (List.mem_append_left _ (List.mem_append_left _ hmem))
    have hcharset : asciiLower type.word.chars ≠ "charset".toList := by
      intro heq
      have hfree := type.free
      rw [heq, String.ofList_toList] at hfree
      exact hfree (by decide)
    have hset : "set".toList.isPrefixOf (asciiLower text) = false := by
      cases text with
      | nil => rfl
      | cons c rest =>
        show ('s' == c.toLower && _) = false
        rw [beq_false_of_ne (h c rfl).symm]
        rfl
    unfold endsType
    rw [hnil, List.nil_append, hconstraint, beq_false_of_ne hcharset, hset,
      Bool.and_false]
    rfl
  · exact endsType_eq_false (not_reserved_of_schemas _ hdot _) text

end TypeMention

/-! ## What follows the name of a type -/

/-- **What follows a type that is one word**: nothing, or a constraint; or the
brackets of an array, with anything behind them. -/
inductive TypeEnding : Bool → List Char → Prop
  | nothing : TypeEnding false []
  | constraint (gap : Gap) (word : Word) {rest : List Char}
      (isConstraint : String.ofList (asciiLower word.chars) ∈ constraintWords)
      (separate : ∀ c, rest.head? = some c → isTypeChar c = false) :
      TypeEnding false (gap.chars ++ (word.chars ++ rest))
  | array {gap : List Char} (blank : ∀ c ∈ gap, isBlank c = true)
      (rest : List Char) : TypeEnding true (gap ++ '[' :: ']' :: rest)

theorem isTypeChar_of_isBlank {c : Char} (h : isBlank c = true) :
    isTypeChar c = false := by
  rw [Bool.eq_false_iff]
  intro hc
  rw [isBlank_of_isTypeChar hc] at h
  cases h

/-- No word of a constraint starts as `set` does. -/
theorem toLower_ne_of_mem_constraintWords {word : Word} {c : Char}
    (h : String.ofList (asciiLower word.chars) ∈ constraintWords)
    (hc : (word.chars ++ text).head? = some c) : c.toLower ≠ 's' := by
  have hnone : constraintWords.all (·.toList.head? != some 's') = true := by
    decide
  have hword := List.all_eq_true.mp hnone _ h
  obtain ⟨d, letters, hchars⟩ := List.exists_cons_of_ne_nil word.ne_nil
  rw [hchars] at hc hword
  cases hc
  rintro heq
  rw [String.toList_ofList, asciiLower, List.map_cons, heq] at hword
  cases hword

namespace TypeEnding

/-- The name of the type ends where the ending starts. -/
theorem isTypeChar_head (h : TypeEnding array ending) :
    ∀ c, ending.head? = some c → isTypeChar c = false := by
  intro c hc
  cases h with
  | nothing => cases hc
  | constraint gap word isConstraint separate =>
    exact isTypeChar_of_isBlank (gap.blank c (mem_of_head?_append gap.ne_nil hc))
  | @array gap blank rest =>
    by_cases hnil : gap = []
    · rw [hnil] at hc
      cases hc
      rfl
    · exact isTypeChar_of_isBlank (blank c (mem_of_head?_append hnil hc))

/-- **Behind the blanks a plain type has ended**: there is nothing, or the first
word of a constraint. -/
theorem typeParts_trimStart (h : TypeEnding false ending) :
    typeParts (trimStart ending) = ([], trimStart ending)
      ∧ ∀ c, (trimStart ending).head? = some c →
        isAsciiWord c = true ∧ c.toLower ≠ 's' := by
  cases h with
  | nothing =>
    refine ⟨?_, nofun⟩
    show typeParts [] = _
    rw [typeParts]
    rfl
  | @constraint gap word rest isConstraint separate =>
    have hword {c : Char} (hc : (word.chars ++ rest).head? = some c) :
        isAsciiWord c = true :=
      word.isWord c (mem_of_head?_append word.ne_nil hc)
    rw [trimStart_append_of_isBlank gap.blank fun c hc =>
      isBlank_of_isAsciiWord (hword hc)]
    exact ⟨typeParts_of_mem_constraintWords word isConstraint separate,
      fun c hc => ⟨hword hc, toLower_ne_of_mem_constraintWords isConstraint hc⟩⟩

/-- Behind the blanks of the other ending the brackets stand. -/
theorem exists_trimStart (h : TypeEnding true ending) :
    ∃ rest, trimStart ending = '[' :: ']' :: rest := by
  cases h with
  | array blank rest =>
    exact ⟨rest, trimStart_append_of_isBlank blank fun c hc => by cases hc; rfl⟩

end TypeEnding

namespace TypeMention

variable (type : TypeMention)

theorem readTypeName_append :
    readTypeName (type.chars ++ text)
      = (.ofParts (typeParts (type.chars ++ text)).1,
        (typeParts (type.chars ++ text)).2) := by
  unfold readTypeName
  rw [trimStart_word type.isTypeChar type.ne_nil]

/-- **A plain name is read as it is written**, but for the case of letters. -/
theorem readTypeName_of_plain (h : TypeEnding false ending) :
    (readTypeName (type.chars ++ ending)).1 = type.typeName := by
  obtain ⟨hparts, hhead⟩ := h.typeParts_trimStart
  have hne {mark : Char} (hmark : isAsciiWord mark = false) :
      (trimStart ending).head? ≠ some mark := by
    intro hc
    rw [(hhead mark hc).1] at hmark
    cases hmark
  rw [type.readTypeName_append,
    typeParts_append type.isTypeChar type.ne_nil
      (type.endsType_chars fun c hc => (hhead c hc).2) h.isTypeChar_head
      (takeGroup_eq_self (hne rfl)) (takeArray_eq_self (hne rfl)) hparts]
  exact ofParts_single type.not_modifier none

/-- **Behind an array suffix the type is an array**, whatever follows. -/
theorem array_readTypeName (h : TypeEnding true ending) :
    (readTypeName (type.chars ++ ending)).1.array = true := by
  obtain ⟨rest, htrim⟩ := h.exists_trimStart
  have hends : endsType (asciiLower type.chars) (trimStart ending) = false := by
    refine type.endsType_chars fun c hc => ?_
    rw [htrim] at hc
    cases hc
    decide
  have harray : takeArray (takeGroup (trimStart ending)).2
      = (true, trimStart rest) := by
    rw [htrim]
    rfl
  rw [type.readTypeName_append,
    typeParts_word type.isTypeChar type.ne_nil hends h.isTypeChar_head, harray]
  rfl

/-- **The kind of a column that names a type**: that of the declaration which is
found, or what the dialect makes of the name. -/
theorem kindOf_of_plain (h : TypeEnding false ending) :
    kindOf dialect enums (readTypeName (type.chars ++ ending)).1
      = ((enums.find? type.key).map ColumnKind.enum).getD
          (type.typeName.columnKind dialect) := by
  rw [type.readTypeName_of_plain h, kindOf_eq rfl, type.key_typeName]

/-- An array is of no enumerated type. -/
theorem kindOf_ne_enum (h : TypeEnding true ending) (values : List String) :
    kindOf dialect enums (readTypeName (type.chars ++ ending)).1
      ≠ .enum values := by
  have harray := type.array_readTypeName h
  have hkind : (readTypeName (type.chars ++ ending)).1.columnKind dialect
      ≠ .enum values := by
    unfold TypeName.columnKind
    rw [if_pos harray]
    nofun
  unfold kindOf
  split
  · rw [if_pos harray]
    exact hkind
  · exact hkind

end TypeMention

/-! ## Columns -/

/-- **A definition that starts like this defines a column**: the name is in
quotes, or it is none of the words that start another definition. -/
def ColumnHead.DefinesColumn (head : ColumnHead) (dialect : Dialect) : Prop :=
  (head.chars.head?.any fun c => (closingQuote? c).isSome) = true
    ∨ definesNoColumn dialect head.name [] = false

instance (head : ColumnHead) : Decidable (head.DefinesColumn dialect) :=
  inferInstanceAs (Decidable (_ ∨ _))

/-- **The declaration has the name that the column uses**, in small letters and
without the schemas on either side. -/
def EnumStatement.Names (declaration : EnumStatement) (type : TypeMention) :
    Prop :=
  asciiLower declaration.name.chars = asciiLower type.word.chars

theorem EnumStatement.key_eq_iff {declaration : EnumStatement}
    {type : TypeMention} : declaration.key = type.key ↔ declaration.Names type :=
  String.ofList_inj

/-- The column that an item defines by naming a type. -/
theorem TypeMention.columnSpec?_eq (head : ColumnHead) (type : TypeMention)
    {item : List Char} (hitem : trim item = head.chars ++ (type.chars ++ ending))
    (hcolumn : head.DefinesColumn dialect) :
    columnSpec? dialect enums item
      = some ⟨String.ofList head.name,
          kindOf dialect enums (readTypeName (type.chars ++ ending)).1,
          allowsNull (readTypeName (type.chars ++ ending)).2⟩ := by
  have hdefines : (!(head.chars.head?.any fun c => (closingQuote? c).isSome)
      && definesNoColumn dialect head.name []) = false := by
    rcases hcolumn with hquoted | hword
    · rw [hquoted]
      rfl
    · rw [hword, Bool.and_false]
  rw [head.columnSpec?_append hitem fun c hc => type.head?_append hc, hdefines,
    if_neg Bool.false_ne_true]

end SchemaTyping.Sql
