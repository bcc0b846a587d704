import SchemaTyping.Proofs.Sql.ColumnReading

/-!
# Columns with any constraints

A **column line** describes a column whose type is one word, as it may stand in
any dump: the name is quoted or bare, the type may have schemas around it,
values may be listed behind it, and the constraints may say anything from
their first word on. The enumerated types declared before it decide what its
type means, so what is read of a line depends on them (`ColumnLine.spec`).

A line differs from a `ColumnText` in the values, too: they may be empty. An
empty value has its quotes in the text, but counts for nothing once these have
been taken off (`arguments_literalChars`).
-/

namespace SchemaTyping.Sql

open Text

/-! ## Listed values -/

/-- A value in a list of values. Only the backslash, which the scanner of
statements reads in its own way, does not occur in it. -/
structure Literal where
  value : String
  no_backslash : '\\' ∉ value.toList

/-- The text of a value: in single quotes, which are doubled inside. -/
def Literal.chars (literal : Literal) : List Char :=
  enquoted '\'' literal.value.toList

/-- The texts of some values, with commas between them. -/
def literalChars (literals : List Literal) : List Char :=
  [','].intercalate (literals.map (·.chars))

/-- What is kept of a list of values: those that are not empty. -/
def keptValues (literals : List Literal) : List String :=
  (literals.map (·.value)).filter (· ≠ "")

/-- All values are kept if none of them is empty, and only then. -/
theorem keptValues_eq_iff {literals : List Literal} :
    keptValues literals = literals.map (·.value)
      ↔ ∀ literal ∈ literals, literal.value ≠ "" := by
  rw [keptValues, List.filter_eq_self, List.forall_mem_map]
  exact forall₂_congr fun _ _ => decide_eq_true_iff

theorem Literal.sealed {commas : Bool} (literal : Literal) :
    Sealed commas literal.chars :=
  .of_enquoted rfl fun _ => literal.no_backslash

theorem Literal.solid (literal : Literal) : Solid literal.chars :=
  solid_enquoted (by decide) _

/-- A value comes out of its quotes as it went in. -/
theorem Literal.unquote_trim (literal : Literal) :
    unquote (trim literal.chars) = literal.value.toList := by
  rw [literal.solid.trim_eq]
  exact unquote_enquoted _

theorem literalChars_sealed (literals : List Literal) :
    Sealed true (literalChars literals) :=
  .intercalate (List.forall_mem_nil _)
    (List.forall_mem_map.mpr fun literal _ => literal.sealed)

theorem isEmpty_toList_eq (value : String) :
    (!value.toList.isEmpty) = decide (value ≠ "") := by
  rw [Bool.eq_iff_iff, Bool.not_eq_true', List.isEmpty_eq_false_iff,
    decide_eq_true_eq, ne_eq, ne_eq, ← String.toList_inj, String.toList_empty]

/-- **The values of a list are read in order**, but for the empty ones. -/
theorem arguments_literalChars (literals : List Literal) :
    Sql.arguments (literalChars literals) = keptValues literals := by
  have hread : (literals.map (·.chars)).map (fun part => unquote (trim part))
      = (literals.map (·.value)).map String.toList := by
    rw [List.map_map, List.map_map]
    exact List.map_congr_left fun literal _ => literal.unquote_trim
  have hstring : ∀ values : List String,
      (values.map String.toList).map String.ofList = values := by
    intro values
    rw [List.map_map]
    exact (List.map_congr_left fun _ _ => String.ofList_toList).trans
      (List.map_id values)
  unfold literalChars keptValues
  rw [arguments_intercalate (List.forall_mem_map.mpr fun literal _ =>
    literal.sealed.closed), hread, List.filter_map, hstring]
  exact List.filter_congr fun value _ => isEmpty_toList_eq value

/-! ## Names of columns -/

/-- **The name of a column**, in quotes or bare. A bare name ends at the first
blank and is none of the words that start other definitions. -/
inductive ColumnLabel where
  | quoted (name : QuotedName)
  | bare (name : List Char) (ne_nil : name ≠ [])
      (plain : ∀ c ∈ name, isInert c = true ∧ isBlank c = false ∧ c ≠ '[')
      (free : String.ofList (asciiLower name) ∉ tableWords ++ indexWords)

namespace ColumnLabel

/-- The name without quotes. -/
def name : ColumnLabel → List Char
  | .quoted name => name.name
  | .bare name _ _ _ => name

/-- The text of the name. -/
def chars : ColumnLabel → List Char
  | .quoted name => name.chars
  | .bare name _ _ _ => name

variable (label : ColumnLabel)

theorem sealed {commas : Bool} : Sealed commas label.chars := by
  cases label with
  | quoted name => exact name.sealed
  | bare name _ plain _ => exact .of_inert fun c hc => (plain c hc).1

theorem solid : Solid label.chars := by
  cases label with
  | quoted name => exact name.solid
  | bare name ne_nil plain _ => exact .of_forall ne_nil fun c hc => (plain c hc).2.1

theorem closingQuote?_eq_none {c : Char} (h : isInert c = true)
    (hbracket : c ≠ '[') : closingQuote? c = none := by
  have hquote := (of_isInert h).1
  simp only [isQuote, Bool.or_eq_false_iff, beq_eq_false_iff_ne] at hquote
  unfold closingQuote?
  rw [if_neg hbracket, if_neg fun h => h.elim hquote.1.2 hquote.2]

/-- The name is read up to the blank behind it. -/
theorem columnName?_append (rest : List Char) :
    columnName? (label.chars ++ ' ' :: rest) = some (label.name, ' ' :: rest) := by
  cases label with
  | quoted name => exact name.columnName?_append _
  | bare name ne_nil plain _ =>
    obtain ⟨htake, hdrop⟩ := takeWhile_append_of_head
      (fun c hc => by rw [(plain c hc).2.1]; rfl : ∀ c ∈ name, (!isBlank c) = true)
      (fun c hc => by cases hc; rfl : ∀ c, (' ' :: rest).head? = some c →
        (!isBlank c) = false)
    show columnName? (name ++ ' ' :: rest) = some (name, ' ' :: rest)
    obtain ⟨c, name, rfl⟩ := List.exists_cons_of_ne_nil ne_nil
    obtain ⟨hinert, -, hbracket⟩ := plain c List.mem_cons_self
    rw [List.cons_append] at htake hdrop ⊢
    rw [columnName?, closingQuote?_eq_none hinert hbracket]
    dsimp only
    rw [htake, hdrop]

/-- A name in quotes never starts another definition, and a bare one is none
of the words that do. -/
theorem definesNoColumn_append (dialect : Dialect) (rest : List Char) :
    (!((label.chars ++ ' ' :: rest).head?.any fun c => (closingQuote? c).isSome)
      && definesNoColumn dialect label.name (' ' :: rest)) = false := by
  cases label with
  | quoted name =>
    show (!(closingQuote? name.quote.mark).isSome && _) = false
    rw [closingQuote?_mark]
    rfl
  | bare name _ _ free =>
    have hfree : tableWords.contains (String.ofList (asciiLower name)) = false
        ∧ indexWords.contains (String.ofList (asciiLower name)) = false := by
      rw [List.contains_eq_mem, List.contains_eq_mem, decide_eq_false_iff_not,
        decide_eq_false_iff_not]
      exact not_or.mp (free ∘ List.mem_append.mpr)
    show (_ && definesNoColumn dialect name (' ' :: rest)) = false
    unfold definesNoColumn
    dsimp only
    rw [hfree.1, hfree.2, Bool.false_and, Bool.or_false, Bool.and_false]

end ColumnLabel

/-- **An item that starts with the name of a column** defines a column, and
the rest of it says of which type. -/
theorem columnSpec?_of_label {dialect : Dialect} {enums : EnumTypes}
    (label : ColumnLabel) {item rest constraints : List Char} {type : TypeName}
    (h : trim item = label.chars ++ ' ' :: rest)
    (htype : readTypeName (' ' :: rest) = (type, constraints)) :
    columnSpec? dialect enums item
      = some ⟨String.ofList label.name, kindOf dialect enums type,
          allowsNull constraints⟩ := by
  unfold columnSpec?
  dsimp only
  rw [h, label.columnName?_append, Option.bind_eq_bind, Option.bind_some]
  dsimp only
  rw [label.definesNoColumn_append, if_neg Bool.false_ne_true, htype]

/-! ## Types -/

/-- Lowering a letter does not make it a dot. -/
theorem eq_dot_of_toLower {c : Char} (h : c.toLower = '.') : c = '.' := by
  unfold Char.toLower at h
  split at h
  · next hupper =>
    have hle : 65 ≤ c.val.toNat := hupper.1
    have hge : c.val.toNat ≤ 90 := hupper.2
    have hval : (c.val.toNat + 32) % 2 ^ 32 = 46 :=
      congrArg (fun c : Char => c.val.toNat) h
    omega
  · exact h

theorem dot_not_mem_asciiLower (word : Word) : '.' ∉ asciiLower word.chars := by
  intro hmem
  obtain ⟨c, hc, hlower⟩ := List.mem_map.mp hmem
  have hword := word.isWord c hc
  rw [eq_dot_of_toLower hlower] at hword
  cases hword

/-- A name with a dot in it is no reserved word. -/
theorem not_reserved_of_dot {name : List Char} (h : '.' ∈ name) :
    String.ofList name ∉ reservedWords := by
  have hnone : reservedWords.all (!·.toList.contains '.') = true := by decide
  intro hmem
  have hword := List.all_eq_true.mp hnone _ hmem
  rw [String.toList_ofList, List.contains_iff_mem.mpr h] at hword
  cases hword

theorem dot_mem_asciiLower {text : List Char} (h : '.' ∈ text) :
    '.' ∈ asciiLower text := by
  rw [asciiLower, List.mem_map]
  exact ⟨'.', h, by decide⟩

theorem Word.isTypeChar (word : Word) : ∀ c ∈ word.chars, isTypeChar c = true :=
  fun c hc => isTypeChar_of_isAsciiWord (word.isWord c hc)

/-- The schemas in front of a name, each with its dot. -/
def schemaChars (schemas : List Word) : List Char :=
  schemas.flatMap (·.chars ++ ['.'])

section Schemas

variable (schemas : List Word)

theorem isTypeChar_schemaChars :
    ∀ c ∈ schemaChars schemas, isTypeChar c = true := by
  intro c hc
  obtain ⟨schema, -, hmem⟩ := List.mem_flatMap.mp hc
  rcases List.mem_append.mp hmem with hword | hdot
  · exact schema.isTypeChar c hword
  · rw [List.mem_singleton.mp hdot]
    rfl

/-- Behind each schema there is a dot. -/
theorem schemaChars_cases :
    schemaChars schemas = [] ∨ (schemaChars schemas).getLast? = some '.' := by
  rcases List.eq_nil_or_concat schemas with rfl | ⟨schemas, schema, rfl⟩
  · exact .inl rfl
  · right
    rw [schemaChars, List.concat_eq_append, List.flatMap_append,
      List.flatMap_singleton, ← List.append_assoc, List.getLast?_concat]

/-- **Without its schemas a name is what stands behind the last dot.** -/
theorem afterLast_schemaChars (word : Word) :
    afterLast '.' (asciiLower (schemaChars schemas ++ word.chars))
      = asciiLower word.chars := by
  have hdot := dot_not_mem_asciiLower word
  rcases schemaChars_cases schemas with hnil | hlast
  · rw [hnil, List.nil_append, afterLast_eq_self hdot]
  · obtain ⟨front, hfront⟩ := List.getLast?_eq_some_iff.mp hlast
    have hlower : asciiLower (schemaChars schemas ++ word.chars)
        = asciiLower front ++ '.' :: asciiLower word.chars := by
      rw [hfront, List.append_assoc, asciiLower, List.map_append]
      rfl
    rw [hlower, afterLast_append hdot]

/-- **A name with a schema in front of it is no reserved word**, whatever the
name is: there is a dot in it. -/
theorem not_reserved_of_schemas (h : (schemaChars schemas).getLast? = some '.')
    (name : List Char) :
    String.ofList (asciiLower (schemaChars schemas ++ name)) ∉ reservedWords :=
  not_reserved_of_dot
    (dot_mem_asciiLower (List.mem_append_left name (List.mem_of_getLast? h)))

end Schemas

/-- The name of a type with the schemas around it. -/
def typeChars (qualifiers : List Word) (type : TypeWord) : List Char :=
  qualifiers.flatMap (·.chars ++ ['.']) ++ type.chars

section TypeChars

variable (qualifiers : List Word) (type : TypeWord)

theorem isTypeChar_typeChars :
    ∀ c ∈ typeChars qualifiers type, isTypeChar c = true :=
  List.forall_mem_append.mpr
    ⟨isTypeChar_schemaChars qualifiers, type.isTypeChar⟩

theorem typeChars_ne_nil : typeChars qualifiers type ≠ [] :=
  List.append_ne_nil_of_right_ne_nil _ type.ne_nil

/-- The last part of the name is the type. -/
theorem afterLast_typeChars :
    afterLast '.' (asciiLower (typeChars qualifiers type))
      = asciiLower type.chars :=
  afterLast_schemaChars qualifiers type.toWord

/-- The name with the schemas around it is no reserved word. -/
theorem typeChars_not_reserved :
    String.ofList (asciiLower (typeChars qualifiers type)) ∉ reservedWords := by
  show String.ofList (asciiLower (schemaChars qualifiers ++ type.chars)) ∉ _
  rcases schemaChars_cases qualifiers with hnil | hdot
  · rw [hnil]
    exact type.not_reserved
  · exact not_reserved_of_schemas qualifiers hdot type.chars

end TypeChars

theorem isTypeChar_iff {c : Char} :
    isTypeChar c = true ↔ isAsciiWord c = true ∨ c = '.' := by
  rw [isTypeChar, Bool.or_eq_true, beq_iff_eq]

theorem isBlank_of_isTypeChar {c : Char} (h : isTypeChar c = true) :
    isBlank c = false := by
  rcases isTypeChar_iff.mp h with hword | rfl
  · exact isBlank_of_isAsciiWord hword
  · decide

theorem isInert_of_isTypeChar {c : Char} (h : isTypeChar c = true) :
    isInert c = true := by
  rcases isTypeChar_iff.mp h with hword | rfl
  · exact isInert_of_isAsciiWord hword
  · rfl

theorem takeGroup_eq_self {text : List Char} (h : text.head? ≠ some '(') :
    takeGroup text = (none, text) := by
  have hgroup : group? text = none := by
    unfold group?
    split
    · exact absurd rfl h
    · rfl
  rw [takeGroup, hgroup]

theorem takeArray_eq_self {text : List Char} (h : text.head? ≠ some '[') :
    takeArray text = (false, text) := by
  unfold takeArray
  split
  · exact absurd rfl h
  · rfl

/-- The type of one part. -/
theorem ofParts_single {word : List Char}
    (h : String.ofList word ∉ typeModifiers) (group : Option (List Char)) :
    TypeName.ofParts [⟨word, group, false⟩]
      = { name := String.ofList word,
          arguments := (group.map Sql.arguments).getD [] } := by
  have hkept : (!typeModifiers.contains (String.ofList word)) = true := by
    rw [List.contains_eq_mem, decide_eq_false h]
    rfl
  have hname : [word].filter
      (fun word => !typeModifiers.contains (String.ofList word)) = [word] := by
    rw [List.filter_cons, if_pos hkept, List.filter_nil]
  have harguments : ([(⟨word, group, false⟩ : TypePart)].findSome? fun part =>
      (part.group.map Sql.arguments).filter (!·.isEmpty)).getD []
        = (group.map Sql.arguments).getD [] := by
    cases group with
    | none => rfl
    | some group =>
      show ([(⟨word, some group, false⟩ : TypePart)].findSome? _).getD []
        = Sql.arguments group
      rw [List.findSome?_singleton]
      show (Option.filter _ (some (Sql.arguments group))).getD [] = _
      cases Sql.arguments group with
      | nil => rfl
      | cons argument rest => rfl
  have hsign : [(⟨word, group, false⟩ : TypePart)].any
      (·.word == "unsigned".toList) = false := by
    have hne : word ≠ "unsigned".toList := by
      rintro rfl
      rw [String.ofList_toList] at h
      exact h (by decide)
    rw [List.any_cons, List.any_nil, beq_false_of_ne hne]
    rfl
  unfold TypeName.ofParts
  rw [List.map_singleton, hname, harguments, hsign, List.intercalate_singleton]
  rfl

/-! ## Constraints -/

/-- **A type ends at the first word of a constraint.** -/
theorem typeParts_of_mem_constraintWords (word : Word) {rest : List Char}
    (h : String.ofList (asciiLower word.chars) ∈ constraintWords)
    (hrest : ∀ c, rest.head? = some c → isTypeChar c = false) :
    typeParts (word.chars ++ rest) = ([], word.chars ++ rest) := by
  obtain ⟨htake, hdrop⟩ := takeWhile_append_of_head
    word.isTypeChar hrest
  have hends : endsType (asciiLower word.chars) (trimStart rest) = true := by
    unfold endsType
    rw [List.contains_iff_mem.mpr h]
    rfl
  rw [typeParts, htake, hdrop]
  dsimp only
  rw [dif_pos (.inr hends)]

/-- The words that start the constraints of a column, with all that follows
them. -/
structure Constraints where
  word : Word
  isConstraint : String.ofList (asciiLower word.chars) ∈ constraintWords
  rest : List Char
  separate : ∀ c, rest.head? = some c → isTypeChar c = false
  rest_sealed : Sealed false rest
  ends : EndsSolid rest

namespace Constraints

variable (constraints : Constraints)

/-- The text of the constraints. -/
def chars : List Char := constraints.word.chars ++ constraints.rest

/-- The type ends where the constraints start. -/
theorem typeParts_chars :
    typeParts constraints.chars = ([], constraints.chars) :=
  typeParts_of_mem_constraintWords constraints.word constraints.isConstraint
    constraints.separate

theorem sealed : Sealed false constraints.chars :=
  .inert_append constraints.word.isInert constraints.rest_sealed

theorem endsSolid : EndsSolid constraints.chars :=
  (EndsSolid.of_forall fun c hc =>
    isBlank_of_isAsciiWord (constraints.word.isWord c hc)).append constraints.ends

end Constraints

/-! ## Lines -/

/-- **The description of a column** in any of its forms. -/
structure ColumnLine where
  label : ColumnLabel
  /-- The schemas around the type. -/
  qualifiers : List Word
  type : TypeWord
  /-- The values in brackets behind the type, if there are brackets. -/
  values : Option (List Literal)
  constraints : Option Constraints

namespace ColumnLine

variable (line : ColumnLine)

/-- What follows the name of the type. -/
def groupChars : List Char :=
  match line.values with
  | none => []
  | some values => '(' :: (literalChars values ++ [')'])

/-- The text of the constraints, if there are any. -/
def constraintChars : List Char := (line.constraints.map (·.chars)).getD []

/-- What follows the type. -/
def tailChars : List Char :=
  match line.constraints with
  | none => []
  | some constraints => ' ' :: constraints.chars

/-- What follows the name of the column and the blank behind it. -/
def definition : List Char :=
  typeChars line.qualifiers line.type ++ (line.groupChars ++ line.tailChars)

/-- **The text of a column.** -/
def chars : List Char := line.label.chars ++ ' ' :: line.definition

/-- The type that is described. -/
def typeName : TypeName where
  name := String.ofList (asciiLower (typeChars line.qualifiers line.type))
  arguments := keptValues (line.values.getD [])

/-- **The column that is described**, where the enumerated types are known. -/
def spec (dialect : Dialect) (enums : EnumTypes) : ColumnSpec where
  name := String.ofList line.label.name
  kind := kindOf dialect enums line.typeName
  nullable := allowsNull line.constraintChars

theorem trimStart_tailChars : trimStart line.tailChars = line.constraintChars := by
  unfold tailChars constraintChars
  cases line.constraints with
  | none => rfl
  | some constraints =>
    exact trimStart_eq_self fun c hc => isBlank_of_isAsciiWord
      (constraints.word.isWord c (mem_of_head?_append constraints.word.ne_nil hc))

/-- The constraints start with a word. -/
theorem head?_constraintChars_ne {mark : Char} (hmark : isAsciiWord mark = false) :
    line.constraintChars.head? ≠ some mark := by
  unfold constraintChars
  intro hhead
  cases hconstraints : line.constraints with
  | none =>
    rw [hconstraints] at hhead
    cases hhead
  | some constraints =>
    rw [hconstraints] at hhead
    have hword := constraints.word.isWord mark
      (mem_of_head?_append constraints.word.ne_nil hhead)
    rw [hmark] at hword
    cases hword

theorem typeParts_constraintChars :
    typeParts line.constraintChars = ([], line.constraintChars) := by
  unfold constraintChars
  cases line.constraints with
  | none =>
    show typeParts [] = _
    rw [typeParts]
    rfl
  | some constraints => exact constraints.typeParts_chars

/-- What stands in brackets behind the type is read as its group. -/
theorem takeGroup_eq :
    takeGroup (trimStart (line.groupChars ++ line.tailChars))
      = (line.values.map literalChars, line.constraintChars) := by
  unfold groupChars
  cases line.values with
  | none =>
    show takeGroup (trimStart line.tailChars) = _
    rw [trimStart_tailChars]
    exact takeGroup_eq_self (line.head?_constraintChars_ne rfl)
  | some values =>
    show takeGroup ('(' :: (literalChars values ++ [')'] ++ line.tailChars)) = _
    rw [List.append_assoc, List.singleton_append, takeGroup,
      (literalChars_sealed values).group?_eq]
    dsimp only
    rw [trimStart_tailChars]
    rfl

/-- The name of the type ends where its group or the constraints start. -/
theorem isTypeChar_of_head? {c : Char}
    (h : (line.groupChars ++ line.tailChars).head? = some c) :
    isTypeChar c = false := by
  unfold groupChars tailChars at h
  cases hvalues : line.values with
  | none =>
    rw [hvalues] at h
    cases hconstraints : line.constraints with
    | none =>
      rw [hconstraints] at h
      cases h
    | some constraints =>
      rw [hconstraints] at h
      cases h
      rfl
  | some values =>
    rw [hvalues] at h
    cases h
    rfl

/-- **The type of a column is read**, and the constraints are left. -/
theorem readTypeName_eq :
    readTypeName (' ' :: line.definition)
      = (line.typeName, line.constraintChars) := by
  have hword := isTypeChar_typeChars line.qualifiers line.type
  have hne := typeChars_ne_nil line.qualifiers line.type
  have hreserved := typeChars_not_reserved line.qualifiers line.type
  have htrim : trimStart (' ' :: line.definition) = line.definition :=
    trimStart_eq_self fun c hc =>
      isBlank_of_isTypeChar (hword c (mem_of_head?_append hne hc))
  have hparts := typeParts_append hword hne
    (endsType_eq_false hreserved _) (fun _ hc => line.isTypeChar_of_head? hc)
    line.takeGroup_eq
    (takeArray_eq_self (line.head?_constraintChars_ne rfl))
    line.typeParts_constraintChars
  have harguments : ((line.values.map literalChars).map Sql.arguments).getD []
      = keptValues (line.values.getD []) := by
    cases line.values with
    | none => rfl
    | some values => exact arguments_literalChars values
  unfold readTypeName
  rw [htrim, definition, hparts]
  dsimp only
  rw [ofParts_single (not_modifier_of_not_reserved hreserved), harguments]
  rfl

/-- **A line is read as the column it describes**, with blanks around it or
without. -/
theorem columnSpec?_of_trim {dialect : Dialect} {enums : EnumTypes}
    {item : List Char} (h : trim item = line.chars) :
    columnSpec? dialect enums item = some (line.spec dialect enums) :=
  columnSpec?_of_label line.label h line.readTypeName_eq

/-! ### The text of a line -/

theorem definition_sealed : Sealed false line.definition := by
  have hgroup : Sealed false line.groupChars := by
    unfold groupChars
    cases line.values with
    | none => exact .nil false
    | some values => exact .group (literalChars_sealed values) (.nil false)
  have htail : Sealed false line.tailChars ∧ NoQuoteAhead line.tailChars := by
    unfold tailChars
    cases line.constraints with
    | none => exact ⟨.nil false, nofun⟩
    | some constraints =>
      exact ⟨.inert rfl constraints.sealed, noQuoteAhead_cons rfl _⟩
  exact .inert_append
    (fun c hc => isInert_of_isTypeChar (isTypeChar_typeChars _ _ c hc))
    (hgroup.append htail.1 htail.2)

theorem sealed : Sealed false line.chars :=
  line.label.sealed.append (.inert rfl line.definition_sealed)
    (noQuoteAhead_cons rfl _)

theorem definition_solid : Solid line.definition := by
  have hword : ∀ c ∈ typeChars line.qualifiers line.type, isBlank c = false :=
    fun c hc => isBlank_of_isTypeChar (isTypeChar_typeChars _ _ c hc)
  have hgroup : EndsSolid line.groupChars := by
    unfold groupChars
    cases line.values with
    | none => exact nofun
    | some values => exact .concat ('(' :: literalChars values) (by decide)
  have htail : EndsSolid line.tailChars := by
    unfold tailChars
    cases line.constraints with
    | none => exact nofun
    | some constraints =>
      exact constraints.endsSolid.cons
        (List.append_ne_nil_of_left_ne_nil constraints.word.ne_nil _)
  have hne := typeChars_ne_nil line.qualifiers line.type
  exact ⟨List.append_ne_nil_of_left_ne_nil hne _,
    fun c hc => hword c (mem_of_head?_append hne hc),
    (EndsSolid.of_forall hword).append (hgroup.append htail)⟩

theorem solid : Solid line.chars :=
  line.label.solid.append [' '] line.definition_solid

end ColumnLine

end SchemaTyping.Sql
