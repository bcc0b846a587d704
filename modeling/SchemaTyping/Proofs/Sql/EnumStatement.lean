import SchemaTyping.Proofs.Sql.Boundary
import SchemaTyping.Proofs.Sql.ColumnLine
import SchemaTyping.Proofs.Sql.Phrase

/-!
# Statements that declare an enumerated type

The header of such a statement is recognised by its words, so a statement has
many forms: letters of either case, blanks of any number and kind, schemas in
front of the name. An `EnumStatement` takes all of them that quote no name. Of
the blanks, only those that keep two words apart have to be there.

The name may have letters of any alphabet and dollar signs in it, which is more
than the reader of types takes for a word. Only a name that is a word can be
meant by a column.

`enumDefinition?_chars` and `arguments_valueChars` are the two readers of the
statement: the one finds the name and the brackets, the other the values.

```
create type app.Mood$ as enum ( 'it''s' , 'b' )
```
-/

namespace SchemaTyping.Sql

open Text

/-! ## The parts of a statement -/

/-- The blanks between two words. -/
structure Gap where
  chars : List Char
  ne_nil : chars ≠ []
  blank : ∀ c ∈ chars, isBlank c = true

/-- A name without quotes. -/
structure BareName where
  chars : List Char
  ne_nil : chars ≠ []
  isName : ∀ c ∈ chars, isNameChar c = true

/-- **A value in the list of a type**, with the blanks around it. It is not
empty. -/
structure EnumValue where
  before : List Char
  literal : Literal
  after : List Char
  before_blank : ∀ c ∈ before, isBlank c = true
  after_blank : ∀ c ∈ after, isBlank c = true
  ne_empty : literal.value ≠ ""

/-- **A statement that declares an enumerated type**, no part of whose name is
in quotes. -/
structure EnumStatement where
  opening : List Char
  opens : IsPhrase "create" "type" opening
  openingGap : Gap
  qualifiers : List BareName
  name : BareName
  nameGap : Gap
  middle : List Char
  isMiddle : IsPhrase "as" "enum" middle
  space : List Char
  space_blank : ∀ c ∈ space, isBlank c = true
  values : List EnumValue

/-! ## Values -/

namespace EnumValue

/-- The text of a value. -/
def chars (value : EnumValue) : List Char :=
  value.before ++ (value.literal.chars ++ value.after)

theorem closed (value : EnumValue) : Closed false value.chars := by
  have hblank {text : List Char} (h : ∀ c ∈ text, isBlank c = true) :
      Closed false text :=
    closed_of_inert fun c hc => isInert_of_isBlank (h c hc)
  exact (hblank value.before_blank).append
    (value.literal.sealed.closed.append (hblank value.after_blank))

/-- A value is read without the blanks around it and without its quotes. -/
theorem unquote_trim (value : EnumValue) :
    unquote (trim value.chars) = value.literal.value.toList := by
  unfold chars
  rw [trim_append_of_isBlank value.before_blank,
    trim_append_blanks value.after_blank]
  exact value.literal.unquote_trim

/-- The texts of some values, with commas between them. -/
def valueChars (values : List EnumValue) : List Char :=
  [','].intercalate (values.map (·.chars))

/-- **The values of a type are read in order**, and none is lost. -/
theorem arguments_valueChars (values : List EnumValue) :
    Sql.arguments (valueChars values) = values.map (·.literal.value) := by
  have hread : (values.map (·.chars)).map (fun part => unquote (trim part))
      = values.map (·.literal.value.toList) := by
    rw [List.map_map]
    exact List.map_congr_left fun value _ => value.unquote_trim
  have hkept : (values.map (·.literal.value.toList)).filter (!·.isEmpty)
      = values.map (·.literal.value.toList) := by
    refine List.filter_eq_self.mpr (List.forall_mem_map.mpr fun value _ => ?_)
    rw [isEmpty_toList_eq]
    exact decide_eq_true value.ne_empty
  unfold valueChars
  rw [arguments_intercalate (List.forall_mem_map.mpr fun value _ => value.closed),
    hread, hkept, List.map_map]
  exact List.map_congr_left fun value _ => String.ofList_toList

end EnumValue

/-! ## Headers -/

variable {c : Char} {text rest : List Char}

/-- A blank is no character of a name. -/
theorem isNameChar_of_isBlank (h : isBlank c = true) : isNameChar c = false := by
  unfold isNameChar
  rw [isWord_of_isBlank h, beq_false_of_ne (ne_of_isBlank h (by decide))]
  rfl

theorem BareName.isBlank_head (name : BareName)
    (hc : (name.chars ++ rest).head? = some c) : isBlank c = false := by
  have hname := name.isName c (mem_of_head?_append name.ne_nil hc)
  rw [Bool.eq_false_iff]
  intro hblank
  rw [isNameChar_of_isBlank hblank] at hname
  cases hname

/-- A phrase starts with no blank. -/
theorem IsPhrase.isBlank_head {first second : String}
    (h : IsPhrase first second text) (hfirst : IsKeyword first)
    (hc : (text ++ rest).head? = some c) : isBlank c = false := by
  obtain ⟨left, gap, right, rfl, hleft, -⟩ := h
  rw [List.append_assoc] at hc
  exact hleft.isBlank_head hfirst hc

/-- All blanks between two words are passed over. -/
theorem Gap.afterBlanks?_append (gap : Gap)
    (h : ∀ c, rest.head? = some c → isBlank c = false) :
    afterBlanks? (gap.chars ++ rest) = some rest :=
  afterBlanks?_eq_some_iff.mpr ⟨gap.chars, rfl, gap.ne_nil, gap.blank, h⟩

namespace EnumStatement

variable (type : EnumStatement)

/-- The name of the type with the schemas in front of it. -/
def nameChars : List Char :=
  type.qualifiers.flatMap (·.chars ++ ['.']) ++ type.name.chars

/-- What follows the name and the blanks behind it. -/
def listChars : List Char :=
  type.middle
    ++ (type.space ++ '(' :: (EnumValue.valueChars type.values ++ [')']))

/-- **The text of the statement.** -/
def chars : List Char :=
  type.opening ++ (type.openingGap.chars
    ++ (type.nameChars ++ (type.nameGap.chars ++ type.listChars)))

/-- The values that are declared. -/
def texts : List String := type.values.map (·.literal.value)

/-- The name by which a column finds the type. -/
def key : String := String.ofList (asciiLower type.name.chars)

/-- A name starts with no blank, with schemas or without. -/
theorem isBlank_head_nameChars
    (hc : (type.nameChars ++ rest).head? = some c) : isBlank c = false := by
  unfold nameChars at hc
  rw [List.append_assoc] at hc
  cases hqualifiers : type.qualifiers with
  | nil =>
    rw [hqualifiers] at hc
    exact type.name.isBlank_head hc
  | cons qualifier qualifiers =>
    rw [hqualifiers, List.flatMap_cons] at hc
    simp only [List.append_assoc] at hc
    exact qualifier.isBlank_head hc

/-- **The name of the type** is what stands behind the last dot. -/
theorem qualifiedName?_nameChars (gap : Gap) (rest : List Char) :
    qualifiedName? typeQuotes (type.nameChars ++ (gap.chars ++ rest))
      = some (type.name.chars, gap.chars ++ rest) := by
  obtain ⟨c, blanks, hgap⟩ := List.exists_cons_of_ne_nil gap.ne_nil
  have hc : isBlank c = true := gap.blank c (hgap ▸ List.mem_cons_self)
  have hclosing : c ∉ typeQuotes.closing := by
    have hsolid : ∀ d ∈ typeQuotes.closing, isBlank d = false :=
      eq_false_of_all (by decide)
    exact fun hmem => ne_of_isBlank hc (hsolid c hmem) rfl
  unfold qualifiedName? nameChars
  rw [hgap, List.append_assoc, List.cons_append]
  induction type.qualifiers with
  | nil =>
    exact nameFrom_append_cons marked_typeQuotes type.name.ne_nil
      type.name.isName (isNameChar_of_isBlank hc) hclosing
      (ne_of_isBlank hc (by decide)) []
  | cons qualifier qualifiers ih =>
    rw [List.flatMap_cons, List.append_assoc, List.append_assoc,
      List.singleton_append,
      nameFrom_append_dot marked_typeQuotes qualifier.ne_nil qualifier.isName]
    exact ih

/-- What stands behind the words that create a type. -/
theorem afterOpening_eq :
    (afterWord? "create" type.chars >>= afterWord? "type")
      = some (type.nameChars ++ (type.nameGap.chars ++ type.listChars)) := by
  have hphrase : (afterWord? "create" type.chars
      >>= afterKeyword? "type".toList) = some _ :=
    (afterPhrase_eq_some_iff (by decide)).mpr ⟨type.opening, rfl, type.opens⟩
  show (afterWord? "create" type.chars
    >>= fun text => afterKeyword? "type".toList text >>= afterBlanks?) = _
  rw [← bind_assoc, hphrase]
  exact type.openingGap.afterBlanks?_append fun c hc =>
    type.isBlank_head_nameChars hc

/-- What stands behind the words between the name and the list. -/
theorem afterMiddle_eq :
    (afterBlanks? (type.nameGap.chars ++ type.listChars)
        >>= afterWord? "as" >>= afterKeyword? "enum".toList)
      = some (type.space
        ++ '(' :: (EnumValue.valueChars type.values ++ [')'])) := by
  have hgap : afterBlanks? (type.nameGap.chars ++ type.listChars)
      = some type.listChars :=
    type.nameGap.afterBlanks?_append fun c hc =>
      type.isMiddle.isBlank_head (by decide) hc
  rw [hgap]
  exact (afterPhrase_eq_some_iff (by decide)).mpr
    ⟨type.middle, rfl, type.isMiddle⟩

/-- **The statement is read** as the definition of a type: its name, and the
list between the brackets. -/
theorem enumDefinition?_chars :
    enumDefinition? type.chars
      = some (type.name.chars, EnumValue.valueChars type.values) := by
  let body := EnumValue.valueChars type.values ++ [')']
  have hspace : trimStart (type.space ++ '(' :: body) = '(' :: body :=
    trimStart_append_of_isBlank type.space_blank fun c hc => by cases hc; rfl
  have hbody : trimEnd body = body :=
    (EndsSolid.concat _ (by decide)).trimEnd_eq
  unfold enumDefinition?
  rw [type.afterOpening_eq, Option.bind_eq_bind, Option.bind_some,
    type.qualifiedName?_nameChars, Option.bind_eq_bind, Option.bind_some]
  dsimp only
  rw [type.afterMiddle_eq, Option.bind_some, hspace]
  show (if (trimEnd body).getLast? = some ')' then _ else _) = _
  rw [hbody, if_pos List.getLast?_concat, List.dropLast_concat]

end EnumStatement

end SchemaTyping.Sql
