import SchemaTyping.Proofs.Sql.Description
import SchemaTyping.Sql.Dump

/-!
# Reading the description of a column

A column is read in three parts: the name up to its closing quote, the type
with its arguments, and the constraints. The type ends at the first word that
is not one of its own, which is why a reserved word is no name of a type.
-/

namespace SchemaTyping.Sql

open Text

/-! ## Arguments -/

/-- Doubling is undone by dropping a mark before each mark. -/
theorem dropBefore_doubled (mark : Char) (text : List Char) :
    dropBefore mark mark (doubled mark text) = text := by
  induction text with
  | nil => rfl
  | cons c text ih =>
    by_cases hc : c = mark
    · subst hc
      rw [doubled_cons_self, dropBefore, if_pos ⟨rfl, rfl⟩, ih]
    · rw [doubled_cons_of_ne hc, dropBefore_cons_of_ne hc, ih]

/-- A text comes out of its quotes as it went in. -/
theorem unquote_enquoted (text : List Char) :
    unquote (enquoted '\'' text) = text := by
  have hclosed : (doubled '\'' text ++ ['\'']).getLast? = some '\'' :=
    List.getLast?_concat
  unfold enquoted unquote
  dsimp only
  rw [if_pos ⟨.inl rfl, hclosed⟩, List.dropLast_concat, dropBefore_doubled]

/-- A text that does not start with a quote has none to lose. -/
theorem unquote_eq_self {text : List Char} (h : NoQuoteAhead text) :
    unquote text = text := by
  cases text with
  | nil => rfl
  | cons c rest =>
    have hc : isQuote c = false := h c rfl
    refine if_neg fun hquoted => ?_
    rcases hquoted.1 with rfl | rfl <;> cases hc

namespace Argument

variable (argument : Argument)

theorem unquote_chars : unquote argument.chars = argument.value := by
  cases argument with
  | number digits ne_nil isDigit =>
    exact unquote_eq_self (noQuoteAhead_of_isInert fun c hc =>
      isInert_of_isAsciiWord (isAsciiWord_of_isDigit (isDigit c hc)))
  | text value ne_nil no_backslash => exact unquote_enquoted value

theorem value_ne_nil : argument.value ≠ [] := by
  cases argument with
  | number digits ne_nil isDigit => exact ne_nil
  | text value ne_nil no_backslash => exact ne_nil

/-- No argument starts or ends with a blank: the blanks of a text are between
its quotes. -/
theorem solid : Solid argument.chars := by
  cases argument with
  | number digits ne_nil isDigit =>
    exact .of_forall ne_nil fun c hc =>
      isBlank_of_isAsciiWord (isAsciiWord_of_isDigit (isDigit c hc))
  | text value ne_nil no_backslash => exact solid_enquoted (by decide) value

end Argument

/-- **The arguments in a list** of closed texts: what is left of each without
the blanks around it and then its quotes, if that is anything. -/
theorem arguments_intercalate {parts : List (List Char)}
    (h : ∀ part ∈ parts, Closed false part) :
    Sql.arguments ([','].intercalate parts)
      = ((parts.map fun part => unquote (trim part)).filter
          (!·.isEmpty)).map String.ofList := by
  cases parts with
  | nil => rfl
  | cons part parts =>
    have hitems : items ([','].intercalate (part :: parts)) = part :: parts := by
      rw [items_intercalate (.nil false) h]
      exact congrArg (part :: ·) (List.map_id _)
    unfold Sql.arguments
    rw [hitems]

/-- **The arguments of a type** are read as they were written. -/
theorem arguments_argumentChars (arguments : List Argument) :
    Sql.arguments (ColumnText.argumentChars arguments)
      = arguments.map fun argument => String.ofList argument.value := by
  have hread : (arguments.map (·.chars)).map (fun part => unquote (trim part))
      = arguments.map (·.value) := by
    rw [List.map_map]
    refine List.map_congr_left fun argument _ => ?_
    show unquote (trim argument.chars) = argument.value
    rw [argument.solid.trim_eq, argument.unquote_chars]
  have hkept : (arguments.map (·.value)).filter (!·.isEmpty)
      = arguments.map (·.value) := by
    refine List.filter_eq_self.mpr
      (List.forall_mem_map.mpr fun argument _ => ?_)
    rw [List.isEmpty_eq_false_iff.mpr argument.value_ne_nil]
    rfl
  unfold ColumnText.argumentChars
  rw [arguments_intercalate (List.forall_mem_map.mpr fun argument _ =>
    argument.sealed.closed), hread, hkept, List.map_map]
  rfl

/-! ## Names in quotes -/

/-- Both quotes of a name close what they open. -/
theorem closingQuote?_mark (quote : NameQuote) :
    closingQuote? quote.mark = some quote.mark := by
  cases quote <;> rfl

/-- A name in quotes is read up to its closing quote. -/
theorem QuotedName.columnName?_append (name : QuotedName) (rest : List Char) :
    columnName? (name.chars ++ rest) = some (name.name, rest) := by
  unfold chars
  rw [List.cons_append, List.append_assoc, List.singleton_append, columnName?,
    closingQuote?_mark]
  exact cutFirst_append name.not_mem

/-! ## Types -/

theorem isTypeChar_of_isAsciiWord {c : Char} (h : isAsciiWord c = true) :
    isTypeChar c = true := by
  unfold isTypeChar
  rw [h, Bool.true_or]

section Reserved

variable {name : List Char} (h : String.ofList name ∉ reservedWords)

include h

theorem ne_of_not_reserved (reserved : String)
    (hreserved : reserved ∈ reservedWords) : name ≠ reserved.toList := by
  rintro rfl
  rw [String.ofList_toList] at h
  exact h hreserved

/-- A word that is not reserved ends no type. -/
theorem endsType_eq_false (after : List Char) :
    endsType name after = false := by
  have hconstraint :
      constraintWords.contains (String.ofList name) = false := by
    rw [List.contains_eq_mem, decide_eq_false_iff_not]
    exact fun hmem =>
      h (List.mem_append_left _ (List.mem_append_left _ hmem))
  unfold endsType
  rw [hconstraint,
    beq_false_of_ne (ne_of_not_reserved h "charset" (by decide)),
    beq_false_of_ne (ne_of_not_reserved h "character" (by decide))]
  rfl

/-- A word that is not reserved modifies no type. -/
theorem not_modifier_of_not_reserved : String.ofList name ∉ typeModifiers :=
  fun hmem => h (List.mem_append_right _ hmem)

theorem typeModifiers_contains :
    typeModifiers.contains (String.ofList name) = false := by
  rw [List.contains_eq_mem, decide_eq_false_iff_not]
  exact not_modifier_of_not_reserved h

end Reserved

/-- **The first word of a type**: the rest of the type is read in the same way
whatever the word is. -/
theorem typeParts_word {word rest : List Char}
    (hword : ∀ c ∈ word, isTypeChar c = true)
    (hne : word ≠ [])
    (hends : endsType (asciiLower word) (trimStart rest) = false)
    (hrest : ∀ c, rest.head? = some c → isTypeChar c = false) :
    typeParts (word ++ rest)
      = (⟨asciiLower word, (takeGroup (trimStart rest)).1,
            (takeArray (takeGroup (trimStart rest)).2).1⟩
          :: (typeParts (takeArray (takeGroup (trimStart rest)).2).2).1,
        (typeParts (takeArray (takeGroup (trimStart rest)).2).2).2) := by
  obtain ⟨htake, hdrop⟩ := takeWhile_append_of_head hword hrest
  have hopen : ¬ (asciiLower word = []
      ∨ endsType (asciiLower word) (trimStart rest) = true) := by
    rw [hends]
    exact fun h => h.elim (hne ∘ List.map_eq_nil_iff.mp) Bool.false_ne_true
  rw [typeParts, htake, hdrop]
  dsimp only
  rw [dif_neg hopen]

/-- **One step of the reader of types**: a word, the group behind it, and what
is read from there on. -/
theorem typeParts_append {word after rest left : List Char}
    {group : Option (List Char)} {parts : List TypePart}
    (hword : ∀ c ∈ word, isTypeChar c = true) (hne : word ≠ [])
    (hends : endsType (asciiLower word) (trimStart after) = false)
    (hafter : ∀ c, after.head? = some c → isTypeChar c = false)
    (hgroup : takeGroup (trimStart after) = (group, rest))
    (harray : takeArray rest = (false, rest))
    (hrest : typeParts rest = (parts, left)) :
    typeParts (word ++ after) = (⟨asciiLower word, group, false⟩ :: parts, left) := by
  rw [typeParts_word hword hne hends hafter, hgroup]
  dsimp only
  rw [harray]
  dsimp only
  rw [hrest]

namespace ColumnText

variable (column : ColumnText)

/-- The constraints that are left when the type has been read. -/
def constraintChars : List Char :=
  if column.notNull then "NOT NULL".toList else []

/-- What the reader makes of the words behind the name of the type. -/
def flagParts : List TypePart :=
  if column.unsigned then [⟨"unsigned".toList, none, false⟩] else []

theorem typeParts_flagChars :
    typeParts (trimStart column.flagChars)
      = (column.flagParts, column.constraintChars) := by
  unfold flagChars flagParts constraintChars
  cases column.unsigned <;> cases column.notNull <;> decide +kernel

/-- No group and no `[]` starts behind the type and its arguments. -/
theorem takeGroup_flagChars :
    takeGroup (trimStart column.flagChars)
      = (none, trimStart column.flagChars) := by
  unfold flagChars
  cases column.unsigned <;> cases column.notNull <;> rfl

theorem takeArray_flagChars :
    takeArray (trimStart column.flagChars)
      = (false, trimStart column.flagChars) := by
  unfold flagChars
  cases column.unsigned <;> cases column.notNull <;> rfl

theorem takeGroup_groupChars :
    takeGroup (trimStart (column.groupChars ++ column.flagChars))
      = (column.arguments.map argumentChars, trimStart column.flagChars) := by
  unfold groupChars
  cases column.arguments with
  | none => exact column.takeGroup_flagChars
  | some arguments =>
    show takeGroup
      ('(' :: (argumentChars arguments ++ [')'] ++ column.flagChars)) = _
    rw [List.append_assoc, List.singleton_append, takeGroup,
      (argumentChars_sealed arguments).group?_eq]
    rfl

/-- The name of the type ends where the type says no more. -/
theorem isTypeChar_of_head? {c : Char}
    (h : (column.groupChars ++ column.flagChars).head? = some c) :
    isTypeChar c = false := by
  unfold groupChars at h
  cases hargs : column.arguments with
  | none =>
    rw [hargs] at h
    unfold flagChars at h
    revert h
    cases column.unsigned <;> cases column.notNull <;> rintro ⟨⟩ <;> rfl
  | some arguments =>
    rw [hargs] at h
    cases h
    rfl

/-- **The type of a column is read in one part**, but for its sign. -/
theorem typeParts_eq :
    typeParts (column.type.chars ++ (column.groupChars ++ column.flagChars))
      = (⟨asciiLower column.type.chars,
          column.arguments.map argumentChars, false⟩ :: column.flagParts,
        column.constraintChars) :=
  typeParts_append
    (fun c hc => isTypeChar_of_isAsciiWord (column.type.isWord c hc))
    column.type.ne_nil (endsType_eq_false column.type.not_reserved _)
    (fun _ hc => column.isTypeChar_of_head? hc) column.takeGroup_groupChars
    column.takeArray_flagChars column.typeParts_flagChars

/-- The sign is no part of the name of a type. -/
theorem name_flagParts :
    (column.flagParts.map (·.word)).filter
      (fun word => !typeModifiers.contains (String.ofList word)) = [] := by
  unfold flagParts
  cases column.unsigned <;> decide

theorem findSome?_flagParts :
    (column.flagParts.findSome? fun part =>
      (part.group.map Sql.arguments).filter (!·.isEmpty)) = none := by
  unfold flagParts
  cases column.unsigned <;> rfl

/-- Empty brackets and no brackets come to the same: no arguments. -/
theorem arguments_eq :
    ((column.arguments.map argumentChars).map Sql.arguments).filter
        (!·.isEmpty)
      = (if column.typeName.arguments = [] then none
        else some column.typeName.arguments) := by
  unfold typeName
  cases column.arguments with
  | none => rfl
  | some arguments =>
    rw [Option.map_some, Option.map_some, arguments_argumentChars]
    cases arguments with
    | nil => rfl
    | cons argument rest => rfl

/-- The parts of a type put together say what is described. -/
theorem ofParts_eq :
    TypeName.ofParts (⟨asciiLower column.type.chars,
        column.arguments.map argumentChars, false⟩ :: column.flagParts)
      = column.typeName := by
  let part : TypePart := ⟨asciiLower column.type.chars,
    column.arguments.map argumentChars, false⟩
  have hkept : (!typeModifiers.contains (String.ofList part.word)) = true := by
    rw [typeModifiers_contains column.type.not_reserved]
    rfl
  have hname : ((part :: column.flagParts).map (·.word)).filter
      (fun word => !typeModifiers.contains (String.ofList word))
        = [part.word] := by
    rw [List.map_cons, List.filter_cons, if_pos hkept, column.name_flagParts]
  have harguments : ((part :: column.flagParts).findSome? fun part =>
      (part.group.map Sql.arguments).filter (!·.isEmpty)).getD []
        = column.typeName.arguments := by
    rw [List.findSome?_cons, column.arguments_eq, column.findSome?_flagParts]
    by_cases h : column.typeName.arguments = []
    · rw [if_pos h, h]
      rfl
    · rw [if_neg h]
      rfl
  have hsign : (part :: column.flagParts).any (·.word == "unsigned".toList)
      = column.unsigned := by
    rw [List.any_cons,
      beq_false_of_ne
        (ne_of_not_reserved column.type.not_reserved "unsigned" (by decide))]
    unfold flagParts
    cases column.unsigned <;> decide
  have harray : (part :: column.flagParts).any (·.array) = false := by
    unfold flagParts
    cases column.unsigned <;> rfl
  unfold TypeName.ofParts
  rw [hname, harguments, hsign, harray, List.intercalate_singleton]
  rfl

/-- **The type of a column is read** with its arguments and its sign, and the
constraints are left. -/
theorem readTypeName_eq :
    readTypeName
        (' ' :: (column.type.chars ++ (column.groupChars ++ column.flagChars)))
      = (column.typeName, column.constraintChars) := by
  have htrim : trimStart (' ' :: (column.type.chars
      ++ (column.groupChars ++ column.flagChars)))
      = column.type.chars ++ (column.groupChars ++ column.flagChars) :=
    trimStart_eq_self fun c hc => isBlank_of_isAsciiWord
      (column.type.isWord c (mem_of_head?_append column.type.ne_nil hc))
  unfold readTypeName
  rw [htrim, column.typeParts_eq]
  dsimp only
  rw [column.ofParts_eq]

/-! ## Columns -/

theorem columnName?_chars :
    columnName? column.chars
      = some (column.name.name, ' ' :: (column.type.chars
          ++ (column.groupChars ++ column.flagChars))) :=
  column.name.columnName?_append _

theorem flagChars_endsSolid : EndsSolid column.flagChars := by
  unfold flagChars EndsSolid
  cases column.unsigned <;> cases column.notNull <;> rintro c ⟨⟩ <;> decide

theorem groupChars_endsSolid : EndsSolid column.groupChars := by
  unfold groupChars
  cases column.arguments with
  | none => exact nofun
  | some arguments =>
    exact .concat ('(' :: argumentChars arguments) (by decide)

/-- A column starts with a quote and ends with its last word or bracket. -/
theorem trim_chars : trim column.chars = column.chars := by
  have hword : ∀ c ∈ column.type.chars, isBlank c = false := fun c hc =>
    isBlank_of_isAsciiWord (column.type.isWord c hc)
  have htype : Solid
      (column.type.chars ++ (column.groupChars ++ column.flagChars)) :=
    ⟨List.append_ne_nil_of_left_ne_nil column.type.ne_nil _,
      fun c hc => hword c (mem_of_head?_append column.type.ne_nil hc),
      (EndsSolid.of_forall hword).append
        (column.groupChars_endsSolid.append column.flagChars_endsSolid)⟩
  exact (column.name.solid.append [' '] htype).trim_eq

theorem allowsNull_constraintChars :
    allowsNull column.constraintChars = !column.notNull := by
  unfold constraintChars
  cases column.notNull <;> decide +kernel

/-- **A described column is read**, with blanks around it or without. -/
theorem columnSpec?_of_trim {dialect : Dialect} {item : List Char}
    (h : trim item = column.chars) :
    columnSpec? dialect .empty item = some (column.spec dialect) := by
  have hquoted : (column.chars.head?.any fun c => (closingQuote? c).isSome)
      = true := by
    show (closingQuote? column.name.quote.mark).isSome = true
    rw [closingQuote?_mark]
    rfl
  have hkind : kindOf dialect .empty column.typeName
      = column.typeName.columnKind dialect := rfl
  -- A quoted name is never taken for a word that starts an index.
  unfold columnSpec?
  dsimp only
  rw [h, column.columnName?_chars, hquoted, Option.bind_eq_bind,
    Option.bind_some]
  dsimp only
  rw [Bool.not_true, Bool.false_and, if_neg Bool.false_ne_true,
    column.readTypeName_eq]
  dsimp only
  rw [hkind, column.allowsNull_constraintChars]
  rfl

end ColumnText

/-! ## Definitions of any kind -/

/-- **What an item defines** is decided when its name has been read: no column,
or one with the type and the constraints that follow the name. -/
theorem columnSpec?_of_columnName? {dialect : Dialect} {enums : EnumTypes}
    {item name rest : List Char}
    (h : columnName? (trim item) = some (name, rest)) :
    columnSpec? dialect enums item
      = if (!((trim item).head?.any fun c => (closingQuote? c).isSome)
            && definesNoColumn dialect name rest) = true then none
        else some ⟨String.ofList name,
          kindOf dialect enums (readTypeName rest).1,
          allowsNull (readTypeName rest).2⟩ := by
  unfold columnSpec?
  dsimp only
  rw [h]
  rfl

/-! ## Lists of columns -/

/-- Blanks around an item change nothing. -/
theorem columnSpec?_congr {dialect : Dialect} {enums : EnumTypes}
    {item other : List Char} (h : trim item = trim other) :
    columnSpec? dialect enums item = columnSpec? dialect enums other := by
  unfold columnSpec?
  rw [h]

/-- **The columns of a list** of sealed texts are those that the texts
define. -/
theorem filterMap_items {dialect : Dialect} {enums : EnumTypes}
    {parts : List (List Char)} (h : ∀ part ∈ parts, Sealed false part) :
    (items ([',', ' '].intercalate parts)).filterMap (columnSpec? dialect enums)
      = parts.filterMap (columnSpec? dialect enums) := by
  cases parts with
  | nil => rfl
  | cons part parts =>
    have hrest : (parts.map ([' '] ++ ·)).filterMap (columnSpec? dialect enums)
        = parts.filterMap (columnSpec? dialect enums) := by
      rw [List.filterMap_map]
      refine congrArg (List.filterMap · parts) (funext fun part => ?_)
      exact columnSpec?_congr (trim_cons_of_isBlank (by decide))
    have hgap : Closed false [' '] :=
      closed_of_inert (List.forall_mem_singleton.mpr rfl)
    rw [items_intercalate hgap fun p hp => (h p hp).closed,
      List.filterMap_cons, List.filterMap_cons, hrest]

end SchemaTyping.Sql
