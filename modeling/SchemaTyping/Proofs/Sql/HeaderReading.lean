import SchemaTyping.Proofs.Sql.Description
import SchemaTyping.Sql.Header

/-!
# Reading the header of a described table

The words that create a table are read from the front of its text. A name is
free to look like one of the words that may stand before it, as `if` does; but
a name reaches to the next blank, and no second word follows it there.
-/

namespace SchemaTyping.Sql

open Text

/-! ## Keywords and blanks -/

variable {c : Char} {text rest : List Char}

/-- A blank stands for no letter. -/
theorem foldLetter_of_isBlank (h : isBlank c = true) : foldLetter c = c := by
  simp only [isBlank, inRanges, blankRanges, List.any_cons, List.any_nil,
    Bool.or_eq_true, Bool.and_eq_true, decide_eq_true_eq, Bool.false_eq_true,
    or_false] at h
  have hlong : c ≠ '\u017f' := by
    rintro rfl
    revert h
    decide
  have hkelvin : c ≠ '\u212a' := by
    rintro rfl
    revert h
    decide
  rw [foldLetter, if_neg hlong, if_neg hkelvin]
  refine dif_neg ?_
  rintro ⟨hle, hge⟩
  have hlower : 65 ≤ c.toNat := hle
  have hupper : c.toNat ≤ 90 := hge
  omega

/-- A keyword is read inside the first word of a text. -/
theorem dropWhile_of_afterKeyword? {keyword : List Char}
    (hkeyword : keyword.all (!isBlank ·) = true)
    (h : afterKeyword? keyword text = some rest) :
    text.dropWhile (!isBlank ·) = rest.dropWhile (!isBlank ·) := by
  induction keyword generalizing text with
  | nil => cases h; rfl
  | cons k keyword ih =>
    rw [List.all_cons, Bool.and_eq_true, Bool.not_eq_true'] at hkeyword
    obtain ⟨hk, hkeyword⟩ := hkeyword
    cases text with
    | nil => cases h
    | cons c text =>
      rw [afterKeyword?] at h
      split at h
      · next hfold =>
        have hc : isBlank c = false := by
          rw [Bool.eq_false_iff]
          intro hblank
          rw [foldLetter_of_isBlank hblank] at hfold
          rw [hfold, hk] at hblank
          cases hblank
        rw [List.dropWhile_cons_of_pos (by rw [hc]; rfl)]
        exact ih hkeyword h
      · cases h

/-- **What follows a word** is what follows the first word of the text. -/
theorem eq_of_afterWord? {keyword : String}
    (hkeyword : keyword.toList.all (!isBlank ·) = true)
    (h : afterWord? keyword text = some rest) :
    rest = trimStart (text.dropWhile (!isBlank ·)) := by
  obtain ⟨after, hafter, hrest⟩ := Option.bind_eq_some_iff.mp h
  rw [dropWhile_of_afterKeyword? hkeyword hafter]
  cases after with
  | nil => cases hrest
  | cons c after =>
    rw [afterBlanks?] at hrest
    split at hrest
    · next hc =>
      cases hrest
      rw [List.dropWhile_cons_of_neg (by rw [hc]; exact Bool.false_ne_true),
        trimStart, trimStart, List.dropWhile_cons_of_pos hc]
    · cases hrest

/-- A name before a bracket is not taken for the words of a condition. -/
theorem afterIfNotExists_eq_self {name body : List Char}
    (hname : ∀ c ∈ name, isBlank c = false) :
    afterIfNotExists (name ++ ' ' :: '(' :: body)
      = name ++ ' ' :: '(' :: body := by
  have hdrop : (name ++ ' ' :: '(' :: body).dropWhile (!isBlank ·)
      = ' ' :: '(' :: body :=
    (takeWhile_append_of_head (fun c hc => by rw [hname c hc]; rfl)
      (fun c hc => by cases hc; rfl)).2
  unfold afterIfNotExists
  cases hif : afterWord? "if" (name ++ ' ' :: '(' :: body) with
  | none => rfl
  | some after =>
    -- The name is `if` itself, and the bracket is no second word.
    have hafter : after = '(' :: body := by
      rw [eq_of_afterWord? (by decide) hif, hdrop]
      rfl
    rw [hafter]
    rfl

/-! ## Qualified names -/

theorem Word.isNameChar (word : Word) :
    ∀ c ∈ word.chars, isNameChar c = true := by
  intro c hc
  unfold Sql.isNameChar
  rw [isWord_of_isAsciiWord (word.isWord c hc), Bool.true_or]

/-- The characters of ASCII that belong to no name. -/
theorem isNameChar_eq_false_of_all
    (h : (text.all fun c =>
      c.toNat < 128 && !(isAsciiWord c || c == '$')) = true) :
    ∀ c ∈ text, isNameChar c = false := by
  intro c hc
  have hmark := List.all_eq_true.mp h c hc
  rw [Bool.and_eq_true, decide_eq_true_eq, Bool.not_eq_true'] at hmark
  unfold Sql.isNameChar
  rw [isWord_eq_isAsciiWord hmark.1, hmark.2]

/-- What the quotes of names have in common: both quotes open and close a part
of a name, and no character of a name is taken for a quote. -/
structure NameQuotes.Marked (quotes : NameQuotes) : Prop where
  opening_mark : ∀ quote : NameQuote, quote.mark ∈ quotes.opening
  closing_mark : ∀ quote : NameQuote, quote.mark ∈ quotes.closing
  opening_outside : ∀ c ∈ quotes.opening, isNameChar c = false
  closing_outside : '.' ∉ quotes.closing ∧ ' ' ∉ quotes.closing

theorem marked_tableQuotes : tableQuotes.Marked where
  opening_mark quote := by cases quote <;> decide
  closing_mark quote := by cases quote <;> decide
  opening_outside := isNameChar_eq_false_of_all (by decide)
  closing_outside := by decide

theorem marked_typeQuotes : typeQuotes.Marked where
  opening_mark quote := by cases quote <;> decide
  closing_mark quote := by cases quote <;> decide
  opening_outside := isNameChar_eq_false_of_all (by decide)
  closing_outside := by decide

/-- What ends a name that is not in quotes. -/
theorem isNameChar_eq_false : isNameChar '.' = false ∧ isNameChar ' ' = false := by
  have hmarks : ∀ c ∈ ['.', ' '], isNameChar c = false :=
    isNameChar_eq_false_of_all (by decide)
  exact ⟨hmarks '.' (by decide), hmarks ' ' (by decide)⟩

section Quotes

variable {quotes : NameQuotes}

theorem NameQuotes.Marked.opening_contains (hquotes : quotes.Marked)
    (h : isNameChar c = true) : quotes.opening.contains c = false := by
  rw [List.contains_eq_mem, decide_eq_false_iff_not]
  intro hmem
  rw [hquotes.opening_outside c hmem] at h
  cases h

/-- Inside a part the reader takes up the characters of a word. -/
theorem nameFrom_inside_append (h : ∀ c ∈ text, isNameChar c = true)
    (name : List Char) :
    nameFrom quotes .inside name (text ++ rest)
      = nameFrom quotes .inside (text.reverse ++ name) rest := by
  induction text generalizing name with
  | nil => rfl
  | cons c text ih =>
    obtain ⟨hc, htext⟩ := List.forall_mem_cons.mp h
    rw [List.cons_append, nameFrom, if_pos hc, ih htext, List.reverse_cons,
      List.append_assoc]
    rfl

variable (hquotes : quotes.Marked)

include hquotes

section Bare

variable (hne : text ≠ []) (h : ∀ c ∈ text, isNameChar c = true)

include hne h

/-- A bare name is read up to its end. -/
theorem nameFrom_start_append (name : List Char) :
    nameFrom quotes .start name (text ++ rest)
      = nameFrom quotes .inside text.reverse rest := by
  obtain ⟨c, text, rfl⟩ := List.exists_cons_of_ne_nil hne
  obtain ⟨hc, htext⟩ := List.forall_mem_cons.mp h
  rw [List.cons_append, nameFrom,
    if_neg (by rw [hquotes.opening_contains hc]; exact Bool.false_ne_true),
    if_pos hc, nameFrom_inside_append htext, List.reverse_cons]

/-- A bare name in front of a dot is passed over. -/
theorem nameFrom_append_dot (name : List Char) :
    nameFrom quotes .start name (text ++ '.' :: rest)
      = nameFrom quotes .start [] rest := by
  have hclosing : quotes.closing.contains '.' = false := by
    rw [List.contains_eq_mem, decide_eq_false_iff_not]
    exact hquotes.closing_outside.1
  rw [nameFrom_start_append hquotes hne h, nameFrom,
    if_neg (by rw [isNameChar_eq_false.1]; exact Bool.false_ne_true),
    if_neg (by rw [hclosing]; exact Bool.false_ne_true), if_pos rfl]

/-- At a character that means nothing to names a bare name is complete. -/
theorem nameFrom_append_cons (hc : isNameChar c = false)
    (hclosing : c ∉ quotes.closing) (hdot : c ≠ '.') (name : List Char) :
    nameFrom quotes .start name (text ++ c :: rest) = some (text, c :: rest) := by
  have hcontains : quotes.closing.contains c = false := by
    rw [List.contains_eq_mem, decide_eq_false_iff_not]
    exact hclosing
  rw [nameFrom_start_append hquotes hne h, nameFrom,
    if_neg (by rw [hc]; exact Bool.false_ne_true),
    if_neg (by rw [hcontains]; exact Bool.false_ne_true), if_neg hdot,
    List.reverse_reverse]

end Bare

/-- A word in quotes is read up to the closing quote. -/
theorem nameFrom_quoted_word (word : Word) (quote : NameQuote)
    (name : List Char) :
    nameFrom quotes .start name
        (quote.mark :: (word.chars ++ quote.mark :: rest))
      = nameFrom quotes .closed word.chars.reverse rest := by
  have hopening : quotes.opening.contains quote.mark = true :=
    List.contains_iff_mem.mpr (hquotes.opening_mark quote)
  have hclosing : quotes.closing.contains quote.mark = true :=
    List.contains_iff_mem.mpr (hquotes.closing_mark quote)
  have hmark : isNameChar quote.mark = false :=
    hquotes.opening_outside _ (hquotes.opening_mark quote)
  obtain ⟨c, text, htext⟩ := List.exists_cons_of_ne_nil word.ne_nil
  have hname := word.isNameChar
  rw [htext] at hname ⊢
  obtain ⟨hc, hrest⟩ := List.forall_mem_cons.mp hname
  rw [nameFrom, if_pos hopening, List.cons_append, nameFrom, if_pos hc,
    nameFrom_inside_append hrest, ← List.reverse_cons, nameFrom,
    if_neg (by rw [hmark]; exact Bool.false_ne_true), if_pos hclosing]

/-- After a dot the reader starts again. -/
theorem nameFrom_part_dot (part : NamePart) (name : List Char) :
    nameFrom quotes .start name (part.chars ++ '.' :: rest)
      = nameFrom quotes .start [] rest := by
  unfold NamePart.chars
  cases part.quote with
  | none =>
    exact nameFrom_append_dot hquotes part.word.ne_nil part.word.isNameChar name
  | some quote =>
    dsimp only
    rw [List.cons_append, List.append_assoc, List.singleton_append,
      nameFrom_quoted_word hquotes, nameFrom, if_pos rfl]

/-- At a blank the name is complete. -/
theorem nameFrom_part_blank (part : NamePart) (name : List Char) :
    nameFrom quotes .start name (part.chars ++ ' ' :: rest)
      = some (part.word.chars, ' ' :: rest) := by
  unfold NamePart.chars
  cases part.quote with
  | none =>
    exact nameFrom_append_cons hquotes part.word.ne_nil part.word.isNameChar
      isNameChar_eq_false.2 hquotes.closing_outside.2 (by decide) name
  | some quote =>
    dsimp only
    rw [List.cons_append, List.append_assoc, List.singleton_append,
      nameFrom_quoted_word hquotes, nameFrom, if_neg (by decide),
      List.reverse_reverse]

/-- **A qualified name** is read without the schemas around it. -/
theorem qualifiedName?_chars (name : QualifiedName) :
    qualifiedName? quotes (name.chars ++ ' ' :: rest)
      = some (name.name.word.chars, ' ' :: rest) := by
  unfold qualifiedName? QualifiedName.chars
  rw [List.append_assoc]
  induction name.qualifiers with
  | nil => exact nameFrom_part_blank hquotes name.name []
  | cons part parts ih =>
    rw [List.flatMap_cons, List.append_assoc, List.append_assoc,
      List.singleton_append, nameFrom_part_dot hquotes]
    exact ih

end Quotes

/-! ## The two headers -/

theorem NamePart.isBlank (part : NamePart) :
    ∀ c ∈ part.chars, isBlank c = false := by
  have hword : ∀ c ∈ part.word.chars, Text.isBlank c = false := fun c hc =>
    isBlank_of_isAsciiWord (part.word.isWord c hc)
  unfold chars
  cases part.quote with
  | none => exact hword
  | some quote =>
    have hmark : Text.isBlank quote.mark = false := by cases quote <;> rfl
    exact List.forall_mem_cons.mpr ⟨hmark,
      List.forall_mem_append.mpr ⟨hword, List.forall_mem_singleton.mpr hmark⟩⟩

theorem QualifiedName.isBlank (name : QualifiedName) :
    ∀ c ∈ name.chars, isBlank c = false := by
  refine List.forall_mem_append.mpr ⟨?_, name.name.isBlank⟩
  intro c hc
  obtain ⟨part, -, hmem⟩ := List.mem_flatMap.mp hc
  rcases List.mem_append.mp hmem with hpart | hdot
  · exact part.isBlank c hpart
  · rw [List.mem_singleton.mp hdot]
    decide

theorem QualifiedName.ne_nil (name : QualifiedName) : name.chars ≠ [] := by
  refine List.append_ne_nil_of_right_ne_nil _ ?_
  unfold NamePart.chars
  cases name.name.quote with
  | none => exact name.name.word.ne_nil
  | some quote => exact List.cons_ne_nil _ _

/-- No blank stands in front of a name. -/
theorem QualifiedName.trimStart_append (name : QualifiedName) :
    trimStart (name.chars ++ rest) = name.chars ++ rest :=
  trimStart_eq_self fun c hc =>
    name.isBlank c (mem_of_head?_append name.ne_nil hc)

/-- **The header of a table** is read: the name, and the rest from the bracket
that opens the body. -/
theorem tableHeader?_append (name : QualifiedName) :
    tableHeader? ("CREATE TABLE ".toList ++ (name.chars ++ ' ' :: '(' :: rest))
      = some (name.name.word.chars, '(' :: rest) := by
  let header := name.chars ++ ' ' :: '(' :: rest
  -- The words before the name decide, so these hold whatever the name is.
  have hcreate : afterWord? "create" ("CREATE TABLE ".toList ++ header)
      = some ("TABLE ".toList ++ header) := rfl
  have hscope : afterOptional ["global", "local"] ("TABLE ".toList ++ header)
      = "TABLE ".toList ++ header := rfl
  have hduration : afterOptional ["temporary", "temp", "unlogged"]
      ("TABLE ".toList ++ header) = "TABLE ".toList ++ header := rfl
  have htable : afterWord? "table" ("TABLE ".toList ++ header)
      = some (trimStart header) := rfl
  have hname : qualifiedName? tableQuotes (afterIfNotExists header)
      = some (name.name.word.chars, ' ' :: '(' :: rest) := by
    rw [afterIfNotExists_eq_self name.isBlank]
    exact qualifiedName?_chars marked_tableQuotes name
  unfold tableHeader?
  rw [hcreate, Option.bind_eq_bind, Option.bind_some, hscope]
  dsimp only
  rw [hduration, htable, Option.bind_some, name.trimStart_append, hname]
  rfl

theorem tableHeader?_chars (table : TableText) :
    tableHeader? table.chars
      = some (table.name.word.chars, '(' :: (table.body ++ [')'])) :=
  tableHeader?_append table.qualifiedName

/-- **The definition of an enumerated type** is read: its name, and the text
between the brackets. -/
theorem enumDefinition?_append (name : QualifiedName) (inner : List Char) :
    enumDefinition? ("CREATE TYPE ".toList
        ++ (name.chars ++ ' ' :: ("AS ENUM (".toList ++ (inner ++ [')']))))
      = some (name.name.word.chars, inner) := by
  let header := name.chars ++ ' ' :: ("AS ENUM (".toList ++ (inner ++ [')']))
  have htype : (afterWord? "create" ("CREATE TYPE ".toList ++ header)
      >>= afterWord? "type") = some (trimStart header) := rfl
  have hname : qualifiedName? typeQuotes header
      = some (name.name.word.chars,
          ' ' :: ("AS ENUM (".toList ++ (inner ++ [')']))) :=
    qualifiedName?_chars marked_typeQuotes name
  have hwords : (afterBlanks? (' ' :: ("AS ENUM (".toList ++ (inner ++ [')'])))
        >>= afterWord? "as" >>= afterKeyword? "enum".toList)
      = some (' ' :: '(' :: (inner ++ [')'])) := rfl
  have hbody : trimEnd (inner ++ [')']) = inner ++ [')'] :=
    (EndsSolid.concat inner (by decide)).trimEnd_eq
  unfold enumDefinition?
  rw [htype, Option.bind_eq_bind, Option.bind_some, name.trimStart_append,
    hname, Option.bind_eq_bind, Option.bind_some]
  dsimp only
  rw [hwords, Option.bind_some]
  show (if (trimEnd (inner ++ [')'])).getLast? = some ')' then _ else _) = _
  rw [hbody, if_pos List.getLast?_concat, List.dropLast_concat]

/-- The text of a table declares no enumerated type. -/
theorem enumDefinition?_chars (table : TableText) :
    enumDefinition? table.chars = none := by
  rfl

end SchemaTyping.Sql
