import SchemaTyping.Inference
import SchemaTyping.Proofs.Text.Ascii

/-!
# One name in several notations

A property may be written `first_name`, `firstName` or `FirstName`, and an
accessor is looked for under two of these notations without regard to case.
That the answer does not depend on the notation is not a matter of splitting
and joining being inverse: they are not, since `URLPath` is one word and
`studly` leaves it alone, while `snake` makes `urlpath` of it.

What is kept is the **bare form** of a name (`bareForm`): its characters
without the separators, in small letters. Splitting loses the separators only
(`flatten_words`), and joining adds separators or changes the case, so each
notation has the bare form of the name; and the keys under which accessors
are looked up are built from it (`methodKey_legacyAccessor`,
`methodKey_camel`).

A notation settles after one step because what it writes is split the way it
was joined. In a text without separators a word begins only at a capital, and
`studly` leaves a capital as it is (`Unbroken.studly_eq`); between words in
small letters the underscores are the only borders (`words_intercalate`).

All of this is for names in ASCII. A letter elsewhere may become two letters
in another case, and the keys of methods disregard the case of ASCII letters
only.
-/

namespace SchemaTyping

open Text

namespace Naming

variable {c : Char} {name other text word : List Char}

/-- **What the notations of a name have in common**: its characters without
the separators, in small letters. -/
def bareForm (name : List Char) : List Char :=
  asciiLower (name.filter (!isSeparator ·))

theorem isSeparator_of_isAlpha (h : c.isAlpha = true) :
    isSeparator c = false := by
  have hblank : isBlank c = false := by
    refine isBlank_of_isAsciiWord ?_
    simp [isAsciiWord, Char.isAlphanum, h]
  have hline : c ≠ '_' := by
    rintro rfl
    exact absurd h (by decide)
  have hhyphen : c ≠ '-' := by
    rintro rfl
    exact absurd h (by decide)
  simp [isSeparator, hblank, hline, hhyphen]

/-- Only letters have another case, and no letter is a separator. -/
theorem isSeparator_toLower (c : Char) : isSeparator c.toLower = isSeparator c := by
  by_cases h : c.isUpper
  · rw [isSeparator_of_isAlpha (by simp [Char.isAlpha, h]),
      isSeparator_of_isAlpha (by simp [Char.isAlpha, h])]
  · rw [Char.toLower_eq_of_not_isUpper h]

/-! ## The words of a name -/

/-- **Splitting loses the separators only.** -/
theorem flatten_wordsFrom (word : List Char) (before : Bool) (text : List Char) :
    (wordsFrom word before text).flatten
      = word.reverse ++ text.filter (!isSeparator ·) := by
  induction text generalizing word before with
  | nil => cases word <;> simp [wordsFrom]
  | cons c rest ih =>
    rw [wordsFrom]
    cases hseparator : isSeparator c with
    | true => cases word <;> simp [ih, hseparator]
    | false =>
      rw [if_neg Bool.false_ne_true]
      split <;> simp [ih, hseparator]

theorem flatten_words (name : List Char) :
    (words name).flatten = name.filter (!isSeparator ·) :=
  flatten_wordsFrom [] false name

/-- No word is empty. -/
theorem ne_nil_of_mem_wordsFrom {before : Bool}
    (h : word ∈ wordsFrom text before name) : word ≠ [] := by
  induction name generalizing text before with
  | nil => cases text <;> simp_all [wordsFrom]
  | cons c rest ih =>
    rw [wordsFrom] at h
    split at h
    · cases text with
      | nil => exact ih h
      | cons d text =>
        rcases List.mem_cons.mp h with rfl | h
        · simp
        · exact ih h
    · split at h
      · rcases List.mem_cons.mp h with rfl | h
        · simp_all
        · exact ih h
      · exact ih h

/-- **An ASCII text without separators**: what a word is, and what `studly` and
`camel` make of a name. -/
def Unbroken (text : List Char) : Prop :=
  ∀ c ∈ text, c.toNat < 128 ∧ isSeparator c = false

theorem Unbroken.isAscii (h : Unbroken text) : IsAscii text :=
  fun c hc => (h c hc).1

theorem Unbroken.filter_eq (h : Unbroken text) :
    text.filter (!isSeparator ·) = text :=
  List.filter_eq_self.mpr fun c hc => by simp [(h c hc).2]

theorem unbroken_filter (h : IsAscii name) :
    Unbroken (name.filter (!isSeparator ·)) := by
  intro c hc
  obtain ⟨hmem, hseparator⟩ := List.mem_filter.mp hc
  exact ⟨h c hmem, by simpa using hseparator⟩

theorem unbroken_of_mem_words (h : IsAscii name) (hword : word ∈ words name) :
    Unbroken word := by
  intro c hc
  refine unbroken_filter h c ?_
  rw [← flatten_words]
  exact List.mem_flatten.mpr ⟨word, hword, hc⟩

/-- The case of the letters does not matter to it. -/
theorem Unbroken.of_asciiLower (h : Unbroken text)
    (heq : asciiLower other = asciiLower text) : Unbroken other := by
  intro c hc
  have hmem : c.toLower ∈ asciiLower text := heq ▸ List.mem_map_of_mem hc
  obtain ⟨d, hd, hlower⟩ := List.mem_map.mp hmem
  obtain ⟨hascii, hseparator⟩ := h d hd
  constructor
  · rwa [← toNat_toLower_lt_iff, ← hlower, toNat_toLower_lt_iff]
  · rwa [← isSeparator_toLower, ← hlower, isSeparator_toLower]

/-! ## The first letter of a word -/

theorem capitalize_cons (rest : List Char) (h : c.toNat < 128) :
    capitalize (c :: rest) = c.toUpper :: rest := by
  rw [capitalize, upperForm_eq h, List.singleton_append]

theorem uncapitalize_cons (rest : List Char) (h : c.toNat < 128) :
    uncapitalize (c :: rest) = c.toLower :: rest := by
  rw [uncapitalize, lowerForm_eq h, List.singleton_append]

theorem capitalize_append (h : word ≠ []) (text : List Char) :
    capitalize (word ++ text) = capitalize word ++ text := by
  cases word with
  | nil => exact absurd rfl h
  | cons c rest => simp [capitalize]

/-- What case the first letter had is forgotten. -/
theorem capitalize_capitalize (h : IsAscii text) :
    capitalize (capitalize text) = capitalize text := by
  cases text with
  | nil => rfl
  | cons c rest =>
    have hc := h c List.mem_cons_self
    rw [capitalize_cons rest hc, capitalize_cons rest (toNat_toUpper_lt hc),
      Char.toUpper_toUpper_eq_toUpper]

theorem capitalize_uncapitalize (h : IsAscii text) :
    capitalize (uncapitalize text) = capitalize text := by
  cases text with
  | nil => rfl
  | cons c rest =>
    have hc := h c List.mem_cons_self
    rw [uncapitalize_cons rest hc, capitalize_cons rest (toNat_toLower_lt_iff.mpr hc),
      capitalize_cons rest hc, Char.toUpper_toLower_eq_toUpper]

theorem asciiLower_capitalize (h : IsAscii text) :
    asciiLower (capitalize text) = asciiLower text := by
  cases text with
  | nil => rfl
  | cons c rest =>
    rw [capitalize_cons rest (h c List.mem_cons_self)]
    simp [asciiLower]

theorem asciiLower_uncapitalize (h : IsAscii text) :
    asciiLower (uncapitalize text) = asciiLower text := by
  cases text with
  | nil => rfl
  | cons c rest =>
    rw [uncapitalize_cons rest (h c List.mem_cons_self)]
    simp [asciiLower]

/-! ## Words run together -/

theorem asciiLower_flatMap_capitalize {parts : List (List Char)}
    (h : ∀ part ∈ parts, IsAscii part) :
    asciiLower (parts.flatMap capitalize) = asciiLower parts.flatten := by
  unfold asciiLower
  rw [List.map_flatMap, List.map_flatten, List.flatMap_def]
  exact congrArg _ (List.map_congr_left fun part hpart =>
    asciiLower_capitalize (h part hpart))

theorem asciiLower_studly (h : IsAscii name) :
    asciiLower (studly name) = bareForm name := by
  rw [studly, asciiLower_flatMap_capitalize fun _ hword =>
    (unbroken_of_mem_words h hword).isAscii, flatten_words, bareForm]

theorem unbroken_studly (h : IsAscii name) : Unbroken (studly name) :=
  (unbroken_filter h).of_asciiLower (asciiLower_studly h)

theorem asciiLower_camel (h : IsAscii name) :
    asciiLower (camel name) = bareForm name := by
  rw [camel, asciiLower_uncapitalize (unbroken_studly h).isAscii, asciiLower_studly h]

theorem unbroken_camel (h : IsAscii name) : Unbroken (camel name) :=
  (unbroken_filter h).of_asciiLower (asciiLower_camel h)

/-- Within an unbroken text a word begins only at a capital, which stays as it
is: behind what has been begun, nothing changes. -/
theorem Unbroken.flatMap_capitalize (h : Unbroken text) (word : List Char)
    (before : Bool) :
    (wordsFrom word before text).flatMap capitalize
      = capitalize (word.reverse ++ text) := by
  induction text generalizing word before with
  | nil => cases word <;> simp [wordsFrom, capitalize]
  | cons c rest ih =>
    obtain ⟨hc, hrest⟩ := List.forall_mem_cons.mp h
    rw [wordsFrom, hc.2, if_neg Bool.false_ne_true]
    split
    · next hcapital =>
      simp only [Bool.and_eq_true, Bool.not_eq_true', List.isEmpty_eq_false_iff]
        at hcapital
      obtain ⟨⟨hupper, -⟩, hword⟩ := hcapital
      rw [isUpper_eq hc.1] at hupper
      have hself : capitalize (c :: rest) = c :: rest := by
        rw [capitalize_cons rest hc.1,
          Char.toUpper_eq_of_not_isLower (Char.not_isLower_of_isUpper hupper)]
      rw [List.flatMap_cons, ih hrest,
        capitalize_append (List.reverse_ne_nil_iff.mpr hword) (c :: rest)]
      exact congrArg (capitalize word.reverse ++ ·) hself
    · rw [ih hrest, List.reverse_cons, List.append_assoc, List.singleton_append]

/-- **In an unbroken text only the first letter is changed.** -/
theorem Unbroken.studly_eq (h : Unbroken text) : studly text = capitalize text :=
  h.flatMap_capitalize [] false

theorem capitalize_studly (h : IsAscii name) :
    capitalize (studly name) = studly name := by
  unfold studly
  cases hwords : words name with
  | nil => rfl
  | cons first others =>
    have hmem : first ∈ words name := hwords ▸ List.mem_cons_self
    have hascii : IsAscii first := (unbroken_of_mem_words h hmem).isAscii
    have hne : capitalize first ≠ [] := by
      obtain ⟨c, rest, rfl⟩ := List.exists_cons_of_ne_nil (ne_nil_of_mem_wordsFrom hmem)
      rw [capitalize_cons rest (hascii c List.mem_cons_self)]
      exact List.cons_ne_nil _ _
    rw [List.flatMap_cons, capitalize_append hne, capitalize_capitalize hascii]

theorem studly_studly (h : IsAscii name) : studly (studly name) = studly name := by
  rw [(unbroken_studly h).studly_eq, capitalize_studly h]

theorem studly_camel (h : IsAscii name) : studly (camel name) = studly name := by
  rw [(unbroken_camel h).studly_eq, camel,
    capitalize_uncapitalize (unbroken_studly h).isAscii, capitalize_studly h]

theorem bareForm_studly (h : IsAscii name) : bareForm (studly name) = bareForm name := by
  rw [bareForm, (unbroken_studly h).filter_eq, asciiLower_studly h]

theorem bareForm_camel (h : IsAscii name) : bareForm (camel name) = bareForm name := by
  rw [bareForm, (unbroken_camel h).filter_eq, asciiLower_camel h]

/-! ## Words with underscores between them -/

/-- **A text that is one word**, whatever stands in front of it: nothing in it
ends a word. -/
def Small (text : List Char) : Prop :=
  ∀ c ∈ text, isSeparator c = false ∧ isUpper c = false

/-- A small text continues the word that has been begun. -/
theorem Small.wordsFrom_append (h : Small text) (word : List Char)
    (before : Bool) (rest : List Char) :
    ∃ after, wordsFrom word before (text ++ rest)
      = wordsFrom (text.reverse ++ word) after rest := by
  induction text generalizing word before with
  | nil => exact ⟨before, rfl⟩
  | cons c text ih =>
    obtain ⟨hc, htext⟩ := List.forall_mem_cons.mp h
    obtain ⟨after, hafter⟩ := ih htext (c :: word) (endsBeforeCapital c)
    refine ⟨after, ?_⟩
    rw [List.cons_append, wordsFrom, hc.1, hc.2]
    simpa using hafter

theorem Small.words_eq (h : Small text) (hne : text ≠ []) : words text = [text] := by
  obtain ⟨after, hafter⟩ := h.wordsFrom_append [] false []
  rw [List.append_nil, List.append_nil] at hafter
  rw [words, hafter]
  simp [wordsFrom, hne]

theorem Small.words_append (h : Small text) (hne : text ≠ []) (rest : List Char) :
    words (text ++ '_' :: rest) = text :: words rest := by
  obtain ⟨after, hafter⟩ := h.wordsFrom_append [] false ('_' :: rest)
  rw [List.append_nil] at hafter
  rw [words, hafter, wordsFrom, if_pos (by decide)]
  simp [hne, words]

/-- **Small words with underscores between them are found again.** -/
theorem words_intercalate {parts : List (List Char)}
    (h : ∀ part ∈ parts, Small part ∧ part ≠ []) :
    words (['_'].intercalate parts) = parts := by
  induction parts with
  | nil => rfl
  | cons part others ih =>
    obtain ⟨hpart, hothers⟩ := List.forall_mem_cons.mp h
    cases others with
    | nil =>
      rw [List.intercalate_singleton]
      exact hpart.1.words_eq hpart.2
    | cons other others =>
      rw [List.intercalate_cons_cons, List.append_assoc, List.singleton_append,
        hpart.1.words_append hpart.2, ih hothers]

theorem small_asciiLower (h : Unbroken word) : Small (asciiLower word) := by
  intro c hc
  obtain ⟨d, hd, rfl⟩ := List.mem_map.mp hc
  obtain ⟨hascii, hseparator⟩ := h d hd
  rw [isSeparator_toLower, isUpper_eq (toNat_toLower_lt_iff.mpr hascii)]
  exact ⟨hseparator, Char.isUpper_toLower_eq_false d⟩

theorem snake_eq (h : IsAscii name) :
    snake name = ['_'].intercalate ((words name).map asciiLower) := by
  unfold snake
  refine congrArg _ (List.map_congr_left fun word hword => ?_)
  exact lower_eq (unbroken_of_mem_words h hword).isAscii

/-- **The words of `snake`** are those of the name in small letters. -/
theorem words_snake (h : IsAscii name) :
    words (snake name) = (words name).map asciiLower := by
  rw [snake_eq h]
  refine words_intercalate fun part hpart => ?_
  obtain ⟨word, hword, rfl⟩ := List.mem_map.mp hpart
  refine ⟨small_asciiLower (unbroken_of_mem_words h hword), ?_⟩
  simpa [asciiLower] using ne_nil_of_mem_wordsFrom hword

theorem isAscii_snake (h : IsAscii name) : IsAscii (snake name) := by
  rw [snake_eq h]
  refine IsAscii.intercalate (by decide) fun part hpart => ?_
  obtain ⟨word, hword, rfl⟩ := List.mem_map.mp hpart
  exact isAscii_asciiLower (unbroken_of_mem_words h hword).isAscii

theorem asciiLower_asciiLower (text : List Char) :
    asciiLower (asciiLower text) = asciiLower text := by
  simp [asciiLower]

theorem snake_snake (h : IsAscii name) : snake (snake name) = snake name := by
  rw [snake_eq (isAscii_snake h), words_snake h, snake_eq h, List.map_map]
  exact congrArg _ (List.map_congr_left fun word _ => asciiLower_asciiLower word)

theorem bareForm_snake (h : IsAscii name) : bareForm (snake name) = bareForm name := by
  rw [bareForm, bareForm, ← flatten_words, words_snake h, ← flatten_words]
  show ((words name).map asciiLower).flatten.map _ = (words name).flatten.map _
  rw [List.map_flatten, List.map_flatten, List.map_map]
  exact congrArg _ (List.map_congr_left fun word _ => asciiLower_asciiLower word)

end Naming

/-! ## Accessors -/

open Naming

variable {name other : List Char}

/-- A method is looked for by the key of its name. -/
theorem Registry.method?_congr {method alike : String}
    (h : methodKey method = methodKey alike) (registry : Registry)
    (className : String) :
    registry.method? className method = registry.method? className alike := by
  unfold Registry.method?
  rw [h]

theorem methodKey_onString (f : List Char → List Char) (name : List Char) :
    methodKey (onString f (String.ofList name)) = String.ofList (asciiLower (f name)) := by
  simp [methodKey, onString]

theorem methodKey_camel (h : IsAscii name) :
    methodKey (onString camel (String.ofList name)) = String.ofList (bareForm name) := by
  rw [methodKey_onString, asciiLower_camel h]

theorem methodKey_legacyAccessor (h : IsAscii name) :
    methodKey (onString legacyAccessor (String.ofList name))
      = String.ofList ("get".toList ++ bareForm name ++ "attribute".toList) := by
  rw [methodKey_onString, ← asciiLower_studly h]
  unfold legacyAccessor asciiLower
  rw [List.map_append, List.map_append]
  rfl

/-- **Two names of one property**: in every class of every project, either both
are computed by an accessor or none is. -/
def SameAccessors (name other : List Char) : Prop :=
  ∀ (engine : Inference) (className : String),
    engine.hasAccessor className (String.ofList name)
      = engine.hasAccessor className (String.ofList other)

theorem sameAccessors_of_bareForm (hname : IsAscii name) (hother : IsAscii other)
    (h : bareForm name = bareForm other) : SameAccessors name other := by
  intro engine className
  have hlegacy : methodKey (onString legacyAccessor (String.ofList name))
      = methodKey (onString legacyAccessor (String.ofList other)) := by
    rw [methodKey_legacyAccessor hname, methodKey_legacyAccessor hother, h]
  have hcamel : methodKey (onString camel (String.ofList name))
      = methodKey (onString camel (String.ofList other)) := by
    rw [methodKey_camel hname, methodKey_camel hother, h]
  unfold Inference.hasAccessor
  rw [Registry.method?_congr hlegacy, Registry.method?_congr hcamel]

/-- **A name means the same in every notation.** Each notation settles after
one step; `studly` and `camel` make the same of each other's result as of the
name; and all names of one bare form, those in the three notations among them,
have the same accessors. -/
theorem notations_agree (h : IsAscii name) :
    (studly (studly name) = studly name ∧ camel (camel name) = camel name
        ∧ snake (snake name) = snake name)
      ∧ (studly (camel name) = studly name ∧ camel (studly name) = camel name)
      ∧ (∀ other, IsAscii other → bareForm name = bareForm other →
        SameAccessors name other)
      ∧ SameAccessors name (snake name) ∧ SameAccessors name (camel name)
      ∧ SameAccessors name (studly name) := by
  refine ⟨⟨studly_studly h, ?_, snake_snake h⟩, ⟨studly_camel h, ?_⟩,
    fun other hother hbare => sameAccessors_of_bareForm h hother hbare,
    sameAccessors_of_bareForm h (isAscii_snake h) (bareForm_snake h).symm,
    sameAccessors_of_bareForm h (unbroken_camel h).isAscii (bareForm_camel h).symm,
    sameAccessors_of_bareForm h (unbroken_studly h).isAscii (bareForm_studly h).symm⟩
  · show uncapitalize (studly (camel name)) = camel name
    rw [studly_camel h, camel]
  · show uncapitalize (studly (studly name)) = camel name
    rw [studly_studly h, camel]

/-- A name with an acronym, a digit and two kinds of separators, in a project
where an accessor computes it. -/
theorem notations_agree_acronym :
    let name := "HTML2page-IDs_x".toList
    let other := "htmL2 PAGE_iDSX".toList
    let entry : ModelEntry :=
      { model := { className := "User" }
        isAbstract := false
        instantiable := true
        methods := .ofList [("gethtml2pageidsxattribute",
          ⟨"getHtml2PageIDsXAttribute", .anyone, none⟩)]
        propertyTags := [] }
    let engine : Inference :=
      { dialect := .mySql
        registry := Registry.empty.registerModel entry
        schema := .empty }
    IsAscii name ∧ IsAscii other ∧ bareForm name = bareForm other
      ∧ studly name = "HTML2pageIDsX".toList ∧ studly (camel name) = studly name
      ∧ snake name = "html2page_ids_x".toList ∧ snake (snake name) = snake name
      ∧ engine.hasAccessor "User" (String.ofList name) = true
      ∧ engine.hasAccessor "User" (String.ofList other) = true
      ∧ engine.hasAccessor "User" (String.ofList (snake name)) = true := by
  intro name other entry engine
  have hname : IsAscii name := by decide
  have hother : IsAscii other := by decide
  have hbare : bareForm name = bareForm other := by decide +kernel
  have haccessor : engine.hasAccessor "User" (String.ofList name) = true := by
    decide +kernel
  obtain ⟨⟨-, -, hsnake⟩, ⟨hstudly, -⟩, hsame, hsnakeSame, -⟩ := notations_agree hname
  exact ⟨hname, hother, hbare, by decide +kernel, hstudly, by decide +kernel, hsnake,
    haccessor, (hsame other hother hbare engine "User").symm.trans haccessor,
    (hsnakeSame engine "User").symm.trans haccessor⟩

end SchemaTyping
