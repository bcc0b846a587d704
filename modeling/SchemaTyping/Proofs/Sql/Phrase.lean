import Mathlib.Data.List.TakeWhile
import SchemaTyping.Proofs.Sql.HeaderReading

/-!
# Phrases in a text

A phrase is two words with blanks between them, such as `not null`, and it is
looked for from one character to the next. `containsPhrase_iff` says what is
found: a place in the text where the phrase stands as two words of their own,
in any case of letters and with any blanks between the words.

A **mark** is a character that belongs to no word and is no blank: a quote, a
bracket, a comma. No phrase reaches over a mark, so a text with a mark in it
has the phrase if the part before the mark has it or the part behind
(`containsPhrase_append_mark`). The search knows nothing else of marks: it
makes no difference to it whether they open or close anything.
-/

namespace SchemaTyping.Sql

open Text

variable {first second keyword : String} {c mark : Char}
variable {text front back before after rest phrase : List Char}

/-! ## Words and blanks -/

/-- **A way to write a keyword**: letter by letter, in either case. -/
def Spells (keyword : String) (word : List Char) : Prop :=
  word.map foldLetter = keyword.toList

/-- A keyword: letters of a word, in ASCII. -/
def IsKeyword (keyword : String) : Prop :=
  keyword.toList.isEmpty = false ∧ keyword.toList.all isAsciiWord = true

instance : DecidablePred IsKeyword := fun _ =>
  inferInstanceAs (Decidable (_ ∧ _))

theorem afterKeyword?_eq_some_iff {keyword : List Char} :
    afterKeyword? keyword text = some rest
      ↔ ∃ word, text = word ++ rest ∧ word.map foldLetter = keyword := by
  induction keyword generalizing text with
  | nil =>
    constructor
    · intro h
      cases h
      exact ⟨[], rfl, rfl⟩
    · rintro ⟨word, rfl, hword⟩
      rw [List.map_eq_nil_iff.mp hword]
      rfl
  | cons k keyword ih =>
    cases text with
    | nil =>
      refine ⟨nofun, ?_⟩
      rintro ⟨word, htext, hword⟩
      rw [(List.nil_eq_append_iff.mp htext).1] at hword
      cases hword
    | cons c text =>
      rw [afterKeyword?]
      constructor
      · intro h
        split at h
        · next hfold =>
          obtain ⟨word, rfl, hword⟩ := ih.mp h
          exact ⟨c :: word, rfl, by rw [List.map_cons, hfold, hword]⟩
        · cases h
      · rintro ⟨word, htext, hword⟩
        cases word with
        | nil => cases hword
        | cons d word =>
          cases htext
          obtain ⟨hfold, hrest⟩ := List.cons.inj hword
          rw [if_pos hfold]
          exact ih.mpr ⟨word, rfl, hrest⟩

/-- What follows the blanks at the start of a text is what follows all of
them. -/
theorem afterBlanks?_eq_some_iff :
    afterBlanks? text = some rest
      ↔ ∃ gap, text = gap ++ rest ∧ gap ≠ []
        ∧ (∀ c ∈ gap, isBlank c = true)
        ∧ ∀ c, rest.head? = some c → isBlank c = false := by
  cases text with
  | nil =>
    refine ⟨nofun, ?_⟩
    rintro ⟨gap, htext, hne, -⟩
    exact absurd (List.nil_eq_append_iff.mp htext).1 hne
  | cons c text =>
    rw [afterBlanks?]
    constructor
    · intro h
      split at h
      · next hc =>
        cases h
        refine ⟨c :: text.takeWhile isBlank, ?_, List.cons_ne_nil _ _, ?_, ?_⟩
        · rw [List.cons_append, trimStart, List.takeWhile_append_dropWhile]
        · exact List.forall_mem_cons.mpr
            ⟨hc, fun d hd => List.mem_takeWhile_imp hd⟩
        · intro d hd
          have hhead := List.head?_dropWhile_not isBlank text
          rw [trimStart] at hd
          rw [hd] at hhead
          simpa using hhead
      · cases h
    · rintro ⟨gap, htext, hne, hgap, hrest⟩
      obtain ⟨d, gap, rfl⟩ := List.exists_cons_of_ne_nil hne
      obtain ⟨hd, hblank⟩ := List.forall_mem_cons.mp hgap
      obtain ⟨rfl, rfl⟩ := List.cons.inj htext
      rw [if_pos hd]
      exact congrArg some (trimStart_append_of_isBlank hblank hrest)

/-- What is read as a letter of a keyword belongs to a word. -/
theorem isWord_of_foldLetter (h : isAsciiWord (foldLetter c) = true) :
    isWord c = true := by
  unfold foldLetter at h
  split at h
  · next hlong =>
    rw [hlong]
    decide +kernel
  · split at h
    · next hkelvin =>
      rw [hkelvin]
      decide +kernel
    · exact isWord_of_isAsciiWord (isAsciiWord_of_toLower h)

/-- What a keyword is spelled with is read as letters of ASCII. -/
theorem Spells.isAsciiWord_foldLetter {word : List Char}
    (h : Spells keyword word) (hkeyword : IsKeyword keyword) :
    ∀ c ∈ word, isAsciiWord (foldLetter c) = true := by
  intro c hc
  refine List.all_eq_true.mp hkeyword.2 _ ?_
  rw [← h]
  exact List.mem_map_of_mem hc

theorem Spells.isWord {word : List Char} (h : Spells keyword word)
    (hkeyword : IsKeyword keyword) : ∀ c ∈ word, isWord c = true :=
  fun c hc => isWord_of_foldLetter (h.isAsciiWord_foldLetter hkeyword c hc)

theorem Spells.ne_nil {word : List Char} (h : Spells keyword word)
    (hkeyword : IsKeyword keyword) : word ≠ [] := by
  rintro rfl
  have hempty := hkeyword.1
  rw [← h] at hempty
  cases hempty

/-- A keyword starts with no blank. -/
theorem Spells.isBlank_head {word : List Char} (h : Spells keyword word)
    (hkeyword : IsKeyword keyword) (hc : (word ++ rest).head? = some c) :
    isBlank c = false := by
  have hmem : c ∈ word := mem_of_head?_append (h.ne_nil hkeyword) hc
  have hfold := h.isAsciiWord_foldLetter hkeyword c hmem
  rw [Bool.eq_false_iff]
  intro hblank
  rw [foldLetter_of_isBlank hblank] at hfold
  rw [isBlank_of_isAsciiWord hfold] at hblank
  cases hblank

/-! ## Where a phrase stands -/

/-- **The two words of a phrase** with blanks between them. -/
def IsPhrase (first second : String) (phrase : List Char) : Prop :=
  ∃ left gap right, phrase = left ++ (gap ++ right)
    ∧ Spells first left
    ∧ gap ≠ [] ∧ (∀ c ∈ gap, isBlank c = true)
    ∧ Spells second right

/-- **The phrase stands in the text behind a part of it**, as two words of
their own: no word goes on into the phrase or out of it. -/
def PhraseBehind (first second : String) (before text : List Char) : Prop :=
  ∃ phrase after, text = before ++ (phrase ++ after)
    ∧ IsPhrase first second phrase
    ∧ (∀ c, before.getLast? = some c → isWord c = false)
    ∧ ∀ c, after.head? = some c → isWord c = false

theorem IsPhrase.ne_nil (h : IsPhrase first second phrase) : phrase ≠ [] := by
  obtain ⟨left, gap, right, rfl, -, hgap, -⟩ := h
  exact List.append_ne_nil_of_right_ne_nil _
    (List.append_ne_nil_of_left_ne_nil hgap _)

section Keywords

variable (hfirst : IsKeyword first) (hsecond : IsKeyword second)

include hsecond in
/-- What follows a phrase at the start of a text. -/
theorem afterPhrase_eq_some_iff :
    (afterWord? first text >>= afterKeyword? second.toList) = some rest
      ↔ ∃ phrase, text = phrase ++ rest ∧ IsPhrase first second phrase := by
  unfold afterWord?
  simp only [Option.bind_eq_bind, Option.bind_eq_some_iff,
    afterKeyword?_eq_some_iff, afterBlanks?_eq_some_iff]
  constructor
  · rintro ⟨_, ⟨_, ⟨left, rfl, hleft⟩, gap, rfl, hne, hgap, -⟩, right, rfl,
      hright⟩
    refine ⟨left ++ (gap ++ right), by simp only [List.append_assoc], ?_⟩
    exact ⟨left, gap, right, rfl, hleft, hne, hgap, hright⟩
  · rintro ⟨_, rfl, left, gap, right, rfl, hleft, hne, hgap, hright⟩
    refine ⟨right ++ rest, ⟨gap ++ (right ++ rest), ⟨left, ?_, hleft⟩, gap, rfl,
      hne, hgap, fun c hc => hright.isBlank_head hsecond hc⟩, right, rfl, hright⟩
    simp only [List.append_assoc]

include hsecond in
theorem startsWithPhrase_iff :
    startsWithPhrase first second text = true
      ↔ ∃ phrase after, text = phrase ++ after
        ∧ IsPhrase first second phrase
        ∧ ∀ c, after.head? = some c → isWord c = false := by
  have hread (rest : List Char) :
      (afterWord? first text >>= afterKeyword? second.toList) = some rest
        ↔ ∃ phrase, text = phrase ++ rest ∧ IsPhrase first second phrase :=
    afterPhrase_eq_some_iff hsecond
  constructor
  · intro h
    unfold startsWithPhrase at h
    split at h
    · next c after hafter =>
      obtain ⟨phrase, htext, hphrase⟩ := (hread _).mp hafter
      refine ⟨phrase, c :: after, htext, hphrase, ?_⟩
      rintro _ ⟨⟩
      exact Bool.not_eq_true' _ ▸ h
    · next hafter =>
      obtain ⟨phrase, htext, hphrase⟩ := (hread _).mp hafter
      exact ⟨phrase, [], htext, hphrase, nofun⟩
    · cases h
  · rintro ⟨phrase, after, htext, hphrase, hafter⟩
    unfold startsWithPhrase
    rw [(hread after).mpr ⟨phrase, htext, hphrase⟩]
    cases after with
    | nil => rfl
    | cons c after => exact Bool.not_eq_true' _ ▸ hafter c rfl

include hsecond in
/-- Whether a phrase stands behind a part of the text can be read off what
follows that part. -/
theorem phraseBehind_append_iff :
    PhraseBehind first second before (before ++ rest)
      ↔ startsWithPhrase first second rest = true
        ∧ ∀ c, before.getLast? = some c → isWord c = false := by
  rw [startsWithPhrase_iff hsecond]
  constructor
  · rintro ⟨phrase, after, htext, hphrase, hbefore, hafter⟩
    exact ⟨⟨phrase, after, List.append_cancel_left htext, hphrase, hafter⟩,
      hbefore⟩
  · rintro ⟨⟨phrase, after, rfl, hphrase, hafter⟩, hbefore⟩
    exact ⟨phrase, after, rfl, hphrase, hbefore, hafter⟩

/-- What comes before a place does not go on as a word. -/
theorem elim_isWord_eq_false_iff : before.getLast?.elim false isWord = false
    ↔ ∀ c, before.getLast? = some c → isWord c = false := by
  cases before.getLast? <;> simp

/-- What a phrase stands behind is the start of the text. -/
theorem PhraseBehind.isPrefix (h : PhraseBehind first second before text) :
    before <+: text := by
  obtain ⟨phrase, after, rfl, -⟩ := h
  exact List.prefix_append _ _

include hsecond in
/-- The search goes through all places of the text; what stands before the
first of them is known by its last character. -/
theorem containsPhraseFrom_iff {inWord : Bool} :
    containsPhraseFrom first second inWord text = true
      ↔ ∃ before rest, text = before ++ rest
        ∧ startsWithPhrase first second rest = true
        ∧ before.getLast?.elim inWord isWord = false := by
  induction text generalizing inWord with
  | nil =>
    refine ⟨nofun, ?_⟩
    rintro ⟨before, rest, htext, hrest, -⟩
    rw [(List.nil_eq_append_iff.mp htext).2,
      startsWithPhrase_iff hsecond] at hrest
    obtain ⟨phrase, after, hnil, hphrase, -⟩ := hrest
    exact absurd (List.nil_eq_append_iff.mp hnil).1 hphrase.ne_nil
  | cons c text ih =>
    have hlast (before : List Char) :
        (c :: before).getLast?.elim inWord isWord
          = before.getLast?.elim (isWord c) isWord := by
      rw [List.getLast?_cons]
      cases before.getLast? <;> rfl
    rw [containsPhraseFrom, Bool.or_eq_true, Bool.and_eq_true,
      Bool.not_eq_true', ih]
    constructor
    · rintro (⟨hword, hstarts⟩ | ⟨before, rest, rfl, hstarts, hword⟩)
      · exact ⟨[], c :: text, rfl, hstarts, hword⟩
      · exact ⟨c :: before, rest, rfl, hstarts, by rw [hlast, hword]⟩
    · rintro ⟨before, rest, htext, hstarts, hword⟩
      cases before with
      | nil =>
        rw [List.nil_append] at htext
        rw [htext]
        exact .inl ⟨hword, hstarts⟩
      | cons d before =>
        obtain ⟨rfl, rfl⟩ := List.cons.inj htext
        exact .inr ⟨before, rest, rfl, hstarts, by rw [← hlast, hword]⟩

include hsecond in
/-- **What the search for a phrase finds**: a place where the phrase stands
in the text as two words of their own. -/
theorem containsPhrase_iff :
    containsPhrase first second text = true
      ↔ ∃ before, PhraseBehind first second before text := by
  unfold containsPhrase
  rw [containsPhraseFrom_iff hsecond]
  constructor
  · rintro ⟨before, rest, rfl, hstarts, hbefore⟩
    exact ⟨before, (phraseBehind_append_iff hsecond).mpr
      ⟨hstarts, elim_isWord_eq_false_iff.mp hbefore⟩⟩
  · rintro ⟨before, h⟩
    obtain ⟨rest, rfl⟩ := h.isPrefix
    obtain ⟨hstarts, hbefore⟩ := (phraseBehind_append_iff hsecond).mp h
    exact ⟨before, rest, rfl, hstarts, elim_isWord_eq_false_iff.mpr hbefore⟩

/-! ## Marks -/

/-- **A character that belongs to no word and is no blank.** -/
def IsMark (mark : Char) : Prop := isWord mark = false ∧ isBlank mark = false

instance : DecidablePred IsMark := fun _ =>
  inferInstanceAs (Decidable (_ ∧ _))

include hfirst hsecond in
theorem IsPhrase.notMem_of_isMark (h : IsPhrase first second phrase)
    (hmark : IsMark mark) : mark ∉ phrase := by
  obtain ⟨left, gap, right, rfl, hleft, -, hgap, hright⟩ := h
  simp only [List.mem_append, not_or]
  refine ⟨fun hmem => ?_, fun hmem => ?_, fun hmem => ?_⟩
  · exact Bool.false_ne_true (hmark.1 ▸ hleft.isWord hfirst _ hmem)
  · exact Bool.false_ne_true (hmark.2 ▸ hgap _ hmem)
  · exact Bool.false_ne_true (hmark.1 ▸ hright.isWord hsecond _ hmem)

/-- A phrase before a mark. -/
theorem PhraseBehind.append_mark (h : PhraseBehind first second before front)
    (hmark : IsMark mark) (back : List Char) :
    PhraseBehind first second before (front ++ mark :: back) := by
  obtain ⟨phrase, after, rfl, hphrase, hbefore, hafter⟩ := h
  refine ⟨phrase, after ++ mark :: back, ?_, hphrase, hbefore, ?_⟩
  · simp only [List.append_assoc]
  · intro c hc
    cases after with
    | nil =>
      cases hc
      exact hmark.1
    | cons d after => exact hafter c hc

theorem getLast?_append_cons (part : List Char) :
    (front ++ mark :: part).getLast? = some (part.getLast?.getD mark) := by
  rw [List.getLast?_append, List.getLast?_cons, Option.some_or]

/-- A phrase behind a mark. -/
theorem PhraseBehind.mark_append (h : PhraseBehind first second before back)
    (hmark : IsMark mark) (front : List Char) :
    PhraseBehind first second (front ++ mark :: before)
      (front ++ mark :: back) := by
  obtain ⟨phrase, after, rfl, hphrase, hbefore, hafter⟩ := h
  refine ⟨phrase, after, ?_, hphrase, ?_, hafter⟩
  · rw [List.append_assoc, List.cons_append]
  · intro c hc
    rw [getLast?_append_cons] at hc
    cases hlast : before.getLast? with
    | none =>
      rw [hlast] at hc
      cases hc
      exact hmark.1
    | some d =>
      rw [hlast] at hc
      cases hc
      exact hbefore d hlast

include hfirst hsecond in
/-- A phrase in a text with a mark stands before the mark or behind it. -/
theorem phraseBehind_append_mark (hmark : IsMark mark) :
    PhraseBehind first second before (front ++ mark :: back)
      ↔ PhraseBehind first second before front
        ∨ ∃ part, before = front ++ mark :: part
          ∧ PhraseBehind first second part back := by
  constructor
  · rintro ⟨phrase, after, htext, hphrase, hbefore, hafter⟩
    have hnotMem := hphrase.notMem_of_isMark hfirst hsecond hmark
    rcases List.append_eq_append_iff.mp htext with
      ⟨part, rfl, hback⟩ | ⟨part, rfl, hfront⟩
    · right
      cases part with
      | nil =>
        -- The phrase would start with the mark.
        obtain ⟨letter, letters, rfl⟩ :=
          List.exists_cons_of_ne_nil hphrase.ne_nil
        obtain ⟨rfl, -⟩ := List.cons.inj hback
        exact absurd List.mem_cons_self hnotMem
      | cons d part =>
        obtain ⟨rfl, rfl⟩ := List.cons.inj hback
        refine ⟨part, rfl, phrase, after, rfl, hphrase, fun c hc => ?_, hafter⟩
        exact hbefore c (by rw [getLast?_append_cons, hc]; rfl)
    · left
      rcases List.append_eq_append_iff.mp hfront with
        ⟨part', rfl, rfl⟩ | ⟨part', rfl, hback⟩
      · refine ⟨phrase, part', rfl, hphrase, hbefore, fun c hc => ?_⟩
        exact hafter c (by rw [List.head?_append, hc]; rfl)
      · cases part' with
        | nil =>
          exact ⟨part, [], by rw [List.append_nil],
            List.append_nil part ▸ hphrase, hbefore, nofun⟩
        | cons d part' =>
          -- The mark would stand inside the phrase.
          obtain ⟨rfl, -⟩ := List.cons.inj hback
          exact absurd (List.mem_append_right _ List.mem_cons_self) hnotMem
  · rintro (hfront | ⟨part, rfl, hback⟩)
    · exact hfront.append_mark hmark back
    · exact hback.mark_append hmark front

include hfirst hsecond in
/-- **No phrase reaches over a mark.** -/
theorem containsPhrase_append_mark (hmark : IsMark mark) :
    containsPhrase first second (front ++ mark :: back)
      = (containsPhrase first second front
        || containsPhrase first second back) := by
  rw [Bool.eq_iff_iff, Bool.or_eq_true]
  simp only [containsPhrase_iff hsecond,
    phraseBehind_append_mark hfirst hsecond hmark, exists_or]
  refine or_congr_right ?_
  constructor
  · rintro ⟨_, part, -, hpart⟩
    exact ⟨part, hpart⟩
  · rintro ⟨part, hpart⟩
    exact ⟨front ++ mark :: part, part, rfl, hpart⟩

end Keywords

end SchemaTyping.Sql
