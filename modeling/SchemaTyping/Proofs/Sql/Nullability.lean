import Mathlib.Data.List.Infix
import SchemaTyping.Proofs.Sql.Phrase
import SchemaTyping.Sql.Dump

/-!
# Which columns may be empty

A column must not be empty if the constraints of its definition say `NOT NULL`
or `PRIMARY KEY`. The readers of groups and lists keep account of the quotes
and brackets that are open (`Nesting`), so that what they enclose is not
`Outside` (`outside_of_group?`). The search for the two phrases keeps no such
account: the words count in the text of a default or a comment and in the
expression of a check as they count outside.

So a column that is not to be empty has been declared so outside all literals
and brackets, or the words stand inside one of them
(`nullable_eq_false_iff`); and a literal or a bracketed expression leaves the
answer alone just where its own text has none of the words
(`allowsNull_enclosed`).
-/

namespace SchemaTyping.Sql

open Text

variable {dialect : Dialect} {enums : EnumTypes} {spec : ColumnSpec}
variable {item text front inner back before after : List Char}
variable {opening closing : Char} {place : List Char → Prop}

/-! ## What is open -/

/-- **What is open at a place of a text**: a quote, and so many brackets. -/
structure Nesting where
  quote : Option Char
  depth : Nat
  deriving DecidableEq, Repr

/-- What is open after one more character. Inside a quote only the same quote
counts. -/
def Nesting.step (nesting : Nesting) (c : Char) : Nesting :=
  match nesting.quote with
  | some quote => { nesting with quote := if c = quote then none else some quote }
  | none =>
    if isQuote c then { nesting with quote := some c }
    else if c = '(' then { nesting with depth := nesting.depth + 1 }
    else if c = ')' then { nesting with depth := nesting.depth - 1 }
    else nesting

/-- **Nothing is open behind a part of a text**: the place is outside all
quotes and brackets. -/
def Outside (before : List Char) : Prop :=
  before.foldl Nesting.step ⟨none, 0⟩ = ⟨none, 0⟩

instance : DecidablePred Outside := fun _ => inferInstanceAs (Decidable (_ = _))

/-- **A text closes all that it opens**, and all but the `outer` brackets that
are open around it; before its end it closes none of these. -/
def ClosesTo (outer : Nat) (nesting : Nesting) (text : List Char) : Prop :=
  text.foldl Nesting.step nesting = ⟨none, outer⟩
    ∧ ∀ part, part <+: text →
      outer ≤ (part.foldl Nesting.step nesting).depth

theorem ClosesTo.cons {outer : Nat} {nesting next : Nesting} {c : Char}
    (h : ClosesTo outer next text) (hstep : nesting.step c = next)
    (houter : outer ≤ nesting.depth) : ClosesTo outer nesting (c :: text) := by
  refine ⟨by rw [List.foldl_cons, hstep, h.1], fun part hpart => ?_⟩
  cases part with
  | nil => exact houter
  | cons d part =>
    obtain ⟨rfl, hrest⟩ := List.cons_prefix_cons.mp hpart
    rw [List.foldl_cons, hstep]
    exact h.2 part hrest

/-- The reader of groups takes the same account, whatever number of brackets
is open around the group. -/
theorem closesTo_of_groupFrom {quote : Option Char} {depth : Nat}
    (h : groupFrom quote depth text = some (inner, after)) (outer : Nat) :
    ClosesTo outer ⟨quote, depth + outer⟩ inner := by
  have houter (depth : Nat) : outer ≤ depth + outer := Nat.le_add_left _ _
  fun_induction groupFrom quote depth text generalizing inner after
  case case1 => cases h
  case case5 =>
    cases h
    rw [Nat.zero_add]
    exact ⟨rfl, fun part hpart => by rw [List.prefix_nil.mp hpart]; rfl⟩
  all_goals
    rename_i ih
    obtain ⟨⟨found, rest⟩, hfound, heq⟩ := Option.map_eq_some_iff.mp h
    cases heq
    refine (ih hfound).cons ?_ (houter _)
    simp [Nesting.step, *] <;> omega

/-- **What brackets enclose is not outside**, and what follows the brackets is
outside again. -/
theorem outside_of_group? (hfront : Outside front)
    (h : group? text = some (inner, after)) :
    Outside (front ++ '(' :: (inner ++ [')']))
      ∧ ∀ part, part <+: inner → ¬ Outside (front ++ '(' :: part) := by
  rw [group?.eq_def] at h
  split at h
  · obtain ⟨hend, hopen⟩ := closesTo_of_groupFrom h 1
    have hbracket : Nesting.step ⟨none, 0⟩ '(' = ⟨none, 0 + 1⟩ := rfl
    constructor
    · unfold Outside
      rw [List.foldl_append, hfront, List.foldl_cons, hbracket,
        List.foldl_append, hend]
      rfl
    · intro part hpart hclosed
      unfold Outside at hclosed
      have hdepth := hopen part hpart
      rw [List.foldl_append, hfront, List.foldl_cons, hbracket] at hclosed
      rw [hclosed] at hdepth
      exact Nat.not_succ_le_zero 0 hdepth
  · cases h

/-! ## The constraints of a definition -/

theorem takeGroup_suffix (text : List Char) : (takeGroup text).2 <:+ text := by
  unfold takeGroup
  split
  · next inner after h =>
    rw [append_of_group? h]
    refine (List.dropWhile_suffix _).trans ?_
    exact ⟨'(' :: (inner ++ [')']), by simp⟩
  · exact List.suffix_refl text

theorem takeArray_suffix (text : List Char) : (takeArray text).2 <:+ text := by
  rw [takeArray.eq_def]
  split
  · next after =>
    exact (List.dropWhile_suffix _).trans ⟨['[', ']'], rfl⟩
  · exact List.suffix_refl text

/-- What follows a type is the end of the text. -/
theorem typeParts_suffix (text : List Char) : (typeParts text).2 <:+ text := by
  fun_induction typeParts text with
  | case1 text => exact List.suffix_refl text
  | case2 text word after hends group array next ih =>
    have hgroup : group.2 <:+ after := takeGroup_suffix after
    have harray : array.2 <:+ group.2 := takeArray_suffix group.2
    have hafter : after <:+ text :=
      (List.dropWhile_suffix _).trans (List.dropWhile_suffix _)
    exact ((ih.trans harray).trans hgroup).trans hafter

theorem columnName?_suffix {definition name rest : List Char}
    (h : columnName? definition = some (name, rest)) : rest <:+ definition := by
  cases definition with
  | nil => cases h
  | cons c definition =>
    rw [columnName?] at h
    split at h
    · next quote hquote =>
      rw [append_of_cutFirst h]
      exact ⟨c :: (name ++ [quote]), by simp⟩
    · cases h
      exact List.dropWhile_suffix _

/-- **The constraints of a column**: what follows its name and its type. -/
def constraintsOf? (item : List Char) : Option (List Char) :=
  (columnName? (trim item)).map fun (_, rest) => (readTypeName rest).2

theorem constraintsOf?_suffix (h : constraintsOf? item = some text) :
    text <:+ trim item := by
  obtain ⟨⟨name, rest⟩, hname, rfl⟩ := Option.map_eq_some_iff.mp h
  have htype : (readTypeName rest).2 <:+ trimStart rest := typeParts_suffix _
  have htrim : trimStart rest <:+ rest := List.dropWhile_suffix _
  exact (htype.trans htrim).trans (columnName?_suffix hname)

/-- A column may be empty just where its constraints leave it so. -/
theorem nullable_of_columnSpec?
    (h : columnSpec? dialect enums item = some spec) :
    ∃ constraints, constraintsOf? item = some constraints
      ∧ spec.nullable = allowsNull constraints := by
  unfold columnSpec? at h
  obtain ⟨⟨name, rest⟩, hname, hspec⟩ := Option.bind_eq_some_iff.mp h
  dsimp only at hspec
  split at hspec
  · cases hspec
  · cases hspec
    exact ⟨(readTypeName rest).2, by rw [constraintsOf?, hname]; rfl, rfl⟩

/-! ## Declarations -/

/-- **One of the two phrases stands behind a part of the constraints.** -/
def NotNullBehind (before constraints : List Char) : Prop :=
  PhraseBehind "not" "null" before constraints
    ∨ PhraseBehind "primary" "key" before constraints

/-- **The constraints say at a place of some kind that the column must not be
empty.** -/
def DeclaresNotNull (place : List Char → Prop) (constraints : List Char) :
    Prop :=
  ∃ before, place before ∧ NotNullBehind before constraints

/-- **The constraints forbid an empty column** if one of the phrases stands in
them, wherever that is. -/
theorem allowsNull_eq_false_iff :
    allowsNull text = false ↔ DeclaresNotNull (fun _ => True) text := by
  unfold allowsNull DeclaresNotNull NotNullBehind
  rw [← Bool.not_or, Bool.not_eq_false', Bool.or_eq_true,
    containsPhrase_iff (by decide +kernel),
    containsPhrase_iff (by decide +kernel), ← exists_or]
  simp only [true_and]

/-- Every place is of one kind or of the other. -/
theorem declaresNotNull_iff_or (place : List Char → Prop) :
    DeclaresNotNull (fun _ => True) text
      ↔ DeclaresNotNull place text ∨ DeclaresNotNull (¬ place ·) text := by
  unfold DeclaresNotNull
  rw [← exists_or]
  refine exists_congr fun before => ?_
  rw [← or_and_right, true_and, and_iff_right (Classical.em _)]

theorem notNullBehind_append_iff :
    NotNullBehind before (before ++ after)
      ↔ (startsWithPhrase "not" "null" after = true
          ∨ startsWithPhrase "primary" "key" after = true)
        ∧ ∀ c, before.getLast? = some c → isWord c = false := by
  unfold NotNullBehind
  rw [phraseBehind_append_iff (by decide +kernel),
    phraseBehind_append_iff (by decide +kernel),
    or_and_right]

/-- To find a declaration it is enough to try the starts of the text. -/
theorem declaresNotNull_iff_inits :
    DeclaresNotNull place text
      ↔ ∃ before ∈ text.inits, place before
        ∧ (startsWithPhrase "not" "null" (text.drop before.length) = true
          ∨ startsWithPhrase "primary" "key" (text.drop before.length) = true)
        ∧ before.getLast?.elim false isWord = false := by
  refine exists_congr fun before => ?_
  rw [List.mem_inits, elim_isWord_eq_false_iff]
  constructor
  · rintro ⟨hplace, h⟩
    have hbefore : before <+: text := h.elim (·.isPrefix) (·.isPrefix)
    obtain ⟨after, rfl⟩ := hbefore
    rw [List.drop_left]
    exact ⟨List.prefix_append _ _, hplace, notNullBehind_append_iff.mp h⟩
  · rintro ⟨⟨after, rfl⟩, hplace, h⟩
    rw [List.drop_left] at h
    exact ⟨hplace, notNullBehind_append_iff.mpr h⟩

instance [DecidablePred place] : DecidablePred (DeclaresNotNull place) :=
  fun _ => decidable_of_iff _ declaresNotNull_iff_inits.symm

/-! ## Enclosed texts -/

/-- **Two characters enclose a text**: a quote on both sides, or brackets. -/
def Encloses (opening closing : Char) : Prop :=
  isQuote opening = true ∧ closing = opening ∨ opening = '(' ∧ closing = ')'

theorem isMark_of_isQuote {c : Char} (h : isQuote c = true) : IsMark c := by
  simp only [isQuote, Bool.or_eq_true, beq_iff_eq] at h
  rcases h with (rfl | rfl) | rfl <;> decide +kernel

theorem Encloses.isMark (h : Encloses opening closing) :
    IsMark opening ∧ IsMark closing := by
  rcases h with ⟨hquote, rfl⟩ | ⟨rfl, rfl⟩
  · exact ⟨isMark_of_isQuote hquote, isMark_of_isQuote hquote⟩
  · decide +kernel

/-- Neither phrase reaches over a mark. -/
theorem allowsNull_append_mark {mark : Char} (hmark : IsMark mark) :
    allowsNull (front ++ mark :: back)
      = (allowsNull front && allowsNull back) := by
  unfold allowsNull
  rw [containsPhrase_append_mark (by decide +kernel) (by decide +kernel) hmark,
    containsPhrase_append_mark (by decide +kernel) (by decide +kernel) hmark,
    Bool.not_or, Bool.not_or]
  ac_rfl

/-- **An enclosed text adds its own words to the search**, and nothing else:
the answer is that for an empty one, unless the words stand in it. -/
theorem allowsNull_enclosed (h : Encloses opening closing) :
    allowsNull (front ++ opening :: (inner ++ closing :: back))
      = (allowsNull (front ++ opening :: closing :: back)
        && allowsNull inner) := by
  obtain ⟨hopening, hclosing⟩ := h.isMark
  have hempty : allowsNull ([] ++ closing :: back) = allowsNull back :=
    allowsNull_append_mark hclosing
  rw [allowsNull_append_mark hopening, allowsNull_append_mark hopening,
    allowsNull_append_mark hclosing, ← List.nil_append (closing :: back),
    hempty, Bool.and_assoc,
    Bool.and_comm (allowsNull inner)]

/-! ## Columns -/

/-- **A column must not be empty** if its constraints say so outside all
literals and brackets, and as well if the words stand inside one: an enclosed
text counts with its own words. -/
theorem nullable_eq_false_iff
    (h : columnSpec? dialect enums item = some spec) :
    ∃ constraints, constraintsOf? item = some constraints
      ∧ constraints <:+ trim item
      ∧ (spec.nullable = false
        ↔ DeclaresNotNull Outside constraints
          ∨ DeclaresNotNull (¬ Outside ·) constraints)
      ∧ ∀ front opening inner closing back, Encloses opening closing →
        constraints = front ++ opening :: (inner ++ closing :: back) →
        spec.nullable
          = (allowsNull (front ++ opening :: closing :: back)
            && allowsNull inner) := by
  obtain ⟨constraints, hconstraints, hnullable⟩ := nullable_of_columnSpec? h
  refine ⟨constraints, hconstraints, constraintsOf?_suffix hconstraints, ?_, ?_⟩
  · rw [hnullable, allowsNull_eq_false_iff, declaresNotNull_iff_or Outside]
  · rintro front opening inner closing back hencloses rfl
    rw [hnullable, allowsNull_enclosed hencloses]

theorem nullable_eq_false_iff_check :
    ∃ spec constraints,
      columnSpec? .sqlite .empty "age int CHECK (age IS NOT NULL)".toList
          = some spec
        ∧ constraintsOf? "age int CHECK (age IS NOT NULL)".toList
          = some constraints
        ∧ (spec.nullable = false
          ↔ DeclaresNotNull Outside constraints
            ∨ DeclaresNotNull (¬ Outside ·) constraints) := by
  have hspec : columnSpec? .sqlite .empty
      "age int CHECK (age IS NOT NULL)".toList
        = some ⟨"age", .simple .integer, false⟩ := by
    decide +kernel
  obtain ⟨constraints, hconstraints, -, hiff, -⟩ := nullable_eq_false_iff hspec
  exact ⟨_, constraints, hspec, hconstraints, hiff⟩

/-- The words of a default are taken for a constraint: nothing outside the
literal declares that the column must not be empty. -/
theorem not_nullable_of_default :
    ∃ spec constraints,
      columnSpec? .mySql .empty
          "body varchar(255) DEFAULT 'NOT NULL'".toList = some spec
        ∧ constraintsOf? "body varchar(255) DEFAULT 'NOT NULL'".toList
          = some constraints
        ∧ spec.nullable = false
        ∧ ¬ DeclaresNotNull Outside constraints :=
  ⟨⟨"body", .string (some 255), false⟩, "DEFAULT 'NOT NULL'".toList,
    by decide +kernel, by decide +kernel, rfl, by decide +kernel⟩

end SchemaTyping.Sql
