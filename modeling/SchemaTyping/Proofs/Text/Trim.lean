import Mathlib.Data.List.DropRight
import SchemaTyping.Text.Case

/-!
# Texts that trimming leaves alone

A text that neither starts nor ends with a blank is its own trimmed form.
Whether a text ends well is a property that passes from the last piece of a
text to all of it, so it is shown piece by piece: `EndsSolid.append`.
-/

namespace SchemaTyping.Text

variable {c mark : Char} {text other : List Char}

/-! ## Word characters -/

/-- What the characters of an ASCII word are, by their numbers. -/
theorem toNat_of_isAsciiWord (h : isAsciiWord c = true) :
    (65 ≤ c.toNat ∧ c.toNat ≤ 90) ∨ (97 ≤ c.toNat ∧ c.toNat ≤ 122)
      ∨ (48 ≤ c.toNat ∧ c.toNat ≤ 57) ∨ c.toNat = 95 := by
  have hword : ((c.isUpper || c.isLower) || c.isDigit) || c == '_' := h
  rw [Bool.or_eq_true, Bool.or_eq_true, Bool.or_eq_true, beq_iff_eq] at hword
  rcases hword with ((hupper | hlower) | hdigit) | rfl
  · exact .inl (of_decide_eq_true hupper)
  · obtain ⟨hle, hge⟩ := Bool.and_eq_true_iff.mp hlower
    exact .inr (.inl ⟨of_decide_eq_true hle, of_decide_eq_true hge⟩)
  · obtain ⟨hle, hge⟩ := Bool.and_eq_true_iff.mp hdigit
    exact .inr (.inr (.inl ⟨of_decide_eq_true hle, of_decide_eq_true hge⟩))
  · exact .inr (.inr (.inr rfl))

theorem isAsciiWord_of_toNat
    (h : (65 ≤ c.toNat ∧ c.toNat ≤ 90) ∨ (97 ≤ c.toNat ∧ c.toNat ≤ 122)
      ∨ (48 ≤ c.toNat ∧ c.toNat ≤ 57) ∨ c.toNat = 95) : isAsciiWord c = true := by
  show ((c.isUpper || c.isLower) || c.isDigit || c == '_') = true
  rw [Bool.or_eq_true, Bool.or_eq_true, Bool.or_eq_true, beq_iff_eq]
  rcases h with hupper | hlower | hdigit | hline
  · exact .inl (.inl (.inl (decide_eq_true hupper)))
  · exact .inl (.inl (.inr (Bool.and_eq_true_iff.mpr
      ⟨decide_eq_true hlower.1, decide_eq_true hlower.2⟩)))
  · exact .inl (.inr (Bool.and_eq_true_iff.mpr
      ⟨decide_eq_true hdigit.1, decide_eq_true hdigit.2⟩))
  · exact .inr (Char.toNat_inj.mp hline)

theorem isAsciiWord_of_isDigit (h : c.isDigit = true) :
    isAsciiWord c = true := by
  show ((c.isAlpha || c.isDigit) || c == '_') = true
  rw [h, Bool.or_true, Bool.true_or]

theorem isBlank_of_isAsciiWord (h : isAsciiWord c = true) :
    isBlank c = false := by
  have hc := toNat_of_isAsciiWord h
  rw [Bool.eq_false_iff]
  intro hblank
  simp only [isBlank, inRanges, blankRanges, List.any_cons, List.any_nil,
    Bool.or_eq_true, Bool.and_eq_true, decide_eq_true_eq, Bool.false_eq_true,
    or_false] at hblank
  omega

theorem isWord_of_isAsciiWord (h : isAsciiWord c = true) :
    isWord c = true := by
  have hc := toNat_of_isAsciiWord h
  unfold isWord inRanges
  rw [List.any_eq_true]
  -- The first four ranges of the table are those of ASCII.
  obtain ⟨range, hrange, hle⟩ :
      ∃ range ∈ wordRanges.take 4, range.1 ≤ c.toNat ∧ c.toNat ≤ range.2 := by
    rcases hc with hc | hc | hc | hc
    · exact ⟨(65, 90), by decide, hc⟩
    · exact ⟨(97, 122), by decide, hc⟩
    · exact ⟨(48, 57), by decide, hc⟩
    · exact ⟨(95, 95), by decide, Nat.le_of_eq hc.symm, Nat.le_of_eq hc⟩
  refine ⟨range, List.mem_of_mem_take hrange, ?_⟩
  rw [Bool.and_eq_true, decide_eq_true_eq, decide_eq_true_eq]
  exact hle

/-- **In ASCII there are no other word characters** than those of an ASCII
word. -/
theorem isWord_eq_isAsciiWord (h : c.toNat < 128) : isWord c = isAsciiWord c := by
  have hbeyond : ((wordRanges.drop 4).all fun range => Nat.ble 128 range.1) = true := by
    decide +kernel
  rw [Bool.eq_iff_iff]
  refine ⟨fun hword => ?_, isWord_of_isAsciiWord⟩
  obtain ⟨range, hrange, hc⟩ := List.any_eq_true.mp hword
  rw [Bool.and_eq_true, decide_eq_true_eq, decide_eq_true_eq] at hc
  rw [← List.take_append_drop 4 wordRanges] at hrange
  rcases List.mem_append.mp hrange with hrange | hrange
  · have htake : wordRanges.take 4 = [(48, 57), (65, 90), (95, 95), (97, 122)] := rfl
    rw [htake] at hrange
    refine isAsciiWord_of_toNat ?_
    simp only [List.mem_cons, List.not_mem_nil, or_false] at hrange
    rcases hrange with rfl | rfl | rfl | rfl <;> omega
  · have hle := Nat.le_of_ble_eq_true (List.all_eq_true.mp hbeyond range hrange)
    omega

/-- A blank belongs to no word: the two tables have no number in common. -/
theorem isWord_of_isBlank (h : isBlank c = true) : isWord c = false := by
  have hapart : (blankRanges.all fun blank => wordRanges.all fun word =>
      Nat.blt blank.2 word.1 || Nat.blt word.2 blank.1) = true := by
    decide +kernel
  unfold isBlank inRanges at h
  obtain ⟨blank, hblank, hc⟩ := List.any_eq_true.mp h
  rw [Bool.and_eq_true, decide_eq_true_eq, decide_eq_true_eq] at hc
  unfold isWord inRanges
  rw [List.any_eq_false]
  intro word hword
  have hor := List.all_eq_true.mp (List.all_eq_true.mp hapart blank hblank) word hword
  rw [Bool.or_eq_true, Nat.blt_eq, Nat.blt_eq] at hor
  rw [Bool.and_eq_true, decide_eq_true_eq, decide_eq_true_eq]
  omega

/-- What becomes a word character when it is made small is one. -/
theorem isAsciiWord_of_toLower (h : isAsciiWord c.toLower = true) :
    isAsciiWord c = true := by
  -- A capital is a word character itself, and nothing else is changed.
  unfold Char.toLower at h
  split at h
  · next hupper =>
    show ((c.isUpper || c.isLower) || c.isDigit || c == '_') = true
    rw [show c.isUpper = true from decide_eq_true hupper]
    rfl
  · exact h

/-- A text whose characters can be looked at one by one has none of a
kind. -/
theorem eq_false_of_all {p : Char → Bool} (h : text.all (!p ·) = true) :
    ∀ c ∈ text, p c = false := by
  intro c hc
  have hp := List.all_eq_true.mp h c hc
  rwa [Bool.not_eq_true'] at hp

/-- A blank is none of the other characters. -/
theorem ne_of_isBlank (h : isBlank c = true) (hmark : isBlank mark = false) :
    c ≠ mark := by
  rintro rfl
  rw [hmark] at h
  cases h

/-! ## Trimming -/

theorem trimStart_eq_self (h : ∀ c, text.head? = some c → isBlank c = false) :
    trimStart text = text := by
  cases text with
  | nil => rfl
  | cons c rest =>
    refine List.dropWhile_cons_of_neg ?_
    rw [h c rfl]
    exact Bool.false_ne_true

theorem mem_of_head?_append (hne : text ≠ [])
    (h : (text ++ other).head? = some c) : c ∈ text := by
  rw [List.head?_append,
    Option.or_of_isSome (List.isSome_head?.mpr hne)] at h
  exact List.mem_of_head? h

/-- **The text does not end with a blank.** -/
def EndsSolid (text : List Char) : Prop :=
  ∀ c, text.getLast? = some c → isBlank c = false

theorem EndsSolid.append (h : EndsSolid text) (hother : EndsSolid other) :
    EndsSolid (text ++ other) := by
  intro c hc
  rw [List.getLast?_append] at hc
  cases hlast : other.getLast? with
  | none =>
    rw [hlast] at hc
    exact h c hc
  | some d =>
    rw [hlast] at hc
    cases hc
    exact hother _ hlast

theorem EndsSolid.cons (h : EndsSolid text) (hne : text ≠ []) :
    EndsSolid (c :: text) := by
  intro d hd
  rw [List.getLast?_cons_of_ne_nil hne] at hd
  exact h d hd

theorem EndsSolid.concat (text : List Char) (h : isBlank c = false) :
    EndsSolid (text ++ [c]) := by
  intro d hd
  rw [List.getLast?_concat] at hd
  cases hd
  exact h

theorem EndsSolid.of_forall (h : ∀ c ∈ text, isBlank c = false) :
    EndsSolid text :=
  fun c hc => h c (List.mem_of_getLast? hc)

theorem EndsSolid.trimEnd_eq (h : EndsSolid text) : trimEnd text = text := by
  unfold trimEnd
  have hstart : trimStart text.reverse = text.reverse :=
    trimStart_eq_self fun c hc => h c (List.head?_reverse ▸ hc)
  rw [← trimStart, hstart, List.reverse_reverse]

/-- Behind a text that does not end with a blank, only what follows is
trimmed. -/
theorem EndsSolid.trimEnd_append (h : EndsSolid text) (other : List Char) :
    trimEnd (text ++ other) = text ++ trimEnd other := by
  unfold trimEnd
  rw [List.reverse_append, List.dropWhile_append]
  split
  · next hempty =>
    have htext : text.reverse.dropWhile isBlank = text.reverse :=
      trimStart_eq_self fun c hc => h c (List.head?_reverse ▸ hc)
    rw [htext, List.isEmpty_iff.mp hempty, List.reverse_reverse]
    exact (List.append_nil text).symm
  · rw [List.reverse_append, List.reverse_reverse]

/-- **A text with no blank at either end** is its own trimmed form. -/
theorem EndsSolid.trim_eq (h : EndsSolid text)
    (hstart : ∀ c, text.head? = some c → isBlank c = false) :
    trim text = text := by
  unfold trim
  rw [trimStart_eq_self hstart, h.trimEnd_eq]

/-- **What is trimmed away** are blanks in front of the text and behind it. -/
theorem exists_eq_append_trim (text : List Char) :
    ∃ front back, text = front ++ (trim text ++ back)
      ∧ (∀ c ∈ front, isBlank c = true) ∧ ∀ c ∈ back, isBlank c = true := by
  refine ⟨text.takeWhile isBlank, (trimStart text).rtakeWhile isBlank, ?_,
    fun c => List.mem_takeWhile_imp, fun c => List.mem_rtakeWhile_imp⟩
  have hend : trim text ++ (trimStart text).rtakeWhile isBlank = trimStart text :=
    List.rdropWhile_append_rtakeWhile
  rw [hend]
  exact List.takeWhile_append_dropWhile.symm

theorem endsSolid_trimEnd (text : List Char) : EndsSolid (trimEnd text) := by
  intro c hc
  have hlast := List.head?_dropWhile_not isBlank text.reverse
  rw [trimEnd, List.getLast?_reverse] at hc
  rw [hc] at hlast
  exact hlast

/-- Nothing is left to trim. -/
theorem trim_trim (text : List Char) : trim (trim text) = trim text := by
  refine (endsSolid_trimEnd (trimStart text)).trim_eq fun c hc => ?_
  have hprefix : trim text <+: text.dropWhile isBlank :=
    List.rdropWhile_prefix isBlank (trimStart text)
  obtain ⟨back, hback⟩ := hprefix
  have hfirst := List.head?_dropWhile_not isBlank text
  rw [← hback, List.head?_append, trim, hc] at hfirst
  exact hfirst

theorem trim_cons_of_isBlank (h : isBlank c = true) :
    trim (c :: text) = trim text := by
  unfold trim trimStart
  rw [List.dropWhile_cons_of_pos h]

theorem trim_append_of_isBlank (h : ∀ c ∈ text, isBlank c = true) :
    trim (text ++ other) = trim other := by
  induction text with
  | nil => rfl
  | cons c rest ih =>
    obtain ⟨hc, hrest⟩ := List.forall_mem_cons.mp h
    rw [List.cons_append, trim_cons_of_isBlank hc, ih hrest]

/-- Blanks at the end are trimmed away. -/
theorem trim_append_blanks (h : ∀ c ∈ other, isBlank c = true) :
    trim (text ++ other) = trim text := by
  have hstart : trimStart other = [] := List.dropWhile_eq_nil_iff.mpr h
  have hend : ∀ text, trimEnd (text ++ other) = trimEnd text := by
    intro text
    unfold trimEnd
    rw [List.reverse_append,
      List.dropWhile_append_of_pos fun c hc => h c (List.mem_reverse.mp hc)]
  have hsplit : trimStart (text ++ other)
      = if (trimStart text).isEmpty then trimStart other
        else trimStart text ++ other := List.dropWhile_append
  unfold trim
  rw [hsplit, hstart]
  split
  · next hempty => rw [List.isEmpty_iff.mp hempty]
  · exact hend _

theorem trim_trimStart (text : List Char) : trim (trimStart text) = trim text :=
  congrArg trimEnd (List.dropWhile_idempotent (p := isBlank) text)

theorem trim_trimEnd (text : List Char) : trim (trimEnd text) = trim text := by
  have hsplit : trimEnd text ++ text.rtakeWhile isBlank = text :=
    List.rdropWhile_append_rtakeWhile
  conv_rhs => rw [← hsplit]
  exact (trim_append_blanks fun c hc => List.mem_rtakeWhile_imp hc).symm

/-- A mark that is no blank ends the blanks at the start of a text. -/
theorem trimStart_append_cons (h : isBlank mark = false)
    (text other : List Char) :
    trimStart (text ++ mark :: other) = trimStart text ++ mark :: other := by
  unfold trimStart
  rw [List.dropWhile_append]
  split
  · next hempty =>
    rw [List.isEmpty_iff.mp hempty, List.dropWhile_cons_of_neg
      (by rw [h]; exact Bool.false_ne_true)]
    rfl
  · rfl

/-- **Around a mark that is no blank** a text is trimmed on either side. -/
theorem trim_append_cons (h : isBlank mark = false) (text other : List Char) :
    trim (text ++ mark :: other) = trimStart text ++ mark :: trimEnd other := by
  have hmark := (EndsSolid.concat (trimStart text) h).trimEnd_append other
  rw [List.append_assoc, List.append_assoc] at hmark
  unfold trim
  rw [trimStart_append_cons h]
  exact hmark

/-- What ends a text decides, whatever stands in front of it. -/
theorem EndsSolid.append_left (h : EndsSolid other) (hne : other ≠ [])
    (text : List Char) : EndsSolid (text ++ other) := by
  intro c hc
  rw [List.getLast?_append,
    Option.or_of_isSome (List.getLast?_isSome.mpr hne)] at hc
  exact h c hc

/-- **A solid text**: it is not empty, and there is no blank at either end. -/
structure Solid (text : List Char) : Prop where
  ne_nil : text ≠ []
  starts : ∀ c, text.head? = some c → isBlank c = false
  ends : EndsSolid text

namespace Solid

theorem of_forall (hne : text ≠ []) (h : ∀ c ∈ text, isBlank c = false) :
    Solid text :=
  ⟨hne, fun c hc => h c (List.mem_of_head? hc), .of_forall h⟩

theorem singleton (h : isBlank c = false) : Solid [c] :=
  .of_forall (List.cons_ne_nil c []) (List.forall_mem_singleton.mpr h)

/-- **Between two solid texts anything may stand.** -/
theorem append (h : Solid text) (between : List Char) (hother : Solid other) :
    Solid (text ++ (between ++ other)) where
  ne_nil := List.append_ne_nil_of_left_ne_nil h.ne_nil _
  starts c hc := by
    rw [List.head?_append,
      Option.or_of_isSome (List.isSome_head?.mpr h.ne_nil)] at hc
    exact h.starts c hc
  ends := (hother.ends.append_left hother.ne_nil between).append_left
    (List.append_ne_nil_of_right_ne_nil between hother.ne_nil) text

theorem intercalate (gap : List Char) {parts : List (List Char)}
    (hne : parts ≠ []) (h : ∀ part ∈ parts, Solid part) :
    Solid (gap.intercalate parts) := by
  induction parts with
  | nil => exact absurd rfl hne
  | cons part parts ih =>
    obtain ⟨hpart, hparts⟩ := List.forall_mem_cons.mp h
    cases parts with
    | nil =>
      rw [List.intercalate_singleton]
      exact hpart
    | cons next parts =>
      rw [List.intercalate_cons_cons, List.append_assoc]
      exact hpart.append gap (ih (List.cons_ne_nil next parts) hparts)

theorem trim_eq (h : Solid text) : trim text = text :=
  h.ends.trim_eq h.starts

end Solid

/-! ## Cutting -/

/-- A text is cut at the first mark. -/
theorem cutFirst_append (h : mark ∉ text) :
    cutFirst mark (text ++ mark :: other) = some (text, other) := by
  induction text with
  | nil => rw [List.nil_append, cutFirst, if_pos rfl]
  | cons c rest ih =>
    have hne : c ≠ mark := fun heq => h (heq ▸ List.mem_cons_self)
    rw [List.cons_append, cutFirst, if_neg hne,
      ih fun hmem => h (List.mem_cons_of_mem _ hmem)]
    rfl

/-- A text without the mark is not cut. -/
theorem cutFirst_eq_none (h : mark ∉ text) : cutFirst mark text = none := by
  cases hcut : cutFirst mark text with
  | none => rfl
  | some found =>
    rw [append_of_cutFirst hcut] at h
    exact absurd (List.mem_append_right _ List.mem_cons_self) h

/-- Where a text is cut does not depend on what follows it. -/
theorem cutFirst_append_of_eq_some {before after : List Char}
    (h : cutFirst mark text = some (before, after)) (other : List Char) :
    cutFirst mark (text ++ other) = some (before, after ++ other) := by
  induction text generalizing before with
  | nil => cases h
  | cons c rest ih =>
    rw [cutFirst] at h
    rw [List.cons_append, cutFirst]
    split at h
    · next hc =>
      cases h
      rw [if_pos hc]
    · next hc =>
      obtain ⟨⟨b, a⟩, hcut, heq⟩ := Option.map_eq_some_iff.mp h
      cases heq
      rw [if_neg hc, ih hcut]
      rfl

/-- What comes after the last mark. -/
theorem afterLast_append (h : mark ∉ other) :
    afterLast mark (text ++ mark :: other) = other := by
  have hreverse : (text ++ mark :: other).reverse
      = other.reverse ++ mark :: text.reverse := by
    rw [List.reverse_append, List.reverse_cons, List.append_assoc,
      List.singleton_append]
  unfold afterLast cutLast
  rw [hreverse, cutFirst_append (mt List.mem_reverse.mp h)]
  exact List.reverse_reverse other

theorem afterLast_eq_self (h : mark ∉ text) : afterLast mark text = text := by
  unfold afterLast cutLast
  rw [cutFirst_eq_none (mt List.mem_reverse.mp h)]
  rfl

/-- What stands in front of a mark has no part in what comes after the last
one. -/
theorem afterLast_append_left (text other : List Char) :
    afterLast mark (text ++ mark :: other) = afterLast mark other := by
  by_cases h : mark ∈ other
  · obtain ⟨front, back, heq, hfree⟩ :=
      List.eq_append_cons_of_mem (List.mem_reverse.mpr h)
    have hother : other = back.reverse ++ mark :: front.reverse := by
      rw [← List.reverse_reverse other, heq]
      simp
    have hfront : mark ∉ front.reverse := mt List.mem_reverse.mp hfree
    rw [hother, afterLast_append hfront, ← List.cons_append, ← List.append_assoc,
      afterLast_append hfront]
  · rw [afterLast_append h, afterLast_eq_self h]

/-- Without the first character nothing is dropped before the second. -/
theorem dropBefore_cons_of_ne {first second : Char} (h : c ≠ first) :
    dropBefore first second (c :: text)
      = c :: dropBefore first second text := by
  cases text with
  | nil => rfl
  | cons d rest => rw [dropBefore, if_neg fun hpair => h hpair.1]

/-- Without the second character behind it nothing is dropped either. -/
theorem dropBefore_cons_of_head {first second : Char}
    (h : text.head? ≠ some second) :
    dropBefore first second (c :: text)
      = c :: dropBefore first second text := by
  cases text with
  | nil => rfl
  | cons d rest =>
    rw [dropBefore, if_neg fun hpair => h (congrArg some hpair.2)]

/-- A piece of characters of one class is cut off where another character
follows. -/
theorem takeWhile_append_of_head {p : Char → Bool}
    (h : ∀ c ∈ text, p c = true)
    (hother : ∀ c, other.head? = some c → p c = false) :
    (text ++ other).takeWhile p = text
      ∧ (text ++ other).dropWhile p = other := by
  rw [List.takeWhile_append_of_pos h, List.dropWhile_append_of_pos h]
  cases other with
  | nil => exact ⟨List.append_nil text, rfl⟩
  | cons c rest =>
    have hc : ¬ p c = true := by
      rw [hother c rfl]
      exact Bool.false_ne_true
    rw [List.takeWhile_cons_of_neg hc, List.dropWhile_cons_of_neg hc]
    exact ⟨List.append_nil text, rfl⟩

/-- Only the blanks at the start of a text are passed over. -/
theorem trimStart_append_of_isBlank (h : ∀ c ∈ text, isBlank c = true)
    (hother : ∀ c, other.head? = some c → isBlank c = false) :
    trimStart (text ++ other) = other :=
  (takeWhile_append_of_head h hother).2

end SchemaTyping.Text
