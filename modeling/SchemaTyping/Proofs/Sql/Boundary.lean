import Mathlib.Data.List.TakeWhile
import SchemaTyping.Proofs.Sql.Sealed

/-!
# Where a text can be cut

The scanner of statements looks ahead: one character for the marks of a
comment and for a doubled quote, any number of them for a dollar tag. So what
it does with a text depends on what follows the text, and the scan of two
texts in a row is not the scan of the one and then the scan of the other.

It is where nothing reaches over the border between them, which can be seen
there (`Separate`): what follows starts with a character that belongs neither
to a tag nor to a pair. If the first text leaves the scanner in the normal
state, the second is then scanned as if it stood alone (`Scan.marks_append`).

That the normal state is reached matters for what is inside the first text,
too. A star at its end may be half of the mark that ends a comment, but a
text that ends there ends inside the comment.
-/

namespace SchemaTyping.Sql

open Text

/-! ## Borders -/

/-- Whether the scanner may read a character together with those before it: in
a dollar tag, as a doubled quote, or in the mark that opens a comment. -/
def joinsBack (c : Char) : Bool :=
  isAsciiWord c || c == '$' || isQuote c || c == '*'

/-- **No character of the first text is read together with one of the
second.** A dash counts only behind a dash. -/
def Separate (text other : List Char) : Prop :=
  ∀ c, other.head? = some c →
    joinsBack c = false ∧ (c = '-' → text.getLast? ≠ some '-')

/-- A character that joins nothing and is no dash separates all texts. -/
theorem separate_cons {c : Char} (h : joinsBack c = false) (hdash : c ≠ '-')
    (text rest : List Char) : Separate text (c :: rest) := by
  intro d hd
  cases hd
  exact ⟨h, fun heq => absurd heq hdash⟩

/-- A dash separates a text that does not end with one. -/
theorem separate_dash {text : List Char} (h : text.getLast? ≠ some '-')
    (rest : List Char) : Separate text ('-' :: rest) := by
  intro d hd
  cases hd
  exact ⟨by decide, fun _ => h⟩

/-- A blank means nothing to a reader. -/
theorem isInert_of_isBlank {c : Char} (h : isBlank c = true) :
    isInert c = true := by
  have hquote : isQuote c = false := by
    simp only [isQuote, Bool.or_eq_false_iff, beq_eq_false_iff_ne]
    exact ⟨⟨ne_of_isBlank h (by decide), ne_of_isBlank h (by decide)⟩,
      ne_of_isBlank h (by decide)⟩
  have hstructural : structural.contains c = false := by
    have hsolid : ∀ d ∈ structural, isBlank d = false := eq_false_of_all (by decide)
    rw [List.contains_eq_mem, decide_eq_false_iff_not]
    exact fun hmem => ne_of_isBlank h (hsolid c hmem) rfl
  rw [isInert, hquote, hstructural]
  rfl

/-- A blank separates all texts. -/
theorem separate_of_isBlank {other : List Char}
    (h : ∀ c, other.head? = some c → isBlank c = true) (text : List Char) :
    Separate text other := by
  intro c hc
  have hne {d : Char} (hd : isBlank d = false) : c ≠ d := by
    rintro rfl
    rw [h c hc] at hd
    cases hd
  have hword : isAsciiWord c = false :=
    Bool.eq_false_iff.mpr fun hword => hne (isBlank_of_isAsciiWord hword) rfl
  have hquote := (of_isInert (isInert_of_isBlank (h c hc))).1
  refine ⟨?_, fun hdash => absurd hdash (hne (by decide))⟩
  rw [joinsBack, hword, hquote, beq_eq_false_iff_ne.mpr (hne (by decide)),
    beq_eq_false_iff_ne.mpr (hne (by decide))]
  rfl

namespace Separate

variable {c : Char} {text rest other : List Char}

theorem of_cons (h : Separate (c :: rest) other) : Separate rest other := by
  refine fun d hd => ⟨(h d hd).1, fun heq hlast => (h d hd).2 heq ?_⟩
  rw [List.getLast?_cons, hlast]
  rfl

theorem isAsciiWord_head (h : Separate text other)
    (hc : other.head? = some c) : isAsciiWord c = false ∧ c ≠ '$' := by
  have hjoin := (h c hc).1
  simp only [joinsBack, Bool.or_eq_false_iff, beq_eq_false_iff_ne] at hjoin
  exact ⟨hjoin.1.1.1, hjoin.1.1.2⟩

/-- Where the border comes next, no character that joins does. -/
theorem head?_append_iff (h : Separate text other)
    (hc : joinsBack c = true) (rest : List Char) :
    (rest ++ other).head? = some c ↔ rest.head? = some c := by
  cases rest with
  | nil =>
    refine ⟨fun hhead => ?_, nofun⟩
    rw [(h c hhead).1] at hc
    cases hc
  | cons d rest => rfl

end Separate

/-! ## Dollar tags -/

theorem drop_length_takeWhile (p : Char → Bool) (text : List Char) :
    text.drop (text.takeWhile p).length = text.dropWhile p := by
  have hdrop : (text.takeWhile p ++ text.dropWhile p).drop
      (text.takeWhile p).length = text.dropWhile p := List.drop_left
  rwa [List.takeWhile_append_dropWhile] at hdrop

/-- A tag ends in the text where it starts, or it is none. -/
theorem Separate.dollarName?_append {text other : List Char}
    (h : Separate text other) (rest : List Char) :
    Scan.dollarName? (rest ++ other) = Scan.dollarName? rest := by
  unfold Scan.dollarName?
  dsimp only
  rw [drop_length_takeWhile, drop_length_takeWhile]
  by_cases hall : ∀ c ∈ rest, isAsciiWord c = true
  · -- The word goes on to the border, and no dollar sign stands behind it.
    obtain ⟨-, hdrop⟩ := takeWhile_append_of_head hall
      fun c hc => (h.isAsciiWord_head hc).1
    rw [hdrop, List.dropWhile_eq_nil_iff.mpr hall]
    cases other with
    | nil => rfl
    | cons c other =>
      have hdollar := (h.isAsciiWord_head (c := c) rfl).2
      split
      · next heq => exact absurd (List.cons.inj heq).1 hdollar
      · rfl
  · have hne : rest.dropWhile isAsciiWord ≠ [] :=
      fun hnil => hall (List.dropWhile_eq_nil_iff.mp hnil)
    have htake : (rest ++ other).takeWhile isAsciiWord
        = rest.takeWhile isAsciiWord := by
      rw [List.takeWhile_append, if_neg]
      intro hlength
      refine hall (List.takeWhile_eq_self_iff.mp ?_)
      exact (List.takeWhile_prefix isAsciiWord).eq_of_length hlength
    have hdrop : (rest ++ other).dropWhile isAsciiWord
        = rest.dropWhile isAsciiWord ++ other := by
      rw [List.dropWhile_append, if_neg (by rwa [List.isEmpty_iff])]
    rw [htake, hdrop]
    obtain ⟨c, left, hleft⟩ := List.exists_cons_of_ne_nil hne
    rw [hleft]
    by_cases hc : c = '$'
    · subst hc
      rfl
    · simp [hc]

/-- A text that cannot go on behind the border stands before it. -/
theorem isPrefixOf_append {tag other : List Char}
    (h : ∀ c ∈ tag, other.head? ≠ some c) (rest : List Char) :
    tag.isPrefixOf (rest ++ other) = tag.isPrefixOf rest := by
  induction tag generalizing rest with
  | nil => rfl
  | cons t tag ih =>
    obtain ⟨ht, htag⟩ := List.forall_mem_cons.mp h
    cases rest with
    | nil =>
      cases other with
      | nil => rfl
      | cons c other =>
        have hne : (t == c) = false :=
          beq_eq_false_iff_ne.mpr fun heq => ht (congrArg some heq.symm)
        show (t == c && _) = false
        rw [hne, Bool.false_and]
    | cons c rest =>
      show (t == c && tag.isPrefixOf (rest ++ other)) = (t == c && _)
      rw [ih htag]

/-! ## States -/

namespace Scan

/-- **A state the scanner comes to**: what is quoted stands between quotes, and
the name in a dollar tag is made of word characters. -/
def WellFormed : Scan → Prop
  | .quoted quote => isQuote quote = true
  | .dollar name => ∀ c ∈ name, isAsciiWord c = true
  | .copy _ next | .skip next => next.WellFormed
  | .normal | .line | .block _ => True

variable {state : Scan} {c : Char} {text rest other : List Char}

theorem wellFormed_copying {next : Scan} (h : next.WellFormed) (count : Nat) :
    (copying count next).WellFormed := by
  cases count with
  | zero => exact h
  | succ more => exact h

theorem isAsciiWord_of_dollarName? {name : List Char}
    (h : dollarName? text = some name) : ∀ c ∈ name, isAsciiWord c = true := by
  unfold dollarName? at h
  dsimp only at h
  split at h
  · split at h
    · cases h
    · cases h
      exact fun c hc => List.mem_takeWhile_imp hc
  · cases h

theorem wellFormed_stepNormal (c : Char) (rest : List Char) :
    (stepNormal c rest).1.WellFormed := by
  unfold stepNormal
  split
  · next hquote => simpa [WellFormed, isQuote, or_assoc] using hquote
  split
  · trivial
  split
  · trivial
  split
  · trivial
  split
  · cases hname : dollarName? rest with
    | none => trivial
    | some name =>
      have hbody : (Scan.dollar name).WellFormed :=
        isAsciiWord_of_dollarName? hname
      exact wellFormed_copying hbody (name.length + 1)
  · trivial

/-- **Every step leads to a state the scanner comes to.** -/
theorem WellFormed.step (h : state.WellFormed) (c : Char) (rest : List Char) :
    (state.step c rest).1.WellFormed := by
  cases state with
  | normal => exact wellFormed_stepNormal c rest
  | quoted quote =>
    show (stepQuoted quote c rest).WellFormed
    unfold stepQuoted
    split
    · exact h
    split
    · split
      · exact h
      · trivial
    · exact h
  | dollar name =>
    unfold Scan.step
    dsimp only
    split
    · have hnormal : Scan.normal.WellFormed := trivial
      exact wellFormed_copying hnormal (name.length + 1)
    · exact h
  | line =>
    unfold Scan.step
    dsimp only
    split <;> trivial
  | block outer =>
    show (stepBlock outer c rest).1.WellFormed
    unfold stepBlock
    split
    · trivial
    split
    · cases outer <;> trivial
    · trivial
  | copy more next =>
    have hnext : next.WellFormed := h
    exact wellFormed_copying hnext more
  | skip next => exact h

/-! ## The scan of two texts -/

/-- Outside bracketed comments the first of two texts is scanned without a look
at the second. -/
theorem step_append_of_ne_block (hstate : state.WellFormed)
    (hseparate : Separate (c :: rest) other)
    (hblock : ∀ outer, state ≠ .block outer) :
    state.step c (rest ++ other) = state.step c rest := by
  cases state with
  | normal =>
    have hdash : c = '-' ∧ (rest ++ other).head? = some '-'
        ↔ c = '-' ∧ rest.head? = some '-' := by
      refine and_congr_right fun heq => ?_
      cases rest with
      | nil =>
        refine ⟨fun hhead => ?_, fun hhead => by cases hhead⟩
        exact absurd (congrArg some heq) ((hseparate '-' hhead).2 rfl)
      | cons d rest => rfl
    show stepNormal c (rest ++ other) = stepNormal c rest
    unfold stepNormal
    rw [hseparate.dollarName?_append]
    simp only [hdash, hseparate.head?_append_iff (c := '*') (by decide)]
  | quoted quote =>
    have hjoin : joinsBack quote = true := by
      have hquote : isQuote quote = true := hstate
      rw [joinsBack, hquote, Bool.or_true, Bool.true_or]
    show (stepQuoted quote c (rest ++ other), _) = (stepQuoted quote c rest, _)
    unfold stepQuoted
    simp only [hseparate.head?_append_iff hjoin]
  | dollar name =>
    have htag : ∀ d ∈ name ++ ['$'], other.head? ≠ some d := by
      intro d hd hhead
      obtain ⟨hword, hdollar⟩ := hseparate.isAsciiWord_head hhead
      rcases List.mem_append.mp hd with hmem | hmem
      · rw [hstate d hmem] at hword
        cases hword
      · exact hdollar (List.mem_singleton.mp hmem)
    unfold Scan.step
    dsimp only
    rw [isPrefixOf_append htag]
  | block outer => exact absurd rfl (hblock outer)
  | line => rfl
  | copy more next => rfl
  | skip next => rfl

/-- The first of two texts is scanned without a look at the second. A step
inside a comment is the only one for which the border does not say so; it
matters only at the end of the text, where the comment would have to be over. -/
theorem step_append (hstate : state.WellFormed)
    (hseparate : Separate (c :: rest) other)
    (hend : rest = [] → (state.step c rest).1 = .normal) :
    state.step c (rest ++ other) = state.step c rest := by
  cases state with
  | block outer =>
    cases rest with
    | nil =>
      have hblock : (stepBlock outer c []).1 = .block outer := by
        unfold stepBlock
        rw [if_neg (fun h => by cases h.2), if_neg (fun h => by cases h.2)]
      cases hblock.symm.trans (hend rfl)
    | cons d rest => rfl
  | normal | quoted _ | dollar _ | line | copy _ _ | skip _ =>
    exact step_append_of_ne_block hstate hseparate nofun

/-- **Behind a border the scanner starts again**: the second of two texts is
scanned as if it stood alone. -/
theorem marks_append (hstate : state.WellFormed)
    (hseparate : Separate text other) (h : after state text = .normal) :
    marks state (text ++ other) = marks state text ++ marks .normal other := by
  induction text generalizing state with
  | nil =>
    cases (h : state = .normal)
    rfl
  | cons c rest ih =>
    have hstep : state.step c (rest ++ other) = state.step c rest := by
      refine step_append hstate hseparate fun hnil => ?_
      subst hnil
      exact h
    rw [List.cons_append, marks, hstep, ih (hstate.step c rest)
      hseparate.of_cons h, marks, List.append_assoc]

end Scan

end SchemaTyping.Sql
