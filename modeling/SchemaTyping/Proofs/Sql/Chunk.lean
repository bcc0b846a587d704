import SchemaTyping.Proofs.Sql.Boundary

/-!
# What the scanner passes on

A statement that the scanner has passed on may be scanned again, and it would be
a surprise if the second scan found anything in it: a comment to leave out, or a
semicolon. There is reason to ask, since the scanner leaves comments out, so that
what was parted by a comment comes together, and it reads pairs of characters
and dollar tags, which might come about that way.

They do not, because every comment leaves a blank behind, unless the text ends in
it. So a mark at the start of what is passed on stood there in the text
(`Scan.isPrefix_of_chunk`), and the scan of what is passed on follows the scan of
the text step by step, in the state around the comment where the other is inside
one (`Scan.step_outside`). Nothing in this asks for quotes or comments to be
closed. What comes of it is that every chunk of a dump is kept as it is
(`Scan.keeps_of_mem_chunks`), also without the blanks around it (`Scan.Keeps.trim`).
-/

namespace SchemaTyping.Sql

open Text

/-! ## Chunks -/

namespace Scan

/-- **The chunk that the scanner is in the middle of**: what it passes on up to
the end of the statement. -/
def chunk (state : Scan) : List Char → List Char
  | [] => []
  | c :: rest =>
    match state.step c rest with
    | (next, none) => chunk next rest
    | (next, some (.char d)) => d :: chunk next rest
    | (_, some .stop) => []

/-- Whether the scanner is inside a comment. -/
def inComment : Scan → Bool
  | .line | .block _ => true
  | .skip next => next.inComment
  | .normal | .quoted _ | .dollar _ | .copy _ _ => false

/-- **The state around the comment** in which the scanner is; any other state is
its own. -/
def outside : Scan → Scan
  | .line | .block _ => .normal
  | .skip next => next.outside
  | .copy more next => .copy more next.outside
  | .normal => .normal
  | .quoted quote => .quoted quote
  | .dollar name => .dollar name

variable {state next : Scan} {c d : Char} {text rest : List Char}

theorem chunk_of_none (h : state.step c rest = (next, none)) :
    state.chunk (c :: rest) = next.chunk rest := by
  rw [chunk, h]

theorem chunk_of_char (h : state.step c rest = (next, some (.char d))) :
    state.chunk (c :: rest) = d :: next.chunk rest := by
  rw [chunk, h]

theorem chunk_of_stop (h : state.step c rest = (next, some .stop)) :
    state.chunk (c :: rest) = [] := by
  rw [chunk, h]

theorem outside_copying (count : Nat) (next : Scan) :
    (copying count next).outside = copying count next.outside := by
  cases count <;> rfl

/-- What is to be copied is copied. -/
theorem chunk_copying (front back : List Char) (next : Scan) :
    (copying front.length next).chunk (front ++ back)
      = front ++ next.chunk back := by
  induction front with
  | nil => rfl
  | cons c front ih =>
    have hstep : (copying (c :: front).length next).step c (front ++ back)
        = (copying front.length next, some (.char c)) := rfl
    rw [List.cons_append, chunk_of_char hstep, ih]
    rfl

/-! ## One step -/

/-- **A step in the normal state** opens a comment, ends the statement, or passes
the character on. It does the last only where no mark of a comment begins, and
then what follows a dollar sign decides about the next state. -/
theorem stepNormal_cases (c : Char) (rest : List Char) :
    (∃ next, stepNormal c rest = (next, none) ∧ next.inComment = true)
    ∨ stepNormal c rest = (.normal, some .stop)
    ∨ ∃ next, stepNormal c rest = (next, some (.char c))
        ∧ next.outside = next
        ∧ ¬ (c = '-' ∧ rest.head? = some '-')
        ∧ ¬ (c = '/' ∧ rest.head? = some '*')
        ∧ (c = '$' → next = match dollarName? rest with
          | some name => copying (name.length + 1) (.dollar name)
          | none => .normal) := by
  unfold stepNormal
  split
  · next hquote =>
    have hne : c ≠ '-' ∧ c ≠ '/' ∧ c ≠ '$' := by
      rcases hquote with rfl | rfl | rfl <;> decide
    exact .inr (.inr ⟨.quoted c, rfl, rfl, fun h => hne.1 h.1,
      fun h => hne.2.1 h.1, fun h => absurd h hne.2.2⟩)
  split
  · exact .inl ⟨.line, rfl, rfl⟩
  next hline =>
  split
  · exact .inl ⟨.skip (.block 0), rfl, rfl⟩
  next hblock =>
  have hdash := (not_or.mp hline).2
  split
  · exact .inr (.inl rfl)
  split
  · cases dollarName? rest with
    | none => exact .inr (.inr ⟨.normal, rfl, rfl, hdash, hblock, fun _ => rfl⟩)
    | some name =>
      exact .inr (.inr ⟨_, rfl, outside_copying _ _, hdash, hblock, fun _ => rfl⟩)
  · next hdollar =>
    exact .inr (.inr ⟨.normal, rfl, rfl, hdash, hblock, fun h => absurd h hdollar⟩)

/-- A step inside comments stays there, or leaves a blank in place of them. -/
theorem stepBlock_cases (outer : Nat) (c : Char) (rest : List Char) :
    (∃ next, stepBlock outer c rest = (next, none) ∧ next.inComment = true)
    ∨ stepBlock outer c rest = (.skip .normal, some (.char ' ')) := by
  unfold stepBlock
  split
  · exact .inl ⟨_, rfl, rfl⟩
  split
  · cases outer with
    | zero => exact .inr rfl
    | succ outer => exact .inl ⟨_, rfl, rfl⟩
  · exact .inl ⟨_, rfl, rfl⟩

theorem outside_stepQuoted (quote c : Char) (rest : List Char) :
    (stepQuoted quote c rest).outside = stepQuoted quote c rest := by
  unfold stepQuoted
  split
  · rfl
  split
  · split <;> rfl
  · rfl

/-- A statement ends in the normal state. -/
theorem eq_normal_of_stop (h : state.step c rest = (next, some .stop)) :
    next = .normal := by
  cases state with
  | normal =>
    rcases stepNormal_cases c rest with ⟨_, hstep, -⟩ | hstep | ⟨_, hstep, -⟩
    · cases hstep.symm.trans h
    · cases hstep.symm.trans h
      rfl
    · cases hstep.symm.trans h
  | block outer =>
    rcases stepBlock_cases outer c rest with ⟨_, hstep, -⟩ | hstep
    · cases hstep.symm.trans h
    · cases hstep.symm.trans h
  | dollar name | line =>
    unfold step at h
    dsimp only at h
    split at h <;> cases h
  | quoted _ | copy _ _ | skip _ => cases h

/-- Around every comment is the normal state. -/
theorem outside_of_inComment (h : state.inComment = true) :
    state.outside = .normal := by
  induction state with
  | skip next ih => exact ih h
  | line | block _ => rfl
  | normal | quoted _ | dollar _ | copy _ _ => cases h

theorem outside_ne_skip (state next : Scan) : state.outside ≠ .skip next := by
  induction state with
  | skip _ ih => exact ih
  | normal | quoted _ | dollar _ | line | block _ | copy _ _ => nofun

/-- **Outside comments** a character is left out only where a comment begins; all
others are passed on as they are, and the scanner stays outside. -/
theorem step_of_outside (hstate : state.outside = state) (c : Char)
    (rest : List Char) :
    (∃ next, state.step c rest = (next, none) ∧ next.inComment = true)
    ∨ state.step c rest = (.normal, some .stop)
    ∨ ∃ next, state.step c rest = (next, some (.char c))
        ∧ next.outside = next := by
  cases state with
  | normal =>
    rcases stepNormal_cases c rest with hnone | hstop | ⟨next, hstep, hnext, -⟩
    · exact .inl hnone
    · exact .inr (.inl hstop)
    · exact .inr (.inr ⟨next, hstep, hnext⟩)
  | quoted quote =>
    exact .inr (.inr ⟨_, rfl, outside_stepQuoted quote c rest⟩)
  | dollar name =>
    refine .inr (.inr ?_)
    unfold step
    dsimp only
    split
    · exact ⟨_, rfl, outside_copying _ _⟩
    · exact ⟨_, rfl, rfl⟩
  | copy more next =>
    have hnext : next.outside = next := (Scan.copy.inj hstate).2
    exact .inr (.inr ⟨_, rfl, by rw [outside_copying, hnext]⟩)
  | skip next => exact absurd hstate (outside_ne_skip _ _)
  | line | block _ => cases hstate

/-- **Inside a comment** a character is left out, or a blank is put in its
place. -/
theorem step_of_inComment (hstate : state.inComment = true) (c : Char)
    (rest : List Char) :
    (∃ next, state.step c rest = (next, none) ∧ next.inComment = true)
    ∨ ∃ next d, state.step c rest = (next, some (.char d)) ∧ isBlank d = true := by
  cases state with
  | line =>
    unfold step
    dsimp only
    split
    · next hc => exact .inr ⟨_, c, rfl, hc ▸ by decide⟩
    · exact .inl ⟨_, rfl, rfl⟩
  | block outer =>
    refine (stepBlock_cases outer c rest).imp_right fun hstep => ?_
    exact ⟨_, ' ', hstep, by decide⟩
  | skip next => exact .inl ⟨next, rfl, hstate⟩
  | normal | quoted _ | dollar _ | copy _ _ => cases hstate

/-! ## Marks in a chunk -/

/-- **What is passed on from inside a comment** starts with the blank that the
comment leaves behind. -/
theorem isBlank_of_head?_chunk (hstate : state.inComment = true)
    (h : (state.chunk text).head? = some d) : isBlank d = true := by
  induction text generalizing state with
  | nil => cases h
  | cons c rest ih =>
    rcases step_of_inComment hstate c rest with ⟨next, hstep, hnext⟩ | ⟨next, e, hstep, he⟩
    · rw [chunk_of_none hstep] at h
      exact ih hnext h
    · rw [chunk_of_char hstep] at h
      cases h
      exact he

/-- **A mark without blanks that starts a chunk starts the text**: what comments
leave behind brings no mark about. -/
theorem isPrefix_of_chunk (hstate : state.outside = state) {mark : List Char}
    (hmark : ∀ c ∈ mark, isBlank c = false) (h : mark <+: state.chunk text) :
    mark <+: text := by
  induction text generalizing state mark with
  | nil => exact h
  | cons c rest ih =>
    cases mark with
    | nil => exact List.nil_prefix
    | cons m mark =>
      obtain ⟨hm, hmark⟩ := List.forall_mem_cons.mp hmark
      rcases step_of_outside hstate c rest with
        ⟨next, hstep, hnext⟩ | hstep | ⟨next, hstep, hnext⟩
      · -- A comment begins here: a blank would be passed on first, and no mark has one.
        rw [chunk_of_none hstep] at h
        obtain ⟨tail, heq⟩ := h
        have hblank := isBlank_of_head?_chunk hnext (congrArg List.head? heq).symm
        rw [hm] at hblank
        cases hblank
      · rw [chunk_of_stop hstep] at h
        cases List.prefix_nil.mp h
      · rw [chunk_of_char hstep] at h
        obtain ⟨rfl, hrest⟩ := List.cons_prefix_cons.mp h
        exact List.cons_prefix_cons.mpr ⟨rfl, ih hnext hmark hrest⟩

/-- A first character that is no blank, as `isPrefix_of_chunk`. -/
theorem head?_of_head?_chunk (hstate : state.outside = state)
    (hd : isBlank d = false) (h : (state.chunk text).head? = some d) :
    text.head? = some d := by
  obtain ⟨tail, heq⟩ := List.head?_eq_some_iff.mp h
  have hmark : [d] <+: state.chunk text := ⟨tail, heq.symm⟩
  obtain ⟨rest, rfl⟩ :=
    isPrefix_of_chunk hstate (List.forall_mem_singleton.mpr hd) hmark
  rfl

/-- **What a dollar tag is.** -/
theorem dollarName?_eq_some_iff {name : List Char} :
    dollarName? text = some name
      ↔ name ++ ['$'] <+: text ∧ (∀ c ∈ name, isAsciiWord c = true)
        ∧ name.head?.any Char.isDigit = false := by
  unfold dollarName?
  dsimp only
  rw [drop_length_takeWhile]
  constructor
  · intro h
    split at h
    · next rest hdrop =>
      split at h
      · cases h
      · next hdigit =>
        cases h
        refine ⟨⟨rest, ?_⟩, fun c => List.mem_takeWhile_imp, ?_⟩
        · rw [List.append_assoc, List.singleton_append, ← hdrop,
            List.takeWhile_append_dropWhile]
        · exact Bool.eq_false_iff.mpr hdigit
    · cases h
  · rintro ⟨⟨rest, rfl⟩, hword, hdigit⟩
    have hhead : ∀ c, ('$' :: rest).head? = some c → isAsciiWord c = false :=
      fun c hc => by cases hc; rfl
    obtain ⟨htake, hdrop⟩ := takeWhile_append_of_head hword hhead
    rw [List.append_assoc, List.singleton_append, htake, hdrop, hdigit]
    rfl

/-- No character of a dollar tag is a blank. -/
theorem not_isBlank_of_tag {name : List Char}
    (h : ∀ c ∈ name, isAsciiWord c = true) :
    ∀ c ∈ name ++ ['$'], isBlank c = false := by
  intro c hc
  rcases List.mem_append.mp hc with hmem | hmem
  · exact isBlank_of_isAsciiWord (h c hmem)
  · rw [List.mem_singleton.mp hmem]
    decide

/-! ## The scan of a chunk -/

/-- A tag that is read stands in what is passed on. -/
theorem tag_isPrefix_chunk {name : List Char} (next : Scan)
    (h : name ++ ['$'] <+: text) :
    name ++ ['$'] <+: (copying (name.length + 1) next).chunk text := by
  obtain ⟨back, rfl⟩ := h
  have hlength : name.length + 1 = (name ++ ['$']).length := by
    rw [List.length_append, List.length_singleton]
  rw [hlength, chunk_copying]
  exact List.prefix_append _ _

/-- Behind a dollar sign that is passed on, the same tag is read or none. -/
theorem dollarName?_chunk (hnext : next.outside = next)
    (h : next = match dollarName? rest with
      | some name => copying (name.length + 1) (.dollar name)
      | none => .normal) :
    dollarName? (next.chunk rest) = dollarName? rest := by
  refine Option.ext fun name => ?_
  constructor
  · intro hname
    obtain ⟨hmark, hword, hdigit⟩ := dollarName?_eq_some_iff.mp hname
    exact dollarName?_eq_some_iff.mpr
      ⟨isPrefix_of_chunk hnext (not_isBlank_of_tag hword) hmark, hword, hdigit⟩
  · intro hname
    rw [hname] at h
    obtain ⟨hmark, hword, hdigit⟩ := dollarName?_eq_some_iff.mp hname
    subst h
    exact dollarName?_eq_some_iff.mpr
      ⟨tag_isPrefix_chunk _ hmark, hword, hdigit⟩

theorem stepNormal_chunk (h : stepNormal c rest = (next, some (.char d))) :
    stepNormal d (next.chunk rest) = (next.outside, some (.char d)) := by
  rcases stepNormal_cases c rest with
    ⟨_, hstep, -⟩ | hstep | ⟨_, hstep, hnext, hdash, hblock, hdollar⟩
  · cases hstep.symm.trans h
  · cases hstep.symm.trans h
  cases hstep.symm.trans h
  have hdash' : ¬ (c = '-' ∧ (next.chunk rest).head? = some '-') := fun hmark =>
    hdash ⟨hmark.1, head?_of_head?_chunk hnext (by decide) hmark.2⟩
  have hblock' : ¬ (c = '/' ∧ (next.chunk rest).head? = some '*') := fun hmark =>
    hblock ⟨hmark.1, head?_of_head?_chunk hnext (by decide) hmark.2⟩
  rw [hnext, ← h]
  unfold stepNormal
  simp only [hdash, hdash', hblock, hblock']
  by_cases hc : c = '$'
  · rw [dollarName?_chunk hnext (hdollar hc)]
  · simp only [if_neg hc]

/-- A quote is doubled in what is passed on just where it is in the text. -/
theorem stepQuoted_chunk {quote : Char} (hquote : isQuote quote = true)
    (c : Char) (rest : List Char) :
    stepQuoted quote c ((stepQuoted quote c rest).chunk rest)
      = stepQuoted quote c rest := by
  have hblank : isBlank quote = false := by
    simp only [isQuote, Bool.or_eq_true, beq_iff_eq] at hquote
    rcases hquote with (rfl | rfl) | rfl <;> decide
  by_cases hback : c = '\\' ∧ quote = '\''
  · unfold stepQuoted
    rw [if_pos hback, if_pos hback]
  by_cases hc : c = quote
  · have hhead : ((stepQuoted quote c rest).chunk rest).head? = some quote
        ↔ rest.head? = some quote := by
      refine ⟨head?_of_head?_chunk (outside_stepQuoted quote c rest) hblank,
        fun h => ?_⟩
      have hstep : stepQuoted quote c rest = .copy 0 (.quoted quote) := by
        unfold stepQuoted
        rw [if_neg hback, if_pos hc, if_pos h]
      obtain ⟨behind, rfl⟩ := List.head?_eq_some_iff.mp h
      rw [hstep]
      rfl
    generalize (stepQuoted quote c rest).chunk rest = chunk at hhead
    unfold stepQuoted
    rw [if_neg hback, if_neg hback, if_pos hc, if_pos hc]
    simp only [hhead]
  · unfold stepQuoted
    rw [if_neg hback, if_neg hback, if_neg hc, if_neg hc]

/-- **The scan of what is passed on follows the scan of the text**: where a
character is passed on, the scanner that reads it instead of the text does the
same, but for comments. -/
theorem step_outside (hstate : state.WellFormed)
    (h : state.step c rest = (next, some (.char d))) :
    state.outside.step d (next.chunk rest) = (next.outside, some (.char d)) := by
  cases state with
  | normal => exact stepNormal_chunk h
  | quoted quote =>
    cases h
    rw [outside_stepQuoted]
    exact congrArg (·, _) (stepQuoted_chunk hstate c rest)
  | dollar name =>
    unfold step at h
    dsimp only at h
    split at h
    · next hmark =>
      -- The tag that ends the body is copied, so it is there to be read again.
      cases h
      rw [outside_copying]
      exact if_pos ⟨hmark.1, List.isPrefixOf_iff_prefix.mpr
        (tag_isPrefix_chunk _ (List.isPrefixOf_iff_prefix.mp hmark.2))⟩
    · next hmark =>
      cases h
      exact if_neg fun hchunk => hmark ⟨hchunk.1, List.isPrefixOf_iff_prefix.mpr
        (isPrefix_of_chunk rfl (not_isBlank_of_tag hstate)
          (List.isPrefixOf_iff_prefix.mp hchunk.2))⟩
  | line =>
    unfold step at h
    dsimp only at h
    split at h
    · next hc =>
      cases h
      subst hc
      exact step_of_isInert rfl _
    · cases h
  | block outer =>
    rcases stepBlock_cases outer c rest with ⟨_, hstep, -⟩ | hstep
    · cases hstep.symm.trans h
    · cases hstep.symm.trans h
      exact step_of_isInert rfl _
  | copy more next =>
    cases h
    rw [outside_copying]
    rfl
  | skip next => cases h

/-- Where a character is left out, the scanner enters a comment, stays in it or
leaves it. -/
theorem outside_of_none (h : state.step c rest = (next, none)) :
    next.outside = state.outside := by
  cases hin : state.inComment with
  | true =>
    rcases step_of_inComment hin c rest with ⟨_, hstep, hnext⟩ | ⟨_, _, hstep, -⟩
    · cases hstep.symm.trans h
      rw [outside_of_inComment hin, outside_of_inComment hnext]
    · cases hstep.symm.trans h
  | false =>
    cases state with
    | skip inner =>
      cases h
      rfl
    | normal =>
      rcases stepNormal_cases c rest with ⟨_, hstep, hnext⟩ | hstep | ⟨_, hstep, -⟩
      · cases hstep.symm.trans h
        exact outside_of_inComment hnext
      · cases hstep.symm.trans h
      · cases hstep.symm.trans h
    | dollar name =>
      unfold step at h
      dsimp only at h
      split at h <;> cases h
    | line | block _ => cases hin
    | quoted _ | copy _ _ => cases h

/-! ## Kept texts -/

/-- **The scanner keeps a text** if it passes on every character of it. -/
inductive Keeps : Scan → List Char → Prop
  | nil (state : Scan) : Keeps state []
  | cons {state next : Scan} {c : Char} {rest : List Char}
      (step_eq : state.step c rest = (next, some (.char c)))
      (rest_kept : Keeps next rest) : Keeps state (c :: rest)

theorem Keeps.marks_eq (h : Keeps state text) :
    marks state text = text.map .char := by
  induction h with
  | nil => rfl
  | cons hstep _ ih =>
    rw [marks_cons_of_step _ hstep, ih]
    rfl

/-- **What is passed on is kept** when it is scanned again. -/
theorem keeps_chunk (hstate : state.WellFormed) (text : List Char) :
    Keeps state.outside (state.chunk text) := by
  induction text generalizing state with
  | nil => exact .nil _
  | cons c rest ih =>
    have hnext := hstate.step c rest
    rcases hstep : state.step c rest with ⟨next, _ | ⟨d⟩ | _⟩ <;> rw [hstep] at hnext
    · rw [chunk_of_none hstep, ← outside_of_none hstep]
      exact ih hnext
    · rw [chunk_of_char hstep]
      exact .cons (step_outside hstate hstep) (ih hnext)
    · rw [chunk_of_stop hstep]
      exact .nil _

/-- Blanks in front of a kept text may be left out. -/
theorem Keeps.of_blank_append {front : List Char}
    (hfront : ∀ c ∈ front, isBlank c = true) (h : Keeps .normal (front ++ text)) :
    Keeps .normal text := by
  induction front with
  | nil => exact h
  | cons c front ih =>
    obtain ⟨hc, hfront⟩ := List.forall_mem_cons.mp hfront
    cases h with
    | cons hstep hrest =>
      have hnormal : Scan.normal.step c (front ++ text) = (.normal, some (.char c)) :=
        step_of_isInert (isInert_of_isBlank hc) _
      cases hstep.symm.trans hnormal
      exact ih hfront hrest

/-- The first of two texts that nothing reaches over is kept if both are. -/
theorem Keeps.of_append (hstate : state.WellFormed) (hout : state.outside = state)
    {other : List Char} (hseparate : Separate text other)
    (h : Keeps state (text ++ other)) : Keeps state text := by
  induction text generalizing state with
  | nil => exact .nil state
  | cons c rest ih =>
    rw [List.cons_append] at h
    cases h with
    | @cons _ next _ _ hstep hrest =>
      have hblock (outer : Nat) : state ≠ .block outer := by
        rintro rfl
        cases hout
      rw [step_append_of_ne_block hstate hseparate hblock] at hstep
      have hnext := hstate.step c rest
      rw [hstep] at hnext
      refine .cons hstep (ih hnext ?_ hseparate.of_cons hrest)
      rcases step_of_outside hout c rest with ⟨_, h, -⟩ | h | ⟨_, h, hnext⟩
      · cases h.symm.trans hstep
      · cases h.symm.trans hstep
      · cases h.symm.trans hstep
        exact hnext

/-- **A kept text is kept without the blanks around it.** -/
theorem Keeps.trim (h : Keeps .normal text) : Keeps .normal (trim text) := by
  obtain ⟨front, back, heq, hfront, hback⟩ := exists_eq_append_trim text
  rw [heq] at h
  have hnormal : Scan.normal.WellFormed := trivial
  exact (h.of_blank_append hfront).of_append hnormal rfl
    (separate_of_isBlank (fun c hc => hback c (List.mem_of_head? hc)) _)

/-- Every chunk of a text is the one that the scanner was in the middle of at its
start, or one that started behind the end of a statement. -/
theorem exists_chunks_marks (state : Scan) (text : List Char) :
    ∃ others, chunks (marks state text) = state.chunk text :: others
      ∧ ∀ other ∈ others, ∃ rest, other = normal.chunk rest := by
  -- A character that is passed on goes in front of the first chunk, so the induction
  -- has to say from which state that chunk is scanned.
  induction text generalizing state with
  | nil => exact ⟨[], rfl, fun _ hmem => absurd hmem List.not_mem_nil⟩
  | cons c rest ih =>
    rcases hstep : state.step c rest with ⟨next, _ | ⟨d⟩ | _⟩
    all_goals obtain ⟨others, hchunks, hothers⟩ := ih next
    · refine ⟨others, ?_, hothers⟩
      rw [marks, hstep, chunk_of_none hstep]
      exact hchunks
    · refine ⟨others, ?_, hothers⟩
      rw [marks, hstep, chunk_of_char hstep]
      show prepend d (chunks (marks next rest)) = _
      rw [hchunks]
      rfl
    · cases eq_normal_of_stop hstep
      refine ⟨normal.chunk rest :: others, ?_,
        List.forall_mem_cons.mpr ⟨⟨rest, rfl⟩, hothers⟩⟩
      rw [marks, hstep, chunk_of_stop hstep]
      show [] :: chunks (marks normal rest) = _
      rw [hchunks]

/-- **Every chunk of a dump is kept.** -/
theorem keeps_of_mem_chunks {chunk : List Char}
    (h : chunk ∈ chunks (marks .normal text)) : Keeps .normal chunk := by
  have hnormal : Scan.normal.WellFormed := trivial
  have hkeeps (rest : List Char) : Keeps .normal (Scan.normal.chunk rest) :=
    keeps_chunk hnormal rest
  obtain ⟨others, heq, hothers⟩ := exists_chunks_marks .normal text
  rw [heq] at h
  rcases List.mem_cons.mp h with rfl | hmem
  · exact hkeeps text
  · obtain ⟨rest, rfl⟩ := hothers chunk hmem
    exact hkeeps rest

end Scan

end SchemaTyping.Sql
