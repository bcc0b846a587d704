import SchemaTyping.Proofs.Sql.Closed
import SchemaTyping.Proofs.Text.Trim

/-!
# Sealed text

Three readers go over a statement one character at a time: the scanner that
finds its end, the search for the bracket that closes a group, and the cut at
the commas of a list. Each keeps its own account of quotes and brackets, and
each may take a character for structure that is only text.

A **sealed** text leaves no trace in any of the three. Its quotes are closed
and its brackets match, and what stands outside quotes neither ends a
statement nor opens a comment, nor, if commas count, parts a list. Between
quotes anything may stand, if quotes of the same kind are doubled, and if a
string has no backslash, which the scanner reads in its own way.

So every reader that comes to a sealed text passes over it and goes on behind
it in the state in which it came: `Sealed.marks_append` says so for the
scanner, and for the other two it is enough that a sealed text is closed
(`Sealed.closed`). What a text is made of is looked at once, where it is shown
to be sealed.
-/

namespace SchemaTyping.Sql

open Text

/-! ## Quoting -/

/-- The text with every `mark` written twice. -/
def doubled (mark : Char) (text : List Char) : List Char :=
  text.flatMap fun c => if c = mark then [c, c] else [c]

/-- **A text between quotes**, in which quotes of that kind are doubled. -/
def enquoted (quote : Char) (text : List Char) : List Char :=
  quote :: (doubled quote text ++ [quote])

theorem doubled_cons_self (mark : Char) (text : List Char) :
    doubled mark (mark :: text) = mark :: mark :: doubled mark text := by
  rw [doubled, List.flatMap_cons, if_pos rfl]
  rfl

theorem doubled_cons_of_ne {mark c : Char} (h : c ≠ mark) (text : List Char) :
    doubled mark (c :: text) = c :: doubled mark text := by
  rw [doubled, List.flatMap_cons, if_neg h]
  rfl

/-- A text without the quote is not changed by doubling it. -/
theorem doubled_eq_self {mark : Char} {text : List Char} (h : mark ∉ text) :
    doubled mark text = text := by
  induction text with
  | nil => rfl
  | cons c rest ih =>
    have hne : c ≠ mark := fun heq => h (heq ▸ List.mem_cons_self)
    rw [doubled_cons_of_ne hne,
      ih fun hmem => h (List.mem_cons_of_mem _ hmem)]

/-- A text between quotes has its blanks there, too. -/
theorem solid_enquoted {quote : Char} (h : isBlank quote = false)
    (text : List Char) : Solid (enquoted quote text) :=
  (Solid.singleton h).append (doubled quote text) (.singleton h)

/-- Doubling makes a text longer by the marks in it. -/
theorem length_doubled (mark : Char) (text : List Char) :
    (doubled mark text).length = text.length + text.count mark := by
  induction text with
  | nil => rfl
  | cons c rest ih =>
    by_cases hc : c = mark
    · subst hc
      rw [doubled_cons_self, List.count_cons_self]
      simp only [List.length_cons, ih]
      omega
    · rw [doubled_cons_of_ne hc, List.count_cons_of_ne hc]
      simp only [List.length_cons, ih]
      omega

theorem doubled_eq_self_iff {mark : Char} {text : List Char} :
    doubled mark text = text ↔ mark ∉ text := by
  refine ⟨fun h hmem => ?_, doubled_eq_self⟩
  have hlength := length_doubled mark text
  have hcount := List.count_pos_iff.mpr hmem
  rw [h] at hlength
  omega

/-! ## Sealed texts -/

/-- The characters that have a meaning outside quotes, besides the quotes. -/
def structural : List Char := ['(', ')', ',', ';', '#', '-', '/', '$']

/-- **An inert character** means nothing to a reader. -/
def isInert (c : Char) : Bool := !isQuote c && !structural.contains c

theorem of_isInert {c : Char} (h : isInert c = true) :
    isQuote c = false ∧ c ∉ structural := by
  unfold isInert at h
  rw [Bool.and_eq_true, Bool.not_eq_true', Bool.not_eq_true',
    List.contains_eq_mem, decide_eq_false_iff_not] at h
  exact h

theorem ne_backslash_of_isQuote {quote : Char} (h : isQuote quote = true) :
    quote ≠ '\\' := by
  rintro rfl
  cases h

/-- **A sealed text**; commas outside brackets are allowed in it if `commas`
is `true`. -/
inductive Sealed : Bool → List Char → Prop
  | nil (commas : Bool) : Sealed commas []
  | inert {commas : Bool} {c : Char} {rest : List Char}
      (inert : isInert c = true) (rest_sealed : Sealed commas rest) :
      Sealed commas (c :: rest)
  | comma {rest : List Char} (rest_sealed : Sealed true rest) :
      Sealed true (',' :: rest)
  | quoted {commas : Bool} {quote : Char} {text rest : List Char}
      (isQuote : isQuote quote = true)
      (no_backslash : quote = '\'' → '\\' ∉ text)
      (closed : rest.head? ≠ some quote) (rest_sealed : Sealed commas rest) :
      Sealed commas (enquoted quote text ++ rest)
  | group {commas : Bool} {inner rest : List Char}
      (inner_sealed : Sealed true inner) (rest_sealed : Sealed commas rest) :
      Sealed commas ('(' :: (inner ++ ')' :: rest))

/-- The text does not start with a quote, which could double one before
it. -/
def NoQuoteAhead (text : List Char) : Prop :=
  ∀ c, text.head? = some c → isQuote c = false

theorem noQuoteAhead_cons {c : Char} (h : isQuote c = false)
    (rest : List Char) : NoQuoteAhead (c :: rest) :=
  fun _ hc => Option.some.inj hc ▸ h

theorem NoQuoteAhead.head?_ne {text : List Char} (h : NoQuoteAhead text)
    {quote : Char} (hquote : isQuote quote = true) :
    text.head? ≠ some quote :=
  fun hhead => Bool.false_ne_true ((h quote hhead).symm.trans hquote)

namespace Sealed

variable {commas : Bool} {text other : List Char}

theorem inert_append (h : ∀ c ∈ text, isInert c = true)
    (hother : Sealed commas other) : Sealed commas (text ++ other) := by
  induction text with
  | nil => exact hother
  | cons c rest ih =>
    obtain ⟨hc, hrest⟩ := List.forall_mem_cons.mp h
    exact .inert hc (ih hrest)

theorem of_inert (h : ∀ c ∈ text, isInert c = true) : Sealed commas text := by
  rw [← List.append_nil text]
  exact inert_append h (.nil commas)

theorem of_enquoted {quote : Char} (hquote : isQuote quote = true)
    (hback : quote = '\'' → '\\' ∉ text) :
    Sealed commas (enquoted quote text) := by
  rw [← List.append_nil (enquoted quote text)]
  exact .quoted hquote hback nofun (.nil commas)

/-- A text without commas outside brackets is sealed where they may be. -/
theorem allow_commas (h : Sealed commas text) : Sealed true text := by
  induction h with
  | nil => exact .nil true
  | inert hc _ ih => exact .inert hc ih
  | comma _ ih => exact .comma ih
  | quoted hquote hback hclosed _ ih => exact .quoted hquote hback hclosed ih
  | group hinner _ _ ih => exact .group hinner ih

/-- **Sealed texts in a row** are sealed, if no quote starts the second: it
would double one that ends the first. -/
theorem append (h : Sealed commas text) (hother : Sealed commas other)
    (hahead : NoQuoteAhead other) : Sealed commas (text ++ other) := by
  induction h with
  | nil => exact hother
  | inert hc _ ih => exact .inert hc (ih hother)
  | comma _ ih => exact .comma (ih hother)
  | @quoted _ quote text rest hquote hback hclosed _ ih =>
    rw [List.append_assoc]
    refine .quoted hquote hback ?_ (ih hother)
    -- Where the text ends with this quote, the other text comes next.
    cases rest with
    | nil => exact hahead.head?_ne hquote
    | cons c rest => exact hclosed
  | @group _ inner rest hinner _ _ ih =>
    rw [List.cons_append, List.append_assoc]
    exact .group hinner (ih hother)

/-- The items of a list with commas between them, and whatever is sealed after
each comma. -/
theorem intercalate {gap : List Char} (hgap : ∀ c ∈ gap, isInert c = true)
    {parts : List (List Char)} (h : ∀ part ∈ parts, Sealed true part) :
    Sealed true ((',' :: gap).intercalate parts) := by
  induction parts with
  | nil => exact .nil true
  | cons part parts ih =>
    obtain ⟨hpart, hparts⟩ := List.forall_mem_cons.mp h
    cases parts with
    | nil =>
      rw [List.intercalate_singleton]
      exact hpart
    | cons next parts =>
      rw [List.intercalate_cons_cons, List.append_assoc]
      exact hpart.append (.comma (inert_append hgap (ih hparts)))
        (noQuoteAhead_cons rfl _)

end Sealed

/-! ## The scanner of statements -/

namespace Scan

variable {quote c : Char} {text other : List Char}

theorem step_of_isInert (h : isInert c = true) (rest : List Char) :
    Scan.normal.step c rest = (.normal, some (.char c)) := by
  obtain ⟨hquote, hstructural⟩ := of_isInert h
  simp only [structural, List.mem_cons, List.not_mem_nil, or_false, not_or]
    at hstructural
  simp only [isQuote, Bool.or_eq_false_iff, beq_eq_false_iff_ne] at hquote
  show stepNormal c rest = _
  unfold stepNormal
  rw [if_neg (by simp [hquote]), if_neg (by simp [hstructural]),
    if_neg (by simp [hstructural]), if_neg (by simp [hstructural]),
    if_neg (by simp [hstructural])]

theorem step_quote (h : isQuote quote = true) (rest : List Char) :
    Scan.normal.step quote rest = (.quoted quote, some (.char quote)) := by
  simp only [isQuote, Bool.or_eq_true, beq_iff_eq, or_assoc] at h
  show stepNormal quote rest = _
  unfold stepNormal
  rw [if_pos h]

/-- Between quotes a character that is neither the quote nor, in a string, a
backslash is kept. -/
theorem step_quoted_of_ne (hquote : c ≠ quote)
    (hback : quote = '\'' → c ≠ '\\') (rest : List Char) :
    (Scan.quoted quote).step c rest = (.quoted quote, some (.char c)) := by
  show (stepQuoted quote c rest, _) = _
  unfold stepQuoted
  rw [if_neg fun h => hback h.2 h.1, if_neg hquote]

/-- A doubled quote keeps the scanner between the quotes. -/
theorem step_quoted_doubled (h : isQuote quote = true) (rest : List Char) :
    (Scan.quoted quote).step quote (quote :: rest)
      = (.copy 0 (.quoted quote), some (.char quote)) := by
  show (stepQuoted quote quote (quote :: rest), _) = _
  unfold stepQuoted
  rw [if_neg fun hback => ne_backslash_of_isQuote h hback.1,
    if_pos rfl, if_pos (List.head?_cons)]

/-- A quote that is not doubled ends the text between quotes. -/
theorem step_quoted_closing (h : isQuote quote = true) {rest : List Char}
    (hclosed : rest.head? ≠ some quote) :
    (Scan.quoted quote).step quote rest = (.normal, some (.char quote)) := by
  show (stepQuoted quote quote rest, _) = _
  unfold stepQuoted
  rw [if_neg fun hback => ne_backslash_of_isQuote h hback.1,
    if_pos rfl, if_neg hclosed]

theorem marks_cons_of_step {state : Scan} (next : Scan) {rest : List Char}
    (h : state.step c rest = (next, some (.char c))) :
    marks state (c :: rest) = .char c :: marks next rest := by
  rw [marks, h]
  rfl

/-- The scanner passes over a text between quotes. -/
theorem marks_quoted_append (h : isQuote quote = true)
    (hback : quote = '\'' → '\\' ∉ text) (hclosed : other.head? ≠ some quote) :
    marks (.quoted quote) (doubled quote text ++ quote :: other)
      = (doubled quote text).map .char ++ .char quote :: marks .normal other := by
  induction text with
  | nil => exact marks_cons_of_step _ (step_quoted_closing h hclosed)
  | cons c text ih =>
    have ih := ih fun heq hmem => hback heq (List.mem_cons_of_mem _ hmem)
    by_cases hc : c = quote
    · subst hc
      rw [doubled_cons_self, List.cons_append, List.cons_append,
        marks_cons_of_step _ (step_quoted_doubled h _),
        marks_cons_of_step (.quoted c) rfl, ih]
      rfl
    · have hc' : quote = '\'' → c ≠ '\\' := fun heq hback' =>
        hback heq (hback' ▸ List.mem_cons_self)
      rw [doubled_cons_of_ne hc, List.cons_append,
        marks_cons_of_step _ (step_quoted_of_ne hc hc' _), ih]
      rfl

end Scan

namespace Sealed

variable {commas : Bool} {text other : List Char}

/-- **The scanner passes over a sealed text**: it keeps every character and
goes on behind the text as before it. -/
theorem marks_append (h : Sealed commas text) (hahead : NoQuoteAhead other) :
    Scan.marks .normal (text ++ other)
      = text.map .char ++ Scan.marks .normal other := by
  induction h generalizing other with
  | nil => rfl
  | inert hc _ ih =>
    rw [List.cons_append, Scan.marks_cons_of_step _ (Scan.step_of_isInert hc _),
      ih hahead]
    rfl
  | comma _ ih =>
    rw [List.cons_append, Scan.marks_cons_of_step .normal rfl, ih hahead]
    rfl
  | @quoted _ quote text rest hquote hback hclosed _ ih =>
    have hclosed' : (rest ++ other).head? ≠ some quote := by
      cases rest with
      | nil => exact hahead.head?_ne hquote
      | cons c rest => exact hclosed
    rw [enquoted, List.append_assoc, List.cons_append, List.append_assoc,
      Scan.marks_cons_of_step _ (Scan.step_quote hquote _)]
    rw [List.singleton_append,
      Scan.marks_quoted_append hquote hback hclosed', ih hahead]
    simp
  | @group _ inner rest _ _ ihinner ih =>
    -- What follows the inside of the group is its bracket, not `other`.
    have hbracket : NoQuoteAhead (')' :: (rest ++ other)) :=
      noQuoteAhead_cons rfl _
    rw [List.cons_append, List.append_assoc, List.cons_append,
      Scan.marks_cons_of_step .normal rfl, ihinner hbracket,
      Scan.marks_cons_of_step .normal rfl, ih hahead]
    simp

end Sealed

section Statements

variable {text other : List Char}

/-- What the scanner keeps of a text stands in front of the first chunk of the
rest. -/
theorem chunks_append (text : List Char) (following : List Mark) :
    chunks (text.map .char ++ following)
      = text.foldr prepend (chunks following) := by
  induction text with
  | nil => rfl
  | cons c text ih =>
    show prepend c (chunks (text.map .char ++ following)) = _
    rw [ih]
    rfl

theorem chunks_append_stop (following : List Mark) :
    chunks (text.map .char ++ .stop :: following)
      = text :: chunks following := by
  rw [chunks_append, chunks, foldr_prepend, List.append_nil]

/-- **A sealed text up to its semicolon** is one statement. -/
theorem statements_append {commas : Bool} (h : Sealed commas text)
    (hne : trim text ≠ []) :
    statements (text ++ ';' :: other) = trim text :: statements other := by
  have hstop : Scan.marks .normal (';' :: other)
      = .stop :: Scan.marks .normal other := rfl
  unfold statements
  rw [h.marks_append (noQuoteAhead_cons rfl other), hstop, chunks_append_stop,
    List.map_cons, List.filter_cons_of_pos]
  rw [Bool.not_eq_true', List.isEmpty_eq_false_iff]
  exact hne

theorem chunks_ne_nil (marks : List Mark) : chunks marks ≠ [] := by
  induction marks with
  | nil => exact List.cons_ne_nil _ _
  | cons mark marks ih =>
    cases mark with
    | stop => exact List.cons_ne_nil _ _
    | char c =>
      obtain ⟨piece, pieces, h⟩ := List.exists_cons_of_ne_nil ih
      rw [chunks, h]
      exact List.cons_ne_nil _ _

/-- A newline in front of a statement is not part of it. -/
theorem statements_newline (text : List Char) :
    statements ('\n' :: text) = statements text := by
  obtain ⟨piece, pieces, h⟩ :=
    List.exists_cons_of_ne_nil (chunks_ne_nil (Scan.marks .normal text))
  have hnewline : chunks (Scan.marks .normal ('\n' :: text))
      = ('\n' :: piece) :: pieces := by
    show prepend '\n' (chunks (Scan.marks .normal text)) = _
    rw [h]
    rfl
  have htrim : trim ('\n' :: piece) = trim piece :=
    trim_cons_of_isBlank (by decide)
  unfold statements
  rw [hnewline, h, List.map_cons, List.map_cons, htrim]

/-- **The statements of a text** that gives each a semicolon and parts them by
newlines. -/
theorem statements_intercalate {texts : List (List Char)}
    (h : ∀ text ∈ texts, Sealed true text ∧ trim text ≠ []) :
    statements (['\n'].intercalate (texts.map (· ++ [';'])))
      = texts.map trim := by
  induction texts with
  | nil => rfl
  | cons text texts ih =>
    obtain ⟨⟨hsealed, hne⟩, hrest⟩ := List.forall_mem_cons.mp h
    cases texts with
    | nil =>
      rw [List.map_singleton, List.intercalate_singleton,
        statements_append hsealed hne]
      rfl
    | cons next texts =>
      -- The newline goes with the next statement and is trimmed away there.
      rw [List.map_cons, List.map_cons, List.intercalate_cons_cons,
        List.append_assoc, List.append_assoc, List.singleton_append,
        List.singleton_append, statements_append hsealed hne,
        statements_newline]
      exact congrArg (trim text :: ·) (ih hrest)

end Statements

/-! ## Brackets and lists -/

section Closed

variable {quote : Char} {commas : Bool} {text rest : List Char}

/-- A doubled quote closes and opens again, so a text between quotes is a row
of texts without them. -/
theorem closed_doubled (hquote : isQuote quote = true)
    (hrest : Closed commas rest) {front : List Char} (hfront : quote ∉ front) :
    Closed commas
      (quote :: (front ++ (doubled quote text ++ quote :: rest))) := by
  induction text generalizing front with
  | nil => exact .quoted hquote hfront hrest
  | cons c text ih =>
    by_cases hc : c = quote
    · subst hc
      rw [doubled_cons_self]
      exact .quoted hquote hfront (ih List.not_mem_nil)
    · have hfront' : quote ∉ front ++ [c] := fun hmem =>
        (List.mem_append.mp hmem).elim hfront
          fun hlast => hc (List.mem_singleton.mp hlast).symm
      have hclosed := ih hfront'
      rw [List.append_assoc] at hclosed
      rw [doubled_cons_of_ne hc]
      exact hclosed

theorem closed_of_inert (h : ∀ c ∈ text, isInert c = true) :
    Closed commas text := by
  induction text with
  | nil => exact .nil commas
  | cons c rest ih =>
    obtain ⟨hc, hrest⟩ := List.forall_mem_cons.mp h
    obtain ⟨hquote, hstructural⟩ := of_isInert hc
    simp only [structural, List.mem_cons, not_or] at hstructural
    exact .plain hquote ⟨hstructural.1, hstructural.2.1⟩
      (fun hcomma => absurd hcomma hstructural.2.2.1) (ih hrest)

/-- **A sealed text is closed**: the search for a bracket and the cut at
commas pass over it, too. -/
theorem Sealed.closed (h : Sealed commas text) : Closed commas text := by
  induction h with
  | nil => exact .nil _
  | inert hc _ ih =>
    exact (closed_of_inert (List.forall_mem_singleton.mpr hc)).append ih
  | comma _ ih => exact .plain rfl (by decide) (fun _ => rfl) ih
  | quoted hquote _ _ _ ih =>
    rw [enquoted, List.cons_append, List.append_assoc]
    exact closed_doubled hquote ih List.not_mem_nil
  | group _ _ ihinner ih => exact .group ihinner ih

/-- **A group around a sealed text** is found as a whole. -/
theorem Sealed.group?_eq (h : Sealed commas text) :
    group? ('(' :: (text ++ ')' :: rest)) = some (text, rest) :=
  h.closed.group?_eq

end Closed

end SchemaTyping.Sql
