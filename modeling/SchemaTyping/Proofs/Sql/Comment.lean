import Mathlib.Data.List.Infix
import SchemaTyping.Proofs.Sql.Boundary
import SchemaTyping.Sql.Dump

/-!
# Comments are blanks

A comment between two parts of a dump may hold anything: quotes that are never
closed, semicolons, whole statements. The dump says the same without it. A
bracketed comment stands for a space, and a comment to the end of a line for
nothing but that end (`readsAlike_comment`).

Two things are asked of the part before the comment. It leaves the scanner in
the normal state, since in a string the marks of a comment are text; and its
last character is not taken for half of the mark, as the dash of `a - -- b`
would be without the space. What a bracketed comment holds has none of the
marks in it, since comments are nested, and does not end with a slash, which
would make the star of the closing mark open another comment.
-/

namespace SchemaTyping.Sql

open Text

variable {text other : List Char}

/-! ## What comments hold -/

/-- **A text that a bracketed comment holds as a whole**: no mark of a comment
stands in it, and none begins at its end. -/
structure BracketedText (text : List Char) : Prop where
  no_opening : ¬ ['/', '*'] <:+: text
  no_closing : ¬ ['*', '/'] <:+: text
  ends : text.getLast? ≠ some '/'

theorem BracketedText.of_cons {c : Char} (h : BracketedText (c :: text)) :
    BracketedText text where
  no_opening hmark := h.no_opening (List.infix_cons hmark)
  no_closing hmark := h.no_closing (List.infix_cons hmark)
  ends hlast := h.ends (by rw [List.getLast?_cons, hlast]; rfl)

namespace Scan

/-- Inside the outermost comment every character of such a text is dropped. -/
theorem step_block_of_bracketedText {c : Char}
    (h : BracketedText (c :: text)) (other : List Char) :
    (Scan.block 0).step c (text ++ '*' :: '/' :: other) = (.block 0, none) := by
  have hopening : ¬ (c = '/'
      ∧ (text ++ '*' :: '/' :: other).head? = some '*') := by
    rintro ⟨rfl, hhead⟩
    cases text with
    | nil => exact h.ends rfl
    | cons d text =>
      cases hhead
      exact h.no_opening (List.prefix_append ['/', '*'] text).isInfix
  have hclosing : ¬ (c = '*'
      ∧ (text ++ '*' :: '/' :: other).head? = some '/') := by
    rintro ⟨rfl, hhead⟩
    cases text with
    | nil => cases hhead
    | cons d text =>
      cases hhead
      exact h.no_closing (List.prefix_append ['*', '/'] text).isInfix
  show stepBlock 0 c (text ++ '*' :: '/' :: other) = _
  unfold stepBlock
  rw [if_neg hopening, if_neg hclosing]

/-- **A bracketed comment leaves a space behind.** -/
theorem marks_bracketed (h : BracketedText text) (other : List Char) :
    marks .normal ("/*".toList ++ (text ++ ("*/".toList ++ other)))
      = .char ' ' :: marks .normal other := by
  have hinside : marks (.block 0) (text ++ '*' :: '/' :: other)
      = .char ' ' :: marks .normal other := by
    induction text with
    | nil => rfl
    | cons c text ih =>
      rw [List.cons_append, marks, step_block_of_bracketedText h]
      exact ih h.of_cons
  exact hinside

/-- **A comment to the end of the line** leaves that end behind. -/
theorem marks_line (h : '\n' ∉ text) (other : List Char) :
    marks .line (text ++ '\n' :: other) = .char '\n' :: marks .normal other := by
  induction text with
  | nil => rfl
  | cons c text ih =>
    have hc : c ≠ '\n' := fun heq => h (heq ▸ List.mem_cons_self)
    have hstep : Scan.line.step c (text ++ '\n' :: other) = (.line, none) :=
      if_neg hc
    rw [List.cons_append, marks, hstep]
    exact ih fun hmem => h (List.mem_cons_of_mem c hmem)

end Scan

/-! ## Dumps that say the same -/

/-- **Two dumps say the same**: they have the same statements, and so the same
operations in every dialect. -/
def ReadsAlike (text other : List Char) : Prop :=
  statements text = statements other
    ∧ ∀ dialect, dumpOperations dialect (String.ofList text)
        = dumpOperations dialect (String.ofList other)

theorem ReadsAlike.of_statements (h : statements text = statements other) :
    ReadsAlike text other := by
  refine ⟨h, fun dialect => ?_⟩
  unfold dumpOperations
  rw [String.toList_ofList, String.toList_ofList, h]

/-- What the scanner passes on decides what a dump says, behind any text that
leaves it in the normal state. -/
theorem readsAlike_of_marks {front : List Char}
    (h : Scan.after .normal front = .normal) (htext : Separate front text)
    (hother : Separate front other)
    (hmarks : Scan.marks .normal text = Scan.marks .normal other) :
    ReadsAlike (front ++ text) (front ++ other) := by
  have hnormal : Scan.normal.WellFormed := trivial
  refine .of_statements ?_
  unfold statements
  rw [Scan.marks_append hnormal htext h, Scan.marks_append hnormal hother h,
    hmarks]

/-- **A comment is a blank.** Behind a text that leaves the scanner in the
normal state, a bracketed comment may be replaced by a space, and a comment to
the end of the line may be left out, whatever the comment holds and whatever
follows it. -/
theorem readsAlike_comment (before comment behind : List Char)
    (h : Scan.after .normal before = .normal) :
    (BracketedText comment →
      ReadsAlike
        (before ++ ("/*".toList ++ (comment ++ ("*/".toList ++ behind))))
        (before ++ ' ' :: behind))
    ∧ ('\n' ∉ comment →
      ReadsAlike (before ++ ("#".toList ++ (comment ++ '\n' :: behind)))
        (before ++ '\n' :: behind))
    ∧ ('\n' ∉ comment → before.getLast? ≠ some '-' →
      ReadsAlike (before ++ ("--".toList ++ (comment ++ '\n' :: behind)))
        (before ++ '\n' :: behind)) := by
  have hspace : Separate before (' ' :: behind) :=
    separate_cons (by decide) (by decide) _ _
  have hnewline : Separate before ('\n' :: behind) :=
    separate_cons (by decide) (by decide) _ _
  refine ⟨fun hcomment => ?_, fun hcomment => ?_, fun hcomment hdash => ?_⟩
  · exact readsAlike_of_marks h
      (separate_cons (by decide) (by decide) _ _) hspace
      (Scan.marks_bracketed hcomment behind)
  · exact readsAlike_of_marks h
      (separate_cons (by decide) (by decide) _ _) hnewline
      (Scan.marks_line hcomment behind)
  · have hcomment' : '\n' ∉ '-' :: comment :=
      List.not_mem_cons_of_ne_of_not_mem (by decide) hcomment
    exact readsAlike_of_marks h (separate_dash hdash _) hnewline
      (Scan.marks_line hcomment' behind)

theorem readsAlike_comment_unclosed :
    ReadsAlike
        ("CREATE TABLE t (a int".toList ++ ("/*".toList
          ++ ("; it's $$ -- ".toList ++ ("*/".toList ++ ", b int);".toList))))
        ("CREATE TABLE t (a int".toList ++ ' ' :: ", b int);".toList)
      ∧ ReadsAlike
        ("CREATE TABLE t (a int".toList ++ ("#".toList
          ++ ("; it's $$ -- ".toList ++ '\n' :: ", b int);".toList)))
        ("CREATE TABLE t (a int".toList ++ '\n' :: ", b int);".toList)
      ∧ ReadsAlike
        ("CREATE TABLE t (a int".toList ++ ("--".toList
          ++ ("; it's $$ -- ".toList ++ '\n' :: ", b int);".toList)))
        ("CREATE TABLE t (a int".toList ++ '\n' :: ", b int);".toList) := by
  obtain ⟨hbracketed, hhash, hdash⟩ :=
    readsAlike_comment "CREATE TABLE t (a int".toList "; it's $$ -- ".toList
      ", b int);".toList (by decide)
  exact ⟨hbracketed ⟨by decide, by decide, by decide⟩, hhash (by decide),
    hdash (by decide) (by decide)⟩

end SchemaTyping.Sql
