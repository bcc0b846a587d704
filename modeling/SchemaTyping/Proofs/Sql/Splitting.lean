import SchemaTyping.Proofs.Sql.Chunk
import SchemaTyping.Proofs.Sql.TableBody

/-!
# Splitting a dump

Two laws say that the statements of a dump can be taken one by one. A dump that is
put behind another, with a semicolon between them, adds its statements and takes
nothing away (`semicolon_separates`); and a statement is split once and for all,
since it is the only statement of itself (`statements_of_mem`).

The first asks that the dump in front leaves the scanner in the normal state: a
semicolon in a string parts nothing. It holds for operations, too, although the
types that a dump declares are known in what follows it, because they are not
known in what stands before. The second asks for nothing, so it also holds of the
last statement of a dump that ends in a string, a dollar-quoted body or a comment.
-/

namespace SchemaTyping.Sql

open Text

/-! ## Dumps in a row -/

/-- The chunks around the end of a statement. -/
theorem chunks_stop_append (marks following : List Mark) :
    chunks (marks ++ .stop :: following) = chunks marks ++ chunks following := by
  induction marks with
  | nil => rfl
  | cons mark marks ih =>
    cases mark with
    | stop =>
      show [] :: chunks (marks ++ .stop :: following) = _
      rw [ih]
      rfl
    | char c =>
      obtain ⟨piece, pieces, h⟩ := List.exists_cons_of_ne_nil (chunks_ne_nil marks)
      show prepend c (chunks (marks ++ .stop :: following)) = _
      rw [ih, chunks, h]
      rfl

section Semicolon

variable {text : List Char}

/-- **The statements of two dumps in a row** are those of the one and those of
the other. -/
theorem statements_semicolon_append (h : Scan.after .normal text = .normal)
    (behind : List Char) :
    statements (text ++ ';' :: behind) = statements text ++ statements behind := by
  have hnormal : Scan.normal.WellFormed := trivial
  have hborder : Separate text (';' :: behind) :=
    separate_cons (by decide) (by decide) _ _
  have hstop : Scan.marks .normal (';' :: behind)
      = .stop :: Scan.marks .normal behind := rfl
  unfold statements
  rw [Scan.marks_append hnormal hborder h, hstop, chunks_stop_append,
    List.map_append, List.filter_append]

/-- The second dump is read with the enumerated types of the first. -/
theorem dumpOperations_semicolon_append (dialect : Dialect)
    (h : Scan.after .normal text = .normal) (behind : List Char) :
    dumpOperations dialect (String.ofList (text ++ ';' :: behind))
      = dumpOperations dialect (String.ofList text)
        ++ definitions dialect (declared .empty (statements text))
          (statements behind) := by
  unfold dumpOperations
  rw [String.toList_ofList, String.toList_ofList, statements_semicolon_append h,
    definitions_append]

/-- **A semicolon separates**, behind a text that leaves the scanner in the
normal state: the statements of the two sides stand side by side, and nothing
that follows changes the operations of what stands before. -/
theorem semicolon_separates (before behind : List Char)
    (h : Scan.after .normal before = .normal) :
    statements (before ++ ';' :: behind) = statements before ++ statements behind
    ∧ ∀ dialect, dumpOperations dialect (String.ofList before)
        <+: dumpOperations dialect (String.ofList (before ++ ';' :: behind)) := by
  refine ⟨statements_semicolon_append h behind, fun dialect => ?_⟩
  rw [dumpOperations_semicolon_append dialect h]
  exact List.prefix_append _ _

/-- A type that is declared again, in front of a quote that is never closed. -/
theorem semicolon_separates_redeclared :
    let before := "CREATE TYPE m AS ENUM ('a;''');CREATE TABLE t (c m) /* ; */ - ".toList
    let behind := "- CREATE TYPE m AS ENUM ('b'); 'CREATE TABLE t (c m);".toList
    Scan.after .normal before = .normal
      ∧ statements (before ++ ';' :: behind)
        = statements before ++ statements behind
      ∧ ∀ dialect, dumpOperations dialect (String.ofList before)
        <+: dumpOperations dialect (String.ofList (before ++ ';' :: behind)) := by
  intro before behind
  have h : Scan.after .normal before = .normal := by decide
  exact ⟨h, semicolon_separates before behind h⟩

end Semicolon

/-! ## Statements of statements -/

/-- A kept text is one statement, if there is more than blanks in it. -/
theorem statements_of_keeps {text : List Char} (h : Scan.Keeps .normal text)
    (hne : trim text ≠ []) : statements text = [trim text] := by
  have hchunks : chunks (text.map .char) = [text] := by
    rw [← List.append_nil (text.map Mark.char), chunks_append, chunks,
      foldr_prepend, List.append_nil]
  unfold statements
  rw [h.marks_eq, hchunks, List.map_singleton, List.filter_cons_of_pos]
  · rfl
  · rw [Bool.not_eq_true', List.isEmpty_eq_false_iff]
    exact hne

/-- **A statement is split once and for all**: it is its only statement, from
whatever text it comes. -/
theorem statements_of_mem {dump statement : List Char}
    (h : statement ∈ statements dump) : statements statement = [statement] := by
  obtain ⟨hmem, hne⟩ := List.mem_filter.mp h
  obtain ⟨chunk, hchunk, rfl⟩ := List.mem_map.mp hmem
  have hkept := (Scan.keeps_of_mem_chunks hchunk).trim
  rw [Bool.not_eq_true', List.isEmpty_eq_false_iff] at hne
  rw [statements_of_keeps hkept (by rwa [trim_trim]), trim_trim]

/-- Comments between the halves of marks, and a string that is never closed. -/
theorem statements_of_mem_unclosed :
    let statement := "a - - b /\n* $t $ 'it\\'s -- x".toList
    statement ∈ statements "; a -/* ; */- b /#\n* $t/**/$ 'it\\'s -- x  ".toList
      ∧ statements statement = [statement] := by
  intro statement
  have h : statement
      ∈ statements "; a -/* ; */- b /#\n* $t/**/$ 'it\\'s -- x  ".toList := by
    decide
  exact ⟨h, statements_of_mem h⟩

end SchemaTyping.Sql
