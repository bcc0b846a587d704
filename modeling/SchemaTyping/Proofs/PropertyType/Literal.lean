import SchemaTyping.Proofs.PropertyType.Reading
import SchemaTyping.Proofs.PropertyType.Whole
import SchemaTyping.Proofs.Sql.Sealed
import SchemaTyping.Proofs.Text.Number
import SchemaTyping.Proofs.Text.Trim
import SchemaTyping.PropertyType.Printer

/-!
# String literals in the text of a type

A string literal is written between single quotes, with a backslash in front
of every quote and every backslash in it. The reader goes over this text
twice, and both times it knows less about backslashes. Where it looks for
bars, a quote is a delimiter, whatever stands in front of it. Where it takes
the quotes off, it drops the backslash in front of a quote, but not the one in
front of a backslash.

So a literal is read at all only if its text is whole although every quote in
it is taken for a delimiter, and what is read has all of its backslashes
doubled. `readChars_quote_eq_ok_iff` says this of every string.
That a text which is not whole is not read in some other way needs an
argument: the bar that parts it leaves a last piece that ends with a quote and
has nothing that could open it (`readAtom_unopened`).
-/

namespace SchemaTyping.PropertyType

open Text
open Sql (doubled doubled_cons_self doubled_cons_of_ne doubled_eq_self_iff)

/-! ## Escapes -/

section Escape

variable {c : Char} {text : List Char}

theorem escapeChar_of_ne (hback : c ≠ '\\') (hquote : c ≠ '\'') :
    escapeChar c = [c] :=
  if_neg (not_or.mpr ⟨hback, hquote⟩)

/-- The escape of a quote does not start with it. -/
theorem head?_escape_ne (text : List Char) :
    (text.flatMap escapeChar).head? ≠ some '\'' := by
  cases text with
  | nil => nofun
  | cons c text =>
    rw [List.flatMap_cons]
    by_cases hc : c = '\\' ∨ c = '\''
    · rw [escapeChar, if_pos hc]
      nofun
    · rw [escapeChar, if_neg hc]
      exact fun h => hc (.inr (Option.some.inj h))

/-- **Only quotes lose their escape**: the backslashes are left as they were
written. -/
theorem dropBefore_escape (text : List Char) :
    dropBefore '\\' '\'' (text.flatMap escapeChar) = doubled '\\' text := by
  induction text with
  | nil => rfl
  | cons c text ih =>
    rw [List.flatMap_cons]
    by_cases hback : c = '\\'
    · -- Neither of the two backslashes has a quote behind it.
      subst hback
      have hhead : ('\\' :: text.flatMap escapeChar).head? ≠ some '\'' := by
        rw [List.head?_cons]
        decide
      show dropBefore '\\' '\'' ('\\' :: '\\' :: text.flatMap escapeChar) = _
      rw [dropBefore_cons_of_head hhead,
        dropBefore_cons_of_head (head?_escape_ne text), ih, doubled_cons_self]
    rw [doubled_cons_of_ne hback]
    by_cases hquote : c = '\''
    · subst hquote
      show dropBefore '\\' '\'' ('\\' :: '\'' :: text.flatMap escapeChar) = _
      rw [dropBefore, if_pos ⟨rfl, rfl⟩, ih]
    · rw [escapeChar_of_ne hback hquote, List.singleton_append,
        dropBefore_cons_of_ne hback, ih]

theorem quote_not_mem_escape (h : '\'' ∉ text) :
    '\'' ∉ text.flatMap escapeChar := by
  intro hmem
  obtain ⟨c, hc, hmem⟩ := List.mem_flatMap.mp hmem
  have hne : '\'' ≠ c := fun heq => h (heq ▸ hc)
  unfold escapeChar at hmem
  split at hmem
  · simp only [List.mem_cons, List.not_mem_nil, or_false] at hmem
    exact hmem.elim (absurd · (by decide)) hne
  · exact hne (List.mem_singleton.mp hmem)

/-- A bar is written as itself, so what stands behind one is written for the
rest of the string. -/
theorem exists_eq_escape_of_bar {front rest : List Char}
    (h : text.flatMap escapeChar ++ ['\''] = front ++ '|' :: rest) :
    ∃ behind : List Char, rest = behind.flatMap escapeChar ++ ['\''] := by
  induction text generalizing front with
  | nil =>
    rcases List.cons_eq_append_iff.mp h with ⟨-, heq⟩ | ⟨front, -, heq⟩
    · cases heq
    · exact absurd heq.symm (List.append_ne_nil_of_right_ne_nil _ nofun)
  | cons c text ih =>
    rw [List.flatMap_cons, List.append_assoc] at h
    unfold escapeChar at h
    split at h
    · next hc =>
      rcases List.cons_eq_append_iff.mp h with ⟨-, heq⟩ | ⟨front, -, h⟩
      · cases heq
      rcases List.cons_eq_append_iff.mp h with ⟨-, heq⟩ | ⟨front, -, h⟩
      · cases heq
        exact absurd hc (by decide)
      · exact ih h
    · rcases List.cons_eq_append_iff.mp h with ⟨-, heq⟩ | ⟨front, -, h⟩
      · cases heq
        exact ⟨text, rfl⟩
      · exact ih h

end Escape

/-! ## Literals that are read -/

section Literal

variable (source text : List Char)

/-- What is read between the quotes of a literal. -/
theorem stringLiteral?_quote :
    stringLiteral? (quote text) = some (doubled '\\' text) := by
  have hlast : (text.flatMap escapeChar ++ ['\'']).getLast? = some '\'' :=
    List.getLast?_concat
  show (if _ ∧ (text.flatMap escapeChar ++ ['\'']).getLast? = some '\'' then _
    else _) = _
  rw [if_pos ⟨.inl rfl, hlast⟩, List.dropLast_concat, dropBefore_escape]

theorem readAtom_quote :
    readAtom source (quote text)
      = .ok (.stringLiteral (String.ofList (doubled '\\' text))) := by
  have hliteral := stringLiteral?_quote text
  unfold quote at hliteral ⊢
  rw [readAtom_cons_eq source _ (by decide), hliteral]

theorem solid_quote : Solid (quote text) :=
  have hmark : Solid ['\''] := .singleton (by decide)
  hmark.append (text.flatMap escapeChar) hmark

variable {text}

/-- A text without a quote is one quoted part. -/
theorem whole_quote {separator : Char} {inside : Bool} (h : '\'' ∉ text) :
    Whole separator inside (quote text) :=
  .quoted (.inl rfl) (quote_not_mem_escape h) (.nil inside)

end Literal

/-! ## Literals that are not read -/

section Unopened

variable (source : List Char)

/-- A text that ends with a quote but does not start with one is no type. -/
theorem readAtom_eq_error {first : Char} (rest : List Char)
    (hmark : first ≠ '?') (hquote : first ≠ '\'') :
    ∃ error, readAtom source (first :: (rest ++ ['\''])) = .error error := by
  have hlast : (rest ++ ['\'']).getLast? = some '\'' := List.getLast?_concat
  have hmem : '\'' ∈ first :: (rest ++ ['\'']) :=
    List.mem_cons_of_mem _ (List.mem_append_right _ List.mem_cons_self)
  have hliteral : stringLiteral? (first :: (rest ++ ['\''])) = none := by
    refine if_neg fun h => hquote ?_
    rw [hlast] at h
    exact (Option.some.inj h.2).symm
  rw [readAtom_cons_eq source _ hmark, hliteral,
    readInt64_eq_none hmem (by decide) (by decide)]
  dsimp only
  have hname : isName (first :: (rest ++ ['\''])) = false := by
    rw [isName, Bool.and_eq_false_iff, List.all_eq_false]
    exact .inr ⟨'\'', hmem, by decide⟩
  cases hcut : cutFirst '<' (first :: (rest ++ ['\''])) with
  | none =>
    rw [nameAndArguments, hcut]
    dsimp only
    rw [readName, hname]
    exact ⟨_, rfl⟩
  | some found =>
    -- The quote is the last character behind the bracket, too.
    obtain ⟨before, after⟩ := found
    have hafter : after.getLast? ≠ some '>' := by
      intro hclose
      have heq := congrArg List.getLast? (append_of_cutFirst hcut)
      rw [← List.cons_append, List.getLast?_concat, List.getLast?_append,
        List.getLast?_cons, hclose] at heq
      cases heq
    rw [nameAndArguments, hcut]
    dsimp only
    rw [if_neg hafter]
    exact ⟨_, rfl⟩

/-- **The rest of a literal** whose opening quote is missing is no type. The
induction is along the blanks and question marks in front of it, of which
there may be any number. -/
theorem readAtom_unopened (text : List Char) :
    ∃ error, readAtom source (trim (text.flatMap escapeChar ++ ['\'']))
      = .error error := by
  induction text with
  | nil =>
    show ∃ error, readAtom source ['\''] = .error error
    rw [readAtom_cons_eq source _ (by decide)]
    exact ⟨_, rfl⟩
  | cons c text ih =>
    rw [List.flatMap_cons, List.append_assoc]
    have hmark : Solid ['\''] := .singleton (by decide)
    by_cases hspecial : c = '\\' ∨ c = '\''
    · rw [escapeChar, if_pos hspecial, List.cons_append, List.singleton_append]
      have hback : Solid ['\\'] := .singleton (by decide)
      have hsolid : Solid ('\\' :: (c :: text.flatMap escapeChar ++ ['\''])) :=
        hback.append (c :: text.flatMap escapeChar) hmark
      rw [← List.cons_append, hsolid.trim_eq]
      exact readAtom_eq_error source _ (by decide) (by decide)
    rw [escapeChar, if_neg hspecial, List.singleton_append]
    by_cases hblank : isBlank c = true
    · rw [trim_cons_of_isBlank hblank]
      exact ih
    have hfirst : Solid [c] := .singleton (Bool.eq_false_iff.mpr hblank)
    have hsolid : Solid (c :: (text.flatMap escapeChar ++ ['\''])) :=
      hfirst.append (text.flatMap escapeChar) hmark
    rw [hsolid.trim_eq]
    by_cases hnull : c = '?'
    · subst hnull
      obtain ⟨error, herror⟩ := ih
      rw [readAtom, herror]
      exact ⟨error, rfl⟩
    · exact readAtom_eq_error source _ hnull (hspecial ∘ .inr)

/-- If the members of a union are read, each of them is. -/
theorem readAtom_of_readMembers {found : List (List Char)}
    {types : List PropertyType} (h : readMembers source found = .ok types)
    {piece : List Char} (hmem : piece ∈ found) :
    ∃ type, readAtom source (trim piece) = .ok type := by
  induction found generalizing types with
  | nil => cases hmem
  | cons first found ih =>
    rw [readMembers] at h
    obtain ⟨type, htype, h⟩ := ok_of_bind_ok h
    obtain ⟨others, hothers, -⟩ := ok_of_bind_ok h
    rcases List.mem_cons.mp hmem with rfl | hmem
    · exact ⟨type, htype⟩
    · exact ih hothers hmem

/-- **A literal in several pieces** is no type: the last piece is the rest of it
behind some bar. -/
theorem readMembers_ne_ok {text first second : List Char}
    {others : List (List Char)} {types : List PropertyType}
    (h : pieces '|' (quote text) = some (first :: second :: others)) :
    readMembers source (first :: second :: others) ≠ .ok types := by
  intro hread
  obtain ⟨front, last, hlast, hjoin⟩ :=
    exists_eq_append_intercalate ['|'] first second others
  have htext : '\'' :: (text.flatMap escapeChar ++ ['\'']) = front ++ '|' :: last :=
    (intercalate_of_piecesFrom h).symm.trans hjoin
  rcases List.cons_eq_append_iff.mp htext with ⟨-, heq⟩ | ⟨front, -, heq⟩
  · cases heq
  obtain ⟨behind, rfl⟩ := exists_eq_escape_of_bar heq
  obtain ⟨error, herror⟩ := readAtom_unopened source behind
  obtain ⟨type, htype⟩ :=
    readAtom_of_readMembers source hread (List.mem_cons_of_mem _ hlast)
  rw [herror] at htype
  cases htype

end Unopened

/-! ## Which literals are read, and as what -/

/-- **A literal is read if and only if its text is whole**, and what is read
has each backslash of the string twice. -/
theorem readChars_quote_eq_ok_iff (text : List Char) (type : PropertyType) :
    readChars (quote text) = .ok type
      ↔ Whole '|' false (quote text)
        ∧ type = .stringLiteral (String.ofList (doubled '\\' text)) := by
  have hsolid := solid_quote text
  have hnonempty : (quote text).isEmpty = false := rfl
  rw [readChars_eq, hsolid.trim_eq, hnonempty, if_neg Bool.false_ne_true]
  by_cases hwhole : Whole '|' false (quote text)
  · rw [pieces_of_whole hwhole]
    dsimp only
    rw [readMembers, hsolid.trim_eq, readAtom_quote, readMembers]
    show Except.ok _ = Except.ok type ↔ _
    exact ⟨fun h => ⟨hwhole, (Except.ok.inj h).symm⟩, fun h => congrArg _ h.2.symm⟩
  refine iff_of_false (fun hread => ?_) fun h => hwhole h.1
  cases hpieces : pieces '|' (quote text) with
  | none =>
    rw [hpieces] at hread
    cases hread
  | some found =>
    rw [hpieces] at hread
    obtain ⟨types, htypes, -⟩ := ok_of_map_ok hread
    cases found with
    | nil => exact (piecesFrom_weight hpieces).1 rfl
    | cons piece others =>
      cases others with
      | nil => exact hwhole (wholeBehind_of_piecesFrom ⟨piece, hpieces⟩)
      | cons second others => exact readMembers_ne_ok _ hpieces htypes

/-- **Which string literals are read back**: those without backslashes whose
text is whole although each quote in it is taken for a delimiter. -/
theorem read_toString_stringLiteral_iff (value : String) :
    read (toString (stringLiteral value)) = .ok (stringLiteral value)
      ↔ Whole '|' false (quote value.toList) ∧ '\\' ∉ value.toList := by
  have hread : read (toString (stringLiteral value))
      = readChars (quote value.toList) :=
    congrArg readChars String.toList_ofList
  have hvalue : stringLiteral value
        = stringLiteral (String.ofList (doubled '\\' value.toList))
      ↔ doubled '\\' value.toList = value.toList := by
    rw [stringLiteral.injEq, ← String.toList_inj, String.toList_ofList]
    exact eq_comm
  rw [hread, readChars_quote_eq_ok_iff, hvalue, doubled_eq_self_iff]

/-- A string with a quote is not read, and one with a backslash is read as
another string. -/
theorem read_toString_its :
    read (toString (stringLiteral "it's")) = .error (.unbalanced "'it\\'s'")
      ∧ read (toString (stringLiteral "\\")) = .ok (stringLiteral "\\\\") := by
  constructor
  · show readChars ['\'', 'i', 't', '\\', '\'', 's', '\''] = _
    rw [readChars_eq]
    rfl
  · exact (readChars_quote_eq_ok_iff ['\\'] _).mpr
      ⟨whole_quote (by decide), rfl⟩

end SchemaTyping.PropertyType
