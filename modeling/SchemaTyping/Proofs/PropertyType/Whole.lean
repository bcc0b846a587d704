import SchemaTyping.PropertyType.Reader
import SchemaTyping.Proofs.Text.Pieces

/-!
# Text that no separator parts

The reader of types parts a text at bars and at commas, but only at those that
stand outside quotes and angle brackets. A text is **whole** for a separator
if its quotes are closed, its brackets match, and every such separator in it
stands inside quotes or brackets.

The reader finds this out with two counts, the open quote and the number of
open brackets. `Whole` says it without counting, and
`pieces_eq_singleton_iff` says that it is the same: the texts that come back
in one piece are the whole texts, and no others.
-/

namespace SchemaTyping.PropertyType

open Text

/-- The characters that open and close something. -/
def delimiters : List Char := ['\'', '"', '<', '>']

/-- **A whole text**: one that no separator parts. Inside brackets, where the
first argument is `true`, separators may stand anywhere. -/
inductive Whole (separator : Char) : Bool → List Char → Prop
  | nil (inside : Bool) : Whole separator inside []
  | plain {inside : Bool} {c : Char} {rest : List Char}
      (not_delimiter : c ∉ delimiters) (allowed : inside = true ∨ c ≠ separator)
      (rest_whole : Whole separator inside rest) :
      Whole separator inside (c :: rest)
  | quoted {inside : Bool} {quote : Char} {text rest : List Char}
      (isQuote : quote = '\'' ∨ quote = '"') (closes : quote ∉ text)
      (rest_whole : Whole separator inside rest) :
      Whole separator inside (quote :: (text ++ quote :: rest))
  | group {inside : Bool} {inner rest : List Char}
      (inner_whole : Whole separator true inner)
      (rest_whole : Whole separator inside rest) :
      Whole separator inside ('<' :: (inner ++ '>' :: rest))

variable {separator c quote : Char} {inside : Bool} {depth : Nat}
  {text other : List Char}

theorem not_mem_delimiters_iff :
    c ∉ delimiters ↔ ¬ (c = '\'' ∨ c = '"') ∧ c ≠ '<' ∧ c ≠ '>' := by
  simp only [delimiters, List.mem_cons, List.not_mem_nil, or_false, not_or,
    and_assoc, ne_eq]

namespace Whole

theorem plain_append (h : ∀ c ∈ text, c ∉ delimiters ∧ c ≠ separator)
    (hother : Whole separator inside other) :
    Whole separator inside (text ++ other) := by
  induction text with
  | nil => exact hother
  | cons c rest ih =>
    obtain ⟨hc, hrest⟩ := List.forall_mem_cons.mp h
    exact .plain hc.1 (.inr hc.2) (ih hrest)

theorem of_plain (h : ∀ c ∈ text, c ∉ delimiters ∧ c ≠ separator) :
    Whole separator inside text := by
  rw [← List.append_nil text]
  exact plain_append h (.nil inside)

/-- **Whole texts in a row** are whole. -/
theorem append (h : Whole separator inside text)
    (hother : Whole separator inside other) :
    Whole separator inside (text ++ other) := by
  induction h with
  | nil => exact hother
  | plain hc hallowed _ ih => exact .plain hc hallowed (ih hother)
  | quoted hquote hcloses _ ih =>
    rw [List.cons_append, List.append_assoc]
    exact .quoted hquote hcloses (ih hother)
  | group hinner _ _ ih =>
    rw [List.cons_append, List.append_assoc]
    exact .group hinner (ih hother)

/-- A list is whole with what stands between its items. -/
theorem intercalate {gap : List Char} (hgap : Whole separator inside gap)
    {parts : List (List Char)} (h : ∀ part ∈ parts, Whole separator inside part) :
    Whole separator inside (gap.intercalate parts) := by
  induction parts with
  | nil => exact .nil inside
  | cons part parts ih =>
    obtain ⟨hpart, hparts⟩ := List.forall_mem_cons.mp h
    cases parts with
    | nil =>
      rw [List.intercalate_singleton]
      exact hpart
    | cons next parts =>
      rw [List.intercalate_cons_cons, List.append_assoc]
      exact hpart.append (hgap.append (ih hparts))

end Whole

/-! ## The steps of the reader -/

theorem piecesFrom_plain (hc : c ∉ delimiters)
    (hallowed : depth ≠ 0 ∨ c ≠ separator) :
    piecesFrom separator none depth (c :: text)
      = (piecesFrom separator none depth text).map (prepend c) := by
  obtain ⟨hquote, hopen, hclose⟩ := not_mem_delimiters_iff.mp hc
  rw [piecesFrom, if_neg hquote, if_neg hopen, if_neg hclose,
    if_neg fun h => hallowed.elim (· h.2) (· h.1)]

theorem piecesFrom_quote (h : quote = '\'' ∨ quote = '"') :
    piecesFrom separator none depth (quote :: text)
      = (piecesFrom separator (some quote) depth text).map (prepend quote) := by
  rw [piecesFrom, if_pos h]

theorem piecesFrom_open :
    piecesFrom separator none depth ('<' :: text)
      = (piecesFrom separator none (depth + 1) text).map (prepend '<') := by
  rw [piecesFrom, if_neg (by decide), if_pos rfl]

theorem piecesFrom_close :
    piecesFrom separator none (depth + 1) ('>' :: text)
      = (piecesFrom separator none depth text).map (prepend '>') := by
  rw [piecesFrom, if_neg (by decide), if_neg (by decide), if_pos rfl,
    if_neg (Nat.succ_ne_zero depth), Nat.add_sub_cancel]

theorem piecesFrom_separator (h : separator ∉ delimiters) :
    piecesFrom separator none 0 (separator :: text)
      = (piecesFrom separator none 0 text).map ([] :: ·) := by
  obtain ⟨hquote, hopen, hclose⟩ := not_mem_delimiters_iff.mp h
  rw [piecesFrom, if_neg hquote, if_neg hopen, if_neg hclose, if_pos ⟨rfl, rfl⟩]

theorem piecesFrom_quoted_append (h : quote ∉ text) :
    piecesFrom separator (some quote) depth (text ++ quote :: other)
      = (piecesFrom separator none depth other).map
          ((text ++ [quote]).foldr prepend) := by
  induction text with
  | nil =>
    rw [List.nil_append, piecesFrom, if_pos rfl]
    rfl
  | cons c text ih =>
    have hc : c ≠ quote := fun heq => h (heq ▸ List.mem_cons_self)
    rw [List.cons_append, piecesFrom, if_neg hc,
      ih fun hmem => h (List.mem_cons_of_mem _ hmem), Option.map_map]
    rfl

/-! ## Whole texts come back in one piece -/

/-- **The reader passes over a whole text**, and inside brackets over one with
separators too. -/
theorem Whole.piecesFrom_append (h : Whole separator inside text)
    (hdepth : inside = true → depth ≠ 0) :
    piecesFrom separator none depth (text ++ other)
      = (piecesFrom separator none depth other).map (text.foldr prepend) := by
  induction h generalizing depth other with
  | nil => exact Option.map_id'.symm
  | plain hc hallowed _ ih =>
    rw [List.cons_append, piecesFrom_plain hc (hallowed.imp_left hdepth), ih hdepth,
      Option.map_map]
    rfl
  | quoted hquote hcloses _ ih =>
    rw [List.cons_append, List.append_assoc, piecesFrom_quote hquote, List.cons_append,
      piecesFrom_quoted_append hcloses, ih hdepth, Option.map_map, Option.map_map]
    refine congrArg (Option.map · _) (funext fun pieces => ?_)
    simp
  | group _ _ ihinner ih =>
    -- Inside the brackets the depth is positive, whatever it is outside.
    rw [List.cons_append, List.append_assoc, piecesFrom_open, List.cons_append,
      ihinner fun _ => Nat.succ_ne_zero depth, piecesFrom_close, ih hdepth,
      Option.map_map, Option.map_map, Option.map_map]
    refine congrArg (Option.map · _) (funext fun pieces => ?_)
    simp

theorem pieces_of_whole (h : Whole separator false text) :
    pieces separator text = some [text] := by
  have hpieces : pieces separator (text ++ []) = some (text.foldr prepend [[]]) :=
    h.piecesFrom_append nofun
  rw [foldr_prepend, List.append_nil] at hpieces
  exact hpieces

theorem pieces_append_separator (hseparator : separator ∉ delimiters)
    (h : Whole separator false text) :
    pieces separator (text ++ separator :: other)
      = (pieces separator other).map (text :: ·) := by
  have hpieces : pieces separator (text ++ separator :: other)
      = (piecesFrom separator none 0 (separator :: other)).map
          (text.foldr prepend) :=
    h.piecesFrom_append nofun
  rw [hpieces, piecesFrom_separator hseparator, Option.map_map]
  refine congrArg (Option.map · _) (funext fun found => ?_)
  rw [Function.comp_apply, foldr_prepend, List.append_nil]

/-- **The pieces of a list** of whole texts: what follows a separator belongs
to the next of them. -/
theorem pieces_intercalate (hseparator : separator ∉ delimiters)
    {gap part : List Char} {parts : List (List Char)}
    (hgap : ∀ c ∈ gap, c ∉ delimiters ∧ c ≠ separator)
    (h : ∀ p ∈ part :: parts, Whole separator false p) :
    pieces separator ((separator :: gap).intercalate (part :: parts))
      = some (part :: parts.map (gap ++ ·)) := by
  induction parts generalizing part with
  | nil =>
    rw [List.intercalate_singleton]
    exact pieces_of_whole (h part List.mem_cons_self)
  | cons next parts ih =>
    obtain ⟨hpart, hnext⟩ := List.forall_mem_cons.mp h
    obtain ⟨hnext, hparts⟩ := List.forall_mem_cons.mp hnext
    -- The gap goes with the next piece, and the induction with both.
    have hwhole : ∀ p ∈ (gap ++ next) :: parts, Whole separator false p :=
      List.forall_mem_cons.mpr ⟨.plain_append hgap hnext, hparts⟩
    rw [List.intercalate_cons_cons, List.append_assoc, List.cons_append,
      pieces_append_separator hseparator hpart, append_intercalate_cons, ih hwhole]
    rfl

/-! ## No character is lost -/

/-- The pieces, with the separator between them, are the text. -/
theorem intercalate_of_piecesFrom {opened : Option Char}
    {found : List (List Char)}
    (h : piecesFrom separator opened depth text = some found) :
    [separator].intercalate found = text := by
  fun_induction piecesFrom separator opened depth text generalizing found <;>
    try cases h
  · exact List.intercalate_singleton
  all_goals
    obtain ⟨inner, hinner, rfl⟩ := Option.map_eq_some_iff.mp h
  case case8 hseparator ih =>
    rw [List.intercalate_cons_of_ne_nil (piecesFrom_weight hinner).1, ih hinner,
      hseparator.1]
    rfl
  all_goals
    rename_i ih
    rw [intercalate_prepend, ih hinner]

/-! ## What comes back in one piece is whole -/

/-- A text with some brackets more closed than opened: whole texts with the
closing brackets between them. -/
def WholeAfter (separator : Char) : Nat → List Char → Prop
  | 0, text => Whole separator false text
  | depth + 1, text => ∃ inner rest, text = inner ++ '>' :: rest
      ∧ Whole separator true inner ∧ WholeAfter separator depth rest

namespace WholeAfter

/-- A text that is whole where it stands may be put in front. -/
theorem append (h : ∀ inside, (inside = false → depth = 0) →
      Whole separator inside text)
    (hother : WholeAfter separator depth other) :
    WholeAfter separator depth (text ++ other) := by
  cases depth with
  | zero => exact (h false fun _ => rfl).append hother
  | succ depth =>
    obtain ⟨inner, rest, rfl, hinner, hrest⟩ := hother
    exact ⟨text ++ inner, rest, (List.append_assoc ..).symm,
      (h true nofun).append hinner, hrest⟩

end WholeAfter

/-- Behind an open quote there is its partner, and then a text that closes the
brackets. -/
def WholeBehind (separator : Char) (depth : Nat) (text : List Char) :
    Option Char → Prop
  | none => WholeAfter separator depth text
  | some quote => ∃ inner rest, text = inner ++ quote :: rest
      ∧ quote ∉ inner ∧ WholeAfter separator depth rest

/-- A character in front stands in the first piece. -/
theorem exists_of_map_prepend {opened : Option Char} {piece : List Char}
    {others : List (List Char)}
    (h : (piecesFrom separator opened depth text).map (prepend c)
      = some (piece :: others)) :
    ∃ first, piece = c :: first
      ∧ piecesFrom separator opened depth text = some (first :: others) := by
  obtain ⟨found, hfound, hprepend⟩ := Option.map_eq_some_iff.mp h
  cases found with
  | nil => exact absurd rfl (piecesFrom_weight hfound).1
  | cons first rest =>
    cases hprepend
    exact ⟨first, rfl, hfound⟩

/-- **The pieces that come back are whole**: the first one from wherever the
reader stands, and all the others. The induction is along the text: each
character is put in front of what the first piece of the rest is. -/
theorem whole_of_piecesFrom {opened : Option Char} {piece : List Char}
    {others : List (List Char)}
    (h : piecesFrom separator opened depth text = some (piece :: others)) :
    WholeBehind separator depth piece opened
      ∧ ∀ other ∈ others, Whole separator false other := by
  fun_induction piecesFrom separator opened depth text
    generalizing piece others with
  | case1 =>
    cases h
    exact ⟨Whole.nil false, fun _ hmem => absurd hmem List.not_mem_nil⟩
  | case2 => cases h
  | case3 quote depth c rest ih =>
    obtain ⟨first, rfl, hfirst⟩ := exists_of_map_prepend h
    obtain ⟨ih, hothers⟩ := ih hfirst
    refine ⟨?_, hothers⟩
    by_cases hc : c = quote
    · rw [if_pos hc] at ih
      exact ⟨[], first, by rw [hc]; rfl, List.not_mem_nil, ih⟩
    · rw [if_neg hc] at ih
      obtain ⟨inner, after, rfl, hinner, hafter⟩ := ih
      exact ⟨c :: inner, after, rfl,
        List.not_mem_cons_of_ne_of_not_mem (Ne.symm hc) hinner, hafter⟩
  | case4 depth c rest hquote ih =>
    obtain ⟨first, rfl, hfirst⟩ := exists_of_map_prepend h
    obtain ⟨⟨inner, after, rfl, hinner, hafter⟩, hothers⟩ := ih hfirst
    have hwhole : ∀ inside, Whole separator inside (c :: (inner ++ [c])) :=
      fun inside => .quoted hquote hinner (.nil inside)
    have happend := WholeAfter.append (fun inside _ => hwhole inside) hafter
    rw [List.cons_append, List.append_assoc] at happend
    exact ⟨happend, hothers⟩
  | case5 depth rest hquote ih =>
    obtain ⟨first, rfl, hfirst⟩ := exists_of_map_prepend h
    obtain ⟨⟨inner, after, rfl, hinner, hafter⟩, hothers⟩ := ih hfirst
    have hwhole : ∀ inside, Whole separator inside ('<' :: (inner ++ ['>'])) :=
      fun inside => .group hinner (.nil inside)
    have happend := WholeAfter.append (fun inside _ => hwhole inside) hafter
    rw [List.cons_append, List.append_assoc] at happend
    exact ⟨happend, hothers⟩
  | case6 => cases h
  | case7 depth rest hdepth _ _ ih =>
    obtain ⟨first, rfl, hfirst⟩ := exists_of_map_prepend h
    obtain ⟨depth, rfl⟩ := Nat.exists_eq_succ_of_ne_zero hdepth
    obtain ⟨ih, hothers⟩ := ih hfirst
    exact ⟨⟨[], first, rfl, .nil true, ih⟩, hothers⟩
  | case8 depth c rest _ _ _ hseparator ih =>
    -- Behind a separator the reader starts again, and a new piece with it.
    obtain ⟨found, hfound, hcons⟩ := Option.map_eq_some_iff.mp h
    cases hcons
    rw [hseparator.2]
    refine ⟨Whole.nil false, ?_⟩
    cases others with
    | nil => exact fun _ hmem => absurd hmem List.not_mem_nil
    | cons next others => exact List.forall_mem_cons.mpr (ih hfound)
  | case9 depth c rest hquote hopen hclose hseparator ih =>
    obtain ⟨first, rfl, hfirst⟩ := exists_of_map_prepend h
    obtain ⟨ih, hothers⟩ := ih hfirst
    have hc : c ∉ delimiters :=
      not_mem_delimiters_iff.mpr ⟨hquote, hopen, hclose⟩
    have hwhole : ∀ inside, (inside = false → depth = 0) →
        Whole separator inside [c] := by
      intro inside hdepth
      refine .plain hc ?_ (.nil inside)
      cases inside with
      | true => exact .inl rfl
      | false => exact .inr fun heq => hseparator ⟨heq, hdepth rfl⟩
    exact ⟨WholeAfter.append hwhole ih, hothers⟩

/-- What comes back in one piece is whole. -/
theorem wholeBehind_of_piecesFrom {opened : Option Char}
    (h : ∃ piece, piecesFrom separator opened depth text = some [piece]) :
    WholeBehind separator depth text opened := by
  obtain ⟨piece, h⟩ := h
  have htext : piece = text :=
    List.intercalate_singleton.symm.trans (intercalate_of_piecesFrom h)
  rw [← htext]
  exact (whole_of_piecesFrom h).1

/-- **The pieces of a text** are whole, and the text is made of them. -/
theorem exists_of_pieces {found : List (List Char)}
    (h : pieces separator text = some found) :
    ∃ first others, found = first :: others
      ∧ text = [separator].intercalate (first :: others)
      ∧ ∀ piece ∈ first :: others, Whole separator false piece := by
  obtain ⟨first, others, rfl⟩ := List.exists_cons_of_ne_nil (piecesFrom_weight h).1
  obtain ⟨hfirst, hothers⟩ := whole_of_piecesFrom h
  exact ⟨first, others, rfl, (intercalate_of_piecesFrom h).symm,
    List.forall_mem_cons.mpr ⟨hfirst, hothers⟩⟩

/-- **A text comes back in one piece** if and only if it is whole. -/
theorem pieces_eq_singleton_iff :
    pieces separator text = some [text] ↔ Whole separator false text :=
  ⟨fun h => wholeBehind_of_piecesFrom ⟨text, h⟩, pieces_of_whole⟩

/-! ## Texts put together -/

/-- Inside brackets it does not matter where the separators stand, nor which
they are. -/
theorem Whole.inside_of (h : Whole separator inside text) (other : Char) :
    Whole other true text := by
  induction h with
  | nil => exact .nil true
  | plain hc _ _ ih => exact .plain hc (.inl rfl) ih
  | quoted hquote hcloses _ ih => exact .quoted hquote hcloses ih
  | group _ _ ihinner ih => exact .group ihinner ih

/-- **A separator parts two texts**: the pieces of the first, and then those of
the second. -/
theorem pieces_append (hseparator : separator ∉ delimiters)
    {found : List (List Char)} (h : pieces separator text = some found)
    (other : List Char) :
    pieces separator (text ++ separator :: other)
      = (pieces separator other).map (found ++ ·) := by
  obtain ⟨first, others, rfl, rfl, hwhole⟩ := exists_of_pieces h
  clear h
  induction others generalizing first with
  | nil =>
    rw [List.intercalate_singleton,
      pieces_append_separator hseparator (hwhole first List.mem_cons_self)]
    rfl
  | cons next others ih =>
    obtain ⟨hfirst, hnext⟩ := List.forall_mem_cons.mp hwhole
    rw [List.intercalate_cons_cons, List.append_assoc, List.append_assoc,
      List.singleton_append, pieces_append_separator hseparator hfirst, ih next hnext,
      Option.map_map]
    rfl

end SchemaTyping.PropertyType
