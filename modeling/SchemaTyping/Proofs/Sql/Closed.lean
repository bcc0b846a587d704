import SchemaTyping.Proofs.Text.Pieces
import SchemaTyping.Sql.Bracket

/-!
# Closed text

The search for the bracket that closes a group and the cut at the commas of a
list keep the same account of what is open: a quote, and so many brackets. A
**closed** text leaves that account as it was: its quotes are closed and its
brackets match. `Closed` says so without counting.

Both readers pass over a closed text (`Closed.groupFrom_append`,
`Closed.itemsFrom_append`), and closed texts are all that they find: what
brackets enclose is closed (`group?_eq_some_iff`), and so is each item of a
list (`Closed.itemsClosed`). So to speak of the items of a body that has been
read is to speak of closed texts, and nothing else need be asked of them.
-/

namespace SchemaTyping.Sql

open Text

/-- **A closed text**; commas outside brackets and quotes are allowed in it if
`commas` is `true`. -/
inductive Closed : Bool → List Char → Prop
  | nil (commas : Bool) : Closed commas []
  | plain {commas : Bool} {c : Char} {rest : List Char}
      (not_quote : isQuote c = false) (not_bracket : c ≠ '(' ∧ c ≠ ')')
      (allowed : c = ',' → commas = true) (rest_closed : Closed commas rest) :
      Closed commas (c :: rest)
  | quoted {commas : Bool} {quote : Char} {text rest : List Char}
      (isQuote : isQuote quote = true) (closes : quote ∉ text)
      (rest_closed : Closed commas rest) :
      Closed commas (quote :: (text ++ quote :: rest))
  | group {commas : Bool} {inner rest : List Char}
      (inner_closed : Closed true inner) (rest_closed : Closed commas rest) :
      Closed commas ('(' :: (inner ++ ')' :: rest))

variable {quote : Char} {commas : Bool} {depth : Nat}
variable {c : Char} {text other inner after : List Char}

namespace Closed

/-- A text without commas outside brackets is closed where they may be. -/
theorem allow_commas (h : Closed commas text) : Closed true text := by
  induction h with
  | nil => exact .nil true
  | plain hquote hbracket _ _ ih =>
    exact .plain hquote hbracket (fun _ => rfl) ih
  | quoted hquote hcloses _ ih => exact .quoted hquote hcloses ih
  | group hinner _ _ ih => exact .group hinner ih

/-- **Closed texts in a row** are closed. -/
theorem append (h : Closed commas text) (hother : Closed commas other) :
    Closed commas (text ++ other) := by
  induction h with
  | nil => exact hother
  | plain hquote hbracket hallowed _ ih =>
    exact .plain hquote hbracket hallowed (ih hother)
  | quoted hquote hcloses _ ih =>
    rw [List.cons_append, List.append_assoc]
    exact .quoted hquote hcloses (ih hother)
  | group hinner _ _ ih =>
    rw [List.cons_append, List.append_assoc]
    exact .group hinner (ih hother)

/-- A list is closed with the commas between its items. -/
theorem intercalate {gap : List Char} (hgap : Closed true gap)
    {parts : List (List Char)} (h : ∀ part ∈ parts, Closed true part) :
    Closed true ((',' :: gap).intercalate parts) := by
  induction parts with
  | nil => exact .nil true
  | cons part parts ih =>
    obtain ⟨hpart, hparts⟩ := List.forall_mem_cons.mp h
    cases parts with
    | nil =>
      rw [List.intercalate_singleton]
      exact hpart
    | cons next parts =>
      rw [List.intercalate_cons_cons, List.append_assoc]
      exact hpart.append
        (.plain rfl (by decide) (fun _ => rfl) (hgap.append (ih hparts)))

end Closed

/-! ## The search for a closing bracket -/

/-- Puts a text in front of the group that was found behind it. -/
def inFront (text : List Char) (found : List Char × List Char) :
    List Char × List Char :=
  (text ++ found.1, found.2)

theorem groupFrom_plain (hquote : isQuote c = false)
    (hbracket : c ≠ '(' ∧ c ≠ ')') :
    groupFrom none depth (c :: text)
      = (groupFrom none depth text).map (inFront [c]) := by
  rw [groupFrom, if_neg (by rw [hquote]; exact Bool.false_ne_true),
    if_neg hbracket.1, if_neg hbracket.2]
  rfl

theorem groupFrom_open :
    groupFrom none depth ('(' :: text)
      = (groupFrom none (depth + 1) text).map (inFront ['(']) := by
  rw [groupFrom, if_neg (by decide), if_pos rfl]
  rfl

theorem groupFrom_close :
    groupFrom none (depth + 1) (')' :: text)
      = (groupFrom none depth text).map (inFront [')']) := by
  rw [groupFrom, if_neg (by decide), if_neg (by decide), if_pos rfl,
    if_neg (by omega)]
  rfl

theorem groupFrom_quote (h : isQuote quote = true) :
    groupFrom none depth (quote :: text)
      = (groupFrom (some quote) depth text).map (inFront [quote]) := by
  rw [groupFrom, if_pos h]
  rfl

/-- Inside quotes the search goes on to the closing one. -/
theorem groupFrom_quoted_append (h : quote ∉ text) :
    groupFrom (some quote) depth (text ++ quote :: other)
      = (groupFrom none depth other).map (inFront (text ++ [quote])) := by
  induction text with
  | nil =>
    rw [List.nil_append, groupFrom, if_pos rfl]
    rfl
  | cons c text ih =>
    have hc : c ≠ quote := fun heq => h (heq ▸ List.mem_cons_self)
    rw [List.cons_append, groupFrom, if_neg hc,
      ih fun hmem => h (List.mem_cons_of_mem _ hmem), Option.map_map]
    rfl

/-- **The search for a bracket passes over a closed text.** -/
theorem Closed.groupFrom_append (h : Closed commas text) :
    groupFrom none depth (text ++ other)
      = (groupFrom none depth other).map (inFront text) := by
  induction h generalizing depth other with
  | nil => exact Option.map_id'.symm
  | plain hquote hbracket _ _ ih =>
    rw [List.cons_append, groupFrom_plain hquote hbracket, ih, Option.map_map]
    rfl
  | quoted hquote hcloses _ ih =>
    rw [List.cons_append, List.append_assoc, groupFrom_quote hquote,
      List.cons_append, groupFrom_quoted_append hcloses, ih, Option.map_map,
      Option.map_map]
    refine congrArg (Option.map · _) (funext fun found => ?_)
    simp [inFront]
  | group _ _ ihinner ih =>
    rw [List.cons_append, List.append_assoc, groupFrom_open, List.cons_append,
      ihinner, groupFrom_close, ih, Option.map_map, Option.map_map,
      Option.map_map]
    refine congrArg (Option.map · _) (funext fun found => ?_)
    simp [inFront]

/-- A group around a closed text is found as a whole. -/
theorem Closed.group?_eq (h : Closed commas text) :
    group? ('(' :: (text ++ ')' :: other)) = some (text, other) := by
  have hclose : groupFrom none 0 (')' :: other) = some ([], other) := rfl
  show groupFrom none 0 (text ++ ')' :: other) = _
  rw [h.groupFrom_append, hclose, Option.map_some, inFront, List.append_nil]

/-! ### What brackets enclose is closed -/

/-- A text with some brackets more closed than opened: closed texts with the
closing brackets between them. -/
def ClosedAfter : Nat → List Char → Prop
  | 0, text => Closed true text
  | depth + 1, text => ∃ inner rest, text = inner ++ ')' :: rest
      ∧ Closed true inner ∧ ClosedAfter depth rest

/-- A closed text may be put in front. -/
theorem ClosedAfter.append (h : Closed true text)
    (hother : ClosedAfter depth other) : ClosedAfter depth (text ++ other) := by
  cases depth with
  | zero => exact h.append hother
  | succ depth =>
    obtain ⟨inner, rest, rfl, hinner, hrest⟩ := hother
    exact ⟨text ++ inner, rest, (List.append_assoc ..).symm, h.append hinner,
      hrest⟩

/-- Behind an open quote there is its partner, and then a text that closes the
brackets. -/
def ClosedBehind (depth : Nat) (text : List Char) : Option Char → Prop
  | none => ClosedAfter depth text
  | some quote => ∃ inner rest, text = inner ++ quote :: rest
      ∧ quote ∉ inner ∧ ClosedAfter depth rest

/-- **What the search has found closes all that was open.** The induction is
along the text: each character is put in front of what the rest of the text
is. -/
theorem closedBehind_of_groupFrom {opened : Option Char}
    (h : groupFrom opened depth text = some (inner, after)) :
    ClosedBehind depth inner opened := by
  fun_induction groupFrom opened depth text generalizing inner after
  case case1 => cases h
  case case5 =>
    cases h
    exact Closed.nil true
  all_goals
    rename_i ih
    obtain ⟨⟨found, rest'⟩, hfound, heq⟩ := Option.map_eq_some_iff.mp h
    cases heq
    have ih := ih hfound
  case case2 quote depth c rest _ =>
    by_cases hc : c = quote
    · rw [if_pos hc] at ih
      exact ⟨[], found, by rw [hc]; rfl, List.not_mem_nil, ih⟩
    · rw [if_neg hc] at ih
      obtain ⟨inner, after, rfl, hinner, hafter⟩ := ih
      exact ⟨c :: inner, after, rfl,
        List.not_mem_cons_of_ne_of_not_mem (Ne.symm hc) hinner, hafter⟩
  case case3 depth c rest hquote _ =>
    obtain ⟨inner, after, rfl, hinner, hafter⟩ := ih
    have hclosed : Closed true (c :: (inner ++ [c])) :=
      .quoted hquote hinner (.nil true)
    have happend := ClosedAfter.append hclosed hafter
    rwa [List.cons_append, List.append_assoc] at happend
  case case4 depth rest _ _ =>
    obtain ⟨inner, after, rfl, hinner, hafter⟩ := ih
    have hclosed : Closed true ('(' :: (inner ++ [')'])) :=
      .group hinner (.nil true)
    have happend := ClosedAfter.append hclosed hafter
    rwa [List.cons_append, List.append_assoc] at happend
  case case6 depth rest hdepth _ _ _ =>
    obtain ⟨depth, rfl⟩ := Nat.exists_eq_succ_of_ne_zero hdepth
    exact ⟨[], found, rfl, .nil true, ih⟩
  case case7 depth c rest hquote hopen hclose _ =>
    have hclosed : Closed true [c] :=
      .plain (Bool.eq_false_iff.mpr hquote) ⟨hopen, hclose⟩ (fun _ => rfl)
        (.nil true)
    exact ClosedAfter.append hclosed ih

/-- **What brackets enclose** is closed, and any closed text is what the
brackets around it enclose. -/
theorem group?_eq_some_iff :
    group? text = some (inner, after)
      ↔ text = '(' :: (inner ++ ')' :: after) ∧ Closed true inner := by
  constructor
  · intro h
    refine ⟨append_of_group? h, ?_⟩
    rw [append_of_group? h] at h
    exact closedBehind_of_groupFrom h
  · rintro ⟨rfl, h⟩
    exact h.group?_eq

/-- A text is closed if brackets around it enclose it as a whole. -/
theorem closed_iff_group? :
    Closed true text ↔ group? ('(' :: (text ++ [')'])) = some (text, []) := by
  rw [group?_eq_some_iff, and_iff_right rfl]

/-- **A bracket behind a text** closes a group if the text is closed. Else the
search ends inside the text, if it ends at all, and what stands behind the text
does not matter. -/
theorem closed_or_forall_groupFrom
    (h : groupFrom none 0 (text ++ [')']) = some (inner, after)) :
    Closed true text ∧ inner = text
      ∨ ∀ other, ∃ behind, groupFrom none 0 (text ++ other) = some (inner, behind) := by
  have hgroup : group? ('(' :: (text ++ [')'])) = some (inner, after) := h
  obtain ⟨heq, hinner⟩ := group?_eq_some_iff.mp hgroup
  have htext : text ++ [')'] = inner ++ ')' :: after := (List.cons.inj heq).2
  rcases List.eq_nil_or_concat after with rfl | ⟨behind, last, rfl⟩
  · have hall : text = inner := List.append_cancel_right htext
    exact .inl ⟨hall ▸ hinner, hall.symm⟩
  · right
    have hfront : text = inner ++ ')' :: behind := by
      rw [List.concat_eq_append, ← List.cons_append, ← List.append_assoc] at htext
      exact List.append_inj_left' htext rfl
    intro other
    refine ⟨behind ++ other, ?_⟩
    rw [hfront, List.append_assoc, List.cons_append]
    exact hinner.group?_eq

/-- What stands behind a closed text is closed if both are. -/
theorem Closed.of_append_left {commas : Bool} (h : Closed commas text)
    (hboth : Closed true (text ++ other)) : Closed true other := by
  have hgroup := closed_iff_group?.mp hboth
  rw [List.append_assoc] at hgroup
  have hread : groupFrom none 0 (text ++ (other ++ [')']))
      = some (text ++ other, []) := hgroup
  rw [h.groupFrom_append] at hread
  obtain ⟨⟨inner, after⟩, hfound, heq⟩ := Option.map_eq_some_iff.mp hread
  obtain ⟨hinner, rfl⟩ := Prod.mk.inj heq
  have hother : inner = other := List.append_cancel_left hinner
  rw [hother] at hfound
  exact closed_iff_group?.mpr hfound

/-! ## The cut at commas -/

theorem itemsFrom_plain (hquote : isQuote c = false)
    (hbracket : c ≠ '(' ∧ c ≠ ')') (hallowed : c = ',' → depth ≠ 0) :
    itemsFrom none depth (c :: text)
      = prepend c (itemsFrom none depth text) := by
  rw [itemsFrom, if_neg (by rw [hquote]; exact Bool.false_ne_true),
    if_neg hbracket.1, if_neg hbracket.2, if_neg fun h => hallowed h.1 h.2]

theorem itemsFrom_open :
    itemsFrom none depth ('(' :: text)
      = prepend '(' (itemsFrom none (depth + 1) text) := rfl

theorem itemsFrom_close :
    itemsFrom none depth (')' :: text)
      = prepend ')' (itemsFrom none (depth - 1) text) := rfl

theorem itemsFrom_quote (h : isQuote quote = true) :
    itemsFrom none depth (quote :: text)
      = prepend quote (itemsFrom (some quote) depth text) := by
  rw [itemsFrom, if_pos h]

/-- Between quotes no comma counts. -/
theorem itemsFrom_quoted_append (h : quote ∉ text) :
    itemsFrom (some quote) depth (text ++ quote :: other)
      = (text ++ [quote]).foldr prepend (itemsFrom none depth other) := by
  induction text with
  | nil =>
    rw [List.nil_append, itemsFrom, if_pos rfl]
    rfl
  | cons c text ih =>
    have hc : c ≠ quote := fun heq => h (heq ▸ List.mem_cons_self)
    rw [List.cons_append, itemsFrom, if_neg hc,
      ih fun hmem => h (List.mem_cons_of_mem _ hmem)]
    rfl

/-- **The cut at commas passes over a closed text**, and inside brackets over
one with commas too. -/
theorem Closed.itemsFrom_append (h : Closed commas text)
    (hdepth : commas = true → depth ≠ 0) :
    itemsFrom none depth (text ++ other)
      = text.foldr prepend (itemsFrom none depth other) := by
  induction h generalizing depth other with
  | nil => rfl
  | plain hquote hbracket hallowed _ ih =>
    rw [List.cons_append,
      itemsFrom_plain hquote hbracket fun hc => hdepth (hallowed hc), ih hdepth]
    rfl
  | quoted hquote hcloses _ ih =>
    rw [List.cons_append, List.append_assoc, itemsFrom_quote hquote,
      List.cons_append, itemsFrom_quoted_append hcloses, ih hdepth]
    simp
  | group _ _ ihinner ih =>
    -- Inside the brackets the depth is positive, whatever it is outside.
    rw [List.cons_append, List.append_assoc, itemsFrom_open, List.cons_append,
      ihinner fun _ => Nat.succ_ne_zero depth, itemsFrom_close,
      Nat.succ_sub_one, ih hdepth]
    simp

theorem Closed.items_append (h : Closed false text) :
    items (text ++ other) = text.foldr prepend (items other) :=
  h.itemsFrom_append nofun

/-- A closed text without commas is one item. -/
theorem items_of_closed (h : Closed false text) : items text = [text] := by
  have hitems : items (text ++ []) = text.foldr prepend [[]] := h.items_append
  rw [foldr_prepend, List.append_nil] at hitems
  exact hitems

theorem items_append_comma (h : Closed false text) :
    items (text ++ ',' :: other) = text :: items other := by
  have hcomma : items (',' :: other) = [] :: items other := rfl
  rw [h.items_append, hcomma, foldr_prepend, List.append_nil]

/-- **The items of a list** of closed texts: what follows a comma belongs to
the next of them. -/
theorem items_intercalate {gap part : List Char} {parts : List (List Char)}
    (hgap : Closed false gap) (h : ∀ p ∈ part :: parts, Closed false p) :
    items ((',' :: gap).intercalate (part :: parts))
      = part :: parts.map (gap ++ ·) := by
  induction parts generalizing part with
  | nil =>
    rw [List.intercalate_singleton]
    exact items_of_closed (h part List.mem_cons_self)
  | cons next parts ih =>
    obtain ⟨hpart, hnext⟩ := List.forall_mem_cons.mp h
    obtain ⟨hnext, hparts⟩ := List.forall_mem_cons.mp hnext
    -- The gap goes with the next item, and the induction with both.
    have hclosed : ∀ p ∈ (gap ++ next) :: parts, Closed false p :=
      List.forall_mem_cons.mpr ⟨hgap.append hnext, hparts⟩
    rw [List.intercalate_cons_cons, List.append_assoc, List.cons_append,
      items_append_comma hpart, append_intercalate_cons, ih hclosed]
    rfl

/-! ### The items of a list are closed -/

/-- **The items of a text are closed**, there is one at least, and with the
commas between them they are the text. -/
def ItemsClosed (text : List Char) : Prop :=
  ∃ item rest, items text = item :: rest
    ∧ [','].intercalate (item :: rest) = text
    ∧ ∀ part ∈ item :: rest, Closed false part

/-- What is closed in front of a list is closed in front of its first item. -/
theorem ItemsClosed.append (h : Closed false text) (hother : ItemsClosed other) :
    ItemsClosed (text ++ other) := by
  obtain ⟨item, rest, hitems, hjoin, hparts⟩ := hother
  obtain ⟨hitem, hrest⟩ := List.forall_mem_cons.mp hparts
  refine ⟨text ++ item, rest, ?_, ?_, ?_⟩
  · rw [h.items_append, hitems, foldr_prepend]
  · rw [← append_intercalate_cons, hjoin]
  · exact List.forall_mem_cons.mpr ⟨h.append hitem, hrest⟩

/-- At a comma a new item starts. -/
theorem ItemsClosed.comma (h : ItemsClosed text) : ItemsClosed (',' :: text) := by
  obtain ⟨item, rest, hitems, hjoin, hparts⟩ := h
  refine ⟨[], item :: rest, ?_, ?_,
    List.forall_mem_cons.mpr ⟨.nil false, hparts⟩⟩
  · show [] :: items text = _
    rw [hitems]
  · rw [List.intercalate_cons_cons, hjoin]
    rfl

/-- **A closed text is cut into closed items.** -/
theorem Closed.itemsClosed (h : Closed commas text) : ItemsClosed text := by
  induction h with
  | nil =>
    exact ⟨[], [], rfl, rfl, List.forall_mem_singleton.mpr (.nil false)⟩
  | @plain _ c rest hquote hbracket _ _ ih =>
    by_cases hc : c = ','
    · rw [hc]
      exact ih.comma
    · have hplain : Closed false [c] :=
        .plain hquote hbracket (fun heq => absurd heq hc) (.nil false)
      exact ItemsClosed.append hplain ih
  | @quoted _ quote text rest hquote hcloses _ ih =>
    have hquoted : Closed false (quote :: (text ++ [quote])) :=
      .quoted hquote hcloses (.nil false)
    have happend := ItemsClosed.append hquoted ih
    rwa [List.cons_append, List.append_assoc] at happend
  | @group _ inner rest hinner _ _ ih =>
    have hgroup : Closed false ('(' :: (inner ++ [')'])) :=
      .group hinner (.nil false)
    have happend := ItemsClosed.append hgroup ih
    rwa [List.cons_append, List.append_assoc] at happend

/-- A list that goes on behind a closed text has the items of both. -/
theorem items_append_comma_of_closed (h : Closed true text) (other : List Char) :
    items (text ++ ',' :: other) = items text ++ items other := by
  obtain ⟨item, rest, hitems, hjoin, hparts⟩ := h.itemsClosed
  rw [hitems, ← hjoin]
  clear hitems hjoin
  induction rest generalizing item with
  | nil =>
    rw [List.intercalate_singleton,
      items_append_comma (hparts item List.mem_cons_self)]
    rfl
  | cons next rest ih =>
    obtain ⟨hitem, hrest⟩ := List.forall_mem_cons.mp hparts
    rw [List.intercalate_cons_cons, List.append_assoc, List.append_assoc,
      List.singleton_append, items_append_comma hitem, ih next hrest]
    rfl

/-- A closed text without commas outside brackets is one that is not cut. -/
theorem closed_iff_items :
    Closed false text ↔ Closed true text ∧ items text = [text] := by
  refine ⟨fun h => ⟨h.allow_commas, items_of_closed h⟩, ?_⟩
  rintro ⟨hclosed, hitems⟩
  obtain ⟨item, rest, heq, -, hparts⟩ := hclosed.itemsClosed
  rw [hitems] at heq
  cases heq
  exact hparts text List.mem_cons_self

instance : Decidable (Closed true text) :=
  decidable_of_iff _ closed_iff_group?.symm

instance : Decidable (Closed false text) :=
  decidable_of_iff _ closed_iff_items.symm

end SchemaTyping.Sql
