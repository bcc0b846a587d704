import SchemaTyping.Proofs.Sql.Closed
import SchemaTyping.Sql.TypeName

/-!
# Lists and groups in any text

Closed texts are what the cut at the commas of a list and the search for a
closing bracket are meant for. Both also come to texts that are not closed:
with a bracket too many, a quote that never ends, or quotes of one kind inside
another. This file says what they do there.

The cut loses nothing and leaves nothing to cut: with the commas between them
the items are the text, and each item is the only item of itself. The search
finds the first bracket that closes the one in front, which is told here by
counting the brackets outside quotes (`Closes`), and finds none only if there
is none. On the way there the number of open brackets is never zero, so a
search that takes one from that number at each closing bracket
(`countedGroup`) never takes one from zero. It does so at once in a text that
does not start with a bracket, which is why the search is not begun there.
-/

namespace SchemaTyping.Sql

open Text

variable {quote : Option Char} {depth : Nat}
variable {c : Char} {text front inner after : List Char}

/-! ## The items of a list -/

/-- **One step of the cut**: at a comma that counts the item is complete, and
any other character belongs to it. Which of the two it is does not depend on
what follows. -/
theorem itemsFrom_cons_cases (quote : Option Char) (depth : Nat) (c : Char) :
    (c = ',' ∧ ∀ rest, itemsFrom quote depth (c :: rest) = [] :: items rest)
    ∨ ∃ quote' depth', ∀ rest,
      itemsFrom quote depth (c :: rest) = prepend c (itemsFrom quote' depth' rest) := by
  cases quote with
  | some quote => exact .inr ⟨_, _, fun _ => rfl⟩
  | none =>
    by_cases hquote : isQuote c = true
    · exact .inr ⟨some c, depth, fun _ => itemsFrom_quote hquote⟩
    by_cases hopen : c = '('
    · subst hopen
      exact .inr ⟨none, depth + 1, fun _ => itemsFrom_open⟩
    by_cases hclose : c = ')'
    · subst hclose
      exact .inr ⟨none, depth - 1, fun _ => itemsFrom_close⟩
    by_cases hcomma : c = ',' ∧ depth = 0
    · obtain ⟨rfl, rfl⟩ := hcomma
      exact .inl ⟨rfl, fun _ => rfl⟩
    · exact .inr ⟨none, depth, fun _ => itemsFrom_plain (Bool.eq_false_iff.mpr hquote)
        ⟨hopen, hclose⟩ fun hc hdepth => hcomma ⟨hc, hdepth⟩⟩

/-- **The cut from some point on.** The first item goes on from there and the
others start anew, which is how each of them is read again. -/
theorem itemsFrom_cuts (quote : Option Char) (depth : Nat) (text : List Char) :
    ∃ item others, itemsFrom quote depth text = item :: others
      ∧ [','].intercalate (item :: others) = text
      ∧ itemsFrom quote depth item = [item]
      ∧ ∀ other ∈ others, items other = [other] := by
  induction text generalizing quote depth with
  | nil =>
    have hnil : itemsFrom quote depth [] = [[]] := by rw [itemsFrom]
    exact ⟨[], [], hnil, rfl, hnil, List.forall_mem_nil _⟩
  | cons c rest ih =>
    rcases itemsFrom_cons_cases quote depth c with ⟨rfl, hstep⟩ | ⟨quote', depth', hstep⟩
    · obtain ⟨item, others, hitems, hjoin, hitem, hothers⟩ := ih none 0
      refine ⟨[], item :: others, (hstep rest).trans (congrArg _ hitems), ?_, ?_,
        List.forall_mem_cons.mpr ⟨hitem, hothers⟩⟩
      · rw [List.intercalate_cons_cons, hjoin]
        rfl
      · rw [itemsFrom]
    · obtain ⟨item, others, hitems, hjoin, hitem, hothers⟩ := ih quote' depth'
      refine ⟨c :: item, others, ?_, ?_, ?_, hothers⟩
      · rw [hstep, hitems]
        rfl
      · exact (intercalate_prepend [','] c (item :: others)).trans (congrArg _ hjoin)
      · rw [hstep, hitem]
        rfl

/-! ## Brackets outside quotes -/

/-- The quote that is open behind one more character. -/
def quoteStep : Option Char → Char → Option Char
  | some quote, c => if c = quote then none else some quote
  | none, c => if isQuote c then some c else none

/-- The quote that is open behind a text. -/
def openQuote (quote : Option Char) (text : List Char) : Option Char :=
  text.foldl quoteStep quote

/-- The characters outside quotes: those with no quote open before and behind
them. -/
def outsideQuotes : Option Char → List Char → List Char
  | _, [] => []
  | quote, c :: rest =>
    let next := quoteStep quote c
    if quote = none ∧ next = none then c :: outsideQuotes next rest
    else outsideQuotes next rest

/-- **A closing bracket behind this text closes the first bracket**, where
`quote` and so many brackets are open in front of it: the bracket is outside
quotes, and of the brackets outside quotes all but that one are closed. -/
def Closes (quote : Option Char) (depth : Nat) (front : List Char) : Prop :=
  openQuote quote front = none
    ∧ depth + (outsideQuotes quote front).count '('
      = (outsideQuotes quote front).count ')' + 1

instance : Decidable (Closes quote depth front) :=
  inferInstanceAs (Decidable (_ ∧ _))

/-- No bracket in the text closes the first one. -/
def Unclosed (quote : Option Char) (depth : Nat) (text : List Char) : Prop :=
  ∀ front, front ++ [')'] <+: text → ¬ Closes quote depth front

theorem closes_nil_iff : Closes quote depth [] ↔ quote = none ∧ depth = 1 := by
  simp [Closes, openQuote, outsideQuotes]

/-- Inside quotes, and at the start of a quotation, no bracket counts. -/
theorem closes_cons_of_quote (h : quote ≠ none ∨ isQuote c = true) :
    Closes quote depth (c :: front) ↔ Closes (quoteStep quote c) depth front := by
  have hout : ¬ (quote = none ∧ quoteStep quote c = none) := by
    rintro ⟨rfl, hnext⟩
    have hquote := h.resolve_left (not_not_intro rfl)
    rw [quoteStep, if_pos hquote] at hnext
    cases hnext
  unfold Closes
  rw [outsideQuotes, if_neg hout]
  rfl

example : ¬ Closes none 0 "(a '".toList ∧ Closes none 0 "(a ''".toList := by decide

/-- A character outside quotes counts if it is a bracket. -/
theorem closes_cons_of_none (h : isQuote c = false) :
    Closes none depth (c :: front)
      ↔ openQuote none front = none
        ∧ depth + (c :: outsideQuotes none front).count '('
          = (c :: outsideQuotes none front).count ')' + 1 := by
  have hnext : quoteStep none c = none := by
    rw [quoteStep, h]
    rfl
  unfold Closes openQuote
  rw [outsideQuotes, List.foldl_cons, hnext, if_pos ⟨rfl, rfl⟩]

/-- Behind a bracket the text goes on with one more open. -/
theorem closes_open : Closes none depth ('(' :: front) ↔ Closes none (depth + 1) front := by
  rw [closes_cons_of_none rfl, List.count_cons_self, List.count_cons_of_ne (by decide)]
  exact and_congr_right fun _ => by omega

theorem closes_close :
    Closes none (depth + 1) (')' :: front) ↔ Closes none depth front := by
  rw [closes_cons_of_none rfl, List.count_cons_self, List.count_cons_of_ne (by decide)]
  exact and_congr_right fun _ => by omega

theorem closes_plain (hquote : isQuote c = false) (hbracket : c ≠ '(' ∧ c ≠ ')') :
    Closes none depth (c :: front) ↔ Closes none depth front := by
  rw [closes_cons_of_none hquote, List.count_cons_of_ne hbracket.1,
    List.count_cons_of_ne hbracket.2]
  rfl

/-! ## The search for the bracket that closes the first -/

/-- A bracket that closes nothing. -/
inductive BracketError where
  | noneOpen
  deriving DecidableEq, Repr

/-- **The search with its account**: the open quote, the number of open
brackets and what has been read. Where one is to be taken from no open bracket
that is an error. The group starts behind the first character read. -/
def countedGroup : Option Char → Nat → List Char → List Char →
    Except BracketError (Option (List Char))
  | _, _, _, [] => .ok none
  | some quote, depth, before, c :: rest =>
    countedGroup (if c = quote then none else some quote) depth (before ++ [c]) rest
  | none, depth, before, c :: rest =>
    if isQuote c then countedGroup (some c) depth (before ++ [c]) rest
    else if c = '(' then countedGroup none (depth + 1) (before ++ [c]) rest
    else if c = ')' then
      match depth with
      | 0 => .error .noneOpen
      | depth + 1 =>
        if depth = 0 then .ok (some (before.drop 1))
        else countedGroup none depth (before ++ [c]) rest
    else countedGroup none depth (before ++ [c]) rest

/-- **Reading on in the search**: behind the character the search goes on with
another account, which is also the one for the brackets that close the
first. -/
structure GoesOn (quote : Option Char) (depth : Nat) (c : Char)
    (quote' : Option Char) (depth' : Nat) : Prop where
  search : ∀ rest, groupFrom quote depth (c :: rest)
    = (groupFrom quote' depth' rest).map (inFront [c])
  counted : ∀ before rest, countedGroup quote (depth + 1) before (c :: rest)
    = countedGroup quote' (depth' + 1) (before ++ [c]) rest
  closes : ∀ front, Closes quote (depth + 1) (c :: front)
    ↔ Closes quote' (depth' + 1) front

/-- **One step of the search**: it ends at the bracket that closes the first,
and otherwise goes on. -/
theorem groupFrom_cons_cases (quote : Option Char) (depth : Nat) (c : Char) :
    (quote = none ∧ depth = 0 ∧ c = ')')
    ∨ ∃ quote' depth', GoesOn quote depth c quote' depth' := by
  cases quote with
  | some quote =>
    exact .inr ⟨_, _, fun _ => rfl, fun _ _ => rfl,
      fun _ => closes_cons_of_quote (.inl (Option.some_ne_none quote))⟩
  | none =>
    by_cases hquote : isQuote c = true
    · refine .inr ⟨some c, depth, fun _ => groupFrom_quote hquote, fun _ _ => ?_, fun _ => ?_⟩
      · rw [countedGroup, if_pos hquote]
      · rw [closes_cons_of_quote (.inr hquote), quoteStep, if_pos hquote]
    by_cases hopen : c = '('
    · subst hopen
      exact .inr ⟨none, depth + 1, fun _ => groupFrom_open, fun _ _ => rfl,
        fun _ => closes_open⟩
    by_cases hclose : c = ')'
    · subst hclose
      cases depth with
      | zero => exact .inl ⟨rfl, rfl, rfl⟩
      | succ depth =>
        exact .inr ⟨none, depth, fun _ => groupFrom_close, fun _ _ => rfl,
          fun _ => closes_close⟩
    · have hplain : isQuote c = false := Bool.eq_false_iff.mpr hquote
      refine .inr ⟨none, depth, fun _ => groupFrom_plain hplain ⟨hopen, hclose⟩,
        fun _ _ => ?_, fun _ => closes_plain hplain ⟨hopen, hclose⟩⟩
      rw [countedGroup, if_neg hquote, if_neg hopen, if_neg hclose]

/-- A search that goes on has not come to the bracket that closes the
first. -/
theorem GoesOn.unclosed {quote' : Option Char} {depth' : Nat}
    (h : GoesOn quote depth c quote' depth') (hrest : Unclosed quote' (depth' + 1) text) :
    Unclosed quote (depth + 1) (c :: text) := by
  intro front hfront hcloses
  cases front with
  | nil =>
    obtain ⟨rfl, hdepth⟩ := closes_nil_iff.mp hcloses
    obtain rfl : depth = 0 := Nat.succ.inj hdepth
    obtain rfl : ')' = c := (List.cons_prefix_cons.mp hfront).1
    have hfound : groupFrom none 0 [')'] = some ([], []) := rfl
    have hnone : groupFrom quote' depth' [] = none := by rw [groupFrom]
    rw [h.search, hnone] at hfound
    cases hfound
  | cons first front =>
    obtain ⟨rfl, hbehind⟩ := List.cons_prefix_cons.mp hfront
    exact hrest front hbehind ((h.closes front).mp hcloses)

/-- **What the search finds** ends at a bracket that closes the first, and no
bracket in it does. -/
theorem closes_of_groupFrom (h : groupFrom quote depth text = some (inner, after)) :
    Closes quote (depth + 1) inner ∧ Unclosed quote (depth + 1) inner := by
  induction text generalizing quote depth inner with
  | nil =>
    rw [groupFrom] at h
    cases h
  | cons c rest ih =>
    rcases groupFrom_cons_cases quote depth c with ⟨rfl, rfl, rfl⟩ | ⟨quote', depth', hstep⟩
    · cases h
      refine ⟨closes_nil_iff.mpr ⟨rfl, rfl⟩, fun front hfront _ => ?_⟩
      exact List.append_ne_nil_of_right_ne_nil _ (List.cons_ne_nil _ _)
        (List.prefix_nil.mp hfront)
    · rw [hstep.search] at h
      obtain ⟨⟨found, behind⟩, hfound, heq⟩ := Option.map_eq_some_iff.mp h
      cases heq
      obtain ⟨hcloses, hunclosed⟩ := ih hfound
      exact ⟨(hstep.closes found).mpr hcloses, hstep.unclosed hunclosed⟩

/-- **A search that finds nothing** has come to no bracket that closes the
first. -/
theorem unclosed_of_groupFrom (h : groupFrom quote depth text = none) :
    Unclosed quote (depth + 1) text := by
  induction text generalizing quote depth with
  | nil =>
    intro front hfront _
    exact List.append_ne_nil_of_right_ne_nil _ (List.cons_ne_nil _ _)
      (List.prefix_nil.mp hfront)
  | cons c rest ih =>
    rcases groupFrom_cons_cases quote depth c with ⟨rfl, rfl, rfl⟩ | ⟨quote', depth', hstep⟩
    · cases h
    · rw [hstep.search] at h
      exact hstep.unclosed (ih (Option.map_eq_none_iff.mp h))

/-- **The account is never overdrawn**: with one bracket open in front, the
search that keeps it ends as the other does. -/
theorem countedGroup_eq (quote : Option Char) (depth : Nat) (before text : List Char) :
    countedGroup quote (depth + 1) before text
      = .ok ((groupFrom quote depth text).map fun found => (before ++ found.1).drop 1) := by
  induction text generalizing quote depth before with
  | nil => rw [countedGroup, groupFrom, Option.map_none]
  | cons c rest ih =>
    rcases groupFrom_cons_cases quote depth c with ⟨rfl, rfl, rfl⟩ | ⟨quote', depth', hstep⟩
    · show Except.ok (some (before.drop 1)) = .ok (some ((before ++ []).drop 1))
      rw [List.append_nil]
    · rw [hstep.counted, ih, hstep.search, Option.map_map]
      refine congrArg Except.ok (congrArg (Option.map · _) (funext fun found => ?_))
      simp [inFront]

/-- No bracket closes the first one before it is open. -/
theorem Unclosed.behind_open (h : Unclosed none 1 text) : Unclosed none 0 ('(' :: text) := by
  intro front hfront hcloses
  cases front with
  | nil => exact absurd (closes_nil_iff.mp hcloses).2 (by decide)
  | cons first front =>
    obtain ⟨rfl, hbehind⟩ := List.cons_prefix_cons.mp hfront
    exact h front hbehind (closes_open.mp hcloses)

/-- **There is a group** if some bracket closes the one in front. -/
theorem isSome_group?_iff :
    (group? ('(' :: text)).isSome = true
      ↔ ∃ front, front ++ [')'] <+: '(' :: text ∧ Closes none 0 front := by
  constructor
  · intro h
    obtain ⟨⟨inner, after⟩, hgroup⟩ := Option.isSome_iff_exists.mp h
    have htext := append_of_group? hgroup
    refine ⟨'(' :: inner, ⟨after, ?_⟩, closes_open.mpr (closes_of_groupFrom hgroup).1⟩
    rw [htext, List.append_assoc]
    rfl
  · rintro ⟨front, hfront, hcloses⟩
    refine Option.isSome_iff_ne_none.mpr fun hnone => ?_
    have hunclosed : Unclosed none (0 + 1) text := unclosed_of_groupFrom hnone
    exact hunclosed.behind_open front hfront hcloses

/-- **What a text has from a byte on**: the byte is in the text or at its end,
and it is not inside a character. -/
def FromByte (byte : Nat) (text after : List Char) : Prop :=
  ∃ front, text = front ++ after ∧ (String.ofList front).utf8ByteSize = byte

/-- **Behind a group** the text goes on two bytes behind as many as the group
has. -/
theorem fromByte_of_group? (h : group? text = some (inner, after)) :
    FromByte ((String.ofList inner).utf8ByteSize + 2) text after := by
  refine ⟨'(' :: (inner ++ [')']), ?_, ?_⟩
  · rw [append_of_group? h, List.cons_append, List.append_assoc]
    rfl
  · rw [← List.singleton_append, String.ofList_append, String.ofList_append,
      String.utf8ByteSize_append, String.utf8ByteSize_append]
    show 1 + ((String.ofList inner).utf8ByteSize + 1) = _
    omega

/-- **Lists and groups are read exactly**, in any text. The items of a list make
up the text, and none is cut again. In a text that starts with a bracket the
account of the search is never overdrawn, it finds a group just where some
bracket closes the first, and then up to the first one that does; the text goes
on behind the group as the reader of types goes on there. -/
theorem items_and_group_exact :
    (∀ text, [','].intercalate (items text) = text
      ∧ ∀ item ∈ items text, items item = [item])
    ∧ ∀ text, text.head? = some '(' →
      countedGroup none 0 [] text = .ok ((group? text).map (·.1))
      ∧ ((group? text).isSome = true
        ↔ ∃ front, front ++ [')'] <+: text ∧ Closes none 0 front)
      ∧ ∀ inner after, group? text = some (inner, after) →
        text = '(' :: (inner ++ ')' :: after)
        ∧ Closes none 0 ('(' :: inner) ∧ Unclosed none 0 ('(' :: inner)
        ∧ FromByte ((String.ofList inner).utf8ByteSize + 2) text after
        ∧ takeGroup text = (some inner, trimStart after) := by
  constructor
  · intro text
    obtain ⟨item, others, hitems, hjoin, hitem, hothers⟩ := itemsFrom_cuts none 0 text
    have hall : items text = item :: others := hitems
    rw [hall]
    exact ⟨hjoin, List.forall_mem_cons.mpr ⟨hitem, hothers⟩⟩
  · intro text hhead
    obtain ⟨rest, rfl⟩ := List.head?_eq_some_iff.mp hhead
    refine ⟨?_, isSome_group?_iff, fun inner after hgroup => ?_⟩
    · exact countedGroup_eq none 0 ['('] rest
    · obtain ⟨hcloses, hunclosed⟩ := closes_of_groupFrom hgroup
      refine ⟨append_of_group? hgroup, closes_open.mpr hcloses, hunclosed.behind_open,
        fromByte_of_group? hgroup, ?_⟩
      rw [takeGroup, hgroup]

/-- A list that ends in a bracket and a quote that are never closed, and a group
with brackets in quotes of two kinds, one of its characters two bytes long. -/
theorem items_and_group_exact_open_quote :
    let list := "a,'b,c',(d,e)),f(,'g".toList
    let item := "f(,'g".toList
    let text := "(é ')' (b, \"(\")), 'c)".toList
    let inner := "é ')' (b, \"(\")".toList
    let after := ", 'c)".toList
    item ∈ items list ∧ items item = [item]
      ∧ text.head? = some '(' ∧ group? text = some (inner, after)
      ∧ countedGroup none 0 [] text = .ok (some inner)
      ∧ Closes none 0 ('(' :: inner) ∧ Unclosed none 0 ('(' :: inner)
      ∧ FromByte ((String.ofList inner).utf8ByteSize + 2) text after := by
  intro list item text inner after
  have hitem : item ∈ items list := by decide
  have hgroup : group? text = some (inner, after) := by decide
  obtain ⟨hcut, hsearch⟩ := items_and_group_exact
  obtain ⟨hcounted, -, hfound⟩ := hsearch text rfl
  obtain ⟨-, hcloses, hunclosed, hbyte, -⟩ := hfound inner after hgroup
  rw [hgroup] at hcounted
  exact ⟨hitem, (hcut list).2 item hitem, rfl, hgroup, hcounted, hcloses, hunclosed, hbyte⟩

end SchemaTyping.Sql
