import SchemaTyping.Sql.Statement

/-!
# Brackets and lists inside a statement

The body of a table definition and the arguments of a type are lists in round
brackets. A bracket or a comma between quotes is text: `groupFrom` finds the
bracket that closes a group, and `itemsFrom` parts a list at the commas that
stand outside brackets and quotes. A quote ends at the next quote of its kind;
a doubled quote closes and opens again, which comes to the same.
-/

namespace SchemaTyping.Sql

open Text

/-- The quotes that enclose strings and names. -/
def isQuote (c : Char) : Bool := c == '\'' || c == '"' || c == backquote

/-- The rest of a group and what follows it: the first argument is the open
quote, the second the number of open brackets inside the group. -/
def groupFrom :
    Option Char → Nat → List Char → Option (List Char × List Char)
  | _, _, [] => none
  | some quote, depth, c :: rest =>
    (groupFrom (if c = quote then none else some quote) depth rest).map
      fun (inner, after) => (c :: inner, after)
  | none, depth, c :: rest =>
    if isQuote c then
      (groupFrom (some c) depth rest).map
        fun (inner, after) => (c :: inner, after)
    else if c = '(' then
      (groupFrom none (depth + 1) rest).map
        fun (inner, after) => (c :: inner, after)
    else if c = ')' then
      if depth = 0 then some ([], rest)
      else
        (groupFrom none (depth - 1) rest).map
          fun (inner, after) => (c :: inner, after)
    else
      (groupFrom none depth rest).map
        fun (inner, after) => (c :: inner, after)

/-- **The group a text starts with**: what its brackets enclose and what
follows them; `none` if the text does not start with a bracket or the bracket
is never closed. -/
def group? : List Char → Option (List Char × List Char)
  | '(' :: rest => groupFrom none 0 rest
  | _ => none

theorem append_of_groupFrom {quote : Option Char} {depth : Nat}
    {text inner after : List Char}
    (h : groupFrom quote depth text = some (inner, after)) :
    text = inner ++ ')' :: after := by
  fun_induction groupFrom quote depth text generalizing inner after
  case case1 => cases h
  case case5 =>
    cases h
    rfl
  all_goals
    rename_i ih
    obtain ⟨⟨found, rest'⟩, hfound, heq⟩ := Option.map_eq_some_iff.mp h
    cases heq
    rw [ih hfound, List.cons_append]

/-- A group is in the text with its brackets, at the start. -/
theorem append_of_group? {text inner after : List Char}
    (h : group? text = some (inner, after)) :
    text = '(' :: (inner ++ ')' :: after) := by
  rw [group?.eq_def] at h
  split at h
  · rw [← append_of_groupFrom h]
  · cases h

/-- The items of a list from some point on: the first argument is the open
quote, the second the number of open brackets. A closing bracket without an
opening one is text. -/
def itemsFrom : Option Char → Nat → List Char → List (List Char)
  | _, _, [] => [[]]
  | some quote, depth, c :: rest =>
    prepend c (itemsFrom (if c = quote then none else some quote) depth rest)
  | none, depth, c :: rest =>
    if isQuote c then prepend c (itemsFrom (some c) depth rest)
    else if c = '(' then prepend c (itemsFrom none (depth + 1) rest)
    else if c = ')' then prepend c (itemsFrom none (depth - 1) rest)
    else if c = ',' ∧ depth = 0 then [] :: itemsFrom none 0 rest
    else prepend c (itemsFrom none depth rest)

/-- **The items of a list**: the texts between the commas outside brackets
and quotes. -/
def items (text : List Char) : List (List Char) := itemsFrom none 0 text

/-- The text of an argument: without the quotes around it, if it is quoted,
and with the doubled quotes inside made single. -/
def unquote (text : List Char) : List Char :=
  match text with
  | quote :: rest =>
    if (quote = '\'' ∨ quote = '"') ∧ rest.getLast? = some quote then
      dropBefore quote quote rest.dropLast
    else text
  | [] => []

/-- **The arguments in a group**, unquoted; empty ones count for nothing. -/
def arguments (group : List Char) : List String :=
  (((items group).map fun item => unquote (trim item)).filter
    (!·.isEmpty)).map String.ofList

end SchemaTyping.Sql
