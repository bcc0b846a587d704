import SchemaTyping.Proofs.Sql.TableBody
import SchemaTyping.Proofs.Text.Trim

/-!
# What becomes of a name with schemas

The kind of a column depends on the name of its type as it has been read. A
type that the dump has declared is found by the last part of the name. The
types of the dialects are found by the whole name, and none of these is empty
or has a dot in it (`IsForeign`). So a name with a schema in front, or of which
nothing but a schema is left, is a name that no dialect knows
(`columnKind_of_isForeign`).

One dialect does not look for names only: SQLite takes every name with `int`
in it for an integer, and the letters may be those of a schema.
-/

namespace SchemaTyping.Sql

open Text

variable {dialect : Dialect} {enums : EnumTypes} {type : TypeName}
variable {name front text rest : List Char}

/-! ## Names that no dialect knows -/

/-- **A name is empty or has a dot in it**, as the name of no type has. -/
def IsForeign (name : String) : Prop := name = "" ∨ '.' ∈ name.toList

instance : DecidablePred IsForeign := fun _ => inferInstanceAs (Decidable (_ ∨ _))

theorem IsForeign.ne {name known : String} (h : IsForeign name)
    (hknown : ¬ IsForeign known) : name ≠ known := by
  rintro rfl
  exact hknown h

/-- **A dialect takes a name for an integer**, whatever else it says. -/
def TakenForInteger (dialect : Dialect) (name : String) : Prop :=
  dialect = .sqlite ∧ containsText "int".toList name.toList = true
    ∧ containsText "point".toList name.toList = false

instance : DecidablePred (TakenForInteger dialect) := fun _ =>
  inferInstanceAs (Decidable (_ ∧ _))

theorem sharedKind?_of_isForeign (h : IsForeign type.name) :
    type.sharedKind? = none := by
  unfold TypeName.sharedKind?
  split
  any_goals exact absurd ‹type.name = _› (h.ne (by decide))
  rfl

theorem dialectKind?_of_isForeign (h : IsForeign type.name) :
    type.dialectKind? dialect
      = if TakenForInteger dialect type.name then some (.simple .integer)
        else none := by
  cases dialect with
  | postgres | mySql | sqlServer =>
    rw [if_neg fun h => nomatch h.1]
    simp only [TypeName.dialectKind?, TypeName.postgresKind?, TypeName.mySqlKind?,
      TypeName.sqlServerKind?]
    split
    any_goals exact absurd ‹type.name = _› (h.ne (by decide))
    rfl
  | sqlite =>
    have hnumeric : ¬ (type.name = "numeric" ∧ type.arguments = []) :=
      fun hn => h.ne (by decide) hn.1
    have hinteger : (type.mentions "int" && !type.mentions "point") = true
        ↔ TakenForInteger .sqlite type.name := by
      rw [Bool.and_eq_true, Bool.not_eq_true']
      exact (and_iff_right rfl).symm
    show type.sqliteKind? = _
    unfold TypeName.sqliteKind?
    rw [if_neg hnumeric]
    exact if_congr hinteger rfl rfl

/-- **What becomes of a name that no dialect knows.** -/
theorem columnKind_of_isForeign (h : IsForeign type.name)
    (harray : type.array = false) :
    type.columnKind dialect
      = if TakenForInteger dialect type.name then .simple .integer
        else .other type.name := by
  unfold TypeName.columnKind
  rw [harray, if_neg Bool.false_ne_true, dialectKind?_of_isForeign h,
    sharedKind?_of_isForeign h]
  split <;> rfl

/-! ## Declared types -/

/-- **A type of this name is declared**; schemas around the name do not
matter. -/
def IsDeclared (enums : EnumTypes) (name : String) : Prop :=
  (enums.find? (onString (afterLast '.') name)).isSome = true

instance : DecidablePred (IsDeclared enums) := fun _ =>
  inferInstanceAs (Decidable (_ = true))

/-- A name that has been begun is not empty. -/
theorem nameFrom_ne_nil {quotes : NameQuotes} {stage : NameStage}
    (hname : stage = .inside ∨ stage = .closed → name ≠ [])
    {found : List Char} (h : nameFrom quotes stage name text = some (found, rest)) :
    found ≠ [] := by
  fun_induction nameFrom quotes stage name text with
  | case3 | case5 | case12 | case13 => cases h
  | case9 | case11 | case14 | case15 =>
    cases h
    exact mt List.reverse_eq_nil_iff.mp (hname (by decide))
  | case1 | case8 | case10 =>
    -- Here a new part starts, of which nothing has been read.
    rename_i ih
    exact ih (by decide) h
  | case2 | case4 | case6 =>
    rename_i ih
    exact ih (fun _ => List.cons_ne_nil _ _) h
  | case7 =>
    rename_i ih
    exact ih (fun _ => hname (.inl rfl)) h

theorem enumDefinition?_ne_nil {statement values : List Char}
    (h : enumDefinition? statement = some (name, values)) : name ≠ [] := by
  obtain ⟨text, -, h⟩ := Option.bind_eq_some_iff.mp h
  obtain ⟨⟨found, text⟩, hfound, h⟩ := Option.bind_eq_some_iff.mp h
  obtain ⟨text, -, h⟩ := Option.bind_eq_some_iff.mp h
  have hne : found ≠ [] := nameFrom_ne_nil (by decide) hfound
  split at h
  · split at h
    · cases h
      exact hne
    · cases h
  · cases h

/-- No declared type has an empty name. -/
theorem find?_declared (h : enums.find? "" = none) (earlier : List (List Char)) :
    (declared enums earlier).find? "" = none := by
  induction earlier generalizing enums with
  | nil => exact h
  | cons statement earlier ih =>
    rw [declared]
    split
    · next name values hfound =>
      have hne : "" ≠ String.ofList (asciiLower name) := by
        intro hempty
        have hnil : asciiLower name = [] := by
          rw [← String.ofList_inj, ← hempty]
        exact enumDefinition?_ne_nil hfound (List.map_eq_nil_iff.mp hnil)
      exact ih (by rw [Keyed.find?_insert_of_ne _ _ hne, h])
    · exact ih h

/-- The kind of what is no array: the declared values, or what the dialect
makes of the name. -/
theorem kindOf_eq (harray : type.array = false) :
    kindOf dialect enums type
      = ((enums.find? (onString (afterLast '.') type.name)).map
          ColumnKind.enum).getD (type.columnKind dialect) := by
  unfold kindOf
  split
  · next values hfind =>
    rw [harray, if_neg Bool.false_ne_true, hfind]
    rfl
  · next hfind =>
    rw [hfind]
    rfl

/-- An array is of no kind that has a name. -/
theorem array_eq_false (h : ∀ name, kindOf dialect enums type ≠ .other name) :
    type.array = false := by
  rw [Bool.eq_false_iff]
  intro harray
  have hkind : type.columnKind dialect = .other (type.name ++ "[]") := by
    unfold TypeName.columnKind
    rw [if_pos harray]
  refine h (type.name ++ "[]") ?_
  unfold kindOf
  split
  · rw [if_pos harray, hkind]
  · exact hkind

/-! ## Names with schemas in front -/

/-- **The kind that is made of nothing but schemas**, if no type is declared
with an empty name. -/
theorem kindOf_of_schemas (hempty : enums.find? "" = none)
    (hfront : front = [] ∨ front.getLast? = some '.') :
    kindOf dialect enums { name := String.ofList front }
      = if TakenForInteger dialect (String.ofList front) then .simple .integer
        else .other (String.ofList front) := by
  have hlast : afterLast '.' front = [] := by
    rcases hfront with rfl | hdot
    · rfl
    · obtain ⟨start, rfl⟩ := List.getLast?_eq_some_iff.mp hdot
      exact afterLast_append List.not_mem_nil
  have hkey : onString (afterLast '.') (String.ofList front) = "" := by
    unfold onString
    rw [String.toList_ofList, hlast]
  have hforeign : IsForeign (String.ofList front) := by
    rcases hfront with rfl | hdot
    · exact .inl rfl
    · right
      rw [String.toList_ofList]
      exact List.mem_of_getLast? hdot
  rw [kindOf_eq rfl, hkey, hempty]
  exact columnKind_of_isForeign hforeign rfl

/-- The type with something in front of its name. -/
def TypeName.behind (type : TypeName) (front : List Char) : TypeName :=
  { type with name := String.ofList (front ++ type.name.toList) }

/-- **Schemas in front of a name leave the kind as it is** if the type is
declared, and else only where the kind is an integer and the dialect takes the
whole name for one. -/
theorem kindOf_behind_eq_iff (hfront : front.getLast? = some '.')
    (hknown : ∀ name, kindOf dialect enums type ≠ .other name) :
    kindOf dialect enums (type.behind front) = kindOf dialect enums type
      ↔ IsDeclared enums type.name
        ∨ (kindOf dialect enums type = .simple .integer
          ∧ TakenForInteger dialect (type.behind front).name) := by
  have harray := array_eq_false hknown
  obtain ⟨start, rfl⟩ := List.getLast?_eq_some_iff.mp hfront
  have hname : (type.behind (start ++ ['.'])).name.toList
      = start ++ '.' :: type.name.toList := by
    rw [TypeName.behind, String.toList_ofList, List.append_assoc]
    rfl
  have hkey : onString (afterLast '.') (type.behind (start ++ ['.'])).name
      = onString (afterLast '.') type.name := by
    unfold onString
    rw [hname, afterLast_append_left]
  have hforeign : IsForeign (type.behind (start ++ ['.'])).name := by
    right
    rw [hname]
    exact List.mem_append_right _ List.mem_cons_self
  rw [kindOf_eq harray] at hknown ⊢
  rw [kindOf_eq (show (type.behind _).array = false from harray), hkey,
    columnKind_of_isForeign hforeign harray]
  unfold IsDeclared
  cases hfind : enums.find? (onString (afterLast '.') type.name) with
  | some values => exact iff_of_true rfl (.inl rfl)
  | none =>
    rw [hfind] at hknown
    rw [Option.isSome_none, or_iff_right Bool.false_ne_true]
    dsimp only [Option.map_none, Option.getD_none] at hknown ⊢
    split
    · next hinteger => exact ⟨fun h => ⟨h.symm, hinteger⟩, fun h => h.1.symm⟩
    · next hinteger =>
      exact ⟨fun h => absurd h.symm (hknown _), fun h => absurd h.2 hinteger⟩

end SchemaTyping.Sql
