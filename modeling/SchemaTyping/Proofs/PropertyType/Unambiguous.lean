import SchemaTyping.Proofs.PropertyType.RoundTrip

/-!
# Different types are written differently

The text is all of a type that anyone outside sees, so two types with the same
text would be one type to them. `toString_inj` says that there are no such two,
for all types that are **well spelled**: their classes have names that mean
nothing else, and their union nodes have several members, none of them a union
node. Canonical types are well spelled if their classes have such names; that
the members of a union are different, or not `mixed`, is not asked for.

The literals may hold any text, which is more than the reader of types can
cope with, so this does not follow from reading the text back. It is shown for
the text itself: a type at the start of a text is told by it, and so is the
place where the type ends, provided that what follows starts with one of the
marks that may follow it (`Told`). For the members of a union these are the
bar, the comma and the closing bracket, for a type in brackets only the last
two. A literal needs no such mark, because a quote inside it is never written
alone.
-/

namespace SchemaTyping.PropertyType

open Text

/-! ## Well-spelled types -/

/-- **A well-spelled type**: every class in it has a name that means nothing
else, and every union node at least two members, none of them a union. -/
inductive WellSpelled : PropertyType → Prop
  | basic (type : BasicType) : WellSpelled (.basic type)
  | intLiteral (value : Int64) : WellSpelled (.intLiteral value)
  | stringLiteral (value : String) : WellSpelled (.stringLiteral value)
  | array {key value : PropertyType} (key_spelled : WellSpelled key)
      (value_spelled : WellSpelled value) : WellSpelled (.array key value)
  | object {className : String} {arguments : List PropertyType}
      (isClassName : IsClassName className.toList)
      (arguments_spelled : ∀ type ∈ arguments, WellSpelled type) :
      WellSpelled (.object className arguments)
  | alternatives {types : List PropertyType} (several : 2 ≤ types.length)
      (opened : ∀ type ∈ types, type.isUnion = false)
      (types_spelled : ∀ type ∈ types, WellSpelled type) :
      WellSpelled (.alternatives types)

variable {type other : PropertyType} {types others arguments : List PropertyType}
  {name text behind rest front : List Char} {marks : List Char}

namespace WellSpelled

theorem of_mem_members (h : type.WellSpelled) {member : PropertyType}
    (hmem : member ∈ type.members) : member.WellSpelled ∧ member.isUnion = false := by
  cases h with
  | alternatives _ hopen htypes => exact ⟨htypes member hmem, hopen member hmem⟩
  | basic _ | intLiteral _ | stringLiteral _ =>
    rw [List.mem_singleton.mp hmem]
    exact ⟨by constructor, rfl⟩
  | array hkey hvalue =>
    rw [List.mem_singleton.mp hmem]
    exact ⟨.array hkey hvalue, rfl⟩
  | object hclass harguments =>
    rw [List.mem_singleton.mp hmem]
    exact ⟨.object hclass harguments, rfl⟩

/-- A well-spelled type is its only member, or the node of several. -/
theorem members_cases (h : type.WellSpelled) :
    type.members = [type]
      ∨ type = .alternatives type.members ∧ 2 ≤ type.members.length := by
  cases h with
  | alternatives hseveral _ _ => exact .inr ⟨rfl, hseveral⟩
  | basic _ | intLiteral _ | stringLiteral _ | array _ _ | object _ _ =>
    exact .inl rfl

theorem members_ne_nil (h : type.WellSpelled) : type.members ≠ [] := by
  rcases h.members_cases with hself | ⟨-, hseveral⟩
  · rw [hself]
    exact List.cons_ne_nil _ _
  · exact List.ne_nil_of_length_pos (Nat.lt_of_lt_of_le Nat.two_pos hseveral)

/-- The members of a well-spelled type tell which type it is. -/
theorem eq_of_members_eq (h : type.WellSpelled) (hother : other.WellSpelled)
    (hmembers : type.members = other.members) : type = other := by
  rcases h.members_cases with hself | ⟨hnode, hseveral⟩ <;>
    rcases hother.members_cases with hotherSelf | ⟨hotherNode, hotherSeveral⟩
  · rw [hself, hotherSelf] at hmembers
    exact List.singleton_inj.mp hmembers
  · rw [← hmembers, hself] at hotherSeveral
    simp at hotherSeveral
  · rw [hmembers, hotherSelf] at hseveral
    simp at hseveral
  · rw [hnode, hotherNode, hmembers]

end WellSpelled

/-! ## Where a part of the text ends -/

/-- **The text goes on with one of the marks**, or is at its end. -/
def GoesOnWith (marks text : List Char) : Prop :=
  ∀ c, text.head? = some c → c ∈ marks

/-- **A type is told by the text that starts with it**, and so is the rest of
that text, among the types of a kind, if one of the marks follows. -/
def Told (marks : List Char) (kind : PropertyType → Prop) (type : PropertyType) :
    Prop :=
  ∀ other, kind other → ∀ rest behind, GoesOnWith marks rest →
    GoesOnWith marks behind → type.chars ++ rest = other.chars ++ behind →
    type = other ∧ rest = behind

/-- The marks behind a member of a union, the last two of them behind a type. -/
def memberEnds : List Char := ['|', ',', '>']

/-- The marks behind a type. -/
def typeEnds : List Char := [',', '>']

theorem GoesOnWith.of_nil (marks : List Char) : GoesOnWith marks [] := nofun

theorem GoesOnWith.cons {c : Char} (h : c ∈ marks) (text : List Char) :
    GoesOnWith marks (c :: text) := by
  rintro d hd
  rwa [← Option.some.inj hd]

theorem GoesOnWith.ne_cons {c : Char} (h : GoesOnWith marks text) (hc : c ∉ marks)
    (rest : List Char) : text ≠ c :: rest := by
  rintro rfl
  exact hc (h c rfl)

theorem isNameChar_of_mem_memberEnds :
    ∀ c ∈ memberEnds, isNameChar c = false :=
  eq_false_of_all (by decide)

/-- A name is told by the text that starts with it, up to what belongs to no
name. -/
theorem name_append_inj {first second : List Char}
    (hfirst : ∀ c ∈ first, isNameChar c = true)
    (hsecond : ∀ c ∈ second, isNameChar c = true)
    (hrest : ∀ c, rest.head? = some c → isNameChar c = false)
    (hbehind : ∀ c, behind.head? = some c → isNameChar c = false)
    (h : first ++ rest = second ++ behind) : first = second ∧ rest = behind := by
  obtain ⟨htake, hdrop⟩ := takeWhile_append_of_head hfirst hrest
  obtain ⟨htake', hdrop'⟩ := takeWhile_append_of_head hsecond hbehind
  rw [h] at htake hdrop
  exact ⟨htake.symm.trans htake', hdrop.symm.trans hdrop'⟩

/-! ## Literals -/

/-- A written character is told by the text that starts with it. -/
theorem escapeChar_append_inj {c d : Char}
    (h : escapeChar c ++ rest = escapeChar d ++ behind) : c = d ∧ rest = behind := by
  unfold escapeChar at h
  split at h <;> split at h <;>
    simp only [List.cons_append, List.nil_append, List.cons.injEq] at h
  · exact h.2
  · next hd => exact absurd (.inl h.1.symm) hd
  · next hc _ => exact absurd (.inl h.1) hc
  · exact h

/-- A literal is not at its end where a character is written. -/
theorem escapeChar_append_ne (c : Char) (rest behind : List Char) :
    escapeChar c ++ rest ≠ '\'' :: behind := by
  unfold escapeChar
  split
  · next => simp
  · next hc =>
    rintro h
    exact hc (.inr (List.cons.inj h).1)

/-- **A literal is told by the text that starts with it**, whatever it holds
and whatever follows. -/
theorem quote_append_inj {first second : List Char}
    (h : quote first ++ rest = quote second ++ behind) :
    first = second ∧ rest = behind := by
  have hinner : first.flatMap escapeChar ++ '\'' :: rest
      = second.flatMap escapeChar ++ '\'' :: behind := by
    simpa [quote] using h
  clear h
  induction first generalizing second with
  | nil =>
    cases second with
    | nil => exact ⟨rfl, (List.cons.inj hinner).2⟩
    | cons d second =>
      rw [List.flatMap_cons, List.append_assoc] at hinner
      exact absurd hinner.symm (escapeChar_append_ne d _ _)
  | cons c first ih =>
    cases second with
    | nil =>
      rw [List.flatMap_cons, List.append_assoc] at hinner
      exact absurd hinner (escapeChar_append_ne c _ _)
    | cons d second =>
      rw [List.flatMap_cons, List.flatMap_cons, List.append_assoc,
        List.append_assoc] at hinner
      obtain ⟨hc, htail⟩ := escapeChar_append_inj hinner
      obtain ⟨hfirst, hrest⟩ := ih htail
      exact ⟨congrArg₂ _ hc hfirst, hrest⟩

/-! ## Lists of types -/

section Listed

variable {mark : Char} {gap ends : List Char} {kind : PropertyType → Prop}

/-- Types with a mark in front of each. -/
def listedBehind (mark : Char) (gap : List Char) (types : List PropertyType) :
    List Char :=
  types.flatMap fun type => mark :: (gap ++ type.chars)

theorem intercalate_chars_cons (type : PropertyType) (types : List PropertyType) :
    (mark :: gap).intercalate ((type :: types).map chars)
      = type.chars ++ listedBehind mark gap types := by
  induction types generalizing type with
  | nil => simp [listedBehind]
  | cons next types ih =>
    rw [List.map_cons, List.map_cons, List.intercalate_cons_cons, ← List.map_cons, ih]
    simp [listedBehind]

theorem GoesOnWith.listedBehind (h : GoesOnWith ends rest)
    (types : List PropertyType) :
    GoesOnWith (mark :: ends) (listedBehind mark gap types ++ rest) := by
  cases types with
  | nil => exact fun c hc => List.mem_cons_of_mem _ (h c hc)
  | cons type types => exact .cons List.mem_cons_self _

/-- A list of types is told by the text that starts with it: where it goes on,
there is the mark, and where it ends, there is not. -/
theorem listedBehind_append_inj (hmark : mark ∉ ends)
    (htypes : ∀ type ∈ types, Told (mark :: ends) kind type)
    (hothers : ∀ other ∈ others, kind other)
    (hrest : GoesOnWith ends rest) (hbehind : GoesOnWith ends behind)
    (h : listedBehind mark gap types ++ rest
      = listedBehind mark gap others ++ behind) :
    types = others ∧ rest = behind := by
  induction types generalizing others with
  | nil =>
    cases others with
    | nil => exact ⟨rfl, h⟩
    | cons other others => exact absurd h (hrest.ne_cons hmark _)
  | cons type types ih =>
    cases others with
    | nil => exact absurd h.symm (hbehind.ne_cons hmark _)
    | cons other others =>
      obtain ⟨htold, htypes⟩ := List.forall_mem_cons.mp htypes
      obtain ⟨hkind, hothers⟩ := List.forall_mem_cons.mp hothers
      have hfirst : type.chars ++ (listedBehind mark gap types ++ rest)
          = other.chars ++ (listedBehind mark gap others ++ behind) := by
        simpa [listedBehind] using h
      obtain ⟨htype, hlisted⟩ := htold other hkind _ _ (hrest.listedBehind types)
        (hbehind.listedBehind others) hfirst
      obtain ⟨htail, hend⟩ := ih htypes hothers hlisted
      exact ⟨congrArg₂ _ htype htail, hend⟩

/-- **A list of types is told by its text.** -/
theorem intercalate_chars_inj (hmark : mark ∉ ends) (hne : types ≠ [])
    (hothersNe : others ≠ [])
    (htypes : ∀ type ∈ types, Told (mark :: ends) kind type)
    (hothers : ∀ other ∈ others, kind other)
    (hrest : GoesOnWith ends rest) (hbehind : GoesOnWith ends behind)
    (h : (mark :: gap).intercalate (types.map chars) ++ rest
      = (mark :: gap).intercalate (others.map chars) ++ behind) :
    types = others ∧ rest = behind := by
  obtain ⟨type, types, rfl⟩ := List.exists_cons_of_ne_nil hne
  obtain ⟨other, others, rfl⟩ := List.exists_cons_of_ne_nil hothersNe
  rw [intercalate_chars_cons, intercalate_chars_cons] at h
  have hlisted : listedBehind mark gap (type :: types) ++ rest
      = listedBehind mark gap (other :: others) ++ behind := by
    simpa [listedBehind] using h
  exact listedBehind_append_inj hmark htypes hothers hrest hbehind hlisted

end Listed

/-! ## Names with arguments -/

/-- The type arguments behind a name, which a name may be without. -/
def argumentChars : List PropertyType → List Char
  | [] => []
  | type :: types => '<' :: ((", ".toList).intercalate ((type :: types).map chars) ++ ['>'])

/-- The type that a name with arguments is written for: a number, a keyword or
a class. -/
def ofSpelling (name : List Char) (arguments : List PropertyType) : PropertyType :=
  match readInt64 name with
  | some value => .intLiteral value
  | none => ofName name arguments

/-- **A type is spelled by a name and arguments** if they are its text, and no
other type is written with them. -/
structure SpelledBy (type : PropertyType) (name : List Char)
    (arguments : List PropertyType) : Prop where
  ne_nil : name ≠ []
  isNameChar : ∀ c ∈ name, isNameChar c = true
  chars_eq : type.chars = name ++ argumentChars arguments
  ofSpelling_eq : ofSpelling name arguments = type

theorem spelledBy_basic (type : BasicType) :
    SpelledBy (.basic type) type.keyword.toList [] where
  ne_nil := keyword_ne_nil type
  isNameChar := isNameChar_keyword type
  chars_eq := (List.append_nil _).symm
  ofSpelling_eq := by
    have hnumber : readInt64 type.keyword.toList = none := by
      cases type <;> decide
    rw [ofSpelling, hnumber]
    exact ofName_keyword type

theorem spelledBy_intLiteral (value : Int64) :
    SpelledBy (.intLiteral value) (toString value.toInt).toList [] where
  ne_nil hnil := by
    have hread := readInt64_toString value
    rw [hnil] at hread
    cases hread
  isNameChar := isNameChar_toString value.toInt
  chars_eq := (List.append_nil _).symm
  ofSpelling_eq := by rw [ofSpelling, readInt64_toString]

theorem spelledBy_array (key value : PropertyType) :
    SpelledBy (.array key value) "array".toList [key, value] where
  ne_nil := by decide
  isNameChar := isNameChar_array
  chars_eq := by
    rw [chars_array, applied, argumentChars, toList_comma_space]
  ofSpelling_eq := by
    have hnumber : readInt64 "array".toList = none := by decide
    rw [ofSpelling, hnumber]
    rfl

theorem spelledBy_object {className : String} (h : IsClassName className.toList)
    (arguments : List PropertyType) :
    SpelledBy (.object className arguments) className.toList arguments where
  ne_nil := h.ne_nil
  isNameChar := h.isNameChar
  chars_eq := by
    cases arguments with
    | nil => exact (List.append_nil _).symm
    | cons type types =>
      rw [chars_object, applied, argumentChars, toList_comma_space]
  ofSpelling_eq := by
    rw [ofSpelling, h.not_number]
    show ofName className.toList arguments = _
    rw [h.ofName_eq, String.ofList_toList]

/-- **The kinds of well-spelled types**: a literal, a name with arguments, or a
union node. -/
theorem WellSpelled.spelling (h : type.WellSpelled) (hunion : type.isUnion = false) :
    (∃ value, type = .stringLiteral value)
      ∨ ∃ name arguments, SpelledBy type name arguments
        ∧ ∀ argument ∈ arguments, argument.WellSpelled := by
  cases h with
  | basic type => exact .inr ⟨_, _, spelledBy_basic type, nofun⟩
  | intLiteral value => exact .inr ⟨_, _, spelledBy_intLiteral value, nofun⟩
  | stringLiteral value => exact .inl ⟨value, rfl⟩
  | array hkey hvalue =>
    exact .inr ⟨_, _, spelledBy_array _ _, List.forall_mem_cons.mpr
      ⟨hkey, List.forall_mem_singleton.mpr hvalue⟩⟩
  | object hclass harguments =>
    exact .inr ⟨_, _, spelledBy_object hclass _, harguments⟩
  | alternatives _ _ _ => cases hunion

/-- What follows a name: its arguments, or what follows a member. -/
theorem not_isNameChar_of_argumentChars (h : GoesOnWith memberEnds rest)
    (arguments : List PropertyType) :
    ∀ c, (argumentChars arguments ++ rest).head? = some c → isNameChar c = false := by
  intro c hc
  cases arguments with
  | nil => exact isNameChar_of_mem_memberEnds c (h c hc)
  | cons type types =>
    cases hc
    decide

/-- **Arguments are told by their text.** -/
theorem argumentChars_append_inj {first second : List PropertyType}
    (hfirst : ∀ type ∈ first, Told typeEnds WellSpelled type)
    (hsecond : ∀ type ∈ second, type.WellSpelled)
    (hrest : GoesOnWith memberEnds rest) (hbehind : GoesOnWith memberEnds behind)
    (h : argumentChars first ++ rest = argumentChars second ++ behind) :
    first = second ∧ rest = behind := by
  have hopen : '<' ∉ memberEnds := by decide
  cases first with
  | nil =>
    cases second with
    | nil => exact ⟨rfl, h⟩
    | cons type types => exact absurd h (hrest.ne_cons hopen _)
  | cons type types =>
    cases second with
    | nil => exact absurd h.symm (hbehind.ne_cons hopen _)
    | cons other others =>
      have hlist : [',', ' '].intercalate ((type :: types).map chars) ++ '>' :: rest
          = [',', ' '].intercalate ((other :: others).map chars) ++ '>' :: behind := by
        simpa only [argumentChars, toList_comma_space, List.cons_append,
          List.append_assoc, List.nil_append, List.cons.injEq, true_and] using h
      have hclose : ∀ text, GoesOnWith ['>'] ('>' :: text) :=
        GoesOnWith.cons List.mem_cons_self
      obtain ⟨harguments, hend⟩ := intercalate_chars_inj (by decide)
        (List.cons_ne_nil type types) (List.cons_ne_nil other others) hfirst hsecond
        (hclose rest) (hclose behind) hlist
      exact ⟨harguments, (List.cons.inj hend).2⟩

/-- The first character of a name is no quote. -/
theorem SpelledBy.append_ne_quote (h : SpelledBy type name arguments)
    (rest behind : List Char) : type.chars ++ rest ≠ '\'' :: behind := by
  obtain ⟨first, others, rfl⟩ := List.exists_cons_of_ne_nil h.ne_nil
  rw [h.chars_eq]
  intro heq
  have hfirst : first = '\'' := (List.cons.inj heq).1
  exact ne_of_isNameChar (h.isNameChar first List.mem_cons_self) (by decide) hfirst

/-! ## Types -/

/-- What may be a member of a union. -/
def IsMember (type : PropertyType) : Prop := type.WellSpelled ∧ type.isUnion = false

/-- A literal is told, whatever follows. -/
theorem told_stringLiteral (value : String) :
    Told memberEnds IsMember (.stringLiteral value) := by
  rintro other ⟨hother, hunion⟩ rest behind - - h
  rcases hother.spelling hunion with ⟨value', rfl⟩ | ⟨name, arguments, hspelled, -⟩
  · obtain ⟨hvalue, hend⟩ := quote_append_inj h
    exact ⟨congrArg _ (String.toList_inj.mp hvalue), hend⟩
  · exact absurd h.symm (hspelled.append_ne_quote _ _)

/-- **A name with arguments is told** if the arguments are. -/
theorem SpelledBy.told (h : SpelledBy type name arguments)
    (harguments : ∀ argument ∈ arguments, Told typeEnds WellSpelled argument) :
    Told memberEnds IsMember type := by
  rintro other ⟨hother, hunion⟩ rest behind hrest hbehind htext
  rcases hother.spelling hunion with ⟨value, rfl⟩ | ⟨name', arguments', hspelled, hall⟩
  · exact absurd htext (h.append_ne_quote _ _)
  · rw [h.chars_eq, hspelled.chars_eq, List.append_assoc, List.append_assoc] at htext
    obtain ⟨hname, htext⟩ := name_append_inj h.isNameChar hspelled.isNameChar
      (not_isNameChar_of_argumentChars hrest _)
      (not_isNameChar_of_argumentChars hbehind _) htext
    obtain ⟨hsame, hend⟩ :=
      argumentChars_append_inj harguments hall hrest hbehind htext
    exact ⟨by rw [← h.ofSpelling_eq, ← hspelled.ofSpelling_eq, hname, hsame], hend⟩

/-- **A type is told if its members are**: their list is told, and it tells the
type. -/
theorem told_of_members (h : type.WellSpelled)
    (hmembers : ∀ member ∈ type.members, Told memberEnds IsMember member) :
    Told typeEnds WellSpelled type := by
  intro other hother rest behind hrest hbehind htext
  rw [chars_eq_intercalate type, chars_eq_intercalate other] at htext
  obtain ⟨hsame, hend⟩ := intercalate_chars_inj (by decide) h.members_ne_nil
    hother.members_ne_nil hmembers (fun _ => hother.of_mem_members)
    hrest hbehind htext
  exact ⟨h.eq_of_members_eq hother hsame, hend⟩

/-- **The members of a well-spelled type are told.** The induction is on the
type; where it has arguments, these are told because their members are. -/
theorem told_member (h : type.WellSpelled) :
    ∀ member ∈ type.members, Told memberEnds IsMember member := by
  induction h with
  | basic type =>
    exact List.forall_mem_singleton.mpr ((spelledBy_basic type).told nofun)
  | intLiteral value =>
    exact List.forall_mem_singleton.mpr ((spelledBy_intLiteral value).told nofun)
  | stringLiteral value =>
    exact List.forall_mem_singleton.mpr (told_stringLiteral value)
  | @array key value hkey hvalue ihkey ihvalue =>
    refine List.forall_mem_singleton.mpr ((spelledBy_array key value).told ?_)
    exact List.forall_mem_cons.mpr ⟨told_of_members hkey ihkey,
      List.forall_mem_singleton.mpr (told_of_members hvalue ihvalue)⟩
  | object hclass harguments ih =>
    refine List.forall_mem_singleton.mpr ((spelledBy_object hclass _).told ?_)
    exact fun argument hmem => told_of_members (harguments argument hmem)
      (ih argument hmem)
  | alternatives _ hopen _ ih =>
    intro member hmem
    have hself : member.members = [member] :=
      members_of_not_isUnion (hopen member hmem)
    exact ih member hmem member (hself ▸ List.mem_cons_self)

/-- **Different types are written differently**, at any depth and with any
literals. -/
theorem toString_inj (h : type.WellSpelled) (hother : other.WellSpelled) :
    toString type = toString other ↔ type = other := by
  constructor
  · intro htext
    have hchars : type.chars ++ [] = other.chars ++ [] := by
      rw [List.append_nil, List.append_nil]
      exact String.ofList_injective htext
    exact (told_of_members h (told_member h) other hother [] [] (.of_nil _)
      (.of_nil _) hchars).1
  · exact congrArg toString

/-- Two arguments that are literals, and one literal that looks like them. -/
theorem toString_inj_quoted :
    let two : PropertyType :=
      .object "App\\Box" [.stringLiteral "a", .stringLiteral "b"]
    let one : PropertyType := .object "App\\Box" [.stringLiteral "a', 'b"]
    two.WellSpelled ∧ one.WellSpelled
      ∧ toString two = "App\\Box<'a', 'b'>" ∧ toString two ≠ toString one := by
  intro two one
  have hclass : IsClassName "App\\Box".toList :=
    ⟨by decide, List.all_eq_true.mp (by decide), by decide, by decide, by decide⟩
  have htwo : two.WellSpelled := .object hclass <| List.forall_mem_cons.mpr
    ⟨.stringLiteral _, List.forall_mem_singleton.mpr (.stringLiteral _)⟩
  have hone : one.WellSpelled :=
    .object hclass (List.forall_mem_singleton.mpr (.stringLiteral _))
  exact ⟨htwo, hone, by decide, mt (toString_inj htwo hone).mp (by decide)⟩

end SchemaTyping.PropertyType
