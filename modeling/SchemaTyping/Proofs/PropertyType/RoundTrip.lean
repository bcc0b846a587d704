import SchemaTyping.Proofs.PropertyType.Literal

/-!
# Types that are written are read

A type is written without any mark of what its parts are: the reader has to
tell a keyword from a class, a number from a name, and the bars and commas of
the type itself from those of its parts and literals. `read_toString` says
that it does, at any depth, for every type that is **legible**: its classes
have names that mean nothing else, and its string literals hold neither the
quote nor the backslash. Such a type has to be canonical, too, because nothing
else is ever read.

The text of a type is solid, so that trimming leaves it alone, and whole for
the separators around it, so that it comes back in one piece. These two facts
are all the reader of the text around needs to know of it; they are shown once
for every kind of type, and the reading of a type is then an induction on it.
-/

namespace SchemaTyping.PropertyType

open Text
open Sql (doubled_eq_self)

/-! ## Legible types -/

/-- The words, in small letters, that the reader does not take for classes. -/
def keywords : List String :=
  ["int", "integer", "float", "double", "string", "numeric-string", "bool",
    "boolean", "null", "mixed", "array-key", "object", "scalar", "array"]

/-- **The name of a class** that means nothing else: it has the characters of
a name, does not start at the root namespace, and is neither a keyword, in any
case of letters, nor a number. -/
structure IsClassName (name : List Char) : Prop where
  ne_nil : name ≠ []
  isNameChar : ∀ c ∈ name, isNameChar c = true
  not_root : name.head? ≠ some '\\'
  not_keyword : String.ofList (asciiLower name) ∉ keywords
  not_number : readInt64 name = none

/-- **A legible type**: every class in it has a name that means nothing else,
and no string literal in it has a character that is written with a backslash
in front. -/
inductive Legible : PropertyType → Prop
  | basic (type : BasicType) : Legible (.basic type)
  | intLiteral (value : Int64) : Legible (.intLiteral value)
  | stringLiteral {value : String} (no_quote : '\'' ∉ value.toList)
      (no_backslash : '\\' ∉ value.toList) : Legible (.stringLiteral value)
  | array {key value : PropertyType} (key_legible : Legible key)
      (value_legible : Legible value) : Legible (.array key value)
  | object {className : String} {arguments : List PropertyType}
      (isClassName : IsClassName className.toList)
      (arguments_legible : ∀ type ∈ arguments, Legible type) :
      Legible (.object className arguments)
  | alternatives {types : List PropertyType}
      (types_legible : ∀ type ∈ types, Legible type) :
      Legible (.alternatives types)

/-! ## Names -/

variable {c : Char} {name : List Char}

theorem ne_of_isNameChar {d : Char} (h : isNameChar c = true)
    (hd : isNameChar d = false) : c ≠ d := by
  rintro rfl
  rw [h] at hd
  cases hd

theorem isBlank_of_isNameChar (h : isNameChar c = true) : isBlank c = false := by
  have hname : ((c.isAlphanum || c == '_') || c == '\\') || c == '-' := h
  rw [Bool.or_eq_true, Bool.or_eq_true, beq_iff_eq, beq_iff_eq] at hname
  rcases hname with (hword | rfl) | rfl
  · exact isBlank_of_isAsciiWord hword
  · decide
  · decide

theorem isName_iff :
    isName name = true ↔ name ≠ [] ∧ ∀ c ∈ name, isNameChar c = true := by
  rw [isName, Bool.and_eq_true, Bool.not_eq_true', List.isEmpty_eq_false_iff,
    List.all_eq_true]

/-- The marks of the notation are no characters of a name. -/
theorem not_mark_of_isNameChar (h : isNameChar c = true) :
    c ∉ delimiters ∧ c ≠ '|' ∧ c ≠ ',' ∧ c ≠ '?' := by
  refine ⟨fun hmem => ?_, ne_of_isNameChar h (by decide),
    ne_of_isNameChar h (by decide), ne_of_isNameChar h (by decide)⟩
  have hc : isNameChar c = false := eq_false_of_all (by decide) c hmem
  rw [h] at hc
  cases hc

theorem isNameChar_array : ∀ c ∈ "array".toList, isNameChar c = true :=
  List.all_eq_true.mp (by decide)

theorem keyword_ne_nil (type : BasicType) : type.keyword.toList ≠ [] := by
  cases type <;> decide

theorem isNameChar_keyword (type : BasicType) :
    ∀ c ∈ type.keyword.toList, isNameChar c = true := by
  refine List.all_eq_true.mp ?_
  cases type <;> decide

/-- A digit or a sign is a character of a name. -/
theorem isNameChar_toString (value : Int) :
    ∀ c ∈ (toString value).toList, isNameChar c = true := by
  have hdigits : ∀ n : Nat, ∀ c ∈ (Nat.repr n).toList, isNameChar c = true := by
    intro n c hc
    rw [Nat.toList_repr] at hc
    have hdigit : c.isDigit = true :=
      Nat.isDigit_of_mem_toDigits (by decide) (by decide) hc
    unfold isNameChar Char.isAlphanum
    rw [hdigit]
    simp
  rw [Int.toString_eq_repr, Int.repr_eq_if]
  split
  · exact hdigits _
  · rw [String.toList_append]
    exact List.forall_mem_append.mpr
      ⟨List.all_eq_true.mp (by decide), hdigits _⟩

theorem solid_of_isNameChar (hne : name ≠ [])
    (h : ∀ c ∈ name, isNameChar c = true) : Solid name :=
  .of_forall hne fun c hc => isBlank_of_isNameChar (h c hc)

/-! ## The text of a type -/

/-- The text of a name with arguments. -/
def applied (name : List Char) (arguments : List PropertyType) : List Char :=
  name ++ '<' :: ([',', ' '].intercalate (arguments.map chars) ++ ['>'])

theorem toList_comma_space : ", ".toList = [',', ' '] := by decide

theorem chars_array (key value : PropertyType) :
    (array key value).chars = applied "array".toList [key, value] := by
  have hopen : "array<".toList = "array".toList ++ ['<'] := by decide
  show "array<".toList ++ key.chars ++ ", ".toList ++ value.chars ++ ['>'] = _
  rw [hopen, toList_comma_space, applied, List.map_cons, List.map_singleton,
    List.intercalate_cons_cons, List.intercalate_singleton]
  simp only [List.append_assoc, List.cons_append, List.nil_append]

theorem chars_object_nil (className : String) :
    (object className []).chars = className.toList := rfl

theorem chars_object (className : String) (type : PropertyType)
    (types : List PropertyType) :
    (object className (type :: types)).chars
      = applied className.toList (type :: types) := by
  show className.toList ++ ['<']
    ++ ", ".toList.intercalate (charsOfAll (type :: types)) ++ ['>'] = _
  rw [charsOfAll_eq_map, toList_comma_space, applied, List.append_assoc,
    List.append_assoc, List.singleton_append]

/-- The text of a type is that of its members, parted by bars. -/
theorem chars_eq_intercalate (type : PropertyType) :
    type.chars = ['|'].intercalate (type.members.map chars) := by
  cases type with
  | alternatives types =>
    show ['|'].intercalate (charsOfAll types) = _
    rw [charsOfAll_eq_map]
    rfl
  | basic _ | intLiteral _ | stringLiteral _ | array _ _ | object _ _ =>
    exact List.intercalate_singleton.symm

section Whole

variable {separator : Char} {inside : Bool}

theorem whole_of_isNameChar (hseparator : separator = '|' ∨ separator = ',')
    (h : ∀ c ∈ name, isNameChar c = true) : Whole separator inside name := by
  refine .of_plain fun c hc => ?_
  obtain ⟨hc, hbar, hcomma, -⟩ := not_mark_of_isNameChar (h c hc)
  rcases hseparator with rfl | rfl
  · exact ⟨hc, hbar⟩
  · exact ⟨hc, hcomma⟩

theorem whole_applied (hseparator : separator = '|' ∨ separator = ',')
    (hname : ∀ c ∈ name, isNameChar c = true) {arguments : List PropertyType}
    (h : ∀ type ∈ arguments, Whole separator true type.chars) :
    Whole separator inside (applied name arguments) := by
  have hgap : Whole separator true [',', ' '] :=
    .plain (by decide) (.inl rfl) (.plain (by decide) (.inl rfl) (.nil true))
  exact (whole_of_isNameChar hseparator hname).append
    (.group (.intercalate hgap (List.forall_mem_map.mpr h)) (.nil inside))

/-- **The text of a legible type is whole** for commas, and for bars too
unless it is a union outside brackets. -/
theorem Legible.whole_chars {type : PropertyType} (h : type.Legible)
    (hseparator : separator = '|' ∨ separator = ',')
    (hinside : inside = true ∨ separator = ',' ∨ type.isUnion = false) :
    Whole separator inside type.chars := by
  induction h generalizing inside with
  | basic type => exact whole_of_isNameChar hseparator (isNameChar_keyword type)
  | intLiteral value =>
    exact whole_of_isNameChar hseparator (isNameChar_toString value.toInt)
  | stringLiteral hquote _ => exact whole_quote hquote
  | array _ _ ihkey ihvalue =>
    rw [chars_array]
    exact whole_applied hseparator isNameChar_array
      (List.forall_mem_cons.mpr ⟨ihkey (.inl rfl),
        List.forall_mem_singleton.mpr (ihvalue (.inl rfl))⟩)
  | @object className arguments hclass _ ih =>
    cases arguments with
    | nil =>
      rw [chars_object_nil]
      exact whole_of_isNameChar hseparator hclass.isNameChar
    | cons type types =>
      rw [chars_object]
      exact whole_applied hseparator hclass.isNameChar
        fun type hmem => ih type hmem (.inl rfl)
  | alternatives _ ih =>
    -- The bars of the union stand inside brackets, or commas are looked for.
    have hinside : inside = true ∨ separator = ',' :=
      (or_assoc.mpr hinside).resolve_right nofun
    have hbar : Whole separator inside ['|'] := by
      refine .plain (by decide) (hinside.imp_right ?_) (.nil inside)
      rintro rfl
      decide
    rw [chars_eq_intercalate]
    exact .intercalate hbar (List.forall_mem_map.mpr fun type hmem =>
      ih type hmem (hinside.imp_right .inl))

end Whole

theorem solid_applied (hname : Solid name) (arguments : List PropertyType) :
    Solid (applied name arguments) :=
  have hclose : Solid ['>'] := .singleton (by decide)
  hname.append ('<' :: [',', ' '].intercalate (arguments.map chars)) hclose

/-- **The text of a legible type is solid.** -/
theorem Legible.solid_chars {type : PropertyType} (hcanonical : type.Canonical)
    (h : type.Legible) : Solid type.chars := by
  induction hcanonical with
  | basic type =>
    exact solid_of_isNameChar (keyword_ne_nil type) (isNameChar_keyword type)
  | intLiteral value =>
    refine solid_of_isNameChar (fun hnil => ?_) (isNameChar_toString value.toInt)
    have hread : readInt64 (PropertyType.intLiteral value).chars = some value :=
      readInt64_toString value
    rw [hnil] at hread
    cases hread
  | stringLiteral value => exact solid_quote value.toList
  | array _ _ _ _ =>
    rw [chars_array]
    exact solid_applied (solid_of_isNameChar (by decide) isNameChar_array) _
  | @object className arguments _ _ =>
    cases h with
    | object hclass _ =>
      have hname := solid_of_isNameChar hclass.ne_nil hclass.isNameChar
      cases arguments with
      | nil =>
        rw [chars_object_nil]
        exact hname
      | cons type types =>
        rw [chars_object]
        exact solid_applied hname _
  | @alternatives types hseveral _ _ _ ih =>
    cases h with
    | alternatives hlegible =>
      rw [chars_eq_intercalate]
      refine .intercalate _ (fun hnil => ?_)
        (List.forall_mem_map.mpr fun type hmem => ih type hmem (hlegible type hmem))
      have htypes : types = [] := List.map_eq_nil_iff.mp hnil
      rw [htypes] at hseveral
      cases hseveral

/-! ## Reading a name -/

/-- A keyword names its type. -/
theorem ofName_keyword (type : BasicType) :
    ofName type.keyword.toList [] = .basic type := by
  cases type <;> decide

theorem ofKeyword?_eq_none {keyword : String} (h : keyword ∉ keywords) :
    ofKeyword? keyword = none := by
  unfold ofKeyword?
  split <;> first | rfl | exact absurd (by decide) h

/-- **The name of a class names its class.** -/
theorem IsClassName.ofName_eq (h : IsClassName name)
    (arguments : List PropertyType) :
    ofName name arguments = .object (String.ofList name) arguments := by
  have harray : String.ofList (asciiLower name) ≠ "array" :=
    fun heq => h.not_keyword (heq ▸ by decide)
  have hroot : name.dropWhile (· == '\\') = name := by
    have hhead := h.not_root
    cases name with
    | nil => rfl
    | cons c rest =>
      refine List.dropWhile_cons_of_neg fun hc => hhead ?_
      rw [List.head?_cons, eq_of_beq hc]
  have hsolid := solid_of_isNameChar h.ne_nil h.isNameChar
  unfold ofName
  dsimp only
  rw [if_neg harray, ofKeyword?_eq_none h.not_keyword, Option.getD_none, generic,
    normalizeClass, onString, String.toList_ofList, hsolid.trim_eq, hroot]

section Atom

variable (source : List Char)

theorem stringLiteral?_eq_none {first : Char} (rest : List Char)
    (h : first ∉ delimiters) : stringLiteral? (first :: rest) = none :=
  if_neg fun hquote => (not_mem_delimiters_iff.mp h).1 hquote.1

theorem readName_eq_ok (hne : name ≠ []) (h : ∀ c ∈ name, isNameChar c = true)
    (arguments : List PropertyType) :
    readName source name arguments = .ok (ofName name arguments) :=
  if_pos (isName_iff.mpr ⟨hne, h⟩)

/-- **A bare name** that is no number is read as the type it names. -/
theorem readAtom_name (hne : name ≠ []) (h : ∀ c ∈ name, isNameChar c = true)
    (hnumber : readInt64 name = none) :
    readAtom source name = .ok (ofName name []) := by
  have hopen : '<' ∉ name := fun hmem => absurd (h _ hmem) (by decide)
  have hread := readName_eq_ok source hne h []
  obtain ⟨first, rest, rfl⟩ := List.exists_cons_of_ne_nil hne
  obtain ⟨hfirst, -, -, hmark⟩ :=
    not_mark_of_isNameChar (h first List.mem_cons_self)
  rw [readAtom_cons_eq source rest hmark, stringLiteral?_eq_none rest hfirst,
    hnumber, nameAndArguments, cutFirst_eq_none hopen]
  exact hread

/-- A number is read as a literal. -/
theorem readAtom_number {value : Int64} (h : ∀ c ∈ name, isNameChar c = true)
    (hnumber : readInt64 name = some value) :
    readAtom source name = .ok (.intLiteral value) := by
  cases name with
  | nil => cases hnumber
  | cons first rest =>
    obtain ⟨hfirst, -, -, hmark⟩ :=
      not_mark_of_isNameChar (h first List.mem_cons_self)
    rw [readAtom_cons_eq source rest hmark, stringLiteral?_eq_none rest hfirst,
      hnumber]

/-- The arguments of a name are read one by one, without the blanks around
them. -/
theorem readArguments_eq_ok {found : List (List Char)}
    {types : List PropertyType} (h : found.map trim = types.map chars)
    (hread : ∀ type ∈ types, ∀ text, trim text = type.chars →
      readChars text = .ok type) :
    readArguments source found = .ok types := by
  induction types generalizing found with
  | nil =>
    rw [List.map_eq_nil_iff.mp h, readArguments]
  | cons type types ih =>
    obtain ⟨piece, rest, rfl, hpiece, hrest⟩ := List.map_eq_cons_iff.mp h
    obtain ⟨hfirst, hothers⟩ := List.forall_mem_cons.mp hread
    rw [readArguments, hfirst piece hpiece, ih hrest hothers]
    rfl

/-- A list of whole and solid texts comes apart into these texts, with blanks
around them. -/
theorem exists_pieces {separator : Char} (gap : List Char)
    (hseparator : separator ∉ delimiters)
    (hgap : ∀ c ∈ gap, isBlank c = true ∧ c ∉ delimiters ∧ c ≠ separator)
    {parts : List (List Char)} (hne : parts ≠ [])
    (h : ∀ part ∈ parts, Whole separator false part ∧ Solid part) :
    ∃ found, pieces separator ((separator :: gap).intercalate parts) = some found
      ∧ found.map trim = parts := by
  obtain ⟨part, parts, rfl⟩ := List.exists_cons_of_ne_nil hne
  refine ⟨_, pieces_intercalate hseparator (fun c hc => (hgap c hc).2)
    fun p hp => (h p hp).1, ?_⟩
  obtain ⟨⟨-, hpart⟩, hparts⟩ := List.forall_mem_cons.mp h
  have htrim : ∀ p ∈ parts, (trim ∘ (gap ++ ·)) p = p := by
    intro p hp
    rw [Function.comp_apply, trim_append_of_isBlank fun c hc => (hgap c hc).1,
      (hparts p hp).2.trim_eq]
  rw [List.map_cons, hpart.trim_eq, List.map_map, List.map_congr_left htrim,
    List.map_id']

/-- **A name in front of brackets** is read as the type it names, once what
stands in the brackets is read. There may be blanks between the two. -/
theorem readAtom_bracketed (hne : name ≠ [])
    (h : ∀ c ∈ name, isNameChar c = true) {gap inner : List Char}
    (hgap : ∀ c ∈ gap, isBlank c = true) {found : List (List Char)}
    (hpieces : pieces ',' inner = some found) {arguments : List PropertyType}
    (harguments : readArguments source found = .ok arguments) :
    readAtom source (name ++ (gap ++ '<' :: (inner ++ ['>'])))
      = .ok (ofName name arguments) := by
  have hopen : '<' ∉ name ++ gap := by
    rw [List.mem_append]
    rintro (hmem | hmem)
    · exact absurd (h _ hmem) (by decide)
    · exact absurd (hgap _ hmem) (by decide)
  have hnumber : readInt64 (name ++ (gap ++ '<' :: (inner ++ ['>']))) = none :=
    readInt64_eq_none
      (List.mem_append_right _ (List.mem_append_right _ List.mem_cons_self))
      (by decide) (by decide)
  have hname : nameAndArguments (name ++ (gap ++ '<' :: (inner ++ ['>'])))
      = some (name, some inner) := by
    rw [nameAndArguments, ← List.append_assoc, cutFirst_append hopen]
    dsimp only
    rw [if_pos List.getLast?_concat, List.dropLast_concat, trim_append_blanks hgap,
      (solid_of_isNameChar hne h).trim_eq]
  have hok := readName_eq_ok source hne h arguments
  obtain ⟨first, rest, rfl⟩ := List.exists_cons_of_ne_nil hne
  obtain ⟨hfirst, -, -, hmark⟩ :=
    not_mark_of_isNameChar (h first List.mem_cons_self)
  rw [List.cons_append] at hnumber hname ⊢
  rw [readAtom_cons_eq source _ hmark, stringLiteral?_eq_none _ hfirst, hnumber,
    hname]
  dsimp only
  rw [hpieces]
  dsimp only
  rw [harguments]
  exact hok

/-- **A name with arguments** is read as the type it names, once its arguments
are read. -/
theorem readAtom_applied (hne : name ≠ [])
    (h : ∀ c ∈ name, isNameChar c = true) {arguments : List PropertyType}
    (harguments : arguments ≠ [])
    (hall : ∀ type ∈ arguments, type.Canonical ∧ type.Legible)
    (hread : ∀ type ∈ arguments, ∀ text, trim text = type.chars →
      readChars text = .ok type) :
    readAtom source (applied name arguments) = .ok (ofName name arguments) := by
  have hparts : ∀ part ∈ arguments.map chars,
      Whole ',' false part ∧ Solid part :=
    List.forall_mem_map.mpr fun type hmem =>
      ⟨(hall type hmem).2.whole_chars (.inr rfl) (.inr (.inl rfl)),
        (hall type hmem).2.solid_chars (hall type hmem).1⟩
  obtain ⟨found, hpieces, hfound⟩ := exists_pieces [' '] (by decide)
    (List.forall_mem_singleton.mpr (by decide)) (mt List.map_eq_nil_iff.mp harguments) hparts
  have hgap : ∀ c ∈ ([] : List Char), isBlank c = true := nofun
  exact readAtom_bracketed source hne h hgap hpieces
    (readArguments_eq_ok source hfound hread)

end Atom

/-! ## Reading a type -/

theorem Legible.of_mem_members {type : PropertyType} (h : type.Legible)
    {member : PropertyType} (hmem : member ∈ type.members) : member.Legible := by
  cases type with
  | alternatives types =>
    cases h with
    | alternatives hlegible => exact hlegible member hmem
  | basic _ | intLiteral _ | stringLiteral _ | array _ _ | object _ _ =>
    rwa [List.mem_singleton.mp hmem]

theorem readMembers_eq_ok {source : List Char} {found : List (List Char)}
    {types : List PropertyType} (h : found.map trim = types.map chars)
    (hread : ∀ type ∈ types, ∀ source, readAtom source type.chars = .ok type) :
    readMembers source found = .ok types := by
  induction types generalizing found with
  | nil => rw [List.map_eq_nil_iff.mp h, readMembers]
  | cons type types ih =>
    obtain ⟨piece, rest, rfl, hpiece, hrest⟩ := List.map_eq_cons_iff.mp h
    obtain ⟨hfirst, hothers⟩ := List.forall_mem_cons.mp hread
    rw [readMembers, hpiece, hfirst, ih hrest hothers]
    rfl

/-- A type is read, with blanks around it, if its members are. -/
theorem readChars_eq_ok {type : PropertyType} (hcanonical : type.Canonical)
    (hlegible : type.Legible)
    (hread : ∀ member ∈ type.members, ∀ source,
      readAtom source member.chars = .ok member)
    {text : List Char} (htext : trim text = type.chars) :
    readChars text = .ok type := by
  have hparts : ∀ part ∈ type.members.map chars,
      Whole '|' false part ∧ Solid part := by
    refine List.forall_mem_map.mpr fun member hmem => ?_
    obtain ⟨hunion, hmember⟩ := hcanonical.of_mem_members hmem
    have hlegible := hlegible.of_mem_members hmem
    exact ⟨hlegible.whole_chars (.inl rfl) (.inr (.inr hunion)),
      hlegible.solid_chars hmember⟩
  obtain ⟨found, hpieces, hfound⟩ := exists_pieces [] (by decide)
    nofun (mt List.map_eq_nil_iff.mp hcanonical.members_ne_nil) hparts
  rw [← chars_eq_intercalate] at hpieces
  have hnonempty : type.chars.isEmpty = false :=
    List.isEmpty_eq_false_iff.mpr (hlegible.solid_chars hcanonical).ne_nil
  rw [readChars_eq, htext, hnonempty, if_neg Bool.false_ne_true, hpieces]
  show (readMembers text found).map union = _
  rw [readMembers_eq_ok hfound hread]
  exact congrArg Except.ok hcanonical.union_members

/-- **The members of a legible type are read**, whatever type they are found
in. The induction is on the type, and what it says of the arguments of a name
is enough to read them (`readChars_eq_ok`). -/
theorem readAtom_chars {type : PropertyType} (hcanonical : type.Canonical)
    (hlegible : type.Legible) {member : PropertyType}
    (hmem : member ∈ type.members) (source : List Char) :
    readAtom source member.chars = .ok member := by
  induction hcanonical generalizing member source with
  | basic type =>
    have hnumber : readInt64 type.keyword.toList = none := by
      cases type <;> decide
    have hread := readAtom_name source (keyword_ne_nil type)
      (isNameChar_keyword type) hnumber
    rw [ofName_keyword] at hread
    rw [List.mem_singleton.mp hmem]
    exact hread
  | intLiteral value =>
    have hread := readAtom_number source (isNameChar_toString value.toInt)
      (readInt64_toString value)
    rw [List.mem_singleton.mp hmem]
    exact hread
  | stringLiteral value =>
    cases hlegible with
    | stringLiteral _ hback =>
      have hread := readAtom_quote source value.toList
      rw [doubled_eq_self hback, String.ofList_toList] at hread
      rw [List.mem_singleton.mp hmem]
      exact hread
  | @array key value hkey hvalue ihkey ihvalue =>
    cases hlegible with
    | array hkeylegible hvaluelegible =>
      rw [List.mem_singleton.mp hmem, chars_array]
      refine readAtom_applied source (by decide) isNameChar_array
        (List.cons_ne_nil key [value]) ?_ ?_
      · exact List.forall_mem_cons.mpr ⟨⟨hkey, hkeylegible⟩,
          List.forall_mem_singleton.mpr ⟨hvalue, hvaluelegible⟩⟩
      · exact List.forall_mem_cons.mpr
          ⟨fun _ => readChars_eq_ok hkey hkeylegible
              fun _ hmem source => ihkey hkeylegible hmem source,
            List.forall_mem_singleton.mpr fun _ =>
              readChars_eq_ok hvalue hvaluelegible
                fun _ hmem source => ihvalue hvaluelegible hmem source⟩
  | @object className arguments harguments ih =>
    cases hlegible with
    | object hclass hargumentslegible =>
      have hname := hclass.ofName_eq arguments
      rw [String.ofList_toList] at hname
      rw [List.mem_singleton.mp hmem]
      cases arguments with
      | nil =>
        rw [chars_object_nil, ← hname]
        exact readAtom_name source hclass.ne_nil hclass.isNameChar
          hclass.not_number
      | cons type types =>
        rw [chars_object, ← hname]
        refine readAtom_applied source hclass.ne_nil hclass.isNameChar
          (List.cons_ne_nil type types) ?_ ?_
        · exact fun type hmem =>
            ⟨harguments type hmem, hargumentslegible type hmem⟩
        · exact fun type hmem _ =>
            readChars_eq_ok (harguments type hmem) (hargumentslegible type hmem)
              fun _ hmember source =>
                ih type hmem (hargumentslegible type hmem) hmember source
  | alternatives _ _ hopen _ ih =>
    cases hlegible with
    | alternatives htypes =>
      have hself : member.members = [member] :=
        members_of_not_isUnion (hopen member hmem).1
      exact ih member hmem (htypes member hmem)
        (hself ▸ List.mem_cons_self) source

/-- **A legible type is read back from its text**, at any depth. -/
theorem read_toString {type : PropertyType} (hcanonical : type.Canonical)
    (hlegible : type.Legible) : read (toString type) = .ok type := by
  have htext : trim (String.ofList type.chars).toList = type.chars := by
    rw [String.toList_ofList, (hlegible.solid_chars hcanonical).trim_eq]
  exact readChars_eq_ok hcanonical hlegible
    (fun _ hmem source => readAtom_chars hcanonical hlegible hmem source) htext

/-- A type with a union between the arguments of a class and, in this union, a
literal that has all the marks of the notation in it. -/
def taggedCollection : PropertyType :=
  .alternatives
    [.object "App\\Collection"
      [.int, .alternatives [.stringLiteral "a|b<c, \"d?>", .array .string .mixed]],
    .intLiteral (-7), .null]

theorem read_toString_taggedCollection :
    taggedCollection.Canonical ∧ taggedCollection.Legible
      ∧ read (toString taggedCollection) = .ok taggedCollection := by
  have hclass : IsClassName "App\\Collection".toList :=
    ⟨by decide, List.all_eq_true.mp (by decide), by decide, by decide, by decide⟩
  have hcanonical : taggedCollection.Canonical := by
    refine .alternatives (by decide) (by decide) (by decide) ?_
    simp only [List.forall_mem_cons]
    refine ⟨.object ?_, .intLiteral _, .basic _, nofun⟩
    simp only [List.forall_mem_cons]
    refine ⟨.basic _, .alternatives (by decide) (by decide) (by decide) ?_, nofun⟩
    simp only [List.forall_mem_cons]
    exact ⟨.stringLiteral _, .array (.basic _) (.basic _), nofun⟩
  have hlegible : taggedCollection.Legible := by
    refine .alternatives ?_
    simp only [List.forall_mem_cons]
    refine ⟨.object hclass ?_, .intLiteral _, .basic _, nofun⟩
    simp only [List.forall_mem_cons]
    refine ⟨.basic _, .alternatives ?_, nofun⟩
    simp only [List.forall_mem_cons]
    exact ⟨.stringLiteral (by decide) (by decide),
      .array (.basic _) (.basic _), nofun⟩
  exact ⟨hcanonical, hlegible, read_toString hcanonical hlegible⟩

end SchemaTyping.PropertyType
