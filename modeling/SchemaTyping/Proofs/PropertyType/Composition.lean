import SchemaTyping.Proofs.PropertyType.RoundTrip
import SchemaTyping.Proofs.PropertyType.SetUnion

/-!
# Types are put together from their texts

Whether a text is the text of a type was found out by reading it alone. In a
longer text it stands among other things, and the reader goes over all of them
at once, with one count of brackets and one open quote. `read_compound` says
that this makes no difference: texts that are read can be parted by a bar, and
have the union of their types; a question mark can be put in front, and a name
around them, with blanks wherever a text starts or ends.

Two facts carry this. A text that is read comes apart into whole pieces, so
that the reader is where it was when it has passed over them; behind a bar it
goes on with the pieces of the next text (`pieces_append`), and inside brackets
it looks for no bar at all (`Whole.inside_of`). And what is read of a piece
depends neither on the blanks around it nor on the text it is found in, which
shows up in errors only (`readAtom_source`).

Bars and commas of the text itself are an exception, and the only one. A
question mark belongs to the first member of a union, and a comma parts two
arguments, so the text behind a question mark has to be whole for bars, and an
argument for commas.
-/

namespace SchemaTyping.PropertyType

open Text

variable {separator : Char} {text other name gap front back : List Char}
  {source : List Char} {type left right : PropertyType}
  {arguments : List PropertyType}

/-! ## Blanks around a text -/

theorem not_mem_delimiters_of_isBlank {c : Char} (h : isBlank c = true) :
    c ∉ delimiters := by
  have hblank : ∀ d ∈ delimiters, isBlank d = false :=
    eq_false_of_all (by decide)
  intro hmem
  rw [hblank c hmem] at h
  cases h

/-- Blanks around a whole text. -/
theorem Whole.around (h : Whole separator false text)
    (hseparator : isBlank separator = false)
    (hfront : ∀ c ∈ front, isBlank c = true) (hback : ∀ c ∈ back, isBlank c = true) :
    Whole separator false (front ++ (text ++ back)) := by
  have hblanks : ∀ blanks : List Char, (∀ c ∈ blanks, isBlank c = true) →
      ∀ c ∈ blanks, c ∉ delimiters ∧ c ≠ separator := fun blanks hblanks c hc =>
    ⟨not_mem_delimiters_of_isBlank (hblanks c hc),
      ne_of_isBlank (hblanks c hc) hseparator⟩
  exact .plain_append (hblanks front hfront) (h.append (.of_plain (hblanks back hback)))

theorem trim_around (hfront : ∀ c ∈ front, isBlank c = true)
    (hback : ∀ c ∈ back, isBlank c = true) (text : List Char) :
    trim (front ++ (text ++ back)) = trim text := by
  rw [trim_append_of_isBlank hfront, trim_append_blanks hback]

/-- **Blanks around a text** do not change its pieces, but for the blanks around
these. -/
theorem exists_pieces_around (hseparator : separator ∉ delimiters)
    (hblank : isBlank separator = false) {found : List (List Char)}
    (h : pieces separator text = some found)
    (hfront : ∀ c ∈ front, isBlank c = true) (hback : ∀ c ∈ back, isBlank c = true) :
    ∃ around, pieces separator (front ++ (text ++ back)) = some around
      ∧ around.map trim = found.map trim := by
  obtain ⟨first, others, rfl, rfl, hwhole⟩ := exists_of_pieces h
  clear h
  induction others generalizing first front with
  | nil =>
    rw [List.intercalate_singleton]
    exact ⟨_, pieces_of_whole
        ((hwhole first List.mem_cons_self).around hblank hfront hback),
      congrArg (fun piece => [piece]) (trim_around hfront hback first)⟩
  | cons next others ih =>
    obtain ⟨hfirst, hnext⟩ := List.forall_mem_cons.mp hwhole
    -- The blanks behind go with the rest of the text, and those in front do not.
    have hnone : ∀ c ∈ ([] : List Char), isBlank c = true := nofun
    obtain ⟨around, haround, htrim⟩ := ih hnone next hnext
    have hpiece : Whole separator false (front ++ first) := by
      simpa using hfirst.around hblank hfront hnone
    refine ⟨(front ++ first) :: around, ?_, ?_⟩
    · have htext : front ++ ([separator].intercalate (first :: next :: others) ++ back)
          = (front ++ first)
            ++ separator :: ([] ++ ([separator].intercalate (next :: others) ++ back)) := by
        rw [List.intercalate_cons_cons]
        simp
      rw [htext, pieces_append_separator hseparator hpiece, haround]
      rfl
    · rw [List.map_cons, trim_append_of_isBlank hfront, htrim]
      rfl

/-! ## What the reader depends on -/

/-- The members of a union do not depend on the blanks around them. -/
theorem readMembers_congr {found others : List (List Char)}
    (h : found.map trim = others.map trim) (source : List Char) :
    readMembers source found = readMembers source others := by
  induction found generalizing others with
  | nil => rw [List.map_eq_nil_iff.mp h.symm]
  | cons piece rest ih =>
    obtain ⟨other, others, rfl, hpiece, hrest⟩ := List.map_eq_cons_iff.mp h.symm
    rw [readMembers, readMembers, ← hpiece, ih hrest.symm]

theorem readMembers_append (source : List Char) (found others : List (List Char)) :
    readMembers source (found ++ others) = (do
      let types ← readMembers source found
      let rest ← readMembers source others
      .ok (types ++ rest)) := by
  induction found with
  | nil =>
    rw [List.nil_append, readMembers]
    cases readMembers source others <;> rfl
  | cons piece found ih =>
    rw [List.cons_append, readMembers, readMembers, ih]
    cases readAtom source (trim piece) with
    | error error => rfl
    | ok type =>
      cases readMembers source found with
      | error error => rfl
      | ok types => cases readMembers source others <;> rfl

/-- Arguments are types of their own, whatever type they are found in. -/
theorem readArguments_source {found : List (List Char)} {types : List PropertyType}
    (h : readArguments source found = .ok types) (other : List Char) :
    readArguments other found = .ok types := by
  induction found generalizing types with
  | nil =>
    rw [readArguments] at h ⊢
    exact h
  | cons piece found ih =>
    rw [readArguments] at h ⊢
    obtain ⟨type, htype, h⟩ := ok_of_bind_ok h
    obtain ⟨rest, hrest, h⟩ := ok_of_bind_ok h
    rw [ok_of_mapError_ok htype, ih hrest]
    exact h

theorem readName_source (h : readName source name arguments = .ok type)
    (other : List Char) : readName other name arguments = .ok type := by
  unfold readName at h ⊢
  split at h
  · next hname => rwa [if_pos hname]
  · cases h

/-- **What is read of a member** does not depend on the text it is found in,
which only an error tells of. The induction is along the question marks in front
of the member. -/
theorem readAtom_source {atom : List Char} (h : readAtom source atom = .ok type)
    (other : List Char) : readAtom other atom = .ok type := by
  induction hlength : atom.length using Nat.strong_induction_on
    generalizing atom type with
  | _ length ih =>
    match atom with
    | [] =>
      rw [readAtom] at h
      cases h
    | first :: rest =>
      by_cases hmark : first = '?'
      · subst hmark
        rw [readAtom] at h ⊢
        obtain ⟨inner, hinner, rfl⟩ := ok_of_map_ok h
        have hless : (trim rest).length < length :=
          hlength ▸ Nat.lt_succ_of_le (length_trim_le rest)
        rw [ih _ hless hinner rfl]
        rfl
      · rw [readAtom_cons_eq _ _ hmark] at h ⊢
        split at h
        · exact h
        split at h
        · exact h
        split at h
        · cases h
        · exact readName_source h other
        split at h
        · cases h
        obtain ⟨types, htypes, h⟩ := ok_of_bind_ok h
        rw [readArguments_source htypes other]
        exact readName_source h other

theorem readMembers_source {found : List (List Char)} {types : List PropertyType}
    (h : readMembers source found = .ok types) (other : List Char) :
    readMembers other found = .ok types := by
  induction found generalizing types with
  | nil =>
    rw [readMembers] at h ⊢
    exact h
  | cons piece found ih =>
    rw [readMembers] at h ⊢
    obtain ⟨type, htype, h⟩ := ok_of_bind_ok h
    obtain ⟨rest, hrest, h⟩ := ok_of_bind_ok h
    rw [readAtom_source htype other, ih hrest]
    exact h

/-- **A text is read** if its pieces are. -/
theorem readChars_of_pieces {inner : List Char} (htrim : trim text = inner)
    {found : List (List Char)} (hpieces : pieces '|' inner = some found)
    {types : List PropertyType} (hread : readMembers source found = .ok types) :
    readChars text = .ok (union types) := by
  have hne : ¬ (trim text).isEmpty = true := by
    rw [htrim, List.isEmpty_iff]
    rintro rfl
    cases hpieces
    rw [readMembers, show trim [] = [] from rfl, readAtom] at hread
    cases hread
  rw [readChars_eq, if_neg hne, htrim, hpieces]
  show (readMembers text found).map union = _
  rw [readMembers_source hread text]
  rfl

/-- A text that is read comes apart, and its pieces are read as the members of
its type. -/
theorem exists_members_of_readChars (h : readChars text = .ok type) :
    ∃ found types, pieces '|' (trim text) = some found
      ∧ readMembers text found = .ok types ∧ union types = type := by
  rw [readChars_eq] at h
  split at h
  · cases h
  cases hpieces : pieces '|' (trim text) with
  | none =>
    rw [hpieces] at h
    cases h
  | some found =>
    rw [hpieces] at h
    obtain ⟨types, htypes, hunion⟩ := ok_of_map_ok h
    exact ⟨found, types, rfl, htypes, hunion⟩

/-- Texts that differ in the blanks around them are read alike. -/
theorem readChars_of_trim_eq (h : readChars text = .ok type)
    (htrim : trim other = trim text) : readChars other = .ok type := by
  obtain ⟨found, types, hpieces, htypes, rfl⟩ := exists_members_of_readChars h
  exact readChars_of_pieces htrim hpieces htypes

/-- **The pieces of a text that is read**, with the blanks around it. -/
theorem exists_pieces_of_readChars (h : readChars text = .ok type)
    (source : List Char) :
    ∃ found types, pieces '|' text = some found
      ∧ readMembers source found = .ok types ∧ types ≠ []
      ∧ (∀ member ∈ types, member.Canonical) ∧ type = union types := by
  obtain ⟨inner, types, hpieces, htypes, rfl⟩ := exists_members_of_readChars h
  obtain ⟨front, back, htext, hfront, hback⟩ := exists_eq_append_trim text
  obtain ⟨found, hfound, htrim⟩ :=
    exists_pieces_around (by decide) (by decide) hpieces hfront hback
  rw [← htext] at hfound
  have hread : readMembers source found = .ok types := by
    rw [readMembers_congr htrim]
    exact readMembers_source htypes source
  refine ⟨found, types, hfound, hread, ?_,
    canonical_of_readChars_and.2.1 source found types hread, rfl⟩
  rintro rfl
  obtain ⟨first, others, rfl⟩ :=
    List.exists_cons_of_ne_nil (piecesFrom_weight hfound).1
  rw [readMembers] at hread
  obtain ⟨member, -, hread⟩ := ok_of_bind_ok hread
  obtain ⟨rest, -, hread⟩ := ok_of_bind_ok hread
  cases hread

/-! ## Two texts and a bar -/

/-- **A bar between two texts** joins their types. -/
theorem readChars_bar (h : readChars text = .ok left)
    (hother : readChars other = .ok right) :
    readChars (text ++ '|' :: other) = .ok (union [left, right]) := by
  have htrim : trim (text ++ '|' :: other) = trimStart text ++ '|' :: trimEnd other :=
    trim_append_cons (by decide) text other
  obtain ⟨found, types, hfound, htypes, hne, hcanonical, rfl⟩ :=
    exists_pieces_of_readChars (readChars_of_trim_eq h (trim_trimStart text)) []
  obtain ⟨found', types', hfound', htypes', hne', hcanonical', rfl⟩ :=
    exists_pieces_of_readChars (readChars_of_trim_eq hother (trim_trimEnd other)) []
  have hpieces : pieces '|' (trimStart text ++ '|' :: trimEnd other)
      = some (found ++ found') := by
    rw [pieces_append (by decide) hfound, hfound']
    rfl
  have hread : readMembers [] (found ++ found') = .ok (types ++ types') := by
    rw [readMembers_append, htypes, htypes']
    rfl
  rw [readChars_of_pieces htrim hpieces hread,
    union_append hne hne' hcanonical hcanonical']

/-! ## A question mark in front of a text -/

/-- A text without bars of its own is one member, and so it is without the
blanks around it. -/
theorem member_of_whole (h : readChars text = .ok type)
    (hwhole : Whole '|' false text) :
    Whole '|' false (trim text) ∧ ∀ source, readAtom source (trim text) = .ok type := by
  have htrimmed : readChars (trim text) = .ok type :=
    readChars_of_trim_eq h (trim_trim text)
  obtain ⟨found, types, hfound, htypes, -, hcanonical, rfl⟩ :=
    exists_pieces_of_readChars htrimmed []
  obtain ⟨front, back, htext, hfront, hback⟩ := exists_eq_append_trim text
  obtain ⟨around, haround, htrim⟩ :=
    exists_pieces_around (by decide) (by decide) hfound hfront hback
  -- All of the text is one piece, so what is left of it is one piece, too.
  rw [← htext, pieces_of_whole hwhole] at haround
  cases haround
  obtain ⟨piece, rfl, hpiece⟩ := List.map_eq_singleton_iff.mp htrim.symm
  refine ⟨wholeBehind_of_piecesFrom ⟨piece, hfound⟩, fun source => ?_⟩
  rw [readMembers, readMembers, hpiece] at htypes
  obtain ⟨member, hmember, htypes⟩ := ok_of_bind_ok htypes
  cases htypes
  rw [(hcanonical member List.mem_cons_self).union_singleton]
  exact readAtom_source hmember source

/-- **A question mark in front of a text** adds `null`, if no bar of the text
ends what it belongs to. -/
theorem readChars_question (h : readChars text = .ok type)
    (hwhole : Whole '|' false text) :
    readChars ('?' :: text) = .ok type.nullable := by
  obtain ⟨hinner, hread⟩ := member_of_whole h hwhole
  have htrim : trim ('?' :: text) = '?' :: trimEnd text :=
    trim_append_cons (by decide) [] text
  have hpieces : pieces '|' ('?' :: trimEnd text) = some ['?' :: trimEnd text] := by
    obtain ⟨front, back, htext, hfront, hback⟩ := exists_eq_append_trim (trimEnd text)
    rw [trim_trimEnd] at htext
    refine pieces_of_whole (.plain (by decide) (.inr (by decide)) ?_)
    rw [htext]
    exact hinner.around (by decide) hfront hback
  have hmember : readMembers [] ['?' :: trimEnd text] = .ok [type.nullable] := by
    rw [readMembers, readMembers, ← htrim, trim_trim, htrim, readAtom, trim_trimEnd,
      hread]
    rfl
  have hcanonical : type.Canonical := canonical_of_readChars_and.1 text type h
  rw [readChars_of_pieces htrim hpieces hmember, hcanonical.nullable.union_singleton]

/-! ## A name around texts -/

/-- **A name around the texts of types** names the type of that name with these
arguments. -/
theorem readChars_bracketed (hne : name ≠ [])
    (hname : ∀ c ∈ name, isNameChar c = true) {inner : List Char}
    (hgap : ∀ c ∈ gap, isBlank c = true) (hinner : Whole '|' true inner)
    {found : List (List Char)} (hpieces : pieces ',' inner = some found)
    (harguments : readArguments [] found = .ok arguments) :
    readChars (name ++ (gap ++ '<' :: (inner ++ ['>'])))
      = .ok (ofName name arguments) := by
  have hsolid : Solid (name ++ ((gap ++ '<' :: inner) ++ ['>'])) :=
    (solid_of_isNameChar hne hname).append _ (.singleton (by decide))
  have htext : name ++ ((gap ++ '<' :: inner) ++ ['>'])
      = name ++ (gap ++ '<' :: (inner ++ ['>'])) := by
    simp
  rw [htext] at hsolid
  have hwhole : Whole '|' false (name ++ (gap ++ '<' :: (inner ++ ['>']))) := by
    refine (whole_of_isNameChar (.inl rfl) hname).append (.plain_append (fun c hc => ?_)
      (.group hinner (.nil false)))
    exact ⟨not_mem_delimiters_of_isBlank (hgap c hc),
      ne_of_isBlank (hgap c hc) (by decide)⟩
  have hread : readMembers [] [name ++ (gap ++ '<' :: (inner ++ ['>']))]
      = .ok [ofName name arguments] := by
    rw [readMembers, readMembers, hsolid.trim_eq,
      readAtom_bracketed [] hne hname hgap hpieces harguments]
    rfl
  have hcanonical : (ofName name arguments).Canonical :=
    canonical_ofName name (canonical_of_readChars_and.2.2.2 [] found arguments harguments)
  rw [readChars_of_pieces hsolid.trim_eq (pieces_of_whole hwhole) hread,
    hcanonical.union_singleton]

/-- An argument is read, if no comma of its own parts it. -/
theorem readArguments_singleton (h : readChars text = .ok type)
    (source : List Char) : readArguments source [text] = .ok [type] := by
  rw [readArguments, readArguments, h]
  rfl

/-- One argument in brackets, and two of them. -/
theorem readChars_argument (hne : name ≠ [])
    (hname : ∀ c ∈ name, isNameChar c = true) (hgap : ∀ c ∈ gap, isBlank c = true)
    (h : readChars text = .ok type) (hwhole : Whole ',' false text) :
    readChars (name ++ (gap ++ '<' :: (text ++ ['>']))) = .ok (ofName name [type]) :=
  readChars_bracketed hne hname hgap (hwhole.inside_of '|') (pieces_of_whole hwhole)
    (readArguments_singleton h [])

theorem readChars_arguments (hne : name ≠ [])
    (hname : ∀ c ∈ name, isNameChar c = true) (hgap : ∀ c ∈ gap, isBlank c = true)
    (h : readChars text = .ok left) (hwhole : Whole ',' false text)
    (hother : readChars other = .ok right) (hotherWhole : Whole ',' false other) :
    readChars (name ++ (gap ++ '<' :: ((text ++ ',' :: other) ++ ['>'])))
      = .ok (ofName name [left, right]) := by
  have hpieces : pieces ',' (text ++ ',' :: other) = some [text, other] := by
    rw [pieces_append_separator (by decide) hwhole, pieces_of_whole hotherWhole]
    rfl
  have hread : readArguments [] [text, other] = .ok [left, right] := by
    rw [readArguments, h, readArguments_singleton hother]
    rfl
  refine readChars_bracketed hne hname hgap ?_ hpieces hread
  exact (hwhole.inside_of '|').append
    (.plain (by decide) (.inl rfl) (hotherWhole.inside_of '|'))

/-- A name that is no keyword names a class, also one in the root namespace or
one of digits. -/
theorem ofName_of_not_keyword (h : String.ofList (asciiLower name) ∉ keywords)
    (arguments : List PropertyType) :
    ofName name arguments = generic (String.ofList name) arguments := by
  have harray : String.ofList (asciiLower name) ≠ "array" :=
    fun heq => h (heq ▸ by decide)
  unfold ofName
  dsimp only
  rw [if_neg harray, ofKeyword?_eq_none h, Option.getD_none]

/-! ## Texts put together -/

/-- **A text with blanks around it.** -/
def Padded (text padded : String) : Prop :=
  ∃ front back : List Char, (∀ c ∈ front, isBlank c = true)
    ∧ (∀ c ∈ back, isBlank c = true) ∧ padded.toList = front ++ (text.toList ++ back)

namespace Padded

variable {text padded : String}

theorem trim_eq (h : Padded text padded) : trim padded.toList = trim text.toList := by
  obtain ⟨front, back, hfront, hback, htext⟩ := h
  rw [htext, trim_around hfront hback]

theorem whole (h : Padded text padded) (hwhole : Whole separator false text.toList)
    (hseparator : isBlank separator = false) :
    Whole separator false padded.toList := by
  obtain ⟨front, back, hfront, hback, htext⟩ := h
  rw [htext]
  exact hwhole.around hseparator hfront hback

theorem read_eq_ok (h : Padded text padded) (hread : readChars text.toList = .ok type) :
    read padded = .ok type :=
  readChars_of_trim_eq hread h.trim_eq

/-- Blanks around a name in front of brackets: those before it are trimmed
away, and those behind it stand between the name and its brackets. -/
theorem readChars_bracketed (h : Padded text padded) {inner : List Char}
    (hread : ∀ gap : List Char, (∀ c ∈ gap, isBlank c = true) →
      readChars (text.toList ++ (gap ++ '<' :: (inner ++ ['>']))) = .ok type) :
    readChars (padded.toList ++ '<' :: (inner ++ ['>'])) = .ok type := by
  obtain ⟨front, back, hfront, hback, htext⟩ := h
  refine readChars_of_trim_eq (hread back hback) ?_
  rw [htext, List.append_assoc, List.append_assoc, trim_append_of_isBlank hfront]

variable {className name first second : String}

theorem readChars_argument (h : Padded className name)
    (hname : isName className.toList = true)
    (hfirst : readChars first.toList = .ok left) (hwhole : Whole ',' false first.toList) :
    readChars (name ++ "<" ++ first ++ ">").toList
      = .ok (ofName className.toList [left]) := by
  obtain ⟨hne, hchars⟩ := isName_iff.mp hname
  have hread := h.readChars_bracketed fun gap hgap =>
    PropertyType.readChars_argument hne hchars hgap hfirst hwhole
  simpa using hread

theorem readChars_arguments (h : Padded className name)
    (hname : isName className.toList = true)
    (hfirst : readChars first.toList = .ok left) (hwhole : Whole ',' false first.toList)
    (hsecond : readChars second.toList = .ok right)
    (hwhole' : Whole ',' false second.toList) :
    readChars (name ++ "<" ++ first ++ "," ++ second ++ ">").toList
      = .ok (ofName className.toList [left, right]) := by
  obtain ⟨hne, hchars⟩ := isName_iff.mp hname
  have hread := h.readChars_bracketed fun gap hgap =>
    PropertyType.readChars_arguments hne hchars hgap hfirst hwhole hsecond hwhole'
  simpa using hread

end Padded

/-- **Types are put together from their texts**, with blanks around each text
and around the whole: two of them with a bar between them, one with a question
mark in front if it has no bar of its own, and one or two in brackets behind
`array`, or two behind the name of a class, if they have no comma of their
own. -/
theorem read_compound {first second : String} (hfirst : read first = .ok left)
    (hsecond : read second = .ok right) {first' second' : String}
    (hpadded : Padded first first') (hpadded' : Padded second second') :
    (∀ text, Padded (first' ++ "|" ++ second') text →
        read text = .ok (union [left, right]))
      ∧ (Whole '|' false first.toList → ∀ text, Padded ("?" ++ first') text →
        read text = .ok left.nullable)
      ∧ (Whole ',' false first.toList →
        (∀ name, Padded "array" name → ∀ text,
          Padded (name ++ "<" ++ first' ++ ">") text →
          read text = .ok (.array .arrayKey left))
        ∧ (Whole ',' false second.toList →
          (∀ name, Padded "array" name → ∀ text,
            Padded (name ++ "<" ++ first' ++ "," ++ second' ++ ">") text →
            read text = .ok (.array left right))
          ∧ ∀ className : String, isName className.toList = true →
            String.ofList (asciiLower className.toList) ∉ keywords →
            ∀ name, Padded className name → ∀ text,
            Padded (name ++ "<" ++ first' ++ "," ++ second' ++ ">") text →
            read text = .ok (generic className [left, right]))) := by
  have hread : readChars first'.toList = .ok left := hpadded.read_eq_ok hfirst
  have hread' : readChars second'.toList = .ok right := hpadded'.read_eq_ok hsecond
  have harray : isName "array".toList = true := by decide
  refine ⟨fun text htext => htext.read_eq_ok ?_,
    fun hwhole text htext => htext.read_eq_ok ?_, fun hwhole => ?_⟩
  · simpa using readChars_bar hread hread'
  · simpa using readChars_question hread (hpadded.whole hwhole (by decide))
  have hcomma := hpadded.whole hwhole (by decide)
  refine ⟨fun name hname text htext =>
    htext.read_eq_ok (hname.readChars_argument harray hread hcomma), fun hwhole' => ?_⟩
  have hcomma' := hpadded'.whole hwhole' (by decide)
  refine ⟨fun name hname text htext =>
    htext.read_eq_ok (hname.readChars_arguments harray hread hcomma hread' hcomma'),
    fun className hclass hkeyword name hname text htext => htext.read_eq_ok ?_⟩
  rw [hname.readChars_arguments hclass hread hcomma hread' hcomma',
    ofName_of_not_keyword hkeyword, String.ofList_toList]

/-- An argument with a comma and a bar inside brackets and quotes, and another
with both of them outside. -/
theorem read_compound_nested :
    let first := "array<int, 'x|y'>"
    let second := "'a,b'|null"
    let left : PropertyType := .array .int (.stringLiteral "x|y")
    let right : PropertyType := .alternatives [.stringLiteral "a,b", .null]
    (read first = .ok left ∧ read second = .ok right
        ∧ Whole '|' false first.toList ∧ Whole ',' false first.toList
        ∧ Whole ',' false second.toList)
      ∧ read " array<int, 'x|y'> | 'a,b'|null"
        = .ok (.alternatives [left, .stringLiteral "a,b", .null])
      ∧ read "? array<int, 'x|y'> " = .ok (.alternatives [left, .null])
      ∧ read " array < array<int, 'x|y'> , 'a,b'|null>" = .ok (.array left right)
      ∧ read "\\App\\Box< array<int, 'x|y'> , 'a,b'|null>"
        = .ok (.object "App\\Box" [left, right]) := by
  intro first second left right
  have hfirst : read first = .ok left := eq_ok_of_toOption (by decide +kernel)
  have hsecond : read second = .ok right := eq_ok_of_toOption (by decide +kernel)
  have hbar : Whole '|' false first.toList := pieces_eq_singleton_iff.mp (by decide)
  have hcomma : Whole ',' false first.toList := pieces_eq_singleton_iff.mp (by decide)
  have hcomma' : Whole ',' false second.toList :=
    pieces_eq_singleton_iff.mp (by decide)
  have hblank : ∀ c ∈ [' '], isBlank c = true :=
    List.forall_mem_singleton.mpr (by decide)
  have hpadded : Padded first " array<int, 'x|y'> " :=
    ⟨[' '], [' '], hblank, hblank, by decide⟩
  have hpadded' : Padded second " 'a,b'|null" := ⟨[' '], [], hblank, nofun, by decide⟩
  have hself : ∀ text, Padded text text := fun text => ⟨[], [], nofun, nofun, by simp⟩
  obtain ⟨hunion, hnullable, hbrackets⟩ :=
    read_compound hfirst hsecond hpadded hpadded'
  obtain ⟨-, harguments⟩ := hbrackets hcomma
  obtain ⟨harray, hclass⟩ := harguments hcomma'
  exact ⟨⟨hfirst, hsecond, hbar, hcomma, hcomma'⟩, hunion _ (hself _),
    hnullable hbar _ (hself _),
    harray " array " ⟨[' '], [' '], hblank, hblank, by decide⟩ _ (hself _),
    hclass "\\App\\Box" (by decide) (by decide) _ (hself _) _ (hself _)⟩

end SchemaTyping.PropertyType
