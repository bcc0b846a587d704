import SchemaTyping.Model.Cast
import SchemaTyping.Proofs.Text.Trim

/-!
# What the text of a cast says besides the cast

A cast may be **decorated**. The mark `encrypted:` in front of it says how the
value is stored, and parameters behind a colon say something to the class or
the keyword in front of it; neither changes what becomes of the value. Marks
may be repeated, with letters of any case and with blanks around the word and
the colon.

The text is cut at the first colon, trimmed, and what follows a mark is read
from the start. So a colon in a parameter never counts, and a mark is seen only
where a cast may stand: both follow from what the cut at the first colon gives
(`CastKind.nameAndParameter_append`). `CastKind.sameCast_of_decoration` says
that the decorated cast is the plain one, for the kind of the cast and for the
types of any property.

The mark is another thing where nothing follows it: a value that is encrypted
without a cast is a string, and a blank text is no cast.
-/

namespace SchemaTyping

open Text

namespace CastKind

variable {name text parameter : List Char}

/-! ## The cut at the first colon -/

/-- **A text is cut at its first colon**, whatever stands behind it. -/
theorem nameAndParameter_append (h : ':' ∉ name) (parameter : List Char) :
    nameAndParameter (name ++ ':' :: parameter) = (trim name, trim parameter) := by
  have hname : ':' ∉ trimStart name :=
    fun hmem => h ((List.dropWhile_suffix isBlank).subset hmem)
  have hcut : cutFirst ':' (trim (name ++ ':' :: parameter))
      = some (trimStart name, trimEnd parameter) := by
    rw [trim_append_cons (by decide), cutFirst_append hname]
  unfold nameAndParameter
  rw [hcut]
  dsimp only
  rw [trim_trimStart, trim_trimEnd]

/-- A text without a colon is a name. -/
theorem nameAndParameter_of_not_mem (h : ':' ∉ text) :
    nameAndParameter text = (trim text, []) := by
  obtain ⟨front, back, htext, -⟩ := exists_eq_append_trim text
  have htrim : ':' ∉ trim text := fun hmem => h <| by
    rw [htext]
    exact List.mem_append_right _ (List.mem_append_left _ hmem)
  unfold nameAndParameter
  rw [cutFirst_eq_none htrim]

/-- Blanks around a text make no difference. -/
theorem ofChars_eq_of_trim {other : List Char} (h : trim text = trim other) :
    ofChars text = ofChars other := by
  have hcut : nameAndParameter text = nameAndParameter other := by
    unfold nameAndParameter
    rw [h]
  rw [ofChars, ofChars.eq_def other, hcut]

/-- **The mark of an encrypted value** leaves the reading to what follows. -/
theorem ofChars_encrypted (hcolon : ':' ∉ name)
    (hname : asciiLower (trim name) = "encrypted".toList)
    (htext : trim text ≠ []) :
    ofChars (name ++ ':' :: text) = ofChars text := by
  rw [ofChars, nameAndParameter_append hcolon]
  dsimp only
  rw [if_pos hname, dif_neg htext]
  exact ofChars_eq_of_trim (trim_trim text)

/-- **A parameter** is not looked at behind any other name. -/
theorem ofChars_parameter (hcolon : ':' ∉ name)
    (hname : asciiLower (trim name) ≠ "encrypted".toList)
    (parameter : List Char) :
    ofChars (name ++ ':' :: parameter) = ofChars name := by
  rw [ofChars, ofChars.eq_def name, nameAndParameter_append hcolon,
    nameAndParameter_of_not_mem hcolon]
  dsimp only
  rw [if_neg hname, if_neg hname]

/-! ## Decorated casts -/

/-- **The mark of an encrypted value**: the word, with letters of any case and
blanks around it, the colon, and the blanks behind that. -/
structure EncryptedMark where
  word : List Char
  gap : List Char
  isEncrypted : asciiLower (trim word) = "encrypted".toList
  blank : ∀ c ∈ gap, isBlank c = true

namespace EncryptedMark

/-- The text of a mark. -/
def chars (mark : EncryptedMark) : List Char := mark.word ++ ':' :: mark.gap

/-- No letter of the word is a colon, and no blank is one. -/
theorem colon_not_mem (mark : EncryptedMark) : ':' ∉ mark.word := by
  obtain ⟨front, back, hword, hfront, hback⟩ := exists_eq_append_trim mark.word
  have hblank : isBlank ':' = false := by decide
  intro hmem
  rw [hword] at hmem
  rcases List.mem_append.mp hmem with hmem | hmem
  · exact Bool.false_ne_true (hblank.symm.trans (hfront _ hmem))
  rcases List.mem_append.mp hmem with hmem | hmem
  · have hlower : ':' ∈ asciiLower (trim mark.word) :=
      List.mem_map.mpr ⟨':', hmem, by decide⟩
    rw [mark.isEncrypted] at hlower
    exact absurd hlower (by decide)
  · exact Bool.false_ne_true (hblank.symm.trans (hback _ hmem))

end EncryptedMark

/-- The text of a cast behind some marks. -/
def markedChars (marks : List EncryptedMark) (text : List Char) : List Char :=
  marks.foldr (fun mark text => mark.chars ++ text) text

/-- The cast behind some marks. -/
def marked (marks : List EncryptedMark) (cast : String) : String :=
  String.ofList (markedChars marks cast.toList)

/-- A cast behind marks is no blank text, if it is none without them. -/
theorem trim_markedChars_ne_nil (marks : List EncryptedMark)
    (h : trim text ≠ []) : trim (markedChars marks text) ≠ [] := by
  cases marks with
  | nil => exact h
  | cons mark marks =>
    show trim (mark.word ++ ':' :: mark.gap ++ markedChars marks text) ≠ []
    rw [List.append_assoc, List.cons_append, trim_append_cons (by decide)]
    exact List.append_ne_nil_of_right_ne_nil _ (List.cons_ne_nil _ _)

/-- **A cast behind any number of marks** is the cast itself. -/
theorem ofChars_markedChars (marks : List EncryptedMark) (h : trim text ≠ []) :
    ofChars (markedChars marks text) = ofChars text := by
  induction marks with
  | nil => rfl
  | cons mark marks ih =>
    have hgap : trim (mark.gap ++ markedChars marks text)
        = trim (markedChars marks text) := trim_append_of_isBlank mark.blank
    have hrest : trim (mark.gap ++ markedChars marks text) ≠ [] := by
      rw [hgap]
      exact trim_markedChars_ne_nil marks h
    show ofChars (mark.word ++ ':' :: mark.gap ++ markedChars marks text) = _
    rw [List.append_assoc, List.cons_append,
      ofChars_encrypted mark.colon_not_mem mark.isEncrypted hrest,
      ofChars_eq_of_trim hgap, ih]

/-- **Two texts of one cast**: the kind is the same, and so are the types of
every property, in each dialect and project. -/
structure SameCast (cast other : String) : Prop where
  kind : ofText cast = ofText other
  readable : ∀ (caster : Caster) (stored : PropertyType),
    caster.readableType cast stored = caster.readableType other stored
  writable : ∀ (caster : Caster) (accepted : PropertyType),
    caster.writableType cast accepted = caster.writableType other accepted

/-- The types are those of the kind. -/
theorem SameCast.of_kind {cast other : String} (h : ofText cast = ofText other) :
    SameCast cast other where
  kind := h
  readable caster stored := by
    unfold Caster.readableType
    rw [h]
  writable caster accepted := by
    unfold Caster.writableType
    rw [h]

/-- **Decorations are transparent.** A cast that is no blank text is the same
behind any number of marks of an encrypted value, and a name that is not such a
mark is the same with any parameter. -/
theorem sameCast_of_decoration :
    (∀ (marks : List EncryptedMark) (cast : String), trim cast.toList ≠ [] →
        SameCast (marked marks cast) cast)
      ∧ ∀ name parameter : String, ':' ∉ name.toList →
        asciiLower (trim name.toList) ≠ "encrypted".toList →
        SameCast (name ++ ":" ++ parameter) name := by
  constructor
  · intro marks cast hcast
    refine .of_kind ?_
    unfold ofText marked
    rw [String.toList_ofList]
    exact ofChars_markedChars marks hcast
  · intro name parameter hcolon hname
    have hchars : (name ++ ":" ++ parameter).toList
        = name.toList ++ ':' :: parameter.toList := by
      rw [String.toList_append, String.toList_append, List.append_assoc]
      rfl
    refine .of_kind ?_
    unfold ofText
    rw [hchars]
    exact ofChars_parameter hcolon hname parameter.toList

/-- Two marks, a class and parameters with a colon in them. -/
theorem sameCast_of_decoration_money :
    trim "\\Money:EUR:2".toList ≠ []
      ∧ SameCast " Encrypted\t: \u00a0ENCRYPTED:\\Money:EUR:2" "\\Money:EUR:2"
      ∧ ':' ∉ "\\Money".toList
      ∧ asciiLower (trim "\\Money".toList) ≠ "encrypted".toList
      ∧ SameCast "\\Money:EUR:2" "\\Money"
      ∧ ofText "\\Money" = .byClass "Money" := by
  let marks : List EncryptedMark :=
    [⟨" Encrypted\t".toList, " \u00a0".toList, by decide,
        List.all_eq_true.mp (by decide)⟩,
      ⟨"ENCRYPTED".toList, [], by decide, nofun⟩]
  have hcast : trim "\\Money:EUR:2".toList ≠ [] := by decide
  have hcolon : ':' ∉ "\\Money".toList := by decide
  have hname : asciiLower (trim "\\Money".toList) ≠ "encrypted".toList := by decide
  exact ⟨hcast, sameCast_of_decoration.1 marks "\\Money:EUR:2" hcast, hcolon, hname,
    sameCast_of_decoration.2 "\\Money" "EUR:2" hcolon hname, by decide +kernel⟩

/-- Without a cast behind it the mark makes a string, and a blank text is taken
for the name of a class. -/
example : ofText "encrypted: " = .string ∧ ofText " " = .byClass "" := by
  decide +kernel

end CastKind

end SchemaTyping
