import SchemaTyping.Proofs.Outcome
import SchemaTyping.Proofs.PropertyType.Union
import SchemaTyping.PropertyType.Reader

/-!
# Types that are read are canonical

No text of a type gives a union node that is not canonical
(`canonical_of_read`), although the reader builds types in several places:
bars, question marks, the keyword `scalar`, and the arguments of a name. Each
of them builds a canonical type from canonical ones, and the induction follows
the four functions of the reader along the text.
-/

namespace SchemaTyping.PropertyType

open Text

/-! ## The types a name gives -/

theorem canonical_mixedArray : mixedArray.Canonical :=
  .array (.basic .arrayKey) (.basic .mixed)

theorem canonical_scalar : scalar.Canonical := by
  refine .alternatives (by decide) (by decide) (by decide) fun type hmem => ?_
  simp only [List.mem_cons, List.not_mem_nil, or_false] at hmem
  rcases hmem with rfl | rfl | rfl | rfl <;> exact .basic _

/-- A type that a keyword names by itself is canonical. -/
theorem canonical_of_ofKeyword? {keyword : String} {type : PropertyType}
    (h : ofKeyword? keyword = some type) : type.Canonical := by
  unfold ofKeyword? at h
  split at h <;> cases h <;> first | exact canonical_scalar | exact .basic _

variable {arguments : List PropertyType}

theorem canonical_arrayOf (h : ∀ type ∈ arguments, type.Canonical) :
    (arrayOf arguments).Canonical := by
  match arguments with
  | [] => exact canonical_mixedArray
  | [value] => exact .array (.basic .arrayKey) (h value List.mem_cons_self)
  | key :: value :: _ =>
    exact .array (h key List.mem_cons_self)
      (h value (List.mem_cons_of_mem _ List.mem_cons_self))

theorem canonical_ofName (name : List Char)
    (h : ∀ type ∈ arguments, type.Canonical) :
    (ofName name arguments).Canonical := by
  unfold ofName
  dsimp only
  split
  · exact canonical_arrayOf h
  · cases hkeyword : ofKeyword? (String.ofList (asciiLower name)) with
    | none => exact .object h
    | some type => exact canonical_of_ofKeyword? hkeyword

theorem canonical_of_readName {source name : List Char} {type : PropertyType}
    (h : ∀ type ∈ arguments, type.Canonical)
    (hread : readName source name arguments = .ok type) : type.Canonical := by
  unfold readName at hread
  split at hread
  · cases hread
    exact canonical_ofName name h
  · cases hread

/-! ## The reader -/

/-- A type, without what the reader keeps to see that it ends. -/
theorem readChars_eq (text : List Char) :
    readChars text =
      if (trim text).isEmpty then .error .empty
      else
        match pieces '|' (trim text) with
        | none => .error (.unbalanced (String.ofList text))
        | some found => (readMembers text found).map union := by
  rw [readChars]
  split
  · rfl
  · split <;> simp only [*]

/-- One member without a question mark in front, as `readChars_eq`. -/
theorem readAtom_cons_eq (source rest : List Char) {first : Char}
    (h : first ≠ '?') :
    readAtom source (first :: rest) =
      match stringLiteral? (first :: rest) with
      | some value => .ok (.stringLiteral (String.ofList value))
      | none =>
        match readInt64 (first :: rest) with
        | some value => .ok (.intLiteral value)
        | none =>
          match nameAndArguments (first :: rest) with
          | none => .error (.unbalanced (String.ofList source))
          | some (name, none) => readName source name []
          | some (name, some inner) =>
            match pieces ',' inner with
            | none => .error (.unbalanced (String.ofList source))
            | some found =>
              readArguments source found >>= readName source name := by
  rw [readAtom]
  · cases stringLiteral? (first :: rest) with
    | some value => rfl
    | none =>
      cases readInt64 (first :: rest) with
      | some value => rfl
      | none =>
        dsimp only
        split
        · simp only [*]
        · simp only [*]
        · split <;> simp only [*]
  · exact h

/-- **What is read is canonical**, for each of the four functions of the
reader: a type, the members of a union, one member, and the arguments of a
name. -/
theorem canonical_of_readChars_and :
    (∀ text type, readChars text = .ok type → type.Canonical)
    ∧ (∀ source found types, readMembers source found = .ok types →
        ∀ type ∈ types, type.Canonical)
    ∧ (∀ source atom type, readAtom source atom = .ok type → type.Canonical)
    ∧ ∀ source found types, readArguments source found = .ok types →
        ∀ type ∈ types, type.Canonical := by
  apply readChars.mutual_induct
    (fun text => ∀ type, readChars text = .ok type → type.Canonical)
    (fun source found => ∀ types, readMembers source found = .ok types →
      ∀ type ∈ types, type.Canonical)
    (fun source atom => ∀ type,
      readAtom source atom = .ok type → type.Canonical)
    (fun source found => ∀ types, readArguments source found = .ok types →
      ∀ type ∈ types, type.Canonical)
  -- a type: its members are joined, if there are any
  case case1 =>
    intro text hempty type h
    rw [readChars_eq, if_pos hempty] at h
    cases h
  case case2 =>
    intro text hempty hpieces type h
    rw [readChars_eq, if_neg hempty, hpieces] at h
    cases h
  case case3 =>
    intro text hempty found hpieces ih type h
    rw [readChars_eq, if_neg hempty, hpieces] at h
    obtain ⟨types, htypes, rfl⟩ := ok_of_map_ok h
    exact canonical_union (ih types htypes)
  -- the members, and below the arguments, are read one by one
  case case4 =>
    intro source types h
    rw [readMembers] at h
    cases h
    exact fun _ hmem => absurd hmem List.not_mem_nil
  case case5 =>
    intro source piece rest ihpiece ihrest types h
    rw [readMembers] at h
    obtain ⟨type, htype, h⟩ := ok_of_bind_ok h
    obtain ⟨others, hothers, h⟩ := ok_of_bind_ok h
    cases h
    exact List.forall_mem_cons.mpr
      ⟨ihpiece type htype, ihrest others hothers⟩
  -- one member: `null` is added, or it is a literal or a name
  case case6 =>
    intro source type h
    rw [readAtom] at h
    cases h
  case case7 =>
    intro source rest ih type h
    rw [readAtom] at h
    obtain ⟨inner, hinner, rfl⟩ := ok_of_map_ok h
    exact (ih inner hinner).nullable
  case case8 =>
    intro source first rest hmark value hvalue type h
    rw [readAtom_cons_eq source rest hmark, hvalue] at h
    cases h
    exact .stringLiteral _
  case case9 =>
    intro source first rest hmark hstring value hvalue type h
    rw [readAtom_cons_eq source rest hmark, hstring, hvalue] at h
    cases h
    exact .intLiteral _
  case case10 =>
    intro source first rest hmark hstring hint hname type h
    rw [readAtom_cons_eq source rest hmark, hstring, hint, hname] at h
    cases h
  case case11 =>
    intro source first rest hmark hstring hint name hname type h
    rw [readAtom_cons_eq source rest hmark, hstring, hint, hname] at h
    exact canonical_of_readName (fun _ hmem => absurd hmem List.not_mem_nil) h
  case case12 =>
    intro source first rest hmark hstring hint name inner hname hpieces type h
    rw [readAtom_cons_eq source rest hmark, hstring, hint, hname] at h
    dsimp only at h
    rw [hpieces] at h
    cases h
  case case13 =>
    intro source first rest hmark hstring hint name inner hname found hpieces
      ih type h
    rw [readAtom_cons_eq source rest hmark, hstring, hint, hname] at h
    dsimp only at h
    rw [hpieces] at h
    obtain ⟨types, htypes, h⟩ := ok_of_bind_ok h
    exact canonical_of_readName (ih types htypes) h
  case case14 =>
    intro source types h
    rw [readArguments] at h
    cases h
    exact fun _ hmem => absurd hmem List.not_mem_nil
  case case15 =>
    intro source piece rest ihpiece ihrest types h
    rw [readArguments] at h
    obtain ⟨type, htype, h⟩ := ok_of_bind_ok h
    obtain ⟨others, hothers, h⟩ := ok_of_bind_ok h
    cases h
    exact List.forall_mem_cons.mpr
      ⟨ihpiece type (ok_of_mapError_ok htype), ihrest others hothers⟩

/-- **A type that is read is canonical.** -/
theorem canonical_of_read {text : String} {type : PropertyType}
    (h : read text = .ok type) : type.Canonical :=
  canonical_of_readChars_and.1 text.toList type h

end SchemaTyping.PropertyType
