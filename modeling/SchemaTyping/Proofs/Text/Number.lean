import SchemaTyping.Text.Number

/-!
# Reading a number that was written

A number in its shortest decimal form is read back as that number, if it has
the width that is asked for. Text with a character that belongs to no number
is not read at all, which is how a name is told from a number.
-/

namespace SchemaTyping.Text

/-- The digits of a number are read as that number. -/
theorem readDigits_toDigits (n : Nat) :
    readDigits (Nat.toDigits 10 n) = some n := by
  have hdigits : (!(Nat.toDigits 10 n).isEmpty
      && (Nat.toDigits 10 n).all Char.isDigit) = true := by
    rw [Bool.and_eq_true, Bool.not_eq_true', List.isEmpty_eq_false_iff,
      List.all_eq_true]
    exact ⟨Nat.toDigits_ne_nil, fun _ hc =>
      Nat.isDigit_of_mem_toDigits (by decide) (by decide) hc⟩
  unfold readDigits
  rw [if_pos hdigits, ← Nat.ofDigitChars_eq_foldl, Nat.ofDigitChars_ten_toDigits]

/-- A number that starts with a digit has no sign. -/
theorem readInt_of_isDigit {c : Char} {rest : List Char}
    (h : c.isDigit = true) :
    readInt (c :: rest) = (readDigits (c :: rest)).map Int.ofNat := by
  unfold readInt
  split
  · next heq =>
    cases heq
    cases h
  · next heq =>
    cases heq
    cases h
  · rfl

/-- **An integer is read as it was written.** -/
theorem readInt_toString (n : Int) : readInt (toString n).toList = some n := by
  rw [Int.toString_eq_repr, Int.repr_eq_if]
  by_cases hn : 0 ≤ n
  · rw [if_pos hn, Nat.toList_repr]
    obtain ⟨c, rest, hcons⟩ :=
      List.exists_cons_of_ne_nil (Nat.toDigits_ne_nil (n := n.toNat) (b := 10))
    have hc : c.isDigit = true :=
      Nat.isDigit_of_mem_toDigits (by decide) (by decide)
        (hcons ▸ List.mem_cons_self)
    rw [hcons, readInt_of_isDigit hc, ← hcons, readDigits_toDigits]
    exact congrArg some (Int.toNat_of_nonneg hn)
  · rw [if_neg hn, String.toList_append, Nat.toList_repr]
    show readInt ('-' :: Nat.toDigits 10 (-n).toNat) = some n
    rw [readInt, readDigits_toDigits]
    show some (-((-n).toNat : Int)) = some n
    refine congrArg some ?_
    omega

/-- **A signed number of 64 bits is read as it was written.** -/
theorem readInt64_toString (n : Int64) :
    readInt64 (toString n.toInt).toList = some n := by
  unfold readInt64
  rw [readInt_toString, Option.bind_some,
    if_pos ⟨n.minValue_le_toInt, n.toInt_le⟩, Int64.ofInt_toInt]

/-- What is no number of any width: a text with a character that is neither a
digit nor a sign. -/
theorem readInt64_eq_none {text : List Char} {c : Char} (hmem : c ∈ text)
    (hdigit : c.isDigit = false) (hsign : c ≠ '-' ∧ c ≠ '+') :
    readInt64 text = none := by
  have hdigits : ∀ {digits : List Char}, c ∈ digits → readDigits digits = none := by
    intro digits hmem
    refine if_neg fun h => ?_
    rw [Bool.and_eq_true, List.all_eq_true] at h
    rw [h.2 c hmem] at hdigit
    cases hdigit
  have hread : readInt text = none := by
    unfold readInt
    split
    · rw [hdigits ((List.mem_cons.mp hmem).resolve_left hsign.1)]
      rfl
    · rw [hdigits ((List.mem_cons.mp hmem).resolve_left hsign.2)]
      rfl
    · rw [hdigits hmem]
      rfl
  rw [readInt64, hread]
  rfl

end SchemaTyping.Text
