import Mathlib
import SchemaTyping.Proofs.Text.Trim

/-!
# ASCII text

The case maps of Unicode have long tables, of which ASCII meets one entry: the
26 letters. On an ASCII text the full maps are therefore the ASCII ones, one
character for one character, and no rule looks at the neighbours.
-/

namespace SchemaTyping.Text

variable {c : Char} {text : List Char}

/-- **A text in ASCII.** -/
def IsAscii (text : List Char) : Prop := ∀ c ∈ text, c.toNat < 128

instance (text : List Char) : Decidable (IsAscii text) :=
  List.decidableBAll (fun c : Char => c.toNat < 128) text

/-- The capital letters of ASCII are the first run of the table, and the other
runs begin behind ASCII. -/
theorem isUpper_eq (h : c.toNat < 128) : isUpper c = c.isUpper := by
  have hbeyond : (upperCaseRuns.tail.all fun run => Nat.ble 128 run.1) = true := by
    decide +kernel
  have htail : inRuns upperCaseRuns.tail c.toNat = false := by
    refine List.any_eq_false.mpr fun run hrun => ?_
    have hle := Nat.le_of_ble_eq_true (List.all_eq_true.mp hbeyond run hrun)
    simp only [Bool.and_eq_true, decide_eq_true_eq]
    omega
  show ((65 ≤ c.toNat && c.toNat ≤ 90 && (c.toNat - 65) % 1 == 0)
    || inRuns upperCaseRuns.tail c.toNat) = c.isUpper
  rw [htail, Nat.mod_one, Bool.or_false]
  simp [Char.isUpper, UInt32.le_iff_toNat_le]

/-- The ASCII case map leads neither into ASCII nor out of it. -/
theorem toNat_toLower_lt_iff : c.toLower.toNat < 128 ↔ c.toNat < 128 := by
  by_cases hupper : c.isUpper
  · have hle : c.toNat ≤ 90 := (of_decide_eq_true hupper).2
    rw [Char.toLower_eq_of_isUpper hupper, Char.toNat_ofNat, if_pos (by grind)]
    omega
  · rw [Char.toLower_eq_of_not_isUpper hupper]

theorem toNat_toUpper_lt (h : c.toNat < 128) : c.toUpper.toNat < 128 := by
  rwa [← toNat_toLower_lt_iff, Char.toLower_toUpper_eq_toLower, toNat_toLower_lt_iff]

theorem isAscii_asciiLower (h : IsAscii text) : IsAscii (asciiLower text) := by
  intro c hc
  obtain ⟨d, hd, rfl⟩ := List.mem_map.mp hc
  exact toNat_toLower_lt_iff.mpr (h d hd)

theorem IsAscii.intercalate {gap : List Char} (hgap : IsAscii gap)
    {parts : List (List Char)} (h : ∀ part ∈ parts, IsAscii part) :
    IsAscii (gap.intercalate parts) := by
  induction parts with
  | nil => exact List.forall_mem_nil _
  | cons part others ih =>
    obtain ⟨hpart, hothers⟩ := List.forall_mem_cons.mp h
    cases others with
    | nil => rwa [List.intercalate_singleton]
    | cons other others =>
      rw [List.intercalate_cons_cons]
      exact List.forall_mem_append.mpr
        ⟨List.forall_mem_append.mpr ⟨hpart, hgap⟩, ih hothers⟩

theorem upperForm_eq (h : c.toNat < 128) : upperForm c = [c.toUpper] := if_pos h

theorem lowerForm_eq (h : c.toNat < 128) : lowerForm c = [c.toLower] := if_pos h

/-- **In ASCII the lower form is that of the letters**, whatever stands
before the text. -/
theorem lowerAfter_eq (before : List Char) (h : IsAscii text) :
    lowerAfter before text = asciiLower text := by
  induction text generalizing before with
  | nil => rfl
  | cons c rest ih =>
    obtain ⟨hc, hrest⟩ := List.forall_mem_cons.mp h
    have hsigma : c ≠ 'Σ' := by
      rintro rfl
      exact absurd hc (by decide)
    rw [lowerAfter, if_neg hsigma, lowerForm_eq hc, ih _ hrest]
    rfl

theorem lower_eq (h : IsAscii text) : lower text = asciiLower text :=
  lowerAfter_eq [] h

end SchemaTyping.Text
