import SchemaTyping.Text.Basic

/-!
# Pieces of a text

A reader that parts a text puts each character in front of the first piece of
what is left. Where it passes over a text without parting it, the whole text
ends up in front of that piece.
-/

namespace SchemaTyping.Text

/-- What stands in front of a list belongs to the first of its parts. -/
theorem append_intercalate_cons (front gap part : List Char)
    (parts : List (List Char)) :
    front ++ gap.intercalate (part :: parts)
      = gap.intercalate ((front ++ part) :: parts) := by
  cases parts with
  | nil => rw [List.intercalate_singleton, List.intercalate_singleton]
  | cons next parts =>
    rw [List.intercalate_cons_cons, List.intercalate_cons_cons]
    simp only [List.append_assoc]

theorem foldr_prepend (text piece : List Char) (pieces : List (List Char)) :
    text.foldr prepend (piece :: pieces) = (text ++ piece) :: pieces := by
  induction text with
  | nil => rfl
  | cons c text ih =>
    rw [List.foldr_cons, ih]
    rfl

/-- A character in front of the first part stands in front of the list. -/
theorem intercalate_prepend (gap : List Char) (c : Char)
    (pieces : List (List Char)) :
    gap.intercalate (prepend c pieces) = c :: gap.intercalate pieces := by
  cases pieces with
  | nil => exact List.intercalate_singleton
  | cons piece pieces => exact List.intercalate_cons_cons_left

/-- In a list of several parts the last one stands behind a gap. -/
theorem exists_eq_append_intercalate (gap first second : List Char)
    (parts : List (List Char)) :
    ∃ front, ∃ last ∈ second :: parts,
      gap.intercalate (first :: second :: parts) = front ++ (gap ++ last) := by
  induction parts generalizing first second with
  | nil =>
    refine ⟨first, second, List.mem_cons_self, ?_⟩
    rw [List.intercalate_cons_cons, List.intercalate_singleton,
      List.append_assoc]
  | cons third parts ih =>
    obtain ⟨front, last, hlast, heq⟩ := ih second third
    refine ⟨first ++ gap ++ front, last, List.mem_cons_of_mem _ hlast, ?_⟩
    rw [List.intercalate_cons_cons, heq, List.append_assoc (first ++ gap)]

end SchemaTyping.Text
