import Mathlib.Data.List.Forall2

/-!
# Steps that may fail

A step gives a result or an error, and the steps behind an error are not taken.
So a sequence has a result just if each of its steps has one, and its error is
that of the first step that fails. This file says so for two steps, for a loop
that keeps a state and for a list of questions that are each answered alone.
-/

namespace SchemaTyping

variable {α β ε δ σ : Type}

/-! ## Two steps -/

section Steps

variable {first : Except ε α} {next : α → Except ε β} {result : β} {error : ε}

theorem ok_of_bind_ok (h : first >>= next = .ok result) :
    ∃ value, first = .ok value ∧ next value = .ok result := by
  cases first with
  | error error => cases h
  | ok value => exact ⟨value, rfl, h⟩

theorem bind_eq_ok_iff :
    first >>= next = .ok result ↔ ∃ value, first = .ok value ∧ next value = .ok result := by
  refine ⟨ok_of_bind_ok, ?_⟩
  rintro ⟨value, rfl, h⟩
  exact h

/-- Two steps in a row succeed if each does. -/
theorem exists_ok_bind_iff :
    (∃ result, first >>= next = .ok result)
      ↔ ∃ value, first = .ok value ∧ ∃ result, next value = .ok result := by
  refine (exists_congr fun _ => bind_eq_ok_iff).trans (exists_comm.trans ?_)
  exact exists_congr fun value => exists_and_left

theorem exists_ok_bind_ok_iff {f : α → β} :
    (∃ result, (first >>= fun value => .ok (f value)) = .ok result)
      ↔ ∃ value, first = .ok value := by
  rw [exists_ok_bind_iff]
  exact exists_congr fun value => and_iff_left ⟨f value, rfl⟩

/-- What fails is the first part, or the second one after it. -/
theorem bind_eq_error_iff :
    first >>= next = .error error
      ↔ first = .error error ∨ ∃ x, first = .ok x ∧ next x = .error error := by
  cases first with
  | error other =>
    have hother : (Except.error other >>= next : Except ε β) = .error other := rfl
    simp [hother]
  | ok x =>
    have hnext : (Except.ok x >>= next : Except ε β) = next x := rfl
    simp [hnext]

/-- A second part that cannot fail leaves the errors to the first one. -/
theorem bind_eq_error_iff_of_total (h : ∀ x, ∃ y, next x = .ok y) :
    first >>= next = .error error ↔ first = .error error := by
  rw [bind_eq_error_iff, or_iff_left]
  rintro ⟨x, -, herror⟩
  obtain ⟨y, hy⟩ := h x
  rw [hy] at herror
  cases herror

theorem ok_of_map_ok {f : α → β} (h : first.map f = .ok result) :
    ∃ value, first = .ok value ∧ f value = result := by
  cases first with
  | error error => cases h
  | ok value => exact ⟨value, rfl, Except.ok.inj h⟩

theorem ok_of_mapError_ok {f : ε → δ} {value : α} (h : first.mapError f = .ok value) :
    first = .ok value := by
  cases first with
  | error error => cases h
  | ok value => exact congrArg _ (Except.ok.inj h)

/-- A failure is the failure of an error. -/
theorem error_of_mapError_error {g : ε → δ} {failure : δ}
    (h : first.mapError g = .error failure) :
    ∃ error, first = .error error ∧ g error = failure := by
  cases first with
  | error error => exact ⟨error, rfl, Except.error.inj h⟩
  | ok x => cases h

theorem eq_ok_of_toOption {value : α} (h : first.toOption = some value) :
    first = .ok value := by
  cases first with
  | error error => cases h
  | ok value => exact congrArg _ (Option.some.inj h)

end Steps

/-! ## Loops -/

section Loops

variable {step : σ → α → Except ε σ} {items : List α} {first last : σ}

/-- What every step of a loop keeps holds when the loop ends without error. -/
theorem holds_of_foldlM_ok {P : σ → Prop}
    (hstep : ∀ {state item next}, P state → step state item = .ok next → P next)
    (hfirst : P first) (h : items.foldlM step first = .ok last) : P last := by
  induction items generalizing first with
  | nil =>
    cases h
    exact hfirst
  | cons item rest ih =>
    rw [List.foldlM_cons] at h
    obtain ⟨next, hnext, hrest⟩ := ok_of_bind_ok h
    exact ih (hstep hfirst hnext) hrest

/-- **A loop succeeds** if each step does, where this does not depend on the
state. -/
theorem exists_ok_foldlM_iff {P : α → Prop}
    (hstep : ∀ state item, (∃ next, step state item = .ok next) ↔ P item) (first : σ) :
    (∃ last, items.foldlM step first = .ok last) ↔ ∀ item ∈ items, P item := by
  induction items generalizing first with
  | nil => exact ⟨fun _ => List.forall_mem_nil _, fun _ => ⟨first, rfl⟩⟩
  | cons item rest ih =>
    rw [List.foldlM_cons, exists_ok_bind_iff, List.forall_mem_cons, ← hstep first item]
    constructor
    · rintro ⟨next, hnext, hrest⟩
      exact ⟨⟨next, hnext⟩, (ih next).mp hrest⟩
    · rintro ⟨⟨next, hnext⟩, hrest⟩
      exact ⟨next, hnext, (ih next).mpr hrest⟩

end Loops

/-! ## Lists of answers -/

section Answers

variable {f : α → Except ε β} {xs : List α}

/-- If all questions have an answer, the answers are those to the questions,
in order. -/
theorem forall₂_of_mapM_ok {ys : List β} (h : xs.mapM f = .ok ys) :
    List.Forall₂ (fun x y => f x = .ok y) xs ys := by
  induction xs generalizing ys with
  | nil =>
    cases h
    exact .nil
  | cons x xs ih =>
    rw [List.mapM_cons] at h
    obtain ⟨y, hy, h⟩ := ok_of_bind_ok h
    obtain ⟨rest, hrest, h⟩ := ok_of_bind_ok h
    cases h
    exact .cons hy (ih hrest)

/-- If the answers are given up, one of the questions has none. -/
theorem exists_mem_of_mapM_error {error : ε} (h : xs.mapM f = .error error) :
    ∃ x ∈ xs, f x = .error error := by
  induction xs with
  | nil => cases h
  | cons x xs ih =>
    rw [List.mapM_cons, bind_eq_error_iff] at h
    rcases h with hx | ⟨y, -, h⟩
    · exact ⟨x, List.mem_cons_self, hx⟩
    · have hrest := (bind_eq_error_iff_of_total fun ys => ⟨y :: ys, rfl⟩).mp h
      obtain ⟨found, hfound, herror⟩ := ih hrest
      exact ⟨found, List.mem_cons_of_mem x hfound, herror⟩

/-- All questions have an answer if each has. -/
theorem exists_ok_mapM_iff :
    (∃ ys, xs.mapM f = .ok ys) ↔ ∀ x ∈ xs, ∃ y, f x = .ok y := by
  induction xs with
  | nil => exact ⟨fun _ => List.forall_mem_nil _, fun _ => ⟨[], rfl⟩⟩
  | cons x xs ih =>
    rw [List.mapM_cons, exists_ok_bind_iff, List.forall_mem_cons, ← ih]
    refine Iff.trans (exists_congr fun y => and_congr_right fun _ => ?_) exists_and_right
    exact exists_ok_bind_ok_iff

end Answers

end SchemaTyping
