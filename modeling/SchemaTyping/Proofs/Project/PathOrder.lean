import Mathlib.Data.List.Sort
import SchemaTyping.Project.Path

/-!
# The orders of paths

Both orders are total and transitive, so a sorted list of paths is in order
whatever the list was before. They are not antisymmetric: `db/a.yaml` and
`db//a.yaml` have the same components and neither comes first. Two sorted
lists of the same paths therefore agree up to such ties only, and they agree
in everything that is the same for tied paths (`map_eq_of_perm_of_pairwise`).
-/

namespace SchemaTyping

/-! ## Components -/

namespace Component

theorem le_total (a b : Component) : (a.le b || b.le a) = true := by
  rw [Bool.or_eq_true]
  cases a <;> cases b <;> simp [le, rank, String.le_total]

theorem le_antisymm {a b : Component} (h : a.le b = true) (h' : b.le a = true) :
    a = b := by
  cases a <;> cases b <;> simp_all [le, rank]
  exact String.le_antisymm h h'

theorem le_trans {a b c : Component} (h : a.le b = true) (h' : b.le c = true) :
    a.le c = true := by
  cases a <;> cases b <;> cases c <;> simp_all [le, rank]
  exact String.le_trans h h'

end Component

/-! ## Lists -/

section Lists

variable {α : Type} [DecidableEq α] {le : α → α → Bool}

theorem lexLe_total (htotal : ∀ a b, (le a b || le b a) = true) (as bs : List α) :
    (lexLe le as bs || lexLe le bs as) = true := by
  induction as generalizing bs with
  | nil => rfl
  | cons a as ih =>
    cases bs with
    | nil => rfl
    | cons b bs =>
      rw [lexLe, lexLe]
      by_cases heq : a = b
      · rw [if_pos heq, if_pos heq.symm]
        exact ih bs
      · rw [if_neg heq, if_neg (Ne.symm heq)]
        exact htotal a b

theorem lexLe_antisymm
    (hanti : ∀ {a b}, le a b = true → le b a = true → a = b) {as bs : List α}
    (h : lexLe le as bs = true) (h' : lexLe le bs as = true) : as = bs := by
  induction as generalizing bs with
  | nil =>
    cases bs with
    | nil => rfl
    | cons b bs => cases h'
  | cons a as ih =>
    cases bs with
    | nil => cases h
    | cons b bs =>
      rw [lexLe] at h h'
      by_cases heq : a = b
      · rw [if_pos heq] at h
        rw [if_pos heq.symm] at h'
        rw [heq, ih h h']
      · rw [if_neg heq] at h
        rw [if_neg (Ne.symm heq)] at h'
        exact absurd (hanti h h') heq

theorem lexLe_trans
    (hanti : ∀ {a b}, le a b = true → le b a = true → a = b)
    (htrans : ∀ {a b c}, le a b = true → le b c = true → le a c = true)
    {as bs cs : List α} (h : lexLe le as bs = true)
    (h' : lexLe le bs cs = true) : lexLe le as cs = true := by
  induction as generalizing bs cs with
  | nil => rfl
  | cons a as ih =>
    cases bs with
    | nil => cases h
    | cons b bs =>
      cases cs with
      | nil => cases h'
      | cons c cs =>
        rw [lexLe] at h h' ⊢
        by_cases hab : a = b
        · subst hab
          rw [if_pos rfl] at h
          by_cases hac : a = c
          · rw [if_pos hac] at h' ⊢
            exact ih h h'
          · rwa [if_neg hac] at h' ⊢
        · rw [if_neg hab] at h
          by_cases hbc : b = c
          · subst hbc
            rwa [if_neg hab]
          · rw [if_neg hbc] at h'
            have hac : a ≠ c := by
              rintro rfl
              exact hab (hanti h h')
            rw [if_neg hac]
            exact htrans h h'

end Lists

namespace Path

variable {a b c : Path}

/-! ## Paths -/

theorem le_total (a b : Path) : (a.le b || b.le a) = true :=
  lexLe_total Component.le_total _ _

theorem le_trans (h : a.le b = true) (h' : b.le c = true) : a.le c = true :=
  lexLe_trans Component.le_antisymm Component.le_trans h h'

/-- Paths that tie are made of the same components. -/
theorem components_eq_of_le (h : a.le b = true) (h' : b.le a = true) :
    a.components = b.components :=
  lexLe_antisymm Component.le_antisymm h h'

theorem componentOf?_ne_empty (segment : String) :
    componentOf? segment ≠ some (.name "") := by
  unfold componentOf?
  split
  · nofun
  · next hne =>
    split
    · nofun
    · rintro heq
      cases heq
      exact hne (.inl rfl)

/-- No file name is empty. -/
theorem fileName?_ne_empty (path : Path) : path.fileName? ≠ some "" := by
  intro h
  unfold fileName? at h
  split at h
  · next name hlast =>
    cases h
    have hmem := List.mem_of_getLast? hlast
    have hrest : .name "" ∉ path.segments.filterMap componentOf? := by
      intro hmem
      obtain ⟨segment, -, hsegment⟩ := List.mem_filterMap.mp hmem
      exact componentOf?_ne_empty segment hsegment
    unfold components at hmem
    split at hmem
    · exact hrest ((List.mem_cons.mp hmem).resolve_left nofun)
    · split at hmem
      · exact hrest ((List.mem_cons.mp hmem).resolve_left nofun)
      · exact hrest hmem
  · cases h

/-- The file name of a path, empty if it has none. -/
def nameText (path : Path) : String := path.fileName?.getD ""

theorem nameText_eq_iff : a.nameText = b.nameText ↔ a.fileName? = b.fileName? := by
  unfold nameText
  have ha := a.fileName?_ne_empty
  have hb := b.fileName?_ne_empty
  generalize a.fileName? = first at ha ⊢
  generalize b.fileName? = second at hb ⊢
  cases first <;> cases second <;> simp_all [eq_comm]

/-- **The order of files**: that of their names, and for one name that of their
paths. -/
def ByName (a b : Path) : Prop :=
  a.nameText < b.nameText ∨ a.nameText = b.nameText ∧ a.le b = true

instance (a b : Path) : Decidable (a.ByName b) :=
  inferInstanceAs (Decidable (a.nameText < b.nameText ∨ a.nameText = b.nameText ∧ a.le b = true))

theorem leByName_iff : a.leByName b = true ↔ a.ByName b := by
  unfold leByName ByName
  split
  · next heq => simp [nameText_eq_iff.mpr heq]
  · next hne =>
    have hname : a.nameText ≠ b.nameText := mt nameText_eq_iff.mp hne
    show decide (a.nameText ≤ b.nameText) = true ↔ _
    rw [decide_eq_true_eq]
    simp only [hname, false_and, or_false]
    exact ⟨fun h => Std.lt_of_le_of_ne h hname, Std.le_of_lt⟩

theorem leByName_total (a b : Path) : (a.leByName b || b.leByName a) = true := by
  have hpath := le_total a b
  rw [Bool.or_eq_true] at hpath ⊢
  rw [leByName_iff, leByName_iff, ByName, ByName]
  rcases Std.lt_trichotomy a.nameText b.nameText with hlt | heq | hlt
  · exact .inl (.inl hlt)
  · exact hpath.imp (fun h => .inr ⟨heq, h⟩) fun h => .inr ⟨heq.symm, h⟩
  · exact .inr (.inl hlt)

theorem ByName.trans (h : a.ByName b) (h' : b.ByName c) : a.ByName c := by
  rcases h with hlt | ⟨heq, hle⟩
  · rcases h' with hlt' | ⟨heq', -⟩
    · exact .inl (String.lt_trans hlt hlt')
    · exact .inl (heq' ▸ hlt)
  · unfold ByName
    rw [heq]
    exact h'.imp_right fun ⟨heq', hle'⟩ => ⟨heq', le_trans hle hle'⟩

theorem leByName_trans (h : a.leByName b = true) (h' : b.leByName c = true) :
    a.leByName c = true := by
  rw [leByName_iff] at h h' ⊢
  exact h.trans h'

/-- Files that tie are spelled by the same components. -/
theorem ByName.components_eq (h : a.ByName b) (h' : b.ByName a) :
    a.components = b.components := by
  rcases h with hlt | ⟨heq, hle⟩
  · rcases h' with hlt' | ⟨heq, -⟩
    · exact absurd (String.lt_trans hlt hlt') (String.lt_irrefl _)
    · exact absurd (heq ▸ hlt) (String.lt_irrefl _)
  · rcases h' with hlt' | ⟨-, hle'⟩
    · exact absurd (heq ▸ hlt') (String.lt_irrefl _)
    · exact components_eq_of_le hle hle'

end Path

/-! ## Sorted lists -/

/-- **Two sorted lists of the same items agree** in all that is the same for
items which tie. -/
theorem map_eq_of_perm_of_pairwise {α β : Type} {le : α → α → Prop} {f : α → β}
    {first second : List α} (hperm : first.Perm second) (hfirst : first.Pairwise le)
    (hsecond : second.Pairwise le)
    (htie : ∀ a ∈ first, ∀ b ∈ first, le a b → le b a → f a = f b) :
    first.map f = second.map f := by
  induction first generalizing second with
  | nil => rw [hperm.nil_eq]
  | cons a rest ih =>
    obtain ⟨before, after, rfl⟩ := List.append_of_mem (hperm.mem_iff.mp List.mem_cons_self)
    obtain ⟨ha, hrest⟩ := List.pairwise_cons.mp hfirst
    have hperm' : rest.Perm (before ++ after) :=
      (hperm.trans List.perm_middle).cons_inv
    -- what the second list has before the head of the first one ties with it
    have hbefore : ∀ b ∈ before, f b = f a := by
      intro b hb
      have hmem : b ∈ rest := hperm'.mem_iff.mpr (List.mem_append_left _ hb)
      have hle : le b a :=
        (List.pairwise_append.mp hsecond).2.2 b hb a List.mem_cons_self
      exact htie b (List.mem_cons_of_mem _ hmem) a List.mem_cons_self hle (ha b hmem)
    have hmap : before.map f = List.replicate before.length (f a) :=
      List.eq_replicate_iff.mpr ⟨List.length_map _, by simpa using hbefore⟩
    have hsecond' : (before ++ after).Pairwise le :=
      hsecond.sublist ((List.sublist_cons_self a after).append_left before)
    have htail := ih hperm' hrest hsecond' fun b hb c hc =>
      htie b (List.mem_cons_of_mem _ hb) c (List.mem_cons_of_mem _ hc)
    rw [List.map_cons, htail, List.map_append, List.map_append, List.map_cons, hmap,
      ← List.cons_append, ← List.replicate_succ, List.replicate_succ',
      List.append_assoc, List.singleton_append]

end SchemaTyping
