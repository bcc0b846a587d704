import Mathlib.Data.List.Nodup
import SchemaTyping.Keyed
import SchemaTyping.Proofs.Outcome

/-!
# The last item with a key

A loop that reads items and stores each value under the key of its item keeps,
under every key, what it read from the last item that has it. `LastDecides`
says so of the record before the loop and the one behind it, without the loop;
that it holds is a property of one step (`lastDecides_of_foldlM`). Two such
records are the same if every key has the same last item
(`LastDecides.unique`), and items of different keys have it in any order
(`findRev?_key_of_perm`).
-/

namespace SchemaTyping

variable {α β ε : Type} {key : β → String} {items others : List β} {item : β} {k : String}

/-! ## Items of different keys -/

/-- There is one hit if one item is accepted and no other is. -/
theorem filter_eq_singleton_iff {p : β → Bool} (h : items.Nodup) :
    items.filter p = [item]
      ↔ item ∈ items ∧ p item = true ∧ ∀ other ∈ items, p other = true → other = item := by
  constructor
  · intro hfilter
    have hmem (other : β) : other ∈ items.filter p ↔ other = item := by
      rw [hfilter, List.mem_singleton]
    obtain ⟨hitem, haccepted⟩ := List.mem_filter.mp ((hmem item).mpr rfl)
    exact ⟨hitem, haccepted, fun other hother hp =>
      (hmem other).mp (List.mem_filter.mpr ⟨hother, hp⟩)⟩
  · rintro ⟨hitem, haccepted, honly⟩
    refine List.perm_singleton.mp ((List.perm_ext_iff_of_nodup (h.filter p)
      (List.pairwise_singleton _ item)).mpr fun other => ?_)
    rw [List.mem_filter, List.mem_singleton]
    constructor
    · exact fun hother => honly other hother.1 hother.2
    · rintro rfl
      exact ⟨hitem, haccepted⟩

/-- Among items of different keys, one item has the key of a given one. -/
theorem filter_key_eq_singleton {γ : Type} [DecidableEq γ] {key : β → γ}
    (h : (items.map key).Nodup) (hitem : item ∈ items) :
    items.filter (fun other => key other = key item) = [item] := by
  refine (filter_eq_singleton_iff h.of_map).mpr ⟨hitem, decide_eq_true rfl, ?_⟩
  intro other hother hkey
  exact List.inj_on_of_nodup_map h hother hitem (of_decide_eq_true hkey)

/-- Among items of different keys the one with a key is found. -/
theorem find?_key_eq_some_iff (h : items.Pairwise fun a b => key a ≠ key b) :
    items.find? (key · == k) = some item ↔ item ∈ items ∧ key item = k := by
  constructor
  · intro hfound
    have hkey := List.find?_some hfound
    exact ⟨List.mem_of_find?_eq_some hfound, beq_iff_eq.mp hkey⟩
  · rintro ⟨hmem, rfl⟩
    induction items with
    | nil => cases hmem
    | cons first rest ih =>
      obtain ⟨hfirst, hrest⟩ := List.pairwise_cons.mp h
      rcases List.mem_cons.mp hmem with rfl | hmem
      · exact List.find?_cons_of_pos (beq_self_eq_true _)
      · rw [List.find?_cons_of_neg (by simpa using hfirst item hmem)]
        exact ih hrest hmem

/-- **Items of different keys** may be put in any order: each key still finds
its own. -/
theorem find?_key_of_perm (hperm : items.Perm others)
    (h : items.Pairwise fun a b => key a ≠ key b) :
    items.find? (key · == k) = others.find? (key · == k) := by
  have hothers : others.Pairwise fun a b => key a ≠ key b :=
    (hperm.pairwise_iff fun hne => Ne.symm hne).mp h
  refine Option.ext fun item => ?_
  rw [find?_key_eq_some_iff h, find?_key_eq_some_iff hothers, hperm.mem_iff]

theorem findRev?_key_of_perm (hperm : items.Perm others)
    (h : items.Pairwise fun a b => key a ≠ key b) :
    items.findRev? (key · == k) = others.findRev? (key · == k) := by
  rw [List.findRev?_eq_find?_reverse, List.findRev?_eq_find?_reverse]
  have hreverse : items.reverse.Perm others.reverse :=
    (List.reverse_perm items).trans (hperm.trans (List.reverse_perm others).symm)
  exact find?_key_of_perm hreverse
    (((List.reverse_perm items).pairwise_iff fun hne => Ne.symm hne).mpr h)

/-! ## The last item -/

theorem findRev?_congr {p q : β → Bool} (h : ∀ item ∈ items, p item = q item) :
    items.findRev? p = items.findRev? q := by
  induction items with
  | nil => rfl
  | cons item rest ih =>
    obtain ⟨hitem, hrest⟩ := List.forall_mem_cons.mp h
    rw [List.findRev?, List.findRev?, ih hrest, hitem]

/-- **The last item with a key decides** what is stored under it: the value
that is read from that item. Under a key without an item there is what was
there before. -/
def LastDecides (key : β → String) (read : β → Except ε α) (items : List β)
    (before after : Keyed α) : Prop :=
  ∀ k, match items.findRev? (key · == k) with
    | some item => ∃ value, read item = .ok value ∧ after.find? k = some value
    | none => after.find? k = before.find? k

/-- **A loop that stores what it reads** lets the last item decide. -/
theorem lastDecides_of_foldlM {σ δ : Type} {read : β → Except ε α}
    {step : σ → β → Except δ σ} {first last : σ} (stored : σ → Keyed α)
    (h : items.foldlM step first = .ok last)
    (hstep : ∀ {state item next}, step state item = .ok next → ∃ value,
      read item = .ok value ∧ stored next = (stored state).insert (key item) value) :
    LastDecides key read items (stored first) (stored last) := by
  induction items generalizing first with
  | nil =>
    cases h
    exact fun _ => rfl
  | cons item rest ih =>
    rw [List.foldlM_cons] at h
    obtain ⟨next, hnext, hrest⟩ := ok_of_bind_ok h
    obtain ⟨value, hread, hstored⟩ := hstep hnext
    intro k
    have hdecides := ih hrest k
    rw [List.findRev?]
    cases hlast : rest.findRev? (key · == k) with
    | some other =>
      rw [hlast] at hdecides
      exact hdecides
    | none =>
      -- The item decides if it has the key, since no later one has it.
      rw [hlast, hstored, Keyed.find?_insert] at hdecides
      by_cases hkey : key item = k
      · rw [if_pos (beq_iff_eq.mpr hkey)]
        rw [if_pos hkey.symm] at hdecides
        exact ⟨value, hread, hdecides⟩
      · rw [if_neg (by simpa using hkey)]
        rw [if_neg (Ne.symm hkey)] at hdecides
        exact hdecides

/-- Records on whose every key the same item decides are the same. -/
theorem LastDecides.unique {read : β → Except ε α} {after after' before : Keyed α}
    (h : LastDecides key read items before after)
    (h' : LastDecides key read others before after')
    (hlast : ∀ k, items.findRev? (key · == k) = others.findRev? (key · == k)) :
    after = after' := by
  refine Keyed.ext fun k => ?_
  have hk := h k
  have hk' := h' k
  rw [hlast k] at hk
  cases hfound : others.findRev? (key · == k) with
  | some item =>
    rw [hfound] at hk hk'
    obtain ⟨value, hread, hfind⟩ := hk
    obtain ⟨value', hread', hfind'⟩ := hk'
    rw [hread] at hread'
    rw [hfind, hfind', Except.ok.inj hread']
  | none =>
    rw [hfound] at hk hk'
    exact hk.trans hk'.symm

/-- To read all items and then to store what was read is to store each as it is
read. -/
theorem foldlM_insert_of_mapM_ok {read : β → Except ε α} (name : α → String)
    {values : List α} (h : items.mapM read = .ok values) (before : Keyed α) :
    (items.foldlM (fun stored item =>
        (read item).map fun value => stored.insert (name value) value) before)
      = .ok (values.foldl (fun stored value => stored.insert (name value) value)
          before) := by
  induction items generalizing values before with
  | nil =>
    cases h
    rfl
  | cons item rest ih =>
    rw [List.mapM_cons] at h
    obtain ⟨value, hvalue, h⟩ := ok_of_bind_ok h
    obtain ⟨behind, hbehind, h⟩ := ok_of_bind_ok h
    cases h
    rw [List.foldlM_cons, hvalue]
    exact ih hbehind _

end SchemaTyping
