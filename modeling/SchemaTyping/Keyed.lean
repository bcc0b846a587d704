/-!
# Records keyed by name

Tables of a schema, columns of a table and casts of a model are kept by name,
and every listing of them is in the order of the names. A `Keyed` record is
the list of its entries in strictly ascending order of the keys, so two
records with the same entries are equal: `Keyed.ext` says that a record is
determined by `Keyed.find?`, and the equations for `insert` and `erase` say
what an update does to every look-up.

Keys are compared character by character, by code point.
-/

namespace SchemaTyping

universe u

variable {α : Type u}

/-- **A record keyed by name**, with its entries in the order of the keys. -/
structure Keyed (α : Type u) where
  /-- The entries, each key with its value. -/
  entries : List (String × α)
  /-- The keys ascend strictly, so none occurs twice. -/
  ascending : entries.Pairwise fun a b => a.1 < b.1

namespace Keyed

instance [DecidableEq α] : DecidableEq (Keyed α) := fun m n =>
  decidable_of_iff (m.entries = n.entries)
    ⟨fun h => by cases m; cases n; cases h; rfl, fun h => h ▸ rfl⟩

/-- The record without entries. -/
def empty : Keyed α := ⟨[], .nil⟩

instance : Inhabited (Keyed α) := ⟨empty⟩

/-- The value stored under a key. -/
def find? (m : Keyed α) (key : String) : Option α := m.entries.lookup key

/-- Whether a value is stored under the key. -/
def contains (m : Keyed α) (key : String) : Bool := (m.find? key).isSome

/-- The keys in ascending order. -/
def keys (m : Keyed α) : List String := m.entries.map (·.1)

/-- The values in the order of their keys. -/
def values (m : Keyed α) : List α := m.entries.map (·.2)

/-- The number of entries. -/
def size (m : Keyed α) : Nat := m.entries.length

/-- Puts an entry at its place, over the one with the same key. -/
def insertEntry (key : String) (value : α) :
    List (String × α) → List (String × α)
  | [] => [(key, value)]
  | entry :: rest =>
    if key < entry.1 then (key, value) :: entry :: rest
    else if key = entry.1 then (key, value) :: rest
    else entry :: insertEntry key value rest

theorem mem_insertEntry {key : String} {value : α} {entry : String × α}
    {entries : List (String × α)}
    (h : entry ∈ insertEntry key value entries) :
    entry = (key, value) ∨ entry ∈ entries := by
  induction entries with
  | nil => simpa [insertEntry] using h
  | cons first rest ih => grind [insertEntry]

theorem ascending_insertEntry (key : String) (value : α)
    {entries : List (String × α)}
    (h : entries.Pairwise fun a b => a.1 < b.1) :
    (insertEntry key value entries).Pairwise fun a b => a.1 < b.1 := by
  induction entries with
  | nil => simp [insertEntry]
  | cons first rest ih =>
    obtain ⟨hfirst, hrest⟩ := List.pairwise_cons.mp h
    rw [insertEntry]
    split
    · next hlt =>
      refine List.pairwise_cons.mpr ⟨fun entry hentry => ?_, h⟩
      rcases List.mem_cons.mp hentry with rfl | hmem
      · exact hlt
      · exact String.lt_trans hlt (hfirst entry hmem)
    · next hnlt =>
      split
      · next heq =>
        exact List.pairwise_cons.mpr
          ⟨fun entry hmem => heq ▸ hfirst entry hmem, hrest⟩
      · next hne =>
        refine List.pairwise_cons.mpr ⟨fun entry hentry => ?_, ih hrest⟩
        rcases mem_insertEntry hentry with rfl | hmem
        · exact Std.lt_of_le_of_ne (String.not_lt.mp hnlt) (Ne.symm hne)
        · exact hfirst entry hmem

/-- Stores a value under a key, over the one that was there. -/
def insert (m : Keyed α) (key : String) (value : α) : Keyed α :=
  ⟨insertEntry key value m.entries, ascending_insertEntry key value m.ascending⟩

/-- Removes a key and its value. -/
def erase (m : Keyed α) (key : String) : Keyed α :=
  ⟨m.entries.filter fun entry => entry.1 != key, m.ascending.filter _⟩

/-- The record of a list of entries, where the last one for a key counts. -/
def ofList (entries : List (String × α)) : Keyed α :=
  entries.foldl (fun m entry => m.insert entry.1 entry.2) empty

/-! ## Look-ups in a list -/

section Lists

variable {κ : Type} {β : Type u} [BEq κ] [LawfulBEq κ] {key name : κ} {value : β}

theorem lookup_cons_of_ne {rest : List (κ × β)} (h : key ≠ name) :
    ((name, value) :: rest).lookup key = rest.lookup key := by
  rw [List.lookup_cons, beq_eq_false_iff_ne.mpr h]

/-- **Look-ups among some of the entries**, which are chosen by their keys. -/
theorem lookup_filter (keep : κ → Bool) (key : κ) (entries : List (κ × β)) :
    (entries.filter fun entry => keep entry.1).lookup key
      = if keep key then entries.lookup key else none := by
  induction entries with
  | nil => simp
  | cons entry rest ih =>
    obtain ⟨name, value⟩ := entry
    by_cases h : key = name
    · subst h
      cases hkeep : keep key <;> simp [hkeep, ih]
    · cases hkeep : keep name <;> simp [hkeep, ih, lookup_cons_of_ne h]

end Lists

/-! ## Look-ups after an update -/

@[simp] theorem find?_empty (key : String) :
    (empty : Keyed α).find? key = none := rfl

theorem lookup_insertEntry (key other : String) (value : α)
    (entries : List (String × α)) :
    (insertEntry key value entries).lookup other
      = if other = key then some value else entries.lookup other := by
  induction entries with
  | nil => grind [insertEntry]
  | cons first rest ih => grind [insertEntry]

/-- **Reading after storing**: the stored value under its key, and what was
there before under every other. -/
theorem find?_insert (m : Keyed α) (key other : String) (value : α) :
    (m.insert key value).find? other
      = if other = key then some value else m.find? other :=
  lookup_insertEntry key other value m.entries

@[simp] theorem find?_insert_self (m : Keyed α) (key : String) (value : α) :
    (m.insert key value).find? key = some value := by
  simp [find?_insert]

theorem find?_insert_of_ne (m : Keyed α) {key other : String} (value : α)
    (h : other ≠ key) : (m.insert key value).find? other = m.find? other := by
  simp [find?_insert, h]

/-- **Reading after removing**: nothing under the removed key, and what was
there before under every other. -/
theorem find?_erase (m : Keyed α) (key other : String) :
    (m.erase key).find? other
      = if other = key then none else m.find? other := by
  show (m.entries.filter fun entry => entry.1 != key).lookup other = _
  rw [lookup_filter (· != key)]
  by_cases h : other = key <;> simp [h, find?]

@[simp] theorem find?_erase_self (m : Keyed α) (key : String) :
    (m.erase key).find? key = none := by
  simp [find?_erase]

theorem find?_erase_of_ne (m : Keyed α) {key other : String}
    (h : other ≠ key) : (m.erase key).find? other = m.find? other := by
  simp [find?_erase, h]

/-! ## The keys -/

theorem lookup_isSome_iff {key : String} {entries : List (String × α)} :
    (entries.lookup key).isSome = true ↔ key ∈ entries.map (·.1) := by
  induction entries with
  | nil => simp
  | cons first rest ih =>
    rw [List.lookup_cons, List.map_cons, List.mem_cons]
    by_cases h : key = first.1
    · simp [h]
    · rw [beq_eq_false_iff_ne.mpr h]
      exact ih.trans (or_iff_right h).symm

/-- A key is one under which a value is stored. -/
@[simp] theorem mem_keys {m : Keyed α} {key : String} :
    key ∈ m.keys ↔ (m.find? key).isSome = true :=
  lookup_isSome_iff.symm

theorem ascending_keys (m : Keyed α) : m.keys.Pairwise (· < ·) :=
  List.pairwise_map.mpr m.ascending

/-! ## Extensionality -/

theorem lookup_eq_none_of_lt {key : String} {entries : List (String × α)}
    (h : ∀ entry ∈ entries, key < entry.1) : entries.lookup key = none := by
  induction entries with
  | nil => rfl
  | cons first rest ih =>
    have hlt := h first (by simp)
    have hne : key ≠ first.1 := fun heq => String.lt_irrefl _ (heq ▸ hlt)
    rw [lookup_cons_of_ne hne]
    exact ih fun entry hmem => h entry (List.mem_cons_of_mem _ hmem)

/-- **A record is determined by its look-ups.** -/
@[ext] theorem ext {m n : Keyed α} (h : ∀ key, m.find? key = n.find? key) :
    m = n := by
  obtain ⟨ms, hm⟩ := m
  obtain ⟨ns, hn⟩ := n
  suffices ms = ns by cases this; rfl
  simp only [find?] at h
  induction ms generalizing ns with
  | nil =>
    cases ns with
    | nil => rfl
    | cons n ns =>
      obtain ⟨nk, nv⟩ := n
      simpa using h nk
  | cons m ms ih =>
    obtain ⟨mk, mv⟩ := m
    cases ns with
    | nil => simpa using h mk
    | cons n ns =>
      obtain ⟨nk, nv⟩ := n
      obtain ⟨hm₁, hms⟩ := List.pairwise_cons.mp hm
      obtain ⟨hn₁, hns⟩ := List.pairwise_cons.mp hn
      have hkey : mk = nk := by
        rcases Std.lt_trichotomy mk nk with hlt | heq | hlt
        · have hnone : ((nk, nv) :: ns).lookup mk = none :=
            lookup_eq_none_of_lt fun entry hmem => by
              rcases List.mem_cons.mp hmem with rfl | hmem
              · exact hlt
              · exact String.lt_trans hlt (hn₁ entry hmem)
          simpa [hnone] using h mk
        · exact heq
        · have hnone : ((mk, mv) :: ms).lookup nk = none :=
            lookup_eq_none_of_lt fun entry hmem => by
              rcases List.mem_cons.mp hmem with rfl | hmem
              · exact hlt
              · exact String.lt_trans hlt (hm₁ entry hmem)
          simpa [hnone] using h nk
      subst hkey
      have hvalue : mv = nv := by simpa using h mk
      have hrest : ∀ key, ms.lookup key = ns.lookup key := fun key => by
        by_cases heq : key = mk
        · subst heq
          rw [lookup_eq_none_of_lt hm₁, lookup_eq_none_of_lt hn₁]
        · simpa [lookup_cons_of_ne heq] using h key
      rw [ih hms ns hns hrest, hvalue]

/-- Storing what is stored already changes nothing. -/
theorem insert_eq_self {m : Keyed α} {key : String} {value : α}
    (h : m.find? key = some value) : m.insert key value = m := by
  refine ext fun other => ?_
  rw [find?_insert]
  split
  · next heq => rw [heq, h]
  · rfl

/-- Removing a key under which nothing is stored changes nothing. -/
theorem erase_eq_self {m : Keyed α} {key : String}
    (h : m.find? key = none) : m.erase key = m := by
  refine ext fun other => ?_
  rw [find?_erase]
  split
  · next heq => rw [heq, h]
  · rfl

end Keyed

end SchemaTyping
