import SchemaTyping.Proofs.Model.LastDefinition

/-!
# The model that a name means

A name means the model whose class has its key, or else the only model whose
class name ends in it. The second rule is a search that stops at its second
hit, and it goes through the models in no order that anything depends on: this
file shows that the order is not to be seen in the answer.

It rests on one invariant. However a registry arises, each model stands under
the key of its own class (`WellKeyed`), so no two models have one key, and the
search by key is a search among the models themselves. Such a search has the
same answer in any order of the models (`findAmong_of_perm`), and models that
are registered anew in any order make up the same registry
(`models_foldl_registerModel`).

The models of a registry are those that have not been overwritten. Which of
two models with one key remains is another matter: it is the one registered
last.
-/

namespace SchemaTyping

open Text

/-! ## The only hit of a search -/

section OnlyHit

variable {α : Type} {p : α → Bool} {items others : List α} {item : α}

/-- **The only hit of a search**: the first item that is accepted, unless a
second one is. -/
def onlyHit? (p : α → Bool) : List α → Option α
  | [] => none
  | item :: rest =>
    if p item then if rest.any p then none else some item
    else onlyHit? p rest

theorem onlyHit?_eq_some_iff : onlyHit? p items = some item ↔ items.filter p = [item] := by
  induction items with
  | nil => exact ⟨fun h => (nomatch h), fun h => (nomatch h)⟩
  | cons first rest ih =>
    rw [onlyHit?]
    by_cases hfirst : p first = true
    · rw [if_pos hfirst, List.filter_cons_of_pos hfirst, List.cons.injEq,
        List.filter_eq_nil_iff]
      by_cases hrest : rest.any p = true
      · obtain ⟨second, hmem, hsecond⟩ := List.any_eq_true.mp hrest
        rw [if_pos hrest]
        exact ⟨fun h => (nomatch h), fun h => absurd hsecond (h.2 second hmem)⟩
      · rw [if_neg hrest, Option.some.injEq]
        have hnone : ∀ second ∈ rest, ¬ p second = true := fun second hmem hsecond =>
          hrest (List.any_eq_true.mpr ⟨second, hmem, hsecond⟩)
        exact ⟨fun h => ⟨h, hnone⟩, fun h => h.1⟩
    · rw [if_neg hfirst, List.filter_cons_of_neg hfirst]
      exact ih

theorem onlyHit?_eq (p : α → Bool) (items : List α) :
    onlyHit? p items = match items.filter p with
      | [item] => some item
      | _ => none := by
  refine Option.ext fun item => ?_
  rw [onlyHit?_eq_some_iff]
  split
  · next only honly =>
    rw [honly, List.cons.injEq, Option.some.injEq]
    exact and_iff_left rfl
  · next hmany => exact ⟨fun h => absurd h (hmany item), fun h => (nomatch h)⟩

/-- A search among what is made of the items finds what is made of the hit. -/
theorem onlyHit?_map {β : Type} (p : β → Bool) (f : α → β) (items : List α) :
    onlyHit? p (items.map f) = (onlyHit? (fun item => p (f item)) items).map f := by
  induction items with
  | nil => rfl
  | cons item rest ih =>
    rw [List.map_cons, onlyHit?, onlyHit?, List.any_map, ih]
    by_cases hitem : p (f item) = true
    · rw [if_pos hitem, if_pos hitem, apply_ite (Option.map f)]
      rfl
    · rw [if_neg hitem, if_neg hitem]

/-- The search has the same answer in any order. -/
theorem onlyHit?_of_perm (h : items.Perm others) : onlyHit? p items = onlyHit? p others := by
  have himp {items others : List α} (h : items.Perm others) (item : α)
      (hitems : items.filter p = [item]) : others.filter p = [item] :=
    List.perm_singleton.mp (hitems ▸ (h.filter p).symm)
  refine Option.ext fun item => ?_
  rw [onlyHit?_eq_some_iff, onlyHit?_eq_some_iff]
  exact ⟨himp h item, himp h.symm item⟩

end OnlyHit

/-! ## Models under their own keys -/

/-- The key of a model's class. -/
def ModelEntry.key (entry : ModelEntry) : String := classKey entry.model.className

namespace Registry

variable {registry next : Registry} {entry : ModelEntry} {name k : String}

/-- **How a registry arises**: models and casts are registered in it. -/
inductive Arises : Registry → Prop
  | empty : Arises .empty
  | model {registry : Registry} (before : Arises registry) (entry : ModelEntry) :
      Arises (registry.registerModel entry)
  | cast {registry : Registry} (before : Arises registry) (className : String)
      (cast : CastClass) : Arises (registry.registerCast className cast)

/-- **Each model stands under the key of its own class.** -/
def WellKeyed (registry : Registry) : Prop :=
  ∀ stored ∈ registry.models.entries, stored.1 = stored.2.key

theorem Arises.wellKeyed (h : registry.Arises) : registry.WellKeyed := by
  induction h with
  | empty => exact List.forall_mem_nil _
  | model _ entry ih =>
    intro stored hstored
    rcases Keyed.mem_insertEntry hstored with rfl | hstored
    · rfl
    · exact ih stored hstored
  | cast _ _ _ ih => exact ih

/-- Registries that are loaded arise so. -/
theorem arises_of_ofDeclarations {document : Declarations}
    (h : ofDeclarations document = .ok registry) : registry.Arises := by
  obtain ⟨models, hmodels, hcasts⟩ := ok_of_bind_ok h
  have hmodel {state next : Registry} {declaration : ModelDeclaration}
      (hstate : state.Arises) (hnext : state.addModel declaration = .ok next) :
      next.Arises := by
    obtain ⟨entry, -, heq⟩ := ok_of_bind_ok hnext
    cases heq
    exact hstate.model entry
  have hcast {state next : Registry} {declaration : CastDeclaration}
      (hstate : state.Arises) (hnext : state.addCast declaration = .ok next) :
      next.Arises := by
    unfold addCast at hnext
    split at hnext
    · next cast _ =>
      cases hnext
      exact hstate.cast declaration.className cast
    · cases hnext
  exact holds_of_foldlM_ok hcast (holds_of_foldlM_ok hmodel .empty hmodels) hcasts

/-- No two models have one key. -/
theorem WellKeyed.pairwise_key (h : registry.WellKeyed) :
    registry.models.values.Pairwise fun a b => a.key ≠ b.key := by
  refine List.pairwise_map.mpr (registry.models.ascending.imp_of_mem ?_)
  intro first second hfirst hsecond hlt heq
  rw [h first hfirst, h second hsecond, heq] at hlt
  exact String.lt_irrefl _ hlt

/-- A look-up by key is a search among the models. -/
theorem WellKeyed.find?_eq (h : registry.WellKeyed) (k : String) :
    registry.models.find? k = registry.models.values.find? (·.key == k) := by
  unfold WellKeyed at h
  show registry.models.entries.lookup k = (registry.models.entries.map (·.2)).find? _
  generalize registry.models.entries = entries at h
  induction entries with
  | nil => rfl
  | cons stored rest ih =>
    obtain ⟨hstored, hrest⟩ := List.forall_mem_cons.mp h
    rw [List.lookup_cons, List.map_cons, List.find?_cons, ih hrest, hstored, BEq.comm]

/-! ## The search -/

/-- **The search among models that come in some order**: the model with the key
of the name, or else the only one whose class name ends in the name. -/
def findAmong (order : List ModelEntry) (name : String) : Option String :=
  ((order.find? (·.key == classKey name)).or
    (onlyHit? (hasBasename name ·.model.className) order)).map (·.model.className)

theorem findAmong_of_perm {order others : List ModelEntry} (hperm : order.Perm others)
    (h : order.Pairwise fun a b => a.key ≠ b.key) (name : String) :
    findAmong order name = findAmong others name := by
  rw [findAmong, find?_key_of_perm hperm h, onlyHit?_of_perm hperm]
  rfl

/-- The search of a registry is one among its models. -/
theorem WellKeyed.findModel?_eq (h : registry.WellKeyed) (name : String) :
    registry.findModel? name = findAmong registry.models.values name := by
  rw [findModel?, entry?, h.find?_eq, findAmong]
  cases hfound : registry.models.values.find? (·.key == classKey name) with
  | some entry => rfl
  | none =>
    rw [Option.none_or, ← onlyHit?_map, onlyHit?_eq]
    generalize (registry.models.values.map (·.model.className)).filter (hasBasename name) = hits
    rcases hits with _ | ⟨first, _ | ⟨second, rest⟩⟩
    · rfl
    · rfl
    · rfl

/-- **Models that are registered one after the other**: under each key the last
one stands. -/
theorem find?_foldl_registerModel (order : List ModelEntry) (registry : Registry) (k : String) :
    (order.foldl registerModel registry).models.find? k
      = (order.findRev? (·.key == k)).or (registry.models.find? k) := by
  induction order generalizing registry with
  | nil => rfl
  | cons entry rest ih =>
    rw [List.foldl_cons, ih, List.findRev?]
    cases rest.findRev? (·.key == k) with
    | some other => rfl
    | none =>
      rw [Option.none_or]
      show (registry.models.insert entry.key entry).find? k = _
      rw [Keyed.find?_insert]
      by_cases hkey : entry.key = k
      · rw [if_pos hkey.symm, if_pos (beq_iff_eq.mpr hkey), Option.some_or]
      · rw [if_neg (Ne.symm hkey), if_neg (by simpa using hkey), Option.none_or]

/-- **The models of a registry may be registered anew in any order.** -/
theorem WellKeyed.models_foldl_registerModel (h : registry.WellKeyed) {order : List ModelEntry}
    (hperm : order.Perm registry.models.values) :
    (order.foldl registerModel .empty).models = registry.models := by
  have hreverse : registry.models.values.Perm order.reverse :=
    (List.reverse_perm order).trans hperm |>.symm
  refine Keyed.ext fun k => ?_
  rw [find?_foldl_registerModel, h.find?_eq, find?_key_of_perm hreverse h.pairwise_key,
    List.findRev?_eq_find?_reverse]
  exact Option.or_none

/-- **A name that has no key** means the only model whose class name ends in
it. -/
theorem WellKeyed.findModel?_eq_some_iff (h : registry.WellKeyed) {className : String}
    (hnone : ∀ entry ∈ registry.models.values, entry.key ≠ classKey name) :
    registry.findModel? name = some className
      ↔ ∃ entry ∈ registry.models.values, entry.model.className = className
        ∧ hasBasename name className = true
        ∧ ∀ other ∈ registry.models.values,
          hasBasename name other.model.className = true → other = entry := by
  have hfind : registry.models.values.find? (·.key == classKey name) = none :=
    List.find?_eq_none.mpr fun entry hmem hkey => hnone entry hmem (beq_iff_eq.mp hkey)
  have hnodup : registry.models.values.Nodup :=
    h.pairwise_key.imp fun hne heq => hne (congrArg _ heq)
  rw [h.findModel?_eq, findAmong, hfind, Option.none_or, Option.map_eq_some_iff]
  constructor
  · rintro ⟨entry, hhit, rfl⟩
    obtain ⟨hmem, hname, honly⟩ :=
      (filter_eq_singleton_iff hnodup).mp (onlyHit?_eq_some_iff.mp hhit)
    exact ⟨entry, hmem, rfl, hname, honly⟩
  · rintro ⟨entry, hmem, rfl, hname, honly⟩
    exact ⟨entry, onlyHit?_eq_some_iff.mpr
      ((filter_eq_singleton_iff hnodup).mpr ⟨hmem, hname, honly⟩), rfl⟩

/-- **A name with the key of a model** means that model. -/
theorem WellKeyed.findModel?_of_key (h : registry.WellKeyed)
    (hmem : entry ∈ registry.models.values) (hkey : entry.key = classKey name) :
    registry.findModel? name = some entry.model.className := by
  have hfind : registry.models.values.find? (·.key == classKey name) = some entry :=
    (find?_key_eq_some_iff h.pairwise_key).mpr ⟨hmem, hkey⟩
  rw [h.findModel?_eq, findAmong, hfind]
  rfl

/-- **The model that a name means is unambiguous**, and not a matter of order:
the models may be gone through in any order, and registered in any order. Each
class that is listed finds itself. -/
theorem findModel?_unambiguous (h : registry.Arises) :
    (∀ name,
      (∀ entry ∈ registry.models.values, classKey entry.model.className = classKey name →
        registry.findModel? name = some entry.model.className)
      ∧ ((∀ entry ∈ registry.models.values,
          classKey entry.model.className ≠ classKey name) → ∀ className,
        (registry.findModel? name = some className
          ↔ ∃ entry ∈ registry.models.values, entry.model.className = className
            ∧ hasBasename name className = true
            ∧ ∀ other ∈ registry.models.values,
              hasBasename name other.model.className = true → other = entry))
      ∧ ∀ order : List ModelEntry, order.Perm registry.models.values →
        findAmong order name = registry.findModel? name
          ∧ (order.foldl registerModel .empty).findModel? name = registry.findModel? name)
    ∧ ∀ className ∈ registry.classNames, registry.findModel? className = some className := by
  have hkeyed := h.wellKeyed
  refine ⟨fun name => ⟨fun entry hmem hkey => hkeyed.findModel?_of_key hmem hkey,
    fun hnone className => hkeyed.findModel?_eq_some_iff hnone, fun order hperm => ⟨?_, ?_⟩⟩,
    fun className hlisted => ?_⟩
  · rw [hkeyed.findModel?_eq]
    exact (findAmong_of_perm hperm.symm hkeyed.pairwise_key name).symm
  · rw [findModel?, entry?, hkeyed.models_foldl_registerModel hperm]
    rfl
  · obtain ⟨entry, hmem, rfl⟩ := List.mem_map.mp (List.mem_mergeSort.mp hlisted)
    exact hkeyed.findModel?_of_key hmem rfl

/-- Three classes that end in one name, one of them without a namespace, and a
class that alone ends in another. -/
theorem findModel?_unambiguous_user :
    let document : Declarations := { models := [{ className := "App\\User" },
      { className := "App\\Post" }, { className := "Admin\\USER" },
      { className := "\\User" }] }
    let entry (className : String) : ModelEntry := ⟨{ className }, false, true, .empty, []⟩
    let order := ["App\\User", "App\\Post", "Admin\\USER", "User"].map entry
    let registry := order.foldl registerModel .empty
    ofDeclarations document = .ok registry ∧ registry.Arises
      ∧ registry.findModel? "user" = some "User"
      ∧ registry.findModel? "POST" = some "App\\Post"
      ∧ order.Perm registry.models.values ∧ findAmong order "USER" = registry.findModel? "USER"
      ∧ "Admin\\USER" ∈ registry.classNames
      ∧ registry.findModel? "Admin\\USER" = some "Admin\\USER" := by
  intro document entry order registry
  have hregistry : ofDeclarations document = .ok registry :=
    eq_ok_of_toOption (by decide +kernel)
  have harises := arises_of_ofDeclarations hregistry
  obtain ⟨hnames, hlisted⟩ := findModel?_unambiguous harises
  have huser : entry "User" ∈ registry.models.values := by decide +kernel
  have hpost : entry "App\\Post" ∈ registry.models.values := by decide +kernel
  have hnone : ∀ entry ∈ registry.models.values,
      classKey entry.model.className ≠ classKey "POST" := by decide +kernel
  have honly : ∀ other ∈ registry.models.values,
      hasBasename "POST" other.model.className = true → other = entry "App\\Post" := by
    decide +kernel
  have hperm : order.Perm registry.models.values := by decide +kernel
  have hclass : "Admin\\USER" ∈ registry.classNames :=
    List.mem_mergeSort.mpr (by decide +kernel)
  exact ⟨hregistry, harises, (hnames "user").1 _ huser (by decide +kernel),
    ((hnames "POST").2.1 hnone _).mpr ⟨_, hpost, rfl, by decide +kernel, honly⟩,
    hperm, ((hnames "USER").2.2 order hperm).1, hclass, hlisted _ hclass⟩

end Registry

end SchemaTyping
