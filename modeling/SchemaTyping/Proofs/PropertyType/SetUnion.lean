import Mathlib.Data.List.Induction
import Mathlib.Data.List.Nodup
import SchemaTyping.Proofs.PropertyType.Union

/-!
# The laws of unions

`PropertyType.union` works on lists, and on what stands on the top level of
the types in them: it opens one level, drops what it has seen, and gives up
at the first `mixed`. On canonical types this is the union of sets, with
`mixed` for the set of everything: the members are those of the types, each
once and in the order in which they come (`union_isSetUnion`), and it does not
matter how the types are grouped.

What carries the laws is that `union` depends on nothing but the members that
are left when the duplicates are dropped (`union_congr`), so that each of them
is a law of `distinct`. Grouping, for one, is `distinct_distinct_append`: it
does not matter whether duplicates are dropped in the parts first.

Adding `null` is a union with a type of one member. It settles after one step,
on every type, also on union nodes that no union would build
(`nullable_closes`): such a node may be left as it is below the top level, and
on the top level the first step makes a union of it.
-/

namespace SchemaTyping.PropertyType

variable {type member : PropertyType} {types xs ys : List PropertyType}

/-! ## Dropping duplicates -/

/-- Of a second list only what the first does not have is left. -/
theorem distinct_append (xs ys : List PropertyType) :
    distinct (xs ++ ys) = distinct xs ++ (distinct ys).filter (· ∉ xs) := by
  induction xs with
  | nil => exact (List.filter_eq_self.mpr fun _ _ => rfl).symm
  | cons first rest ih =>
    rw [List.cons_append, distinct, distinct, ih, List.filter_append,
      List.filter_filter, List.cons_append]
    simp [not_or]

/-- What the first list has already adds nothing. -/
theorem distinct_append_of_subset (h : ∀ type ∈ ys, type ∈ xs) :
    distinct (xs ++ ys) = distinct xs := by
  have hnone : (distinct ys).filter (· ∉ xs) = [] := by
    refine List.filter_eq_nil_iff.mpr fun type hmem => ?_
    simpa using h type (mem_distinct.mp hmem)
  rw [distinct_append, hnone, List.append_nil]

/-- **Duplicates may be dropped in the parts first.** -/
theorem distinct_distinct_append (xs ys : List PropertyType) :
    distinct (distinct xs ++ distinct ys) = distinct (xs ++ ys) := by
  simp only [distinct_append, mem_distinct,
    distinct_eq_self (nodup_distinct _)]

theorem distinct_eq_eraseDups (types : List PropertyType) :
    distinct types = types.eraseDups := by
  induction types using List.reverseRecOn with
  | nil => rfl
  | append_singleton rest last ih =>
    rw [distinct_append, List.eraseDups_append, ih]
    by_cases hlast : last ∈ rest
    · simp [distinct, List.removeAll, hlast]
    · simp [distinct, List.removeAll, hlast, List.eraseDups_cons]

/-- Another order of the types changes only the order. -/
theorem distinct_perm (h : xs.Perm ys) : (distinct xs).Perm (distinct ys) := by
  refine (List.perm_ext_iff_of_nodup (nodup_distinct xs) (nodup_distinct ys)).mpr ?_
  intro type
  rw [mem_distinct, mem_distinct, h.mem_iff]

/-! ## What a union depends on -/

/-- **A union depends on the members** that are left without duplicates, and
on nothing else. -/
theorem union_congr
    (h : distinct (xs.flatMap members) = distinct (ys.flatMap members)) :
    union xs = union ys := by
  have hmixed : .mixed ∈ xs.flatMap members ↔ .mixed ∈ ys.flatMap members := by
    rw [← mem_distinct, h, mem_distinct]
  simp only [union, hmixed, h]

/-- The members of a canonical type are their own members. -/
theorem Canonical.flatMap_members (h : type.Canonical) :
    type.members.flatMap members = type.members :=
  flatMap_members_eq_self fun _ hmem => (h.of_mem_members hmem).1

theorem Canonical.union_singleton (h : type.Canonical) : union [type] = type := by
  have hcongr : union [type] = union type.members := by
    refine union_congr ?_
    rw [h.flatMap_members, List.flatMap_singleton]
  rw [hcongr, h.union_members]

theorem Canonical.nodup_members (h : type.Canonical) : type.members.Nodup := by
  cases h with
  | alternatives _ hnodup _ _ => exact hnodup
  | basic _ | intLiteral _ | stringLiteral _ | array _ _ | object _ =>
    exact List.nodup_singleton _

theorem Canonical.mixed_mem_members_iff (h : type.Canonical) :
    .mixed ∈ type.members ↔ type = .mixed := by
  cases h with
  | alternatives _ _ hopen _ =>
    exact iff_of_false (fun hmem => (hopen _ hmem).2 rfl) nofun
  | basic _ | intLiteral _ | stringLiteral _ | array _ _ | object _ =>
    exact List.mem_singleton.trans eq_comm

theorem mixed_mem_flatMap_members_iff (h : ∀ type ∈ types, type.Canonical) :
    .mixed ∈ types.flatMap members ↔ .mixed ∈ types := by
  rw [List.mem_flatMap]
  constructor
  · rintro ⟨type, htype, hmixed⟩
    rwa [← (h type htype).mixed_mem_members_iff.mp hmixed]
  · exact fun hmixed => ⟨.mixed, hmixed, List.mem_singleton_self _⟩

theorem flatMap_members_ne_nil (hne : types ≠ [])
    (h : ∀ type ∈ types, type.Canonical) : types.flatMap members ≠ [] := by
  obtain ⟨type, htype⟩ := List.exists_mem_of_ne_nil _ hne
  obtain ⟨member, hmember⟩ := List.exists_mem_of_ne_nil _ (h type htype).members_ne_nil
  exact List.ne_nil_of_mem (List.mem_flatMap.mpr ⟨type, htype, hmember⟩)

/-! ## The union of canonical types -/

/-- The members of a union of canonical types, none of them `mixed`. -/
theorem members_union_eq (hne : types ≠ []) (h : ∀ type ∈ types, type.Canonical)
    (hmixed : .mixed ∉ types) :
    (union types).members = distinct (types.flatMap members) :=
  members_union_of_canonical h
    (mt (mixed_mem_flatMap_members_iff h).mp hmixed)
    (flatMap_members_ne_nil hne h)

/-- **`mixed` absorbs a union**, and nothing else makes one `mixed`. -/
theorem union_eq_mixed_iff (hne : types ≠ [])
    (h : ∀ type ∈ types, type.Canonical) :
    union types = .mixed ↔ .mixed ∈ types := by
  constructor
  · intro hunion
    by_contra hmixed
    have hmem : .mixed ∈ distinct (types.flatMap members) := by
      rw [← members_union_eq hne h hmixed, hunion]
      exact List.mem_singleton_self _
    rw [mem_distinct, mixed_mem_flatMap_members_iff h] at hmem
    exact hmixed hmem
  · exact fun hmixed =>
      union_of_mixed_mem ((mixed_mem_flatMap_members_iff h).mpr hmixed)

/-- **Types may be joined in groups.** -/
theorem union_append (hxs : xs ≠ []) (hys : ys ≠ [])
    (hx : ∀ type ∈ xs, type.Canonical) (hy : ∀ type ∈ ys, type.Canonical) :
    union (xs ++ ys) = union [union xs, union ys] := by
  have hflat : [union xs, union ys].flatMap members
      = (union xs).members ++ (union ys).members := by
    simp
  by_cases hmixed : .mixed ∈ xs ++ ys
  · -- one of the groups is `mixed`, and with it the union of the groups
    have hgroup : .mixed ∈ [union xs, union ys].flatMap members := by
      rw [hflat, List.mem_append]
      refine (List.mem_append.mp hmixed).imp (fun hmem => ?_) fun hmem => ?_
      · rw [(union_eq_mixed_iff hxs hx).mpr hmem]
        exact List.mem_singleton_self _
      · rw [(union_eq_mixed_iff hys hy).mpr hmem]
        exact List.mem_singleton_self _
    rw [union_of_mixed_mem hgroup, union_of_mixed_mem]
    exact (mixed_mem_flatMap_members_iff (List.forall_mem_append.mpr ⟨hx, hy⟩)).mpr
      hmixed
  · obtain ⟨hxmixed, hymixed⟩ := not_or.mp (mt List.mem_append.mpr hmixed)
    refine union_congr ?_
    rw [hflat, members_union_eq hxs hx hxmixed, members_union_eq hys hy hymixed,
      distinct_distinct_append, List.flatMap_append]

/-- **The order of the types** is only the order of the members. -/
theorem members_union_perm (hne : xs ≠ []) (h : ∀ type ∈ xs, type.Canonical)
    (hperm : xs.Perm ys) : (union xs).members.Perm (union ys).members := by
  have hys : ys ≠ [] := fun heq => hne (heq ▸ hperm).eq_nil
  have hy : ∀ type ∈ ys, type.Canonical :=
    fun type hmem => h type (hperm.mem_iff.mpr hmem)
  by_cases hmixed : .mixed ∈ xs
  · rw [(union_eq_mixed_iff hne h).mpr hmixed,
      (union_eq_mixed_iff hys hy).mpr (hperm.mem_iff.mp hmixed)]
  · rw [members_union_eq hne h hmixed,
      members_union_eq hys hy (mt hperm.mem_iff.mpr hmixed)]
    exact distinct_perm (hperm.flatMap_right members)

/-! ## Accepting `null` -/

/-- A type accepts `null` if one of its members does. -/
theorem acceptsNull_iff_members (type : PropertyType) :
    type.acceptsNull = true ↔ ∃ member ∈ type.members, member.acceptsNull = true := by
  cases type with
  | alternatives types => exact anyAcceptsNull_iff
  | basic _ | intLiteral _ | stringLiteral _ | array _ _ | object _ _ =>
    simp only [members, List.mem_singleton, exists_eq_left]

/-- **A union accepts `null`** if one of the types does. -/
theorem acceptsNull_union_iff (hne : types ≠ [])
    (h : ∀ type ∈ types, type.Canonical) :
    (union types).acceptsNull = true ↔ ∃ type ∈ types, type.acceptsNull = true := by
  by_cases hmixed : .mixed ∈ types
  · rw [(union_eq_mixed_iff hne h).mpr hmixed]
    exact iff_of_true rfl ⟨.mixed, hmixed, rfl⟩
  · rw [acceptsNull_iff_members, members_union_eq hne h hmixed]
    constructor
    · rintro ⟨member, hmember, hnull⟩
      obtain ⟨type, htype, hmember⟩ := List.mem_flatMap.mp (mem_distinct.mp hmember)
      exact ⟨type, htype, (acceptsNull_iff_members type).mpr ⟨member, hmember, hnull⟩⟩
    · rintro ⟨type, htype, hnull⟩
      obtain ⟨member, hmember, hnull⟩ := (acceptsNull_iff_members type).mp hnull
      exact ⟨member, mem_distinct.mpr (List.mem_flatMap.mpr ⟨type, htype, hmember⟩),
        hnull⟩

/-- A canonical type accepts `null` if nothing is known of it, or if `null` is
one of its members. -/
theorem Canonical.acceptsNull_iff (h : type.Canonical) :
    type.acceptsNull = true ↔ type = .mixed ∨ .null ∈ type.members := by
  rw [acceptsNull_iff_members]
  constructor
  · rintro ⟨member, hmember, hnull⟩
    match member, (h.of_mem_members hmember).1, hnull with
    | .mixed, _, _ => exact .inl (h.mixed_mem_members_iff.mp hmember)
    | .null, _, _ => exact .inr hmember
  · rintro (rfl | hnull)
    · exact ⟨.mixed, List.mem_singleton_self _, rfl⟩
    · exact ⟨.null, hnull, rfl⟩

/-! ## Adding `null` -/

/-- A type that has `null` on its top level is not changed by adding it, but
for the duplicates that it has there. -/
theorem nullable_of_null_mem (h : .null ∈ type.members) :
    type.nullable = union [type] := by
  refine union_congr ?_
  have hflat : [type, .null].flatMap members = type.members ++ [.null] := rfl
  rw [hflat, distinct_append_of_subset (List.forall_mem_singleton.mpr h),
    List.flatMap_singleton]

/-- **`null` is added once**: after the first step the type stays as it is. -/
theorem nullable_nullable (type : PropertyType) :
    type.nullable.nullable = type.nullable := by
  by_cases hmixed : .mixed ∈ type.members
  · rw [nullable_of_mixed_mem hmixed]
    rfl
  · -- the members that the first step leaves are all that the second looks at
    have hmembers := members_nullable hmixed
    refine union_congr ?_
    show distinct (type.nullable.members ++ [.null])
      = distinct (type.members ++ [.null])
    rw [hmembers, distinct_append_of_subset, distinct_eq_self (nodup_distinct _)]
    refine List.forall_mem_singleton.mpr (mem_distinct.mpr ?_)
    exact List.mem_append_right _ (List.mem_singleton_self _)

theorem Canonical.nullable_eq_self_iff (h : type.Canonical) :
    type.nullable = type ↔ type.acceptsNull = true := by
  constructor
  · intro heq
    rw [← heq]
    exact acceptsNull_nullable type
  · rw [h.acceptsNull_iff]
    rintro (rfl | hnull)
    · rfl
    · rw [nullable_of_null_mem hnull, h.union_singleton]

theorem Canonical.members_nullable_eq (h : type.Canonical)
    (hnull : type.acceptsNull = false) :
    type.nullable.members = type.members ++ [.null] := by
  obtain ⟨hmixed, hmem⟩ : type ≠ .mixed ∧ .null ∉ type.members := by
    rw [← not_or, ← h.acceptsNull_iff, hnull]
    exact Bool.false_ne_true
  have hnodup : (type.members ++ [null]).Nodup :=
    h.nodup_members.append (List.nodup_singleton _) (by simpa using hmem)
  rw [members_nullable (mt h.mixed_mem_members_iff.mp hmixed),
    distinct_eq_self hnodup]

/-! ## The laws -/

/-- **Unions of canonical types are unions of sets.** The union is canonical;
it is `mixed` if one of the types is, and has otherwise the members of the
types, each where it first occurs; it may be built in groups and in any order;
and it accepts `null` if one of the types does. -/
theorem union_isSetUnion (hxs : xs ≠ []) (hys : ys ≠ [])
    (hx : ∀ type ∈ xs, type.Canonical) (hy : ∀ type ∈ ys, type.Canonical) :
    (union xs).Canonical
      ∧ (union xs = .mixed ↔ .mixed ∈ xs)
      ∧ (.mixed ∉ xs → (union xs).members = (xs.flatMap members).eraseDups)
      ∧ union [union xs, union ys] = union (xs ++ ys)
      ∧ (∀ zs, xs.Perm zs → (union xs).members.Perm (union zs).members)
      ∧ ((union xs).acceptsNull = true ↔ ∃ type ∈ xs, type.acceptsNull = true) := by
  refine ⟨canonical_union hx, union_eq_mixed_iff hxs hx, fun hmixed => ?_,
    (union_append hxs hys hx hy).symm, fun zs => members_union_perm hxs hx,
    acceptsNull_union_iff hxs hx⟩
  rw [members_union_eq hxs hx hmixed, distinct_eq_eraseDups]

/-- Two lists that overlap, with a union in each of them. -/
theorem union_isSetUnion_overlapping :
    let xs : List PropertyType :=
      [.alternatives [.int, .null], .stringLiteral "a", .int]
    let ys : List PropertyType := [.null, .alternatives [.float, .int]]
    (xs ≠ [] ∧ ys ≠ [] ∧ (∀ type ∈ xs, type.Canonical)
        ∧ ∀ type ∈ ys, type.Canonical)
      ∧ (union xs).members = [.int, .null, .stringLiteral "a"]
      ∧ union [union xs, union ys]
        = .alternatives [.int, .null, .stringLiteral "a", .float]
      ∧ (union xs).members.Perm (union xs.reverse).members
      ∧ (union xs).acceptsNull = true := by
  intro xs ys
  have hx : ∀ type ∈ xs, type.Canonical := by
    refine List.forall_mem_cons.mpr ⟨?_, List.forall_mem_cons.mpr
      ⟨.stringLiteral "a", List.forall_mem_singleton.mpr (.basic .int)⟩⟩
    exact .alternatives (by decide) (by decide) (by decide) fun _ =>
      canonical_of_mem_basic [.int, .null]
  have hy : ∀ type ∈ ys, type.Canonical := by
    refine List.forall_mem_cons.mpr ⟨.basic .null, List.forall_mem_singleton.mpr ?_⟩
    exact .alternatives (by decide) (by decide) (by decide) fun _ =>
      canonical_of_mem_basic [.float, .int]
  obtain ⟨-, -, hmembers, hgroups, hperm, hnull⟩ :=
    union_isSetUnion (List.cons_ne_nil _ _) (List.cons_ne_nil _ _) hx hy
  refine ⟨⟨List.cons_ne_nil _ _, List.cons_ne_nil _ _, hx, hy⟩,
    (hmembers (by decide)).trans (by decide), hgroups.trans (by decide),
    hperm _ xs.reverse_perm.symm, hnull.mpr ?_⟩
  exact ⟨.alternatives [.int, .null], List.mem_cons_self, rfl⟩

/-- **Adding `null` is done after one step**, on every type, and the result
accepts `null`. A canonical type stays as it is if and only if it accepts
`null` already, and gets `null` behind its members otherwise. -/
theorem nullable_closes (type : PropertyType) :
    type.nullable.nullable = type.nullable
      ∧ type.nullable.acceptsNull = true
      ∧ (type.Canonical →
        (type.nullable = type ↔ type.acceptsNull = true)
          ∧ (type.acceptsNull = false →
            type.nullable.members = type.members ++ [.null])) :=
  ⟨nullable_nullable type, acceptsNull_nullable type, fun h =>
    ⟨h.nullable_eq_self_iff, h.members_nullable_eq⟩⟩

/-- A type without `null`, though with a string that reads so; and a union node
with a union node and a duplicate in it. -/
theorem nullable_closes_literal :
    let type : PropertyType := .alternatives [.int, .stringLiteral "null"]
    let bare : PropertyType := .alternatives [.alternatives [.mixed], .int, .int]
    type.Canonical ∧ type.acceptsNull = false
      ∧ type.nullable = .alternatives [.int, .stringLiteral "null", .null]
      ∧ type.nullable.nullable = type.nullable
      ∧ bare.nullable = .alternatives [.alternatives [.mixed], .int, .null]
      ∧ bare.nullable.nullable = bare.nullable := by
  intro type bare
  have hcanonical : type.Canonical := by
    refine .alternatives (by decide) (by decide) (by decide) ?_
    exact List.forall_mem_cons.mpr
      ⟨.basic .int, List.forall_mem_singleton.mpr (.stringLiteral "null")⟩
  obtain ⟨htwice, -, hadds⟩ := nullable_closes type
  have hmembers := (hadds hcanonical).2 rfl
  refine ⟨hcanonical, rfl, ?_, htwice, by decide, (nullable_closes bare).1⟩
  rw [← hcanonical.nullable.union_members, hmembers]
  decide

end SchemaTyping.PropertyType
