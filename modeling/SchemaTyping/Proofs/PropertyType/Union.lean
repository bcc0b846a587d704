import SchemaTyping.PropertyType.Basic

/-!
# Unions and canonical types

`PropertyType.union` opens the unions it is given, but one level of them only,
and answers with a bare union node only where two members are left. It is a
good union of **canonical** types: those whose union nodes, at every depth,
have at least two members, all different, none of them a union or `mixed`.
On these `union` is again canonical (`canonical_union`), puts a type together
from its members (`Canonical.union_members`), and has the members of the types
it joins, unless `mixed` absorbs them (`mem_members_union_iff`).

Assigning asks for less than equality. A type **admits** another if nothing is
known of it or if it has all the members of the other (`Admits`): what is read
as the other may be assigned to the one. A union admits the types it joins
(`admits_union`), and adding `null` on both sides keeps one type admitted by
the other (`Admits.nullable`), also where a union node is not canonical.
-/

namespace SchemaTyping.PropertyType

/-! ## Each type once -/

@[simp] theorem mem_distinct {type : PropertyType}
    {types : List PropertyType} : type ∈ distinct types ↔ type ∈ types := by
  induction types with
  | nil => rfl
  | cons first rest ih =>
    rw [distinct, List.mem_cons, List.mem_cons, List.mem_filter, ih,
      decide_eq_true_eq]
    by_cases h : type = first
    · simp [h]
    · simp [h]

theorem nodup_distinct (types : List PropertyType) : (distinct types).Nodup := by
  induction types with
  | nil => exact List.nodup_nil
  | cons first rest ih =>
    rw [distinct, List.nodup_cons, List.mem_filter]
    exact ⟨fun h => of_decide_eq_true h.2 rfl, ih.filter _⟩

theorem distinct_eq_self {types : List PropertyType} (h : types.Nodup) :
    distinct types = types := by
  induction types with
  | nil => rfl
  | cons first rest ih =>
    obtain ⟨hfirst, hrest⟩ := List.nodup_cons.mp h
    rw [distinct, ih hrest, List.filter_eq_self.mpr]
    exact fun type hmem => decide_eq_true fun heq => hfirst (heq ▸ hmem)

/-! ## Canonical types -/

/-- Whether the type is a union node. -/
def isUnion : PropertyType → Bool
  | .alternatives _ => true
  | _ => false

/-- **A canonical type**: every union node in it has at least two members,
all different, none of them a union or `mixed`. -/
inductive Canonical : PropertyType → Prop
  | basic (type : BasicType) : Canonical (.basic type)
  | intLiteral (value : Int64) : Canonical (.intLiteral value)
  | stringLiteral (value : String) : Canonical (.stringLiteral value)
  | array {key value : PropertyType} (key_canonical : Canonical key)
      (value_canonical : Canonical value) : Canonical (.array key value)
  | object {className : String} {arguments : List PropertyType}
      (arguments_canonical : ∀ type ∈ arguments, Canonical type) :
      Canonical (.object className arguments)
  | alternatives {types : List PropertyType} (several : 2 ≤ types.length)
      (nodup : types.Nodup)
      (opened : ∀ type ∈ types, type.isUnion = false ∧ type ≠ .mixed)
      (types_canonical : ∀ type ∈ types, Canonical type) :
      Canonical (.alternatives types)

theorem canonical_of_mem_basic (types : List BasicType) {type : PropertyType}
    (h : type ∈ types.map .basic) : type.Canonical := by
  obtain ⟨basic, -, rfl⟩ := List.mem_map.mp h
  exact .basic basic

variable {type readable writable : PropertyType} {types : List PropertyType}

/-- A type that is no union node is its only member. -/
theorem members_of_not_isUnion (h : type.isUnion = false) :
    type.members = [type] := by
  cases type with
  | alternatives types => cases h
  | basic _ | intLiteral _ | stringLiteral _ | array _ _ | object _ _ => rfl

theorem flatMap_members_eq_self (h : ∀ type ∈ types, type.isUnion = false) :
    types.flatMap members = types := by
  induction types with
  | nil => rfl
  | cons first rest ih =>
    obtain ⟨hfirst, hrest⟩ := List.forall_mem_cons.mp h
    rw [List.flatMap_cons, members_of_not_isUnion hfirst, ih hrest]
    rfl

/-- The members of a canonical type are canonical and no unions. -/
theorem Canonical.of_mem_members (h : type.Canonical) {member : PropertyType}
    (hmem : member ∈ type.members) :
    member.isUnion = false ∧ member.Canonical := by
  cases h with
  | alternatives _ _ hopen hall => exact ⟨(hopen _ hmem).1, hall _ hmem⟩
  | basic value =>
    rw [List.mem_singleton.mp hmem]
    exact ⟨rfl, .basic value⟩
  | intLiteral value =>
    rw [List.mem_singleton.mp hmem]
    exact ⟨rfl, .intLiteral value⟩
  | stringLiteral value =>
    rw [List.mem_singleton.mp hmem]
    exact ⟨rfl, .stringLiteral value⟩
  | array hkey hvalue =>
    rw [List.mem_singleton.mp hmem]
    exact ⟨rfl, .array hkey hvalue⟩
  | object harguments =>
    rw [List.mem_singleton.mp hmem]
    exact ⟨rfl, .object harguments⟩

theorem Canonical.members_ne_nil {type : PropertyType} (h : type.Canonical) :
    type.members ≠ [] := by
  cases h with
  | @alternatives types hseveral _ _ _ =>
    rintro (rfl : types = [])
    cases hseveral
  | basic _ | intLiteral _ | stringLiteral _ | array _ _ | object _ =>
    exact List.cons_ne_nil _ _

/-- The members of canonical types together. -/
theorem of_mem_flatMap_members (h : ∀ type ∈ types, type.Canonical)
    {member : PropertyType} (hmem : member ∈ types.flatMap members) :
    member.isUnion = false ∧ member.Canonical := by
  obtain ⟨type, htype, hmember⟩ := List.mem_flatMap.mp hmem
  exact (h type htype).of_mem_members hmember

/-! ## What a union is -/

/-- `mixed` absorbs the rest. -/
theorem union_of_mixed_mem (h : .mixed ∈ types.flatMap members) :
    union types = .mixed :=
  if_pos h

/-- The union of types without a member is not known. -/
theorem union_of_distinct_nil (h : distinct (types.flatMap members) = []) :
    union types = .mixed := by
  rw [union, h, ite_self]

/-- The union of types with one member is that member. -/
theorem union_of_distinct_singleton {member : PropertyType}
    (hmixed : .mixed ∉ types.flatMap members)
    (h : distinct (types.flatMap members) = [member]) :
    union types = member := by
  rw [union, if_neg hmixed, h]

/-- The union of types with several members is the node of these members. -/
theorem union_of_distinct_several {first second : PropertyType}
    {rest : List PropertyType} (hmixed : .mixed ∉ types.flatMap members)
    (h : distinct (types.flatMap members) = first :: second :: rest) :
    union types = .alternatives (first :: second :: rest) := by
  rw [union, if_neg hmixed, h]

/-- The union of one type that is no union node is that type: `mixed` absorbs
itself. -/
theorem union_singleton (h : type.isUnion = false) : union [type] = type := by
  have hflat : [type].flatMap members = [type] :=
    flatMap_members_eq_self (List.forall_mem_singleton.mpr h)
  by_cases hmixed : .mixed ∈ [type].flatMap members
  · rw [union_of_mixed_mem hmixed]
    rw [hflat] at hmixed
    exact List.mem_singleton.mp hmixed
  · exact union_of_distinct_singleton hmixed (by rw [hflat]; rfl)

/-- **A canonical type is the union of its members.** -/
theorem Canonical.union_members (h : type.Canonical) :
    union type.members = type := by
  cases h with
  | basic _ | intLiteral _ | stringLiteral _ | array _ _ | object _ =>
    exact union_singleton rfl
  | @alternatives types hseveral hnodup hopen _ =>
    have hflat : types.flatMap members = types :=
      flatMap_members_eq_self fun type hmem => (hopen type hmem).1
    have hmixed : .mixed ∉ types.flatMap members := by
      rw [hflat]
      exact fun hmem => (hopen _ hmem).2 rfl
    have hdistinct : distinct (types.flatMap members) = types := by
      rw [hflat, distinct_eq_self hnodup]
    match types, hseveral with
    | first :: second :: rest, _ =>
      exact union_of_distinct_several hmixed hdistinct

/-- **The union of canonical types is canonical.** -/
theorem canonical_union (h : ∀ type ∈ types, type.Canonical) :
    (union types).Canonical := by
  by_cases hmixed : .mixed ∈ types.flatMap members
  · rw [union_of_mixed_mem hmixed]
    exact .basic .mixed
  have hmember : ∀ member ∈ distinct (types.flatMap members),
      member.isUnion = false ∧ member ≠ .mixed ∧ member.Canonical := by
    intro member hmem
    rw [mem_distinct] at hmem
    obtain ⟨hopen, hcanonical⟩ := of_mem_flatMap_members h hmem
    exact ⟨hopen, fun heq => hmixed (heq ▸ hmem), hcanonical⟩
  match hdistinct : distinct (types.flatMap members) with
  | [] =>
    rw [union_of_distinct_nil hdistinct]
    exact .basic .mixed
  | [member] =>
    rw [union_of_distinct_singleton hmixed hdistinct]
    exact (hmember member (hdistinct ▸ List.mem_cons_self)).2.2
  | first :: second :: rest =>
    rw [union_of_distinct_several hmixed hdistinct]
    rw [hdistinct] at hmember
    refine .alternatives (by simp) (hdistinct ▸ nodup_distinct _) ?_ ?_
    · exact fun member hmem =>
        ⟨(hmember member hmem).1, (hmember member hmem).2.1⟩
    · exact fun member hmem => (hmember member hmem).2.2

theorem Canonical.nullable (h : type.Canonical) : type.nullable.Canonical :=
  canonical_union fun other hother => by
    rcases List.mem_cons.mp hother with rfl | hother
    · exact h
    · rw [List.mem_singleton.mp hother]
      exact .basic .null

/-- **The members of a union**, in the order of first occurrence, unless
`mixed` is among them or there are none. The union of a single member is that
member, which has to be no union node itself. -/
theorem members_union (hmixed : .mixed ∉ types.flatMap members)
    (hne : types.flatMap members ≠ [])
    (hsingle : ∀ member, distinct (types.flatMap members) = [member] →
      member.isUnion = false) :
    (union types).members = distinct (types.flatMap members) := by
  match hdistinct : distinct (types.flatMap members) with
  | [] =>
    obtain ⟨other, hother⟩ := List.exists_mem_of_ne_nil _ hne
    rw [← mem_distinct, hdistinct] at hother
    exact absurd hother List.not_mem_nil
  | [member] =>
    rw [union_of_distinct_singleton hmixed hdistinct,
      members_of_not_isUnion (hsingle member hdistinct)]
  | first :: second :: rest =>
    rw [union_of_distinct_several hmixed hdistinct]
    rfl

/-- The members of a union of canonical types. -/
theorem members_union_of_canonical (h : ∀ type ∈ types, type.Canonical)
    (hmixed : .mixed ∉ types.flatMap members)
    (hne : types.flatMap members ≠ []) :
    (union types).members = distinct (types.flatMap members) := by
  refine members_union hmixed hne fun member hdistinct => ?_
  have hmem : member ∈ distinct (types.flatMap members) :=
    hdistinct ▸ List.mem_cons_self
  exact (of_mem_flatMap_members h (mem_distinct.mp hmem)).1

theorem mem_members_union_iff (h : ∀ type ∈ types, type.Canonical)
    (hmixed : .mixed ∉ types.flatMap members)
    (hne : types.flatMap members ≠ []) {member : PropertyType} :
    member ∈ (union types).members ↔ member ∈ types.flatMap members := by
  rw [members_union_of_canonical h hmixed hne, mem_distinct]

/-! ## Admitting a type -/

/-- **A type admits another** if nothing is known of it, or if it has all the
members of the other: what is read as the one may be assigned to the other. -/
def Admits (writable readable : PropertyType) : Prop :=
  writable = .mixed ∨ ∀ member ∈ readable.members, member ∈ writable.members

theorem Admits.refl (type : PropertyType) : type.Admits type :=
  .inr fun _ h => h

/-- A union admits the types it joins. -/
theorem admits_union (types : List PropertyType)
    (h : ∀ type ∈ types, type.Canonical) (hmem : type ∈ types) : (union types).Admits type := by
  by_cases hmixed : .mixed ∈ types.flatMap members
  · exact .inl (union_of_mixed_mem hmixed)
  refine .inr fun member hmember => ?_
  have hflat : member ∈ types.flatMap members :=
    List.mem_flatMap.mpr ⟨type, hmem, hmember⟩
  exact (mem_members_union_iff h hmixed (List.ne_nil_of_mem hflat)).mpr hflat

/-- **The members of a type with `null` added**, whatever they are, unless
`mixed` is one of them: each of them once, and `null` behind them if it was
not there. -/
theorem members_nullable (hmixed : .mixed ∉ type.members) :
    type.nullable.members = distinct (type.members ++ [.null]) := by
  have hflat : [type, .null].flatMap members = type.members ++ [.null] := rfl
  have hno : .mixed ∉ [type, .null].flatMap members := by
    rw [hflat, List.mem_append, List.mem_singleton]
    exact not_or.mpr ⟨hmixed, nofun⟩
  refine members_union hno (List.append_ne_nil_of_right_ne_nil _ nofun) ?_
  intro member hdistinct
  have hnull : .null ∈ distinct ([type, .null].flatMap members) := by
    rw [hflat, mem_distinct]
    exact List.mem_append_right _ (List.mem_singleton_self _)
  rw [hdistinct, List.mem_singleton] at hnull
  rw [← hnull]
  rfl

theorem mem_members_nullable_iff (hmixed : .mixed ∉ type.members)
    {member : PropertyType} :
    member ∈ type.nullable.members ↔ member ∈ type.members ∨ member = .null := by
  rw [members_nullable hmixed, mem_distinct, List.mem_append,
    List.mem_singleton]

/-- A type with `mixed` among its members is `mixed` once `null` is added. -/
theorem nullable_of_mixed_mem (h : .mixed ∈ type.members) :
    type.nullable = .mixed :=
  union_of_mixed_mem (List.mem_append_left _ h)

/-- **Adding `null` on both sides** keeps a type admitted. -/
theorem Admits.nullable (h : writable.Admits readable) :
    writable.nullable.Admits readable.nullable := by
  by_cases hmixed : .mixed ∈ writable.members
  · exact .inl (nullable_of_mixed_mem hmixed)
  have hsubset : ∀ member ∈ readable.members, member ∈ writable.members :=
    h.resolve_left fun heq => hmixed (by rw [heq]; exact List.mem_cons_self)
  refine .inr fun member hmember => ?_
  rw [mem_members_nullable_iff fun hmem => hmixed (hsubset _ hmem)] at hmember
  rw [mem_members_nullable_iff hmixed]
  exact hmember.imp_left (hsubset member)

/-! ## Accepting `null` -/

theorem anyAcceptsNull_iff :
    anyAcceptsNull types = true ↔ ∃ type ∈ types, type.acceptsNull = true := by
  induction types with
  | nil => simp [anyAcceptsNull]
  | cons type types ih =>
    rw [anyAcceptsNull, Bool.or_eq_true, ih]
    simp only [List.mem_cons, exists_eq_or_imp]

/-- A type with `null` among its members accepts it. -/
theorem acceptsNull_of_null_mem (h : .null ∈ type.members) :
    type.acceptsNull = true := by
  cases type with
  | alternatives types => exact anyAcceptsNull_iff.mpr ⟨.null, h, rfl⟩
  | basic _ | intLiteral _ | stringLiteral _ | array _ _ | object _ _ =>
    rw [← List.mem_singleton.mp h]
    rfl

/-- **A type to which `null` was added accepts it**, whatever union nodes are
in it. -/
theorem acceptsNull_nullable (type : PropertyType) :
    type.nullable.acceptsNull = true := by
  by_cases hmixed : .mixed ∈ type.members
  · rw [nullable_of_mixed_mem hmixed]
    rfl
  · exact acceptsNull_of_null_mem
      ((mem_members_nullable_iff hmixed).mpr (.inr rfl))

/-- **`null` is added once**, unless nothing is known of the type. -/
theorem count_null_nullable (type : PropertyType) :
    type.nullable = .mixed ∨ type.nullable.members.count .null = 1 := by
  by_cases hmixed : .mixed ∈ type.members
  · exact .inl (nullable_of_mixed_mem hmixed)
  · have hnull : .null ∈ type.members ++ [.null] :=
      List.mem_append_right _ (List.mem_singleton_self _)
    rw [members_nullable hmixed, (nodup_distinct _).count,
      if_pos (mem_distinct.mpr hnull)]
    exact .inr rfl

end SchemaTyping.PropertyType
