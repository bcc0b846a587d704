import SchemaTyping.Proofs.Inference.Assignable

/-!
# Every type is canonical

Types are compared by their structure, so it matters that a type is not put
together in two ways: that no union node stands in another, holds a member twice,
or holds what absorbs the others. Nothing in the structure of types forbids it.
`PropertyType.union` opens one level of the unions it joins and trusts them for the
rest, so each place where a type is made has to keep its own types canonical: the
reader of texts, the kinds of columns, the casts by keyword and by class, the dates,
and `null` that is added in the end.

`canonical_types` says that all of them do. The values of an enumeration may repeat,
since a union of literals holds each of them once; what a class declares as its types
is canonical because it was read. A cast by a class that says nothing of a value
hands on the type of the column, so the types of a cast are canonical if those of
the column are (`Caster.canonical_readableType`, `Caster.canonical_writableType`).
-/

namespace SchemaTyping

open PropertyType

/-- The union of two canonical types. -/
theorem PropertyType.canonical_union_pair {first second : PropertyType}
    (hfirst : first.Canonical) (hsecond : second.Canonical) :
    (union [first, second]).Canonical :=
  canonical_union <| List.forall_mem_cons.mpr
    ⟨hfirst, List.forall_mem_singleton.mpr hsecond⟩

/-! ## Columns -/

/-- The values of an enumeration are joined, whether or not they repeat. -/
theorem ColumnKind.canonical_plainType (kind : ColumnKind) :
    kind.plainType.Canonical := by
  unfold plainType
  split
  · exact .basic .bool
  · exact .basic .string
  · refine canonical_union fun type hmem => ?_
    obtain ⟨value, -, rfl⟩ := List.mem_map.mp hmem
    exact .stringLiteral value
  · exact .basic .mixed
  · exact .basic .string

theorem ColumnKind.canonical_readableType (kind : ColumnKind) :
    kind.readableType.Canonical := by
  unfold readableType
  split
  · exact .basic .int
  · split
    · exact .basic .float
    · exact kind.canonical_plainType

theorem ColumnKind.canonical_writableType (kind : ColumnKind) :
    kind.writableType.Canonical := by
  unfold writableType
  split
  · exact canonical_union fun _ =>
      canonical_of_mem_basic [.int, .numericString]
  · split
    · exact canonical_union fun _ =>
        canonical_of_mem_basic [.float, .int, .numericString]
    · exact kind.canonical_plainType

/-- **The columns of a schema in order** have canonical types. -/
theorem Schema.InOrder.canonical {origins : Origins} {schema : Schema}
    (h : schema.InOrder origins) {table name : String} {column : Column}
    (hcolumn : schema.column? table name = some column) :
    column.readableType.Canonical ∧ column.writableType.Canonical := by
  obtain ⟨found, htable, hfound⟩ := Option.bind_eq_some_iff.mp hcolumn
  obtain ⟨-, spec, -, hfrom, -⟩ := (h.table htable).column hfound
  rw [hfrom]
  exact ⟨spec.kind.canonical_readableType, spec.kind.canonical_writableType⟩

/-! ## Casts -/

namespace Caster

variable {caster : Caster} {stored : PropertyType}

theorem canonical_classReadable (h : caster.registry.CastsCanonical)
    (className : String) (hstored : stored.Canonical) :
    (caster.classReadable className stored).Canonical := by
  unfold classReadable
  cases hend : caster.endpoint? className with
  | none => exact .basic .mixed
  | some found =>
    obtain ⟨last, cast⟩ := found
    have hcast := canonical_of_endpoint? h hend
    cases cast with
    | valueObject get set => exact hcast.1
    | inbound set => exact hstored
    | castable next => exact canonical_instanceOf last
    | plain => exact canonical_instanceOf last

theorem canonical_classWritable (h : caster.registry.CastsCanonical)
    (className : String) (hstored : stored.Canonical) :
    (caster.classWritable className stored).Canonical := by
  unfold classWritable
  cases hend : caster.endpoint? className with
  | none => exact .basic .mixed
  | some found =>
    obtain ⟨last, cast⟩ := found
    have hcast := canonical_of_endpoint? h hend
    cases cast with
    | valueObject get set =>
      cases set with
      | none => exact hcast.1
      | some set => exact canonical_union_pair hcast.1 (hcast.2 set rfl)
    | inbound set =>
      cases set with
      | none => exact hstored
      | some set => exact hcast set rfl
    | castable next => exact canonical_instanceOf last
    | plain => exact canonical_instanceOf last

/-- **What a cast property is read as** is canonical if the column is. -/
theorem canonical_readableType (h : caster.registry.CastsCanonical)
    (cast : String) (hstored : stored.Canonical) :
    (caster.readableType cast stored).Canonical := by
  unfold readableType
  cases CastKind.ofText cast with
  | boolean => exact .basic .bool
  | integer => exact .basic .int
  | float => exact .basic .float
  | string => exact .basic .string
  | array => exact canonical_mixedArray
  | object => exact .basic .anyObject
  | date => exact caster.canonical_dateType
  | immutableDate => exact canonical_instanceOf immutableDateClass
  | collection => exact canonical_collectionType
  | byClass className => exact canonical_classReadable h className hstored

/-- **What may be assigned to a cast property** is canonical if what the column
accepts is. -/
theorem canonical_writableType (h : caster.registry.CastsCanonical)
    (cast : String) (hstored : stored.Canonical) :
    (caster.writableType cast stored).Canonical := by
  unfold writableType
  cases CastKind.ofText cast with
  | boolean =>
    dsimp only
    split
    · exact .basic .bool
    · refine canonical_union fun type hmem => ?_
      simp only [List.mem_cons, List.not_mem_nil, or_false] at hmem
      rcases hmem with rfl | rfl | rfl
      · exact .intLiteral 0
      · exact .intLiteral 1
      · exact .basic .bool
  | integer => exact .basic .int
  | float => exact .basic .float
  | string => exact .basic .string
  | array =>
    refine canonical_union <| List.forall_mem_cons.mpr
      ⟨canonical_mixedArray, fun _ => ?_⟩
    exact canonical_of_mem_basic [.int, .float, .string, .bool]
  | object => exact .basic .anyObject
  | date => exact canonical_union_pair caster.canonical_dateType (.basic .string)
  | immutableDate =>
    exact canonical_union_pair (canonical_instanceOf immutableDateClass)
      (.basic .string)
  | collection =>
    exact canonical_union_pair canonical_collectionType canonical_mixedArray
  | byClass className => exact canonical_classWritable h className hstored

end Caster

/-! ## Properties -/

namespace Inference

variable {engine : Inference}

theorem canonical_columnTypes (h : engine.registry.CastsCanonical) (model : Model)
    (name : String) {column : Column}
    (hcolumn : column.readableType.Canonical ∧ column.writableType.Canonical) :
    (engine.columnTypes model name column).1.Canonical
      ∧ (engine.columnTypes model name column).2.Canonical := by
  cases hdate : model.isDate name with
  | true =>
    have hdateType := engine.caster.canonical_dateType
    rw [columnTypes, if_pos hdate]
    dsimp only
    exact ⟨hdateType, canonical_union_pair hdateType (.basic .string)⟩
  | false =>
    rw [columnTypes, if_neg (Bool.eq_false_iff.mp hdate)]
    cases model.cast? name with
    | none => exact hcolumn
    | some cast =>
      exact ⟨Caster.canonical_readableType h cast hcolumn.1,
        Caster.canonical_writableType h cast hcolumn.2⟩

theorem canonical_withNull {types : PropertyType × PropertyType}
    (h : types.1.Canonical ∧ types.2.Canonical) (nullable : Bool) :
    (withNull nullable types).1.Canonical
      ∧ (withNull nullable types).2.Canonical := by
  cases nullable with
  | false => exact h
  | true => exact ⟨h.1.nullable, h.2.nullable⟩

/-- The types of a property, where the casts of the registry and the columns of the
schema have canonical types. -/
theorem canonical_of_property (hcasts : engine.registry.CastsCanonical)
    (hcolumns : ∀ table name column,
      engine.schema.column? table name = some column →
        column.readableType.Canonical ∧ column.writableType.Canonical)
    {className name : String} {types : PropertyTypes}
    (h : engine.property className name = .ok types) :
    types.readable.Canonical ∧ types.writable.Canonical := by
  unfold property at h
  split at h
  · cases h
  · next model _ =>
    split at h
    · next column hcolumn =>
      cases h
      exact canonical_withNull (canonical_columnTypes hcasts model name
        (hcolumns model.tableName name column hcolumn)) _
    · -- a primary key that is no column: its declared type is read, for both
      split at h
      · split at h
        · next type htype =>
          cases h
          exact ⟨canonical_of_read htype, canonical_of_read htype⟩
        · cases h
      · cases h

/-- **Every type is canonical**: both types of a property and both of a column,
for every registry of declarations and every schema that logs leave behind, and
every type that is read from a text. -/
theorem canonical_types {declarations : Declarations} {registry : Registry}
    (hregistry : Registry.ofDeclarations declarations = .ok registry)
    (dialect : Dialect) (dateClass : String) (dumps migrations : List Operation) :
    let engine := ofOperations dialect dateClass registry dumps migrations
    (∀ className name types, engine.property className name = .ok types →
        types.readable.Canonical ∧ types.writable.Canonical)
      ∧ (∀ table name column, engine.schema.column? table name = some column →
        column.readableType.Canonical ∧ column.writableType.Canonical)
      ∧ ∀ text type, PropertyType.read text = .ok type → type.Canonical := by
  intro engine
  have hcasts : engine.registry.CastsCanonical :=
    Registry.castsCanonical_of_ofDeclarations hregistry
  have hcolumns : ∀ table name column,
      engine.schema.column? table name = some column →
        column.readableType.Canonical ∧ column.writableType.Canonical :=
    fun _ _ _ =>
      ((Schema.empty_inOrder Origins.none).after dumps |>.after migrations).canonical
  exact ⟨fun _ _ _ => canonical_of_property hcasts hcolumns, hcolumns,
    fun _ _ => canonical_of_read⟩

/-- A cast price, a state that is declared with a value twice, and a text that adds
`null` three times. -/
theorem canonical_types_order :
    let engine := ofOperations .mySql defaultDateClass orderRegistry orderLog
      [.addColumn "orders" ⟨"state", .enum ["b", "a", "b"], true⟩]
    let price : PropertyTypes := ⟨"Order", .alternatives [.int, .float, .null],
      .alternatives [.int, .float, .string, .null]⟩
    let state : PropertyType :=
      .alternatives [.stringLiteral "b", .stringLiteral "a"]
    let boxed : PropertyType := .alternatives
      [.object "Box" [.alternatives [.int, .float, .string, .bool, .null]],
        .stringLiteral "a", .null]
    Registry.ofDeclarations orderDeclarations = .ok orderRegistry
      ∧ (engine.property "Order" "price" = .ok price
        ∧ price.readable.Canonical ∧ price.writable.Canonical)
      ∧ (engine.schema.column? "orders" "state"
          = some ⟨"state", state, state, true, ["b", "a", "b"]⟩
        ∧ state.Canonical)
      ∧ PropertyType.read "Box<?scalar|int>|?'a'|null" = .ok boxed
        ∧ boxed.Canonical := by
  intro engine price state boxed
  have hregistry : Registry.ofDeclarations orderDeclarations
      = .ok orderRegistry :=
    eq_ok_of_toOption (by decide +kernel)
  have hprice : engine.property "Order" "price" = .ok price :=
    eq_ok_of_toOption (by decide +kernel)
  have hstate : engine.schema.column? "orders" "state"
      = some ⟨"state", state, state, true, ["b", "a", "b"]⟩ := by
    decide +kernel
  have hboxed : PropertyType.read "Box<?scalar|int>|?'a'|null" = .ok boxed :=
    eq_ok_of_toOption (by decide +kernel)
  obtain ⟨hproperties, hcolumns, htexts⟩ := canonical_types hregistry .mySql
    defaultDateClass orderLog
    [.addColumn "orders" ⟨"state", .enum ["b", "a", "b"], true⟩]
  exact ⟨hregistry, ⟨hprice, hproperties _ _ _ hprice⟩,
    ⟨hstate, (hcolumns _ _ _ hstate).1⟩, hboxed, htexts _ _ hboxed⟩

end Inference

end SchemaTyping
