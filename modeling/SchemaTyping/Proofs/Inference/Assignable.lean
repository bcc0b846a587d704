import SchemaTyping.Inference
import SchemaTyping.Proofs.PropertyType.Reading
import SchemaTyping.Proofs.Replay.Origin

/-!
# What is read may be assigned back

Two types are inferred for a property, and each by a function of its own. The
two functions are one path apart at every turn: a kind of column, a date, a
cast by keyword, a cast by a class, a primary key. `admits_of_property` says
that the writable type admits the readable one wherever they come from, so
that a value that was read may be assigned again.

There is one exception, and it is meant: a class that changes values on
assignment only, and says which ones it takes, is read as the column is stored
(`Caster.EndsInSetter`).

Each turn has its lemma. Those on columns need that a column has all its
attributes from one specification, which is what replaying keeps
(`Schema.InOrder`); those on casts by a class need that the types a registry
holds are canonical, which is what reading them gives.
-/

namespace SchemaTyping

open PropertyType

/-! ## Kinds of columns -/

/-- What a column of a kind is read as may be assigned to it. -/
theorem ColumnKind.admits (kind : ColumnKind) :
    kind.writableType.Admits kind.readableType := by
  unfold writableType readableType
  split
  · exact admits_union [.int, .numericString]
      (fun _ => canonical_of_mem_basic [.int, .numericString])
      List.mem_cons_self
  · split
    · exact admits_union [.float, .int, .numericString]
        (fun _ => canonical_of_mem_basic [.float, .int, .numericString])
        List.mem_cons_self
    · exact .refl _

/-- A column that comes from a specification has both types from it. -/
theorem Column.ComesFrom.admits {column : Column} {spec : ColumnSpec}
    (h : column.ComesFrom spec) :
    column.writableType.Admits column.readableType := by
  rw [h]
  exact spec.kind.admits

/-- The columns of a schema in order, each with its two types. -/
theorem Schema.InOrder.admits {origins : Origins} {schema : Schema}
    (h : schema.InOrder origins) {table name : String} {column : Column}
    (hcolumn : schema.column? table name = some column) :
    column.writableType.Admits column.readableType := by
  obtain ⟨found, htable, hfound⟩ := Option.bind_eq_some_iff.mp hcolumn
  obtain ⟨-, spec, -, hfrom, -⟩ := (h.table htable).column hfound
  exact hfrom.admits

/-! ## The types a registry holds -/

/-- The types that a class gives as a cast are canonical. -/
def CastClass.Canonical : CastClass → Prop
  | .valueObject get set => get.Canonical ∧ ∀ type ∈ set, type.Canonical
  | .inbound set => ∀ type ∈ set, type.Canonical
  | .castable _ | .plain => True

/-- All types that the casts of a registry give are canonical. -/
structure Registry.CastsCanonical (registry : Registry) : Prop where
  cast : ∀ {key cast}, registry.castClasses.find? key = some cast →
    cast.Canonical

theorem canonical_of_readOptionalType {text : Option String}
    {found : Option PropertyType} (h : readOptionalType text = .ok found) :
    ∀ type ∈ found, type.Canonical := by
  cases text with
  | none =>
    cases h
    exact fun _ hmem => absurd hmem (Option.not_mem_none _)
  | some text =>
    obtain ⟨type, htype, rfl⟩ := ok_of_map_ok h
    intro other hother
    cases hother
    exact canonical_of_read htype

theorem CastDeclarationKind.canonical_of_toCastClass
    {kind : CastDeclarationKind} {cast : CastClass}
    (h : kind.toCastClass = .ok cast) : cast.Canonical := by
  cases kind with
  | valueObject get set =>
    obtain ⟨getType, hget, h⟩ := ok_of_bind_ok h
    obtain ⟨setType, hset, h⟩ := ok_of_bind_ok h
    cases h
    exact ⟨canonical_of_read hget, canonical_of_readOptionalType hset⟩
  | inbound set =>
    obtain ⟨setType, hset, h⟩ := ok_of_bind_ok h
    cases h
    exact canonical_of_readOptionalType hset
  | castable caster =>
    cases h
    exact trivial
  | plain =>
    cases h
    exact trivial

namespace Registry

variable {registry next : Registry}

theorem CastsCanonical.addModel (h : registry.CastsCanonical)
    {declaration : ModelDeclaration}
    (hnext : registry.addModel declaration = .ok next) :
    next.CastsCanonical := by
  obtain ⟨entry, -, hentry⟩ := ok_of_bind_ok hnext
  cases hentry
  exact ⟨h.cast⟩

theorem CastsCanonical.addCast (h : registry.CastsCanonical)
    {declaration : CastDeclaration}
    (hnext : registry.addCast declaration = .ok next) :
    next.CastsCanonical := by
  unfold Registry.addCast at hnext
  split at hnext
  · next cast hcast =>
    cases hnext
    refine ⟨fun {key found} hfound => ?_⟩
    rw [registerCast, Keyed.find?_insert] at hfound
    split at hfound
    · cases hfound
      exact CastDeclarationKind.canonical_of_toCastClass hcast
    · exact h.cast hfound
  · cases hnext

/-- **A registry of declarations holds canonical types only.** -/
theorem castsCanonical_of_ofDeclarations {declarations : Declarations}
    (h : ofDeclarations declarations = .ok registry) :
    registry.CastsCanonical := by
  obtain ⟨models, hmodels, hcasts⟩ := ok_of_bind_ok h
  have hempty : empty.CastsCanonical := ⟨fun hfound => by cases hfound⟩
  exact holds_of_foldlM_ok (fun h => h.addCast)
    (holds_of_foldlM_ok (fun h => h.addModel) hempty hmodels) hcasts

end Registry

/-! ## Casts -/

namespace Caster

variable {caster : Caster} {stored accepted : PropertyType}

/-- Following links ends at a class with what it does as a cast. -/
theorem castClass?_of_follow {links : Nat} {className last : String}
    {cast : CastClass} (h : caster.follow links className = some (last, cast)) :
    caster.castClass? last = some cast := by
  induction links generalizing className with
  | zero =>
    unfold follow at h
    split at h <;> cases h
    assumption
  | succ links ih =>
    unfold follow at h
    split at h
    · exact ih h
    · cases h
      assumption
    · cases h

theorem canonical_of_endpoint? (h : caster.registry.CastsCanonical)
    {className last : String} {cast : CastClass}
    (hend : caster.endpoint? className = some (last, cast)) :
    cast.Canonical := by
  have hlast := castClass?_of_follow hend
  unfold castClass? at hlast
  rw [Option.orElse_eq_orElse, Option.orElse_eq_or, Option.or_eq_some_iff]
    at hlast
  rcases hlast with hfound | ⟨-, hfound⟩
  · exact h.cast hfound
  · split at hfound <;> cases hfound
    exact trivial

/-- **A cast ends in a setter** if the class that does it in the end changes
values on assignment only and declares the type it takes. -/
def EndsInSetter (caster : Caster) (cast : String) : Prop :=
  ∃ className last set, CastKind.ofText cast = .byClass className
    ∧ caster.endpoint? className = some (last, .inbound (some set))

/-- Casts by a class that is no setter. -/
theorem class_admits (h : caster.registry.CastsCanonical) {className : String}
    (hsetter : ∀ last set,
      caster.endpoint? className ≠ some (last, .inbound (some set)))
    (hstored : accepted.Admits stored) :
    (caster.classWritable className accepted).Admits
      (caster.classReadable className stored) := by
  unfold classWritable classReadable
  cases hend : caster.endpoint? className with
  | none => exact .refl _
  | some found =>
    obtain ⟨last, cast⟩ := found
    have hcanonical := canonical_of_endpoint? h hend
    cases cast with
    | valueObject get set =>
      cases set with
      | none => exact .refl _
      | some set =>
        refine admits_union _ (fun type hmem => ?_) List.mem_cons_self
        rcases List.mem_cons.mp hmem with rfl | hmem
        · exact hcanonical.1
        · rw [List.mem_singleton.mp hmem]
          exact hcanonical.2 set rfl
    | inbound set =>
      cases set with
      | none => exact hstored
      | some set => exact absurd hend (hsetter last set)
    | castable next => exact .refl _
    | plain => exact .refl _

theorem canonical_instanceOf (className : String) :
    (instanceOf className).Canonical :=
  .object fun _ hmem => absurd hmem List.not_mem_nil

theorem canonical_dateType (caster : Caster) : caster.dateType.Canonical := by
  unfold dateType
  dsimp only
  split
  · exact canonical_instanceOf _
  · refine canonical_union fun type hmem => ?_
    simp only [List.mem_cons, List.not_mem_nil, or_false] at hmem
    rcases hmem with rfl | rfl <;> exact canonical_instanceOf _

theorem canonical_collectionType : collectionType.Canonical :=
  .object fun _ hmem => canonical_of_mem_basic [.arrayKey, .mixed] hmem

/-- A first type that a string may stand for. -/
theorem admits_orString {type : PropertyType} (h : type.Canonical) :
    (union [type, .string]).Admits type := by
  refine admits_union _ (fun other hmem => ?_) List.mem_cons_self
  rcases List.mem_cons.mp hmem with rfl | hmem
  · exact h
  · rw [List.mem_singleton.mp hmem]
    exact .basic .string

/-- **Casts**: what a cast gives may be assigned back, unless it ends in a
setter. -/
theorem admits (h : caster.registry.CastsCanonical) {cast : String}
    (hsetter : ¬ caster.EndsInSetter cast) (hstored : accepted.Admits stored) :
    (caster.writableType cast accepted).Admits
      (caster.readableType cast stored) := by
  unfold writableType readableType
  cases hkind : CastKind.ofText cast with
  | boolean =>
    dsimp only
    split
    · exact .refl _
    · refine admits_union _ (fun type hmem => ?_)
        (List.mem_cons_of_mem _ (List.mem_cons_of_mem _ List.mem_cons_self))
      simp only [List.mem_cons, List.not_mem_nil, or_false] at hmem
      rcases hmem with rfl | rfl | rfl
      · exact .intLiteral 0
      · exact .intLiteral 1
      · exact .basic .bool
  | integer | float | string | object => exact .refl _
  | array =>
    refine admits_union _ (fun type hmem => ?_) List.mem_cons_self
    rcases List.mem_cons.mp hmem with rfl | hmem
    · exact canonical_mixedArray
    · exact canonical_of_mem_basic [.int, .float, .string, .bool] hmem
  | date => exact admits_orString caster.canonical_dateType
  | immutableDate => exact admits_orString (canonical_instanceOf _)
  | collection =>
    refine admits_union _ (fun type hmem => ?_) List.mem_cons_self
    rcases List.mem_cons.mp hmem with rfl | hmem
    · exact canonical_collectionType
    · rw [List.mem_singleton.mp hmem]
      exact canonical_mixedArray
  | byClass className =>
    refine class_admits h (fun last set hend => hsetter ?_) hstored
    exact ⟨className, last, set, hkind, hend⟩

end Caster

/-! ## Properties -/

namespace Inference

variable {engine : Inference}

theorem columnTypes_admits (h : engine.registry.CastsCanonical) {model : Model}
    {name : String} {column : Column}
    (hsetter : ∀ cast, model.isDate name = false →
      model.cast? name = some cast → ¬ engine.caster.EndsInSetter cast)
    (hcolumn : column.writableType.Admits column.readableType) :
    (engine.columnTypes model name column).2.Admits
      (engine.columnTypes model name column).1 := by
  cases hdate : model.isDate name with
  | true =>
    rw [columnTypes, if_pos hdate]
    dsimp only
    exact Caster.admits_orString engine.caster.canonical_dateType
  | false =>
    rw [columnTypes, if_neg (Bool.eq_false_iff.mp hdate)]
    cases hcast : model.cast? name with
    | none => exact hcolumn
    | some cast => exact Caster.admits h (hsetter cast hdate hcast) hcolumn

theorem withNull_admits {types : PropertyType × PropertyType}
    (h : types.2.Admits types.1) (nullable : Bool) :
    (withNull nullable types).2.Admits (withNull nullable types).1 := by
  cases nullable with
  | false => exact h
  | true => exact h.nullable

/-- **What is read may be assigned back**, for every registry of declarations
and every schema that logs leave behind: if a property has types, and its cast
does not end in a setter, then nothing is known of the writable type, or every
member of the readable type is a member of it. -/
theorem admits_of_property {declarations : Declarations} {registry : Registry}
    (hregistry : Registry.ofDeclarations declarations = .ok registry)
    (dialect : Dialect) (dateClass : String) (dumps migrations : List Operation)
    {className name : String} {types : PropertyTypes}
    (htypes : (ofOperations dialect dateClass registry dumps migrations).property
      className name = .ok types)
    (hsetter : ∀ model cast, registry.instantiate className = .ok model →
      model.isDate name = false → model.cast? name = some cast →
        ¬ Caster.EndsInSetter ⟨dialect, dateClass, registry⟩ cast) :
    types.writable.Admits types.readable := by
  have hcasts := Registry.castsCanonical_of_ofDeclarations hregistry
  have hschema := (Schema.empty_inOrder Origins.none).after dumps |>.after migrations
  unfold property at htypes
  split at htypes
  · cases htypes
  · next model hmodel =>
    split at htypes
    · next column hcolumn =>
      cases htypes
      exact withNull_admits (columnTypes_admits hcasts
        (fun cast => hsetter model cast hmodel) (hschema.admits hcolumn)) _
    · split at htypes
      · split at htypes
        · cases htypes
          exact .refl _
        · cases htypes
      · cases htypes

/-! A price that one class casts in the place of another: it is read as a
number and accepts text as well, and the column may be empty. -/

/-- The declarations of a model with a cast, and of the two classes. -/
def orderDeclarations : Declarations where
  models := [{
    className := "Order", table := some "orders",
    casts := [("price", "Money:EUR")] }]
  castClasses := [⟨"Money", .castable "MoneyCast"⟩,
    ⟨"MoneyCast", .valueObject "int|float" (some "?string")⟩]

/-- The registry of `orderDeclarations`. -/
def orderRegistry : Registry where
  models := .ofList [("order", {
    model := {
      className := "Order", table := some "orders",
      casts := .ofList [("price", "Money:EUR")] }
    isAbstract := false, instantiable := true, methods := .empty,
    propertyTags := [] })]
  castClasses := .ofList [("money", .castable "MoneyCast"),
    ("moneycast", .valueObject (.alternatives [.int, .float])
      (some (.alternatives [.string, .null])))]

/-- The log that creates the table of `orderDeclarations`. -/
def orderLog : List Operation :=
  [.createTable "orders" [⟨"price", .string none, true⟩]]

theorem admits_of_property_order :
    Registry.ofDeclarations orderDeclarations = .ok orderRegistry
      ∧ ∃ types, (ofOperations .mySql defaultDateClass orderRegistry []
          orderLog).property "Order" "price" = .ok types
        ∧ types.writable.Admits types.readable := by
  have hregistry : Registry.ofDeclarations orderDeclarations
      = .ok orderRegistry :=
    eq_ok_of_toOption (by decide +kernel)
  have htypes : (ofOperations .mySql defaultDateClass orderRegistry []
      orderLog).property "Order" "price"
      = .ok ⟨"Order", .alternatives [.int, .float, .null],
          .alternatives [.int, .float, .string, .null]⟩ :=
    eq_ok_of_toOption (by decide +kernel)
  refine ⟨hregistry, _, htypes,
    admits_of_property hregistry _ _ _ _ htypes fun model cast hmodel _ hcast => ?_⟩
  have hcast' : model.cast? "price" = some "Money:EUR" := by
    cases hmodel
    decide +kernel
  cases hcast.symm.trans hcast'
  rintro ⟨className, last, set, hkind, hend⟩
  have hname : CastKind.ofText "Money:EUR" = .byClass "Money" := by
    decide +kernel
  cases hkind.symm.trans hname
  have hlast : Caster.endpoint? ⟨.mySql, defaultDateClass, orderRegistry⟩ "Money"
      = some ("MoneyCast", .valueObject (.alternatives [.int, .float])
          (some (.alternatives [.string, .null]))) := by
    decide +kernel
  cases hend.symm.trans hlast

end Inference

end SchemaTyping
