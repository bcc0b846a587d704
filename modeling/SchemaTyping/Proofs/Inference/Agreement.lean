import SchemaTyping.Inference

/-!
# The three questions about properties agree

Inference answers three questions about a class: whether a property is
inferred, which types it has, and which properties are inferred at all. Each
answer is computed on its own. `Inference.hasProperty` looks at the class
first and at the schema last, `Inference.property` looks at the schema alone,
and `Inference.properties` starts from the columns of the table.

They agree all the same. What an inferred property has in common with the
other two answers is the **source** of its types: the model can be made, and
the property is its primary key or a column of its table
(`Inference.exists_source_of_hasProperty`). A source is all that
`Inference.property` asks for, so the error that should not happen does not
happen (`Inference.property_eq_ok_or_keyType`); and it is what makes a name a
candidate, so the enumeration leaves nothing out
(`Inference.mem_properties_iff`).
-/

namespace SchemaTyping

/-! ## Names in ascending order -/

@[simp] theorem mem_insertName {name other : String} {names : List String} :
    other ∈ insertName name names ↔ other = name ∨ other ∈ names := by
  induction names with
  | nil => simp [insertName]
  | cons first rest ih =>
    rw [insertName]
    split
    · rw [List.mem_cons]
    · split
      · next heq => rw [heq, List.mem_cons, or_self_left]
      · rw [List.mem_cons, ih, List.mem_cons, or_left_comm]

theorem ascending_insertName {name : String} {names : List String}
    (h : names.Pairwise (· < ·)) : (insertName name names).Pairwise (· < ·) := by
  induction names with
  | nil => exact List.pairwise_singleton _ _
  | cons first rest ih =>
    obtain ⟨hfirst, hrest⟩ := List.pairwise_cons.mp h
    rw [insertName]
    split
    · next hlt =>
      refine List.pairwise_cons.mpr ⟨fun other hother => ?_, h⟩
      rcases List.mem_cons.mp hother with rfl | hmem
      · exact hlt
      · exact String.lt_trans hlt (hfirst other hmem)
    · next hnlt =>
      split
      · exact h
      · next hne =>
        refine List.pairwise_cons.mpr ⟨fun other hother => ?_, ih hrest⟩
        rcases mem_insertName.mp hother with rfl | hmem
        · exact Std.lt_of_le_of_ne (String.not_lt.mp hnlt) (Ne.symm hne)
        · exact hfirst other hmem

namespace Inference

variable {engine : Inference} {className name : String} {model : Model}

/-! ## Where the types of a property come from -/

/-- **A source of types**: the name is the primary key of the model or a
column of its table. -/
def IsSource (engine : Inference) (model : Model) (name : String) : Prop :=
  name = model.keyName
    ∨ (engine.schema.column? model.tableName name).isSome = true

/-- An inferred property has a source: its model can be made, and the model
knows the name. -/
theorem exists_source_of_hasProperty
    (h : engine.hasProperty className name = true) :
    ∃ model, engine.registry.instantiate className = .ok model
      ∧ engine.IsSource model name := by
  unfold hasProperty at h
  rw [Bool.and_eq_true] at h
  obtain ⟨-, hsource⟩ := h
  split at hsource
  · next model hmodel =>
    refine ⟨model, hmodel, ?_⟩
    rwa [Bool.or_eq_true, beq_iff_eq] at hsource
  · exact absurd hsource Bool.false_ne_true

/-- The types of a column: an answer is given, whatever the casts are. -/
theorem property_of_column {column : Column}
    (hmodel : engine.registry.instantiate className = .ok model)
    (hcolumn : engine.schema.column? model.tableName name = some column) :
    engine.property className name = .ok
      ⟨className,
        (withNull column.nullable (engine.columnTypes model name column)).1,
        (withNull column.nullable (engine.columnTypes model name column)).2⟩ := by
  rw [property, hmodel]
  dsimp only
  rw [hcolumn]

/-- The types of a primary key that is no column: those of its declared type,
or what is wrong with the declaration. -/
theorem property_of_key
    (hmodel : engine.registry.instantiate className = .ok model)
    (hcolumn : engine.schema.column? model.tableName model.keyName = none) :
    engine.property className model.keyName
      = ((PropertyType.read model.keyType).map
          fun type => ⟨className, type, type⟩).mapError .keyType := by
  rw [property, hmodel]
  dsimp only
  rw [hcolumn]
  show (if model.keyName = model.keyName then _ else _) = _
  rw [if_pos rfl]
  cases PropertyType.read model.keyType <;> rfl

/-- **The error of a declared key type**, where there is a source: it comes
from a primary key that is no column, and from nothing else. -/
theorem property_eq_keyType_iff {error : TypeTextError}
    (hmodel : engine.registry.instantiate className = .ok model)
    (hsource : engine.IsSource model name) :
    engine.property className name = .error (.keyType error) ↔
      name = model.keyName
        ∧ engine.schema.column? model.tableName name = none
        ∧ PropertyType.read model.keyType = .error error := by
  cases hcolumn : engine.schema.column? model.tableName name with
  | some column =>
    rw [property_of_column hmodel hcolumn]
    simp
  | none =>
    have hkey : name = model.keyName := hsource.resolve_right (by simp [hcolumn])
    subst hkey
    rw [property_of_key hmodel hcolumn]
    cases PropertyType.read model.keyType with
    | ok type => exact ⟨nofun, nofun⟩
    | error other =>
      show (Except.error (InferenceError.keyType other)
        : Except InferenceError PropertyTypes) = _ ↔ _
      simp

/-- **What should not happen does not happen** where there is a source: types
are given, or the declared type of the key cannot be read. -/
theorem property_eq_ok_or_keyType
    (hmodel : engine.registry.instantiate className = .ok model)
    (hsource : engine.IsSource model name) :
    (∃ types, engine.property className name = .ok types)
      ∨ ∃ error, engine.property className name = .error (.keyType error) := by
  cases hcolumn : engine.schema.column? model.tableName name with
  | some column => exact .inl ⟨_, property_of_column hmodel hcolumn⟩
  | none =>
    have hkey : name = model.keyName := hsource.resolve_right (by simp [hcolumn])
    subst hkey
    rw [property_of_key hmodel hcolumn]
    cases PropertyType.read model.keyType with
    | ok type => exact .inl ⟨_, rfl⟩
    | error error => exact .inr ⟨error, rfl⟩

/-! ## The enumeration -/

/-- The candidates are the names with a source. -/
theorem mem_candidates_iff :
    name ∈ engine.candidates model ↔ engine.IsSource model name := by
  rw [candidates, mem_insertName, IsSource, Schema.column?]
  refine or_congr_right ?_
  cases engine.schema.table? model.tableName with
  | none => simp
  | some table => exact Keyed.mem_keys

theorem ascending_candidates (engine : Inference) (model : Model) :
    (engine.candidates model).Pairwise (· < ·) := by
  refine ascending_insertName ?_
  cases engine.schema.table? model.tableName with
  | none => exact List.Pairwise.nil
  | some table => exact table.columns.ascending_keys

/-- The enumeration ascends, so no property is in it twice. -/
theorem ascending_properties (engine : Inference) (className : String) :
    (engine.properties className).Pairwise (· < ·) := by
  rw [properties]
  split
  · next model _ => exact (engine.ascending_candidates model).filter _
  · exact List.Pairwise.nil

/-- **The enumeration is complete**: it holds the inferred properties and no
others. -/
theorem mem_properties_iff :
    name ∈ engine.properties className
      ↔ engine.hasProperty className name = true := by
  rw [properties]
  constructor
  · split
    · exact fun h => (List.mem_filter.mp h).2
    · exact fun h => absurd h List.not_mem_nil
  · intro h
    obtain ⟨model, hmodel, hsource⟩ := exists_source_of_hasProperty h
    rw [hmodel]
    exact List.mem_filter.mpr ⟨mem_candidates_iff.mpr hsource, h⟩

/-- **The three answers agree**, for every registry and every schema. A
property that is inferred has types, and the one way to miss them is a primary
key that is no column and has a declared type that cannot be read. The
enumeration ascends strictly and holds exactly what is inferred. -/
theorem hasProperty_agrees (engine : Inference) (className name : String) :
    (engine.hasProperty className name = true →
      ∃ model, engine.registry.instantiate className = .ok model
        ∧ ((∃ types, engine.property className name = .ok types)
          ∨ ∃ error, engine.property className name = .error (.keyType error))
        ∧ ∀ error, engine.property className name = .error (.keyType error) ↔
            name = model.keyName
              ∧ engine.schema.column? model.tableName name = none
              ∧ PropertyType.read model.keyType = .error error)
    ∧ (engine.properties className).Pairwise (· < ·)
    ∧ (name ∈ engine.properties className
        ↔ engine.hasProperty className name = true) := by
  refine ⟨fun h => ?_, engine.ascending_properties className, mem_properties_iff⟩
  obtain ⟨model, hmodel, hsource⟩ := exists_source_of_hasProperty h
  exact ⟨model, hmodel, property_eq_ok_or_keyType hmodel hsource,
    fun _ => property_eq_keyType_iff hmodel hsource⟩

end Inference

end SchemaTyping
