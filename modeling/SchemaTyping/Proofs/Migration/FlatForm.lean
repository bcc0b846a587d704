import SchemaTyping.Migration.Encoding

/-!
# Operations and their flat forms

An operation can be written in full or **sparsely**, with every field left out
that has its default. Both forms are read back as the operation, unless a
column of it has a kind that is not understood.

The danger is in the record of a column, where the fields of the column and
the parameters of its kind stand side by side. A kind is read by its own
parameters only (`ColumnKind.ofNameAndFields?_congr`), and the fields around
them have other names, so what else the record says does not matter. The one
exception is the kind that is not understood: its parameter is called `name`,
as is the column. The column takes that field, and nothing is left for the
kind (`ColumnSpec.ofFields?_other`). So no value at all is read as an operation
with such a column (`Operation.hasOther_of_ofValue?`).
-/

namespace SchemaTyping

/-- **How much is written** of what has defaults. -/
inductive Extent where
  /-- Every field. -/
  | full
  /-- The fields that do not have their default. -/
  | sparse
  deriving DecidableEq, Repr

/-! ## Fields -/

namespace Fields

open Keyed (lookup_cons_of_ne lookup_filter)

variable {α : Type} {read : Value → Option α} {name key : String} {value : Value}
  {rest fields : Fields}

/-- A field with a default, and the fields behind it. -/
def optional [DecidableEq α] (extent : Extent) (name : String) (write : α → Value)
    (default value : α) (rest : Fields) : Fields :=
  if extent = .sparse ∧ value = default then rest else (name, write value) :: rest

@[simp] theorem required_cons_self :
    required ((name, value) :: rest) name read = read value := by
  simp [required]

@[simp] theorem required_cons_of_ne (h : key ≠ name) :
    required ((name, value) :: rest) key read = rest.required key read := by
  rw [required, lookup_cons_of_ne h, required]

@[simp] theorem withDefault_cons_of_ne (h : key ≠ name) (default : α) :
    withDefault ((name, value) :: rest) key read default
      = rest.withDefault key read default := by
  rw [withDefault, lookup_cons_of_ne h, withDefault]

theorem withDefault_append (h : fields.lookup key = none) (default : α) :
    withDefault (fields ++ rest) key read default = rest.withDefault key read default := by
  rw [withDefault, List.lookup_append, h, Option.none_or, withDefault]

@[simp] theorem withDefault_nil (default : α) :
    withDefault [] key read default = some default := rfl

/-- **A field is read back** though it may have been left out. -/
@[simp] theorem default_or_some {sparse : Prop} {default item : α} [Decidable (sparse ∧ item = default)] :
    (if sparse ∧ item = default then some default else some item) = some item := by
  split
  · next h => rw [h.2]
  · rfl

/-- What is left of a record when some of its fields are taken. -/
theorem lookup_without (fields : Fields) (names : List String) :
    (fields.without names).lookup key
      = if key ∈ names then none else fields.lookup key := by
  show (fields.filter fun field => !names.contains field.1).lookup key = _
  rw [lookup_filter (!names.contains ·)]
  by_cases h : key ∈ names <;> simp [h]

theorem required_without {names : List String} (h : key ∉ names) :
    (fields.without names).required key read = fields.required key read := by
  rw [required, lookup_without, if_neg h, required]

variable [DecidableEq α] {extent : Extent} {write : α → Value} {default item : α}

@[simp] theorem optional_full :
    optional .full name write default item rest = (name, write item) :: rest := by
  simp [optional]

@[simp] theorem lookup_optional_of_ne (h : key ≠ name) :
    (optional extent name write default item rest).lookup key = rest.lookup key := by
  unfold optional
  split
  · rfl
  · rw [lookup_cons_of_ne h]

@[simp] theorem withDefault_optional_of_ne {β : Type} {read : Value → Option β}
    (h : key ≠ name) (other : β) :
    (optional extent name write default item rest).withDefault key read other
      = rest.withDefault key read other := by
  rw [withDefault, lookup_optional_of_ne h, withDefault]

@[simp] theorem withDefault_optional_self (other : α) :
    (optional extent name write default item rest).withDefault name read other
      = if extent = .sparse ∧ item = default then rest.withDefault name read other
        else read (write item) := by
  unfold optional
  split
  · rfl
  · rw [withDefault, List.lookup_cons_self]

end Fields

open Fields (optional)

namespace Value

@[simp] theorem string?_string (text : String) : string? (.string text) = some text := rfl

@[simp] theorem bool?_bool (value : Bool) : bool? (.bool value) = some value := rfl

@[simp] theorem size?_ofSize (size : Option UInt32) : size? (ofSize size) = some size := by
  cases size with
  | none => rfl
  | some size => simp [ofSize, size?, size.toNat_lt]

theorem mapM_map {α : Type} {read : Value → Option α} {write : α → Value}
    (h : ∀ item, read (write item) = some item) (items : List α) :
    (items.map write).mapM read = some items := by
  induction items with
  | nil => rfl
  | cons item items ih => simp [h, ih]

@[simp] theorem list?_ofStrings (strings : List String) :
    list? string? (ofStrings strings) = some strings :=
  mapM_map string?_string strings

end Value

/-! ## Kinds of columns -/

namespace ColumnKind

variable {name : String} {fields other : Fields}

/-- The parameters of a kind, written to some extent. -/
def parametersIn (extent : Extent) : ColumnKind → Fields
  | .simple _ => []
  | .decimal precision scale | .unsignedDecimal precision scale =>
    optional extent "precision" .ofSize none precision
      (optional extent "scale" .ofSize none scale [])
  | .char length | .string length => optional extent "length" .ofSize none length []
  | .enum values | .set values => [("values", .ofStrings values)]
  | .other name => [("name", .string name)]

theorem parametersIn_full (kind : ColumnKind) : kind.parametersIn .full = kind.parameters := by
  cases kind <;> rfl

/-- The fields of a kind, written to some extent. -/
def fieldsIn (extent : Extent) (kind : ColumnKind) : Fields :=
  ("kind", .string kind.name) :: kind.parametersIn extent

/-- No kind without parameter has the name of one with parameters. -/
theorem ofNameAndFields?_simple (kind : SimpleKind) (fields : Fields) :
    ofNameAndFields? kind.name fields = some (.simple kind) := by
  cases kind <;> rfl

@[simp] theorem parameterNames_simple (kind : SimpleKind) : parameterNames kind.name = [] := by
  cases kind <;> rfl

/-- **A kind is read by its parameters**, whatever else the record says. -/
theorem ofNameAndFields?_congr
    (h : ∀ key ∈ parameterNames name, fields.lookup key = other.lookup key) :
    ofNameAndFields? name fields = ofNameAndFields? name other := by
  unfold ofNameAndFields?
  split <;> simp_all [parameterNames, Fields.withDefault, Fields.required]

/-- **A kind is read back** from its parameters. -/
theorem ofNameAndFields?_parametersIn (extent : Extent) (kind : ColumnKind) :
    ofNameAndFields? kind.name (kind.parametersIn extent) = some kind := by
  cases kind with
  | simple kind => exact ofNameAndFields?_simple kind _
  | decimal | unsignedDecimal | char | string | enum | set | other =>
    simp [ColumnKind.name, ofNameAndFields?, parametersIn]

theorem ofFields?_fieldsIn (extent : Extent) (kind : ColumnKind) :
    ofFields? (kind.fieldsIn extent) = some kind := by
  have hkind : "kind" ∉ parameterNames kind.name := by
    cases kind with
    | simple => simp [ColumnKind.name]
    | decimal | unsignedDecimal | char | string | enum | set | other =>
      simp [ColumnKind.name, parameterNames]
  have hparameters : ∀ key ∈ parameterNames kind.name,
      (kind.fieldsIn extent).lookup key = (kind.parametersIn extent).lookup key := by
    intro key hkey
    exact Keyed.lookup_cons_of_ne (ne_of_mem_of_not_mem hkey hkind)
  unfold ofFields?
  rw [fieldsIn, Fields.required_cons_self, ← fieldsIn]
  exact (ofNameAndFields?_congr hparameters).trans (ofNameAndFields?_parametersIn extent kind)

theorem toValue_eq (kind : ColumnKind) : kind.toValue = .record (kind.fieldsIn .full) := by
  rw [toValue, toFields, fieldsIn, parametersIn_full]

/-- **A kind on its own is read back**, be it understood or not. -/
theorem ofValue?_toValue (kind : ColumnKind) : ofValue? kind.toValue = some kind := by
  rw [toValue_eq]
  exact ofFields?_fieldsIn .full kind

/-- The parameters have the names of the parameters. -/
theorem lookup_parametersIn (extent : Extent) {kind : ColumnKind} {key : String}
    (h : key ∉ parameterNames kind.name) : (kind.parametersIn extent).lookup key = none := by
  cases kind with
  | simple => rfl
  | decimal | unsignedDecimal | char | string | enum | set | other =>
    simp_all [ColumnKind.name, parameterNames, parametersIn]

/-- Whether the kind is one that is not understood. -/
def isOther : ColumnKind → Bool
  | .other _ => true
  | _ => false

theorem isOther_iff {kind : ColumnKind} : kind.isOther = true ↔ kind.name = "other" := by
  cases kind with
  | simple kind => cases kind <;> decide
  | decimal | unsignedDecimal | char | string | enum | set | other =>
    simp [isOther, ColumnKind.name]

theorem name_mem_names (kind : ColumnKind) : kind.name ∈ names := by
  cases kind with
  | simple kind => cases kind <;> decide
  | decimal | unsignedDecimal | char | string | enum | set | other =>
    simp [ColumnKind.name, names]

/-- No parameter of a kind that is understood has the name of another field of
a column. -/
theorem notMem_columnFields {kind : ColumnKind} {key : String} (h : kind.isOther = false)
    (hkey : key ∈ parameterNames kind.name) : key ∉ "kind" :: ColumnSpec.ownFields := by
  cases kind with
  | simple => simp [ColumnKind.name] at hkey
  | decimal | unsignedDecimal =>
    have hkey : key = "precision" ∨ key = "scale" := by
      simpa [ColumnKind.name, parameterNames] using hkey
    rcases hkey with rfl | rfl <;> decide
  | char | string =>
    obtain rfl : key = "length" := List.mem_singleton.mp hkey
    decide
  | enum | set =>
    obtain rfl : key = "values" := List.mem_singleton.mp hkey
    decide
  | other => cases h

theorem name_of_ofName? {text : String} {kind : SimpleKind}
    (h : SimpleKind.ofName? text = some kind) : kind.name = text := by
  simpa using List.find?_some h

/-- **A kind that is read** has the name it is read under. -/
theorem name_of_ofNameAndFields? {kind : ColumnKind}
    (h : ofNameAndFields? name fields = some kind) : kind.name = name := by
  unfold ofNameAndFields? at h
  split at h
  -- the kinds without parameters come last
  case h_8 =>
    obtain ⟨simple, hsimple, rfl⟩ := Option.map_eq_some_iff.mp h
    exact name_of_ofName? hsimple
  all_goals
    simp only [bind, Option.bind_eq_some_iff, Option.some.injEq] at h
    grind [ColumnKind.name]

end ColumnKind

/-! ## Columns -/

namespace ColumnSpec

variable {fields : Fields}

/-- The fields of a column, written to some extent. -/
def fieldsIn (extent : Extent) (spec : ColumnSpec) : Fields :=
  ("name", .string spec.name) :: spec.kind.fieldsIn extent
    ++ optional extent "nullable" .bool false spec.nullable []

/-- A column as a flat record, written to some extent. -/
def formIn (extent : Extent) (spec : ColumnSpec) : Value := .record (spec.fieldsIn extent)

theorem formIn_full (spec : ColumnSpec) : spec.formIn .full = spec.toValue := by
  rw [formIn, fieldsIn, toValue, ColumnKind.fieldsIn, ColumnKind.parametersIn_full,
    ColumnKind.toFields, Fields.optional_full]

/-- Under the name of a parameter is what the kind wrote there, also without
the fields of the column itself. -/
theorem lookup_fieldsIn (extent : Extent) {spec : ColumnSpec} {key : String}
    (h : key ∉ "kind" :: ownFields) :
    ((spec.fieldsIn extent).without ownFields).lookup key
      = (spec.kind.parametersIn extent).lookup key := by
  obtain ⟨hkind, hown⟩ := not_or.mp (mt List.mem_cons.mpr h)
  have hname : key ≠ "name" := by
    rintro rfl
    exact hown (by decide)
  have hnullable : key ≠ "nullable" := by
    rintro rfl
    exact hown (by decide)
  rw [Fields.lookup_without, if_neg hown, fieldsIn,
    ColumnKind.fieldsIn, List.cons_append, Keyed.lookup_cons_of_ne hname, List.cons_append,
    Keyed.lookup_cons_of_ne hkind, List.lookup_append, Fields.lookup_optional_of_ne hnullable,
    List.lookup_nil, Option.or_none]

/-- **A column of a kind that is not understood** is not read, however its
record goes on: the name of the kind would have to be in the field that has
the name of the column. -/
theorem ofFields?_other
    (h : fields.required "kind" (Value.nameAmong? ColumnKind.names) = some "other") :
    ofFields? fields = none := by
  have hkind : ColumnKind.ofNameAndFields? "other" (fields.without ownFields) = none := by
    show ((fields.without ownFields).required "name" Value.string?).bind _ = none
    rw [Fields.required, Fields.lookup_without]
    rfl
  have hrest : (fields.without ownFields).required "kind"
      (Value.nameAmong? ColumnKind.names) = some "other" :=
    (Fields.required_without (by decide)).trans h
  unfold ofFields?
  cases fields.required "name" Value.string? with
  | none => rfl
  | some name =>
    cases fields.withDefault "nullable" Value.bool? false with
    | none => rfl
    | some nullable =>
      simp [hrest, hkind]

theorem required_kind_fieldsIn (extent : Extent) (spec : ColumnSpec) :
    (spec.fieldsIn extent).required "kind" (Value.nameAmong? ColumnKind.names)
      = some spec.kind.name := by
  simp [fieldsIn, ColumnKind.fieldsIn, Value.nameAmong?, spec.kind.name_mem_names]

/-- **A column is read back** if its kind is understood, and only then. -/
theorem ofValue?_formIn (extent : Extent) (spec : ColumnSpec) :
    ofValue? (spec.formIn extent) = if spec.kind.isOther then none else some spec := by
  show ofFields? (spec.fieldsIn extent) = _
  -- the record is read field by field, and the kind from what is left of it
  have hkind := required_kind_fieldsIn extent spec
  split
  · next hother =>
    exact ofFields?_other (hkind.trans (congrArg some (ColumnKind.isOther_iff.mp hother)))
  · next hother =>
    have hkeys : ∀ key ∈ ColumnKind.parameterNames spec.kind.name,
        key ∉ "kind" :: ownFields := fun key hkey =>
      ColumnKind.notMem_columnFields (Bool.eq_false_iff.mpr hother) hkey
    have hparameters : ColumnKind.ofNameAndFields? spec.kind.name
        ((spec.fieldsIn extent).without ownFields) = some spec.kind :=
      (ColumnKind.ofNameAndFields?_congr fun key hkey =>
        lookup_fieldsIn extent (hkeys key hkey)).trans
        (ColumnKind.ofNameAndFields?_parametersIn extent spec.kind)
    have hname : (spec.fieldsIn extent).required "name" Value.string? = some spec.name := by
      simp [fieldsIn]
    have hnullable : (spec.fieldsIn extent).withDefault "nullable" Value.bool? false
        = some spec.nullable := by
      have hnone : "nullable" ∉ ColumnKind.parameterNames spec.kind.name := fun h =>
        hkeys _ h (by decide)
      simp [fieldsIn, ColumnKind.fieldsIn,
        Fields.withDefault_append (ColumnKind.lookup_parametersIn extent hnone)]
    unfold ofFields?
    rw [hname, hnullable]
    simp only [bind, Option.bind_some]
    rw [Fields.required_without (by decide), hkind, Option.bind_some, hparameters]
    rfl

/-- **No column that is read** has a kind that is not understood. -/
theorem isOther_of_ofValue? {value : Value} {spec : ColumnSpec}
    (h : ofValue? value = some spec) : spec.kind.isOther = false := by
  obtain ⟨fields, rfl⟩ : ∃ fields, value = .record fields := by
    cases value with
    | record fields => exact ⟨fields, rfl⟩
    | null | bool | int | fractional | string | list => cases h
  replace h : ofFields? fields = some spec := h
  rw [Bool.eq_false_iff]
  intro hother
  have hread := h
  unfold ofFields? at hread
  simp only [bind, Option.bind_eq_some_iff, Option.some.injEq] at hread
  obtain ⟨name, -, nullable, -, kindName, hname, kind, hkind, rfl⟩ := hread
  rw [Fields.required_without (by decide), ← ColumnKind.name_of_ofNameAndFields? hkind,
    ColumnKind.isOther_iff.mp hother] at hname
  rw [ofFields?_other hname] at h
  cases h

/-- The columns of a list are read back if each of them is. -/
theorem list?_map_formIn (extent : Extent) (columns : List ColumnSpec) :
    Value.list? ofValue? (.list (columns.map (formIn extent)))
      = if columns.any (·.kind.isOther) then none else some columns := by
  show (columns.map (formIn extent)).mapM ofValue? = _
  induction columns with
  | nil => rfl
  | cons spec columns ih =>
    rw [List.map_cons, List.mapM_cons, ofValue?_formIn, ih, List.any_cons]
    cases spec.kind.isOther
    · cases columns.any (·.kind.isOther) <;> rfl
    · rfl

theorem isOther_of_list? {value : Value} {columns : List ColumnSpec}
    (h : value.list? ofValue? = some columns) : columns.any (·.kind.isOther) = false := by
  cases value with
  | list items =>
    replace h : items.mapM ofValue? = some columns := h
    induction items generalizing columns with
    | nil =>
      cases h
      rfl
    | cons item items ih =>
      simp only [List.mapM_cons, bind, Option.bind_eq_some_iff, pure, Option.some.injEq] at h
      obtain ⟨spec, hspec, rest, hrest, rfl⟩ := h
      rw [List.any_cons, ih hrest, isOther_of_ofValue? hspec, Bool.or_false]
  | null | bool | int | fractional | string | record => cases h

end ColumnSpec

/-! ## Operations -/

namespace MorphKey

@[simp] theorem ofValue?_name (key : MorphKey) : ofValue? (.string key.name) = some key := by
  cases key <;> rfl

end MorphKey

namespace Operation

/-- The arguments of an operation, written to some extent. -/
def argumentsIn (extent : Extent) : Operation → Fields
  | .createTable table columns =>
    ("table", .string table) :: optional extent "columns"
      (fun columns => .list (columns.map (·.formIn extent))) [] columns []
  | .dropTable table => [("table", .string table)]
  | .renameTable source target => [("from", .string source), ("to", .string target)]
  | .addColumn table column | .modifyColumn table column =>
    [("table", .string table), ("column", column.formIn extent)]
  | .renameColumn table source target =>
    [("table", .string table), ("from", .string source), ("to", .string target)]
  | .dropColumn table columns =>
    [("table", .string table), ("columns", .ofStrings columns)]
  | .addTimestamps table withZone =>
    ("table", .string table) :: optional extent "tz" .bool false withZone []
  | .dropTimestamps table => [("table", .string table)]
  | .addSoftDeletes table column withZone =>
    ("table", .string table) :: optional extent "column" .string defaultSoftDeleteName column
      (optional extent "tz" .bool false withZone [])
  | .dropSoftDeletes table column =>
    ("table", .string table) :: optional extent "column" .string defaultSoftDeleteName column []
  | .addMorphs table name key nullable =>
    ("table", .string table) :: ("name", .string name)
      :: optional extent "key" (fun key => .string key.name) .int key
        (optional extent "nullable" .bool false nullable [])
  | .dropMorphs table name => [("table", .string table), ("name", .string name)]
  | .addRememberToken table => [("table", .string table)]
  | .dropRememberToken table => [("table", .string table)]

/-- **An operation as a record**, written to some extent. -/
def formIn (extent : Extent) (operation : Operation) : Value :=
  .record (("op", .string operation.name) :: operation.argumentsIn extent)

theorem formIn_full (operation : Operation) : operation.formIn .full = operation.toValue := by
  unfold formIn toValue
  cases operation <;>
    simp [argumentsIn, arguments, ColumnSpec.formIn_full]

/-- The columns that an operation describes. -/
def describedColumns : Operation → List ColumnSpec
  | .createTable _ columns => columns
  | .addColumn _ column | .modifyColumn _ column => [column]
  | _ => []

/-- Whether some column of the operation is of a kind that is not understood. -/
def hasOther (operation : Operation) : Bool :=
  operation.describedColumns.any (·.kind.isOther)

/-- **An operation is read back** from its forms if the kinds of its columns are
understood, and only then. -/
theorem ofValue?_formIn (extent : Extent) (operation : Operation) :
    ofValue? (operation.formIn extent)
      = if operation.hasOther then none else some operation := by
  show ofFields? (("op", .string operation.name) :: operation.argumentsIn extent) = _
  unfold ofFields?
  rw [Fields.required_cons_self, Value.string?_string]
  cases operation with
  | createTable table columns =>
    have hread := ColumnSpec.list?_map_formIn extent columns
    cases hother : columns.any (·.kind.isOther) with
    | false =>
      simp [ofNameAndFields?, name, argumentsIn, hread, hasOther, describedColumns, hother]
    | true =>
      -- a list with such a column is not the default, so it has been written
      have hne : columns ≠ [] := by
        rintro rfl
        cases hother
      simp [ofNameAndFields?, name, argumentsIn, hread, hasOther, describedColumns, hother, hne]
  | addColumn table column | modifyColumn table column =>
    have hread := ColumnSpec.ofValue?_formIn extent column
    cases hother : column.kind.isOther <;>
      simp [ofNameAndFields?, name, argumentsIn, hread, hasOther, describedColumns, hother]
  | dropTable | renameTable | renameColumn | dropColumn | addTimestamps | dropTimestamps
  | addSoftDeletes | dropSoftDeletes | addMorphs | dropMorphs | addRememberToken
  | dropRememberToken =>
    simp [ofNameAndFields?, name, argumentsIn, hasOther, describedColumns]

/-- **No operation that is read** has a column of a kind that is not understood,
however it is written. -/
theorem hasOther_of_ofNameAndFields? {name : String} {fields : Fields} {operation : Operation}
    (h : ofNameAndFields? name fields = some operation) : operation.hasOther = false := by
  unfold ofNameAndFields? at h
  dsimp only at h
  split at h
  case h_1 =>
    simp only [bind, Option.bind_eq_some_iff, Option.some.injEq] at h
    obtain ⟨table, -, columns, hcolumns, rfl⟩ := h
    show columns.any (·.kind.isOther) = false
    unfold Fields.withDefault at hcolumns
    split at hcolumns
    · exact ColumnSpec.isOther_of_list? hcolumns
    · cases hcolumns
      rfl
  case h_4 | h_5 =>
    simp only [bind, Fields.required, Option.bind_eq_some_iff, Option.some.injEq] at h
    obtain ⟨table, -, column, ⟨value, -, hcolumn⟩, rfl⟩ := h
    show ([column].any (·.kind.isOther)) = false
    rw [List.any_cons, ColumnSpec.isOther_of_ofValue? hcolumn]
    rfl
  case h_16 => cases h
  -- the other operations have no columns
  all_goals
    simp only [bind, Option.bind_eq_some_iff, Option.some.injEq] at h
    grind [hasOther, describedColumns]

theorem hasOther_of_ofValue? {value : Value} {operation : Operation}
    (h : ofValue? value = some operation) : operation.hasOther = false := by
  unfold ofValue? at h
  split at h
  · obtain ⟨name, -, hfields⟩ := Option.bind_eq_some_iff.mp h
    exact hasOther_of_ofNameAndFields? hfields
  · obtain ⟨fields, -, hfields⟩ := Option.bind_eq_some_iff.mp h
    exact hasOther_of_ofNameAndFields? hfields
  · cases h

/-- **Operations survive being written.** An operation is read back from its
record with all fields, and from the record without the fields that have their
default, unless a column is of a kind that is not understood: then neither is
read, and no other value is read as such an operation. A kind on its own is
read back, be it understood or not. -/
theorem ofValue?_forms (operation : Operation) (kind : ColumnKind) :
    (operation.hasOther = false → ofValue? operation.toValue = some operation
        ∧ ofValue? (operation.formIn .sparse) = some operation)
      ∧ (operation.hasOther = true → ofValue? operation.toValue = none
        ∧ ofValue? (operation.formIn .sparse) = none
        ∧ ∀ value, ofValue? value ≠ some operation)
      ∧ ColumnKind.ofValue? kind.toValue = some kind := by
  have hfull := ofValue?_formIn .full operation
  have hsparse := ofValue?_formIn .sparse operation
  rw [formIn_full] at hfull
  refine ⟨fun hother => ?_, fun hother => ?_, kind.ofValue?_toValue⟩
  · rw [hother, if_neg Bool.false_ne_true] at hfull hsparse
    exact ⟨hfull, hsparse⟩
  · rw [hother, if_pos rfl] at hfull hsparse
    refine ⟨hfull, hsparse, fun value hread => ?_⟩
    rw [hasOther_of_ofValue? hread] at hother
    cases hother

/-- The form without defaults of a table with columns of several kinds, and a
column whose kind has the name of a type. -/
theorem ofValue?_forms_invoices :
    let invoices : Operation := .createTable "invoices"
      [⟨"number", .string none, false⟩, ⟨"total", .decimal (some 10) none, true⟩,
        ⟨"state", .enum ["open", "paid"], false⟩]
    let sparse : Value := .record [("op", .string "create_table"),
      ("table", .string "invoices"), ("columns", .list [
        .record [("name", .string "number"), ("kind", .string "string")],
        .record [("name", .string "total"), ("kind", .string "decimal"),
          ("precision", .int 10), ("nullable", .bool true)],
        .record [("name", .string "state"), ("kind", .string "enum"),
          ("values", .list [.string "open", .string "paid"])]])]
    let addRange : Operation := .addColumn "invoices" ⟨"period", .other "daterange", false⟩
    invoices.hasOther = false ∧ invoices.formIn .sparse = sparse
      ∧ ofValue? sparse = some invoices ∧ ofValue? invoices.toValue = some invoices
      ∧ addRange.hasOther = true ∧ ofValue? addRange.toValue = none
      ∧ ColumnKind.ofValue? (ColumnKind.other "daterange").toValue
        = some (.other "daterange") := by
  intro invoices sparse addRange
  have hform : invoices.formIn .sparse = sparse := rfl
  obtain ⟨hread, -, -⟩ := ofValue?_forms invoices (.simple .id)
  obtain ⟨-, hother, hkind⟩ := ofValue?_forms addRange (.other "daterange")
  exact ⟨rfl, hform, hform ▸ (hread rfl).2, (hread rfl).1, rfl, (hother rfl).1, hkind⟩

end Operation

end SchemaTyping
