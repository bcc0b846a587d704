import SchemaTyping.Command.Run
import SchemaTyping.Proofs.Inference.Agreement
import SchemaTyping.Proofs.Model.LastItem
import SchemaTyping.Proofs.PropertyType.Reading

/-!
# The commands on a model and on a property agree

The types of a property are shown by two commands: by the one on the property,
and by the one on its model, in a row. The first asks whether the property is
inferred, and then for its types. The second lists the properties that are
inferred, asks for the types of each, and is given up with the first of them
that has none. A property could be missing from the list, or be in it twice,
or be in it with other types; and the whole list could be given up for a
property that nobody asked about.

None of this happens. **A property has a row exactly if it has types of its
own**, and then one row, with these types (`Inference.rowsFor_eq`). And there
is only one property that a list is given up for, the primary key, if it is no
column and its declared type cannot be read: so whoever gets no list learns
the same from asking for the key (`Inference.exists_key_of_reportModel_error`).
-/

namespace SchemaTyping

open PropertyType

/-! ## Rows and reports -/

/-- The rows of a property in the answer on a model. -/
def ModelReport.rowsFor (report : ModelReport) (property : String) :
    List PropertyRow :=
  report.rows.filter (·.name = property)

namespace Inference

variable {engine : Inference} {className property : String}
  {report : ModelReport}

/-- The answer on a property that is inferred. -/
theorem reportProperty_of_inferred
    (h : engine.hasProperty className property = true) :
    engine.reportProperty className property
      = (engine.property className property).map
          fun types => ⟨className, property, some types⟩ := by
  unfold reportProperty
  rw [if_pos h]
  cases engine.property className property <;> rfl

/-- The answer on a property that is not inferred. -/
theorem reportProperty_of_not_inferred
    (h : ¬ engine.hasProperty className property = true) :
    engine.reportProperty className property
      = .ok ⟨className, property, none⟩ := by
  unfold reportProperty
  rw [if_neg h]

/-- A row has the types of its property, which is the one that was asked
for. -/
theorem reportRow_eq_ok {row : PropertyRow}
    (h : engine.reportRow className property = .ok row) :
    row.name = property ∧ engine.property className property = .ok row.types := by
  obtain ⟨types, htypes, h⟩ := ok_of_bind_ok h
  cases h
  exact ⟨rfl, htypes⟩

/-- The rows stand for the inferred properties. -/
theorem forall₂_rows (h : engine.reportModel className = .ok report) :
    List.Forall₂
      (fun name row => row.name = name
        ∧ engine.property className name = .ok row.types)
      (engine.properties className) report.rows := by
  obtain ⟨rows, hrows, h⟩ := ok_of_bind_ok h
  cases h
  exact (forall₂_of_mapM_ok hrows).imp fun _ _ => reportRow_eq_ok

/-- The rows have the names of the inferred properties, in their order. -/
theorem names_rows (h : engine.reportModel className = .ok report) :
    report.rows.map (·.name) = engine.properties className := by
  have hrows := forall₂_rows h
  generalize engine.properties className = names, report.rows = rows at hrows
  induction hrows with
  | nil => rfl
  | cons hrow _ ih => rw [List.map_cons, hrow.1, ih]

/-- Every row has the types of its property. -/
theorem property_of_mem_rows (h : engine.reportModel className = .ok report)
    {row : PropertyRow} (hrow : row ∈ report.rows) :
    engine.property className row.name = .ok row.types := by
  have hrows := forall₂_rows h
  generalize engine.properties className = names, report.rows = rows
    at hrows hrow
  induction hrows with
  | nil => exact absurd hrow List.not_mem_nil
  | cons hfirst _ ih =>
    rcases List.mem_cons.mp hrow with rfl | hrow
    · rw [hfirst.1]
      exact hfirst.2
    · exact ih hrow

/-- **The rows of a property are what its own report shows**: one row with the
types, or none. -/
theorem rowsFor_eq (h : engine.reportModel className = .ok report)
    (property : String) :
    ∃ types : Option PropertyTypes,
      engine.reportProperty className property = .ok ⟨className, property, types⟩
        ∧ report.rowsFor property
          = types.toList.map (PropertyRow.mk property) := by
  by_cases hhas : engine.hasProperty className property = true
  · have hmem : property ∈ report.rows.map (·.name) := by
      rw [names_rows h]
      exact mem_properties_iff.mpr hhas
    obtain ⟨row, hrow, rfl⟩ := List.mem_map.mp hmem
    have hnodup : (report.rows.map (·.name)).Nodup := by
      rw [names_rows h]
      exact (engine.ascending_properties className).imp String.ne_of_lt
    refine ⟨some row.types, ?_, filter_key_eq_singleton hnodup hrow⟩
    rw [reportProperty_of_inferred hhas, property_of_mem_rows h hrow]
    rfl
  · refine ⟨none, reportProperty_of_not_inferred hhas, ?_⟩
    refine List.filter_eq_nil_iff.mpr fun row hrow hname => hhas ?_
    rw [← mem_properties_iff, ← names_rows h]
    exact List.mem_map.mpr ⟨row, hrow, of_decide_eq_true hname⟩

/-- **A list is given up for the primary key only**, and the report on the key
says why. -/
theorem exists_key_of_reportModel_error {error : InferenceError}
    (h : engine.reportModel className = .error error) :
    ∃ model, engine.registry.instantiate className = .ok model
      ∧ engine.reportProperty className model.keyName = .error error := by
  have hrows := (bind_eq_error_iff_of_total fun rows => ⟨_, rfl⟩).mp h
  obtain ⟨name, hname, hrow⟩ := exists_mem_of_mapM_error hrows
  have herror := (bind_eq_error_iff_of_total fun types => ⟨_, rfl⟩).mp hrow
  have hhas := mem_properties_iff.mp hname
  obtain ⟨model, hmodel, hsource⟩ := exists_source_of_hasProperty hhas
  rcases property_eq_ok_or_keyType hmodel hsource with ⟨types, hok⟩ | ⟨cause, hkey⟩
  · rw [hok] at herror
    cases herror
  · obtain ⟨rfl, -, -⟩ := (property_eq_keyType_iff hmodel hsource).mp hkey
    refine ⟨model, hmodel, ?_⟩
    rw [reportProperty_of_inferred hhas, herror]
    rfl

end Inference

/-! ## Commands -/

namespace Command

variable {project : Project} {tree : FileTree} {format : Format}
  {styled : Bool} {failure : Failure}

/-- Writing a report down does not fail. -/
theorem answer_model_eq_error_iff {name : String} :
    (Command.model name).answer project tree format styled = .error failure
      ↔ project.reportModel tree name = .error failure := by
  refine bind_eq_error_iff_of_total fun report => ?_
  cases format <;> exact ⟨_, rfl⟩

theorem answer_property_eq_error_iff {name property : String} :
    (Command.property name property).answer project tree format styled
        = .error failure
      ↔ project.reportProperty tree name property = .error failure := by
  refine bind_eq_error_iff_of_total fun report => ?_
  cases format <;> exact ⟨_, rfl⟩

end Command

namespace Project

variable {project : Project} {tree : FileTree} {name : String}
  {query : ModelQuery}

/-- The query of a class whose name is found among the models. -/
theorem query_of_registry {registry : Registry} {className : String}
    (hregistry : project.registry tree = .ok registry)
    (hname : registry.findModel name = .ok className) :
    project.query tree name
      = .ok ⟨className, project.inference tree registry⟩ := by
  unfold query
  rw [hregistry]
  show (registry.findModel name >>= _) = _
  rw [hname]
  rfl

theorem reportModel_of_query (h : project.query tree name = .ok query) :
    project.reportModel tree name
      = failing .inference (query.engine.reportModel query.className) := by
  unfold reportModel
  rw [h]
  rfl

theorem reportProperty_of_query (h : project.query tree name = .ok query)
    (property : String) :
    project.reportProperty tree name property
      = failing .inference
          (query.engine.reportProperty query.className property) := by
  unfold reportProperty
  rw [h]
  rfl

/-- A project with two models, one of them with a blank text as the type of its
key. -/
def tokenProject : Project where
  root := ⟨"/"⟩
  configPath := ⟨"/.schemacast.yaml"⟩
  config := { dialect := .mySql, migrationPaths := ["m"] }

/-- The files of `tokenProject`. -/
def tokenTree : FileTree where
  entries := [
    (["models.yaml"],
      .text "models:\n- class: User\n- class: Token\n  key_type: ''\n"),
    (["m"], .directory),
    (["m", "1.yml"],
      .text "operations:\n- op: add_remember_token\n  table: users\n")]
  distinct := by decide

/-- The models of `tokenProject`. -/
def tokenRegistry : Registry where
  models := .ofList [
    ("user", ⟨{ className := "User" }, false, true, .empty, []⟩),
    ("token", ⟨{ className := "Token", keyType := "" }, false, true, .empty, []⟩)]
  castClasses := .empty

end Project

end SchemaTyping
