import ConfigSchema.Configuration
import Mathlib.Data.List.Basic

/-! # Resolving a configuration (`configure`)

Each pass of `configure` over the sections is said in one equation, its result together with its
events (`validateSections_eq`, `resolveSections_eq`). Both passes look at the same documents, so the
second cannot fail once the first has found nothing. -/
namespace ConfigSchema

/-! ## Traces -/

namespace Traced

variable {α β : Type}

@[simp] theorem pure_def (result : α) : (pure result : Traced α) = ⟨result, []⟩ := rfl

@[simp] theorem bind_def (traced : Traced α) (next : α → Traced β) :
    traced >>= next =
      ⟨(next traced.result).result, traced.events ++ (next traced.result).events⟩ := rfl

@[simp] theorem emit_def (event : Event) : emit event = ⟨(), [event]⟩ := rfl

end Traced

namespace Validator

def sectionOf (validator : Validator) (node : SchemaNode) : Option Json :=
  validator.document.member? node.name

/-- What is wrong with the section of a node. -/
def faults (validator : Validator) (node : SchemaNode) : List Violation :=
  node.check (validator.sectionOf node)

/-! ## One section -/

theorem validate_eq (validator : Validator) (node : SchemaNode) (key : Option String) :
    validator.validate node key =
      ⟨node.check (validator.find? key),
        [.sectionValidated node.name (node.check (validator.find? key)).length]⟩ := rfl

theorem settings_eq (validator : Validator) (node : SchemaNode) (key : Option String) :
    validator.settings node key =
      ⟨if (node.check (validator.find? key)).isEmpty then
          .ok (node.materialize (validator.find? key))
        else .error ⟨node.name, node.check (validator.find? key)⟩,
        [.sectionValidated node.name (node.check (validator.find? key)).length]⟩ := by
  simp only [settings, validate_eq, Traced.bind_def]
  split <;> rfl

/-! ## All sections -/

/-- The first pass: every section is validated, whatever was found before it. -/
theorem validateSections_eq (validator : Validator) (nodes : List SchemaNode) :
    validator.validateSections nodes =
      ⟨nodes.flatMap validator.faults,
        nodes.map fun node => .sectionValidated node.name (validator.faults node).length⟩ := by
  induction nodes with
  | nil => rfl
  | cons node rest ih =>
    rw [validateSections, ih, validate_eq]
    simp [faults, sectionOf, find?]

/-- The second pass, over sections in which nothing is wrong. -/
theorem resolveSections_eq {validator : Validator} {nodes : List SchemaNode}
    (valid : ∀ node ∈ nodes, validator.faults node = []) :
    validator.resolveSections nodes =
      ⟨.ok (nodes.map fun node => (node.name, node.materialize (validator.sectionOf node))),
        nodes.map fun node => .sectionValidated node.name 0⟩ := by
  induction nodes with
  | nil => rfl
  | cons node rest ih =>
    have found : node.check (validator.find? (some node.name)) = [] :=
      valid node List.mem_cons_self
    have ih := ih fun node later => valid node (List.mem_cons_of_mem _ later)
    rw [resolveSections, settings_eq, found, ih]
    simp [sectionOf, find?, Except.map]

theorem reportViolations_eq (violations : List Violation) :
    reportViolations violations = ⟨(), violations.map .violated⟩ := by
  induction violations with
  | nil => rfl
  | cons violation rest ih =>
    rw [reportViolations, ih]
    rfl

/-! ## Both passes -/

/-- A document in which nothing is wrong is resolved section by section. -/
theorem configure_of_valid {validator : Validator} {schema : RootSchema}
    (valid : ∀ node ∈ schema.properties, validator.faults node = []) :
    validator.configure schema =
      ⟨.ok ⟨schema.properties.map fun node =>
          (node.name, node.materialize (validator.sectionOf node))⟩,
        (schema.properties.map fun node => .sectionValidated node.name 0)
          ++ (schema.properties.map fun node => .sectionValidated node.name 0)
          ++ [.resolved schema.properties.length]⟩ := by
  have nothing : schema.properties.flatMap validator.faults = [] :=
    List.flatMap_eq_nil_iff.2 valid
  have counts : (schema.properties.map fun node =>
      Event.sectionValidated node.name (validator.faults node).length) =
        schema.properties.map fun node => .sectionValidated node.name 0 :=
    List.map_congr_left fun node mem => by rw [valid node mem, List.length_nil]
  rw [configure, validateRoot, validateSections_eq, nothing, counts]
  simp [resolveSections_eq valid]

/-- Otherwise all violations are reported and returned, and nothing is resolved. -/
theorem configure_of_invalid {validator : Validator} {schema : RootSchema}
    (invalid : schema.properties.flatMap validator.faults ≠ []) :
    validator.configure schema =
      ⟨.error (.validation (schema.properties.flatMap validator.faults)),
        (schema.properties.map fun node =>
            .sectionValidated node.name (validator.faults node).length)
          ++ .validationFailed (schema.properties.flatMap validator.faults).length
          :: (schema.properties.flatMap validator.faults).map .violated⟩ := by
  rw [configure, validateRoot, validateSections_eq]
  generalize schema.properties.flatMap validator.faults = violations at invalid ⊢
  simp [invalid, reportViolations_eq]

/-- A configuration holds the settings of every section, and nothing is wrong with any. -/
theorem sections_of_configure {validator : Validator} {schema : RootSchema}
    {configuration : Configuration}
    (resolved : (validator.configure schema).result = .ok configuration) :
    (∀ node ∈ schema.properties, validator.faults node = []) ∧
      configuration.sections = schema.properties.map fun node =>
        (node.name, node.materialize (validator.sectionOf node)) := by
  by_cases valid : ∀ node ∈ schema.properties, validator.faults node = []
  · rw [configure_of_valid valid] at resolved
    cases resolved
    exact ⟨valid, rfl⟩
  · have invalid : schema.properties.flatMap validator.faults ≠ [] :=
      fun nothing => valid (List.flatMap_eq_nil_iff.1 nothing)
    rw [configure_of_invalid invalid] at resolved
    cases resolved

/-- Two documents that give every section the same violations and the same settings have the same
configuration, or the same error, with the same events. -/
theorem configure_congr {first second : Validator} {schema : RootSchema}
    (faults : ∀ node ∈ schema.properties, first.faults node = second.faults node)
    (settings : ∀ node ∈ schema.properties,
      node.materialize (first.sectionOf node) = node.materialize (second.sectionOf node)) :
    first.configure schema = second.configure schema := by
  have allFaults :
      schema.properties.flatMap first.faults = schema.properties.flatMap second.faults :=
    List.flatMap_congr faults
  by_cases nothing : schema.properties.flatMap second.faults = []
  · have valid := List.flatMap_eq_nil_iff.1 (allFaults.trans nothing)
    have valid' := List.flatMap_eq_nil_iff.1 nothing
    have sections : (schema.properties.map fun node =>
        (node.name, node.materialize (first.sectionOf node))) =
          schema.properties.map fun node =>
            (node.name, node.materialize (second.sectionOf node)) :=
      List.map_congr_left fun node mem => by rw [settings node mem]
    rw [configure_of_valid valid, configure_of_valid valid', sections]
  · have something : schema.properties.flatMap first.faults ≠ [] :=
      fun nothing' => nothing (allFaults.symm.trans nothing')
    have counts : (schema.properties.map fun node =>
        Event.sectionValidated node.name (first.faults node).length) =
          schema.properties.map fun node =>
            .sectionValidated node.name (second.faults node).length :=
      List.map_congr_left fun node mem => by rw [faults node mem]
    rw [configure_of_invalid something, configure_of_invalid nothing, allFaults, counts]

/-- **Resolving is all or nothing.** There is a configuration exactly if nothing is wrong with any
section; it then holds the settings of every section in the order of the schema. Otherwise the error
holds the violations of all sections in that order, and it is never the error of a single section.
-/
theorem configure_all_or_nothing (validator : Validator) (schema : RootSchema) :
    ((∃ configuration, (validator.configure schema).result = .ok configuration) ↔
      ∀ node ∈ schema.properties, node.check (validator.document.member? node.name) = []) ∧
    (∀ configuration, (validator.configure schema).result = .ok configuration →
      configuration.sections = schema.properties.map fun node =>
        (node.name, node.materialize (validator.document.member? node.name))) ∧
    (∀ error, (validator.configure schema).result = .error error →
      error = .validation (schema.properties.flatMap fun node =>
        node.check (validator.document.member? node.name))) ∧
    ∀ error, (validator.configure schema).result ≠ .error (.section error) := by
  by_cases valid : ∀ node ∈ schema.properties, validator.faults node = []
  · rw [configure_of_valid valid]
    refine ⟨⟨fun _ => valid, fun _ => ⟨_, rfl⟩⟩, ?_, ?_, ?_⟩
    · rintro configuration ⟨⟩
      rfl
    · rintro error ⟨⟩
    · rintro error ⟨⟩
  · have invalid : schema.properties.flatMap validator.faults ≠ [] :=
      fun nothing => valid (List.flatMap_eq_nil_iff.1 nothing)
    rw [configure_of_invalid invalid]
    refine ⟨⟨?_, fun nothing => absurd nothing valid⟩, ?_, ?_, ?_⟩
    · rintro ⟨configuration, ⟨⟩⟩
    · rintro configuration ⟨⟩
    · rintro error ⟨⟩
      rfl
    · rintro error ⟨⟩

end Validator

end ConfigSchema
