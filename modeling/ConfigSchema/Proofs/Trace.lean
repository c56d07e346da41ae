import ConfigSchema.Proofs.Resolution
import Mathlib.Algebra.GroupWithZero.Nat

/-! # The trace of a resolution

The first pass logs one line for each section, with the number of its violations. If there are any,
one line says how many they are in all and one line each says what they are. If there are none, the
second pass logs the same lines as the first, and a last one says how many sections were resolved
(`Validator.configure_trace`). -/
namespace ConfigSchema

/-! ## Lines -/

/-- An event as it is logged. -/
structure LogLine where
  level : Level
  message : String
  fields : Members EventField
deriving DecidableEq

def Event.line (event : Event) : LogLine := ⟨event.level, event.message, event.fields⟩

namespace LogLine

/-- A section was validated. -/
def validated (name : String) (violations : Nat) : LogLine where
  level := .debug
  message := "validated configuration section"
  fields := [("section", .text name), ("violations", .count violations)]

def failed (violations : Nat) : LogLine where
  level := .error
  message := "Configuration validation failed"
  fields := [("violations", .count violations)]

def violated (violation : Violation) : LogLine where
  level := .error
  message := "- " ++ violation.message
  fields := []

def resolved (sections : Nat) : LogLine where
  level := .debug
  message := "configuration resolved"
  fields := [("sections", .count sections)]

end LogLine

namespace Event

@[simp] theorem line_sectionValidated (name : String) (violations : Nat) :
    (sectionValidated name violations).line = .validated name violations := rfl

@[simp] theorem line_validationFailed (violations : Nat) :
    (validationFailed violations).line = .failed violations := rfl

@[simp] theorem line_violated (violation : Violation) :
    (violated violation).line = .violated violation := rfl

@[simp] theorem line_resolved (sections : Nat) : (resolved sections).line = .resolved sections :=
  rfl

end Event

/-! ## Both outcomes -/

namespace Validator

section
variable {validator : Validator} {schema : RootSchema}

/-- If nothing is wrong anywhere, every section is logged with no violations. -/
theorem validated_of_valid (valid : ∀ node ∈ schema.properties, validator.faults node = []) :
    (schema.properties.map fun node =>
        LogLine.validated node.name (validator.faults node).length) =
      schema.properties.map fun node => .validated node.name 0 := by
  apply List.map_congr_left
  intro node mem
  rw [valid node mem, List.length_nil]

/-- Violations are logged one by one after their number, and nothing after them. -/
theorem lines_of_invalid (invalid : schema.properties.flatMap validator.faults ≠ []) :
    (validator.configure schema).events.map Event.line =
      (schema.properties.map fun node => .validated node.name (validator.faults node).length)
        ++ .failed (schema.properties.flatMap validator.faults).length
        :: (schema.properties.flatMap validator.faults).map LogLine.violated := by
  rw [configure_of_invalid invalid]
  simp [Function.comp_def]

/-- Without violations both passes log the same lines, and a last line follows. -/
theorem lines_of_valid (valid : ∀ node ∈ schema.properties, validator.faults node = []) :
    (validator.configure schema).events.map Event.line =
      (schema.properties.map fun node => .validated node.name 0)
        ++ (schema.properties.map fun node => .validated node.name 0)
        ++ [.resolved schema.properties.length] := by
  rw [configure_of_valid valid]
  simp [Function.comp_def]

/-- A run without violations logs no error. -/
theorem level_of_valid (valid : ∀ node ∈ schema.properties, validator.faults node = []) :
    ∀ line ∈ (validator.configure schema).events.map Event.line, line.level = .debug := by
  rw [lines_of_valid valid]
  intro line mem
  simp only [List.mem_append, List.mem_map, List.mem_singleton] at mem
  rcases mem with (⟨node, -, rfl⟩ | ⟨node, -, rfl⟩) | rfl
  · rfl
  · rfl
  · rfl

end

/-- **The log tells what happened.** It begins with one line for each section in the order of the
schema, with the number of its violations. If these make more than zero together, their sum follows
as an error, it is the number of violations returned, and each of these follows as an error in the
same order. If they make zero, the lines of the sections follow once more, and then the number of
sections, which is the size of the configuration returned; and no line is an error. -/
theorem configure_trace (validator : Validator) (schema : RootSchema) :
    let violations (node : SchemaNode) := node.check (validator.document.member? node.name)
    let total := (schema.properties.map fun node => (violations node).length).sum
    let validated := schema.properties.map fun node =>
      LogLine.validated node.name (violations node).length
    let lines := (validator.configure schema).events.map Event.line
    (0 < total → ∃ returned,
      (validator.configure schema).result = .error (.validation returned) ∧
        returned.length = total ∧
        lines = validated ++ .failed total :: returned.map LogLine.violated) ∧
    (total = 0 → ∃ configuration,
      (validator.configure schema).result = .ok configuration ∧
        configuration.size = schema.properties.length ∧
        lines = validated ++ (schema.properties.map fun node => .validated node.name 0)
          ++ [.resolved configuration.size] ∧
        ∀ line ∈ lines, line.level ≠ .error) := by
  intro violations total validated lines
  have total_eq : (schema.properties.flatMap validator.faults).length = total := by
    rw [List.length_flatMap]
    rfl
  constructor
  · intro some
    have invalid : schema.properties.flatMap validator.faults ≠ [] := by
      intro nothing
      rw [nothing, List.length_nil] at total_eq
      omega
    refine ⟨schema.properties.flatMap validator.faults, ?_, total_eq, ?_⟩
    · rw [configure_of_invalid invalid]
    · rw [← total_eq]
      exact lines_of_invalid invalid
  · intro none
    have nothing : schema.properties.flatMap validator.faults = [] := by
      rw [none, List.length_eq_zero_iff] at total_eq
      exact total_eq
    have valid := List.flatMap_eq_nil_iff.1 nothing
    have again : validated = schema.properties.map fun node => .validated node.name 0 :=
      validated_of_valid valid
    refine ⟨⟨schema.properties.map fun node =>
      (node.name, node.materialize (validator.sectionOf node))⟩, ?_, ?_, ?_, ?_⟩
    · rw [configure_of_valid valid]
    · rw [Configuration.size, List.length_map]
    · rw [again, Configuration.size, List.length_map]
      exact lines_of_valid valid
    · intro line mem
      rw [level_of_valid valid line mem]
      nofun

/-- A section with a port that must be given, and one with a level. -/
def portAndLevel : RootSchema where
  properties :=
    [.object { name := "app" } [.number { name := "port", presence := .required } {}],
      .object { name := "log" } [.string { name := "level" } {}]]

/-- Two faults in two sections, and a run without any. -/
theorem configure_trace_portAndLevel :
    let faulty : Validator := ⟨.object [("app", .object []), ("log", .object [("level", .null)])]⟩
    let valid : Validator := ⟨.object [("app", .object [("port", .ofUInt64 80)])]⟩
    (∃ returned, (faulty.configure portAndLevel).result = .error (.validation returned) ∧
      (faulty.configure portAndLevel).events.map Event.line =
        [.validated "app" 1, .validated "log" 1, .failed 2] ++ returned.map LogLine.violated) ∧
    ∃ configuration, (valid.configure portAndLevel).result = .ok configuration ∧
      (valid.configure portAndLevel).events.map Event.line =
        [.validated "app" 0, .validated "log" 0, .validated "app" 0, .validated "log" 0,
          .resolved 2] := by
  intro faulty valid
  obtain ⟨some, -⟩ := configure_trace faulty portAndLevel
  obtain ⟨returned, failed, -, trace⟩ := some (by decide)
  obtain ⟨-, none⟩ := configure_trace valid portAndLevel
  obtain ⟨configuration, resolved, size, trace', -⟩ := none (by decide)
  rw [size] at trace'
  exact ⟨⟨returned, failed, trace⟩, configuration, resolved, trace'⟩

end Validator

end ConfigSchema
