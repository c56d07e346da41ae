import ConfigSchema.Event
import ConfigSchema.Settings
import ConfigSchema.Validation

/-! # Validators (`ConfigValidator`) -/
namespace ConfigSchema

/-- A section has no settings for there is something wrong with it (`ValidationError`). -/
structure SectionError where
  schemaName : String
  violations : List Violation
deriving DecidableEq

def SectionError.message (e : SectionError) : String :=
  "Configuration validation failed for " ++ e.schemaName ++ ": " ++ Violation.summary e.violations

/-- A configuration document to be validated (`ConfigValidator`). No call changes it, so every call
sees the same input. -/
structure Validator where
  document : Json

namespace Validator

/-- The section of a key; without a key the whole document (`section`). -/
def find? (validator : Validator) (key : Option String) : Option Json :=
  match key with
  | some key => validator.document.member? key
  | none => some validator.document

/-- What is wrong with a section (`validate_schema`). -/
def validate (validator : Validator) (node : SchemaNode) (key : Option String) :
    Traced (List Violation) := do
  let violations := node.check (validator.find? key)
  Traced.emit (.sectionValidated node.name violations.length)
  return violations

/-- The settings of a section, if nothing is wrong with it (`validated_config`). -/
def settings (validator : Validator) (node : SchemaNode) (key : Option String) :
    Traced (Except SectionError Settings) := do
  let violations ← validator.validate node key
  if violations.isEmpty then return .ok (node.materialize (validator.find? key))
  return .error ⟨node.name, violations⟩

/-- The loop of `validate_root_schema`: each section under its own name. -/
def validateSections (validator : Validator) : List SchemaNode → Traced (List Violation)
  | [] => return []
  | node :: rest => do
    let violations ← validator.validate node (some node.name)
    return violations ++ (← validator.validateSections rest)

/-- What is wrong with the sections of a schema (`validate_root_schema`). -/
def validateRoot (validator : Validator) (schema : RootSchema) : Traced (List Violation) :=
  validator.validateSections schema.properties

end Validator

end ConfigSchema
