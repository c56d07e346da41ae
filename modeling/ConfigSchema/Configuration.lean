import ConfigSchema.Schema.Error
import ConfigSchema.Validator

/-! # Configurations (`configure`)

All sections of a document are validated first, and only if nothing is wrong anywhere are they
resolved. -/
namespace ConfigSchema

/-- Why there is no configuration, or no view of one. -/
inductive ConfigError
  | schemaLoad (path reason : String)
  | schema (error : SchemaError)
  | validation (violations : List Violation)
  | section (error : SectionError)
  | unknownSection (name : String)
  | deserialize (name : String) (reason : DecodeError)
deriving DecidableEq

def ConfigError.message : ConfigError → String
  | schemaLoad path reason => "schema load error for '" ++ path ++ "': " ++ reason
  | schema error => error.message
  | validation violations => "Configuration validation failed: " ++ Violation.summary violations
  | «section» error => error.message
  | unknownSection name => "unknown configuration section '" ++ name ++ "'"
  | deserialize name reason =>
    "section '" ++ name ++ "' could not be deserialized: " ++ reason.message

/-- The settings of every section, in the order of the schema (`ResolvedConfig`). -/
structure Configuration where
  sections : Members Settings := []

namespace Configuration

/-- The settings of a section (`section`). -/
def find? (configuration : Configuration) (name : String) : Option Settings :=
  Members.get? configuration.sections name

def names (configuration : Configuration) : List String := configuration.sections.map Prod.fst

def size (configuration : Configuration) : Nat := configuration.sections.length

def isEmpty (configuration : Configuration) : Bool := configuration.sections.isEmpty

/-- The configuration as `serialize` hands it over, section by section in the order of the schema.
-/
def emission (configuration : Configuration) : Emission (Emission Json) where
  announced := configuration.sections.length
  entries := configuration.sections.map fun (name, settings) => (name, settings.emission)

/-- The configuration in the order of the schema, as a text of it has it. -/
def written (configuration : Configuration) : Json :=
  .object (configuration.emission.entries.map fun (name, inner) => (name, .object inner.entries))

/-- The configuration as a document (`to_json`). -/
def toJson (configuration : Configuration) : Json :=
  .object (Members.sorted
    (configuration.sections.map fun (name, settings) => (name, settings.toJson)))

/-- A section as a value of some type (`section_as`). -/
def decode {α : Type} (configuration : Configuration) (value : Json → Decoded α) (name : String) :
    Except ConfigError α :=
  match configuration.find? name with
  | some settings => (value settings.toJson).mapError (.deserialize name)
  | none => .error (.unknownSection name)

end Configuration

/-! ## Resolving -/

namespace Validator

/-- The second loop of `configure`; the first section that has no settings ends it. -/
def resolveSections (validator : Validator) :
    List SchemaNode → Traced (Except ConfigError (Members Settings))
  | [] => return .ok []
  | node :: rest => do
    match ← validator.settings node (some node.name) with
    | .error error =>
      Traced.emit (.sectionFailed node.name error.message)
      return .error (.section error)
    | .ok settings =>
      return (← validator.resolveSections rest).map ((node.name, settings) :: ·)

def reportViolations : List Violation → Traced Unit
  | [] => return ()
  | violation :: rest => do
    Traced.emit (.violated violation)
    reportViolations rest

/-- The configuration that a schema makes of the document, or everything that is wrong with it
(`configure`). -/
def configure (validator : Validator) (schema : RootSchema) :
    Traced (Except ConfigError Configuration) := do
  let violations ← validator.validateRoot schema
  if violations.isEmpty then
    match ← validator.resolveSections schema.properties with
    | .error error => return .error error
    | .ok sections =>
      Traced.emit (.resolved sections.length)
      return .ok ⟨sections⟩
  else
    Traced.emit (.validationFailed violations.length)
    reportViolations violations
    return .error (.validation violations)

end Validator

end ConfigSchema
