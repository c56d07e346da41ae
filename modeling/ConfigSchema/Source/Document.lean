import ConfigSchema.Json.Parser
import ConfigSchema.Kind
import ConfigSchema.Source.FileSystem
import ConfigSchema.Yaml.Json
import ConfigSchema.Yaml.Reader

/-! # Documents in files (`parse_document`) -/
namespace ConfigSchema

inductive Format
  | json | yaml
deriving DecidableEq, Repr

namespace Format

def label : Format → String
  | json => "JSON"
  | yaml => "YAML"

/-- By the extension; whatever is not YAML is JSON. -/
def ofPath (path : String) : Format :=
  if Path.extension? path = some "yaml" || Path.extension? path = some "yml" then .yaml else .json

end Format

/-- Parsers of the two formats. What they make of a text is left open: whatever reads files takes
them as they are. One that fails may say what is wrong with the text. -/
class TextParsers where
  json : String → Except (Option String) Json
  yaml : String → Except (Option String) Yaml

/-- The parsers of this library. The one for YAML does not say what is wrong. -/
instance TextParsers.library : TextParsers where
  json text := (Json.ofText text).mapError fun error => some error.message
  yaml text := (Yaml.parse? text).elim (.error none) .ok

/-- Why a file gives no document, or none that can be a configuration. -/
inductive DocumentError
  | unreadable (error : FileError)
  | malformed (format : Format) (detail : Option String)
  | unrepresentable (fault : YamlFault)
  | notObject (kind : ValueKind)
deriving DecidableEq

def DocumentError.message : DocumentError → String
  | unreadable error => "cannot read file: " ++ error.message
  | malformed format (some detail) => "invalid " ++ format.label ++ ": " ++ detail
  | malformed format none => "invalid " ++ format.label
  | unrepresentable fault => fault.message
  | notObject kind => "expected a top-level object, found " ++ kind.name

section
variable [TextParsers]

/-- The document that a text holds (`parse_document`). -/
def Format.parse (text : String) : Format → Except DocumentError Json
  | json => (TextParsers.json text).mapError (.malformed .json)
  | yaml => do
    let value ← (TextParsers.yaml text).mapError (.malformed .yaml)
    (value.toJson "").mapError .unrepresentable

/-- Reads a file and parses it, as `load_root_schema` and `read_config_file` both do. -/
def FileSystem.readDocument (files : FileSystem) (path : String) : Except DocumentError Json := do
  let text ← (files.readText path).mapError .unreadable
  (Format.ofPath path).parse text

end

end ConfigSchema
