import ConfigSchema.Configuration
import ConfigSchema.Schema.Reader
import ConfigSchema.Source.Document
import ConfigSchema.Text.Properties

/-! # Loading configurations and schemas (`load_config`, `load_root_schema`)

Loading a configuration never fails: a file that is missing or of no use leaves an empty document
and a warning. A schema file that cannot be loaded is an error. -/
namespace ConfigSchema

/-- The environment variable that names the configuration file. -/
def configVariable : String := "CFGVAL_CONFIG"

def configFileName : String := "config.json"

/-- What the loader can see: the files, and the value of the environment variable. -/
structure Environment where
  files : FileSystem := {}
  setting : Option ByteArray := none

/-! ## Finding the file -/

/-- How the path was chosen (`ConfigOrigin`). -/
inductive PathOrigin
  | explicit | environment | workingDirectory
deriving DecidableEq, Repr

def PathOrigin.name : PathOrigin → String
  | explicit => "explicit path"
  | environment => "environment variable"
  | workingDirectory => "working directory"

/-- The path that the environment variable names. A value that is no text or blank names none. -/
def Environment.namedPath? (environment : Environment) : Option String :=
  (environment.setting.bind String.fromUTF8?).filter fun path => !Text.isBlank path

/-- The path of the configuration file, and how it was chosen (`resolve_config_path`): the explicit
one, the one of the environment variable, or the usual name in the working directory. -/
def Environment.configPath (environment : Environment) (explicit : Option String) :
    String × PathOrigin :=
  match explicit, environment.namedPath? with
  | some path, _ => (path, .explicit)
  | none, some path => (path, .environment)
  | none, none =>
    match environment.files.currentDirectory? with
    | some directory => (Path.join directory configFileName, .workingDirectory)
    | none => (configFileName, .workingDirectory)

/-! ## Reading it -/

inductive LoadStatus
  | loaded
  | notFound
  | unusable (reason : DocumentError)
deriving DecidableEq

/-- The document of a configuration file and what became of the file, an empty one unless it was
loaded. -/
structure ConfigDocument where
  value : Json
  status : LoadStatus

section
variable [TextParsers]

namespace FileSystem

/-- The document in a configuration file, which must be an object: the second half of
`read_config_file`. -/
def readObject (files : FileSystem) (path : String) : Except DocumentError Json := do
  match ← files.readDocument path with
  | .object members => return .object members
  | other => .error (.notObject other.kind)

/-- Reads a configuration file (`read_config_file`). Whatever is wrong with it, there is a document.
-/
def readConfig (files : FileSystem) (path : String) : Traced ConfigDocument :=
  if files.pathExists path then
    match files.readObject path with
    | .ok value => return ⟨value, .loaded⟩
    | .error reason => do
      Traced.emit (.fileUnusable path reason.message)
      return ⟨.object [], .unusable reason⟩
  else do
    Traced.emit (.fileMissing path)
    return ⟨.object [], .notFound⟩

/-- Loads a schema file (`load_root_schema`). -/
def loadSchema (files : FileSystem) (path : String) : Except ConfigError RootSchema := do
  let document ← (files.readDocument path).mapError fun reason => .schemaLoad path reason.message
  (RootSchema.ofJson document).mapError .schema

end FileSystem

end

/-- A configuration that has been loaded: from where, and with what result. -/
structure LoadedConfig where
  path : String
  origin : PathOrigin
  document : ConfigDocument

/-- Its validator (`into_validator`). -/
def LoadedConfig.validator (loaded : LoadedConfig) : Validator := ⟨loaded.document.value⟩

namespace Environment

variable [TextParsers]

/-- Chooses the path of the configuration file and reads it (`load_config`). -/
def loadConfig (environment : Environment) (explicit : Option String) : Traced LoadedConfig := do
  let (path, origin) := environment.configPath explicit
  Traced.emit (.pathChosen path origin.name)
  return ⟨path, origin, ← environment.files.readConfig path⟩

/-- Loads the configuration file and resolves it against a schema (`configure_from_path`). -/
def configure (environment : Environment) (schema : RootSchema) (explicit : Option String) :
    Traced (Except ConfigError Configuration) := do
  let loaded ← environment.loadConfig explicit
  loaded.validator.configure schema

end Environment

end ConfigSchema
