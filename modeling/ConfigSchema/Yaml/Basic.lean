import ConfigSchema.Json.Basic

namespace ConfigSchema

inductive YamlNumber
  | integer (n : Integer64)
  | double (x : ExtendedDouble)
deriving DecidableEq

/-- A YAML value. A mapping keeps its entries in order, and its keys can be any values. -/
inductive Yaml
  | null
  | bool (value : Bool)
  | number (value : YamlNumber)
  | string (value : String)
  | sequence (items : List Yaml)
  | mapping (entries : List (Yaml × Yaml))
  | tagged (tag : String) (value : Yaml)

end ConfigSchema
