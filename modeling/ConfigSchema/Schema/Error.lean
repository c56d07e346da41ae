import ConfigSchema.Json.Decode
import ConfigSchema.Schema.Names

/-! # Why a schema is refused -/
namespace ConfigSchema

/-- Why a schema is refused. `from_value` gives the first two only as the reason of a `parse`. -/
inductive SchemaError
  | requiredWithDefault
  | emptyEnum
  | duplicateProperty (duplicate : DuplicateName)
  | parse (reason : DecodeError)
deriving DecidableEq

def SchemaError.message : SchemaError → String
  | requiredWithDefault => DecodeError.requiredWithDefault.message
  | emptyEnum => DecodeError.emptyEnum.message
  | duplicateProperty duplicate =>
    "duplicate property '" ++ duplicate.name ++ "' in '" ++ duplicate.parent ++ "'"
  | parse reason => "schema parse error: " ++ reason.message

end ConfigSchema
