import ConfigSchema.Json.Basic

/-! # The kinds of values and of properties -/
namespace ConfigSchema

inductive ValueKind
  | string | number | boolean | object | array | null
deriving DecidableEq, Repr

namespace ValueKind

def all : List ValueKind := [string, number, boolean, object, array, null]

/-- The name of a kind (`as_str`). -/
def name : ValueKind → String
  | string => "string"
  | number => "number"
  | boolean => "boolean"
  | object => "object"
  | array => "array"
  | null => "null"

/-- The name with its article, as type mismatches word it (`with_article`). -/
def withArticle : ValueKind → String
  | string => "a string"
  | number => "a number"
  | boolean => "a boolean"
  | object => "an object"
  | array => "an array"
  | null => "null"

end ValueKind

/-- The kind of a document (`ValueKind.of`). -/
def Json.kind : Json → ValueKind
  | .null => .null
  | .bool _ => .boolean
  | .number _ => .number
  | .string _ => .string
  | .array _ => .array
  | .object _ => .object

/-- The kinds of properties that a schema can declare. -/
inductive SchemaKind
  | string | number | boolean | enum | object
deriving DecidableEq, Repr

namespace SchemaKind

/-- In the order in which numbers stand for them. -/
def all : List SchemaKind := [string, number, boolean, enum, object]

/-- The value of `type` in a schema. -/
def name : SchemaKind → String
  | string => "string"
  | number => "number"
  | boolean => "boolean"
  | enum => "enum"
  | object => "object"

end SchemaKind

end ConfigSchema
