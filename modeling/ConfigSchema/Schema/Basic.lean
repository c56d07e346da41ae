import ConfigSchema.Kind

/-! # Schemas -/
namespace ConfigSchema

/-! ## Presence -/

/-- Whether a property must be given, or what stands for it when it is not. A property that is both
required and defaulted cannot be written down. -/
inductive Presence (α : Type)
  | required
  | optional (default : Option α)
deriving DecidableEq, Repr

namespace Presence

variable {α : Type}

def isRequired : Presence α → Bool
  | required => true
  | optional _ => false

/-- The declared default (`default_value`). -/
def default? : Presence α → Option α
  | required => none
  | optional default => default

end Presence

/-! ## Properties -/

/-- What nodes of every kind declare. -/
structure Declaration (α : Type) where
  name : String
  description : Option String := none
  presence : Presence α := .optional none
deriving DecidableEq

/-- What a `StringNode` has besides. Bounds on the length, in characters, are inclusive. -/
structure StringRules where
  minLength : Option UInt64 := none
  maxLength : Option UInt64 := none
  pattern : Option String := none
  examples : List String := []
deriving DecidableEq

/-- What a `NumberNode` has besides. Bounds are inclusive. -/
structure NumberRules where
  min : Option ExtendedDouble := none
  max : Option ExtendedDouble := none
  examples : List Number := []
deriving DecidableEq

/-- What an `EnumNode` has besides: its literals, in order and never empty. The default and the
examples should belong to them; whether they do is a matter for validation. -/
structure EnumRules where
  allowed : List String
  allowed_ne_nil : allowed ≠ []
  examples : List String := []
deriving DecidableEq

/-- Whether a literal belongs to the set (`allows`). -/
def EnumRules.allows (rules : EnumRules) (candidate : String) : Bool :=
  rules.allowed.contains candidate

/-- A declared property: what every property declares, and what its kind adds. -/
inductive SchemaNode
  | string (node : Declaration String) (rules : StringRules)
  | number (node : Declaration Number) (rules : NumberRules)
  | boolean (node : Declaration Bool) (examples : List Bool)
  | enum (node : Declaration String) (rules : EnumRules)
  | object (node : Declaration (Members Json)) (properties : List SchemaNode)

namespace SchemaNode

def name : SchemaNode → String
  | string node _ => node.name
  | number node _ => node.name
  | boolean node _ => node.name
  | enum node _ => node.name
  | object node _ => node.name

def description : SchemaNode → Option String
  | string node _ => node.description
  | number node _ => node.description
  | boolean node _ => node.description
  | enum node _ => node.description
  | object node _ => node.description

def isRequired : SchemaNode → Bool
  | string node _ => node.presence.isRequired
  | number node _ => node.presence.isRequired
  | boolean node _ => node.presence.isRequired
  | enum node _ => node.presence.isRequired
  | object node _ => node.presence.isRequired

def kind : SchemaNode → SchemaKind
  | string _ _ => .string
  | number _ _ => .number
  | boolean _ _ => .boolean
  | enum _ _ => .enum
  | object _ _ => .object

/-- The declared default as a document (`default_json`). -/
def defaultJson : SchemaNode → Option Json
  | string node _ => node.presence.default?.map .string
  | number node _ => node.presence.default?.map .number
  | boolean node _ => node.presence.default?.map .bool
  | enum node _ => node.presence.default?.map .string
  | object node _ => node.presence.default?.map .object

/-- The properties of an object; other kinds have none. -/
def properties : SchemaNode → List SchemaNode
  | object _ properties => properties
  | string _ _ | number _ _ | boolean _ _ | enum _ _ => []

end SchemaNode

/-! ## Root schemas -/

/-- A whole schema: one property for each section of a configuration. -/
structure RootSchema where
  description : String := ""
  properties : List SchemaNode := []

namespace RootSchema

/-- The section of a name, the first one of several (`section`). -/
def find? (schema : RootSchema) (name : String) : Option SchemaNode :=
  schema.properties.find? fun node => node.name == name

/-- Whether a schema says nothing at all. -/
def isDefault (schema : RootSchema) : Bool :=
  schema.description.isEmpty && schema.properties.isEmpty

end RootSchema

end ConfigSchema
