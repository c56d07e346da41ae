import ConfigSchema.Schema.Basic

/-! # Building properties

A declaration starts with a name and nothing else; each function here sets one thing. -/
namespace ConfigSchema

namespace Declaration

variable {α : Type}

/-- Makes the property required and drops its default (`required`). -/
def required (node : Declaration α) : Declaration α := { node with presence := .required }

def described (node : Declaration α) (description : String) : Declaration α :=
  { node with description := some description }

/-- Makes the property optional with a default (`with_default`). -/
def withDefault (node : Declaration α) (value : α) : Declaration α :=
  { node with presence := .optional (some value) }

end Declaration

/-- Enum rules over some literals, of which there must be one (`EnumNode.new`). -/
def EnumRules.ofAllowed? (allowed : List String) : Option EnumRules :=
  if h : allowed ≠ [] then some ⟨allowed, h, []⟩ else none

/-- Other examples (`examples`); whether they belong to the set is not checked here. -/
def EnumRules.withExamples (rules : EnumRules) (examples : List String) : EnumRules :=
  { rules with examples }

namespace StringRules

def withMinLength (rules : StringRules) (length : UInt64) : StringRules :=
  { rules with minLength := some length }

def withMaxLength (rules : StringRules) (length : UInt64) : StringRules :=
  { rules with maxLength := some length }

def withPattern (rules : StringRules) (pattern : String) : StringRules :=
  { rules with pattern := some pattern }

end StringRules

/-- Sets both bounds (`range`). -/
def NumberRules.withRange (rules : NumberRules) (min max : ExtendedDouble) : NumberRules :=
  { rules with min := some min, max := some max }

namespace SchemaNode

def required : SchemaNode → SchemaNode
  | string node rules => string node.required rules
  | number node rules => number node.required rules
  | boolean node examples => boolean node.required examples
  | enum node rules => enum node.required rules
  | object node properties => object node.required properties

def described (description : String) : SchemaNode → SchemaNode
  | string node rules => string (node.described description) rules
  | number node rules => number (node.described description) rules
  | boolean node examples => boolean (node.described description) examples
  | enum node rules => enum (node.described description) rules
  | object node properties => object (node.described description) properties

end SchemaNode

end ConfigSchema
