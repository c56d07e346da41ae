import ConfigSchema.Schema.Basic

/-! # Schemas as documents

A property gives its kind first, then its name and what else it declares, in a fixed order; what it
leaves open is left out, but an enum always gives its literals and an object its properties. -/
namespace ConfigSchema

/-- A member that is written only if it has a value. -/
def optionalMember {α : Type} (name : String) (toJson : α → Json) : Option α → Members Json
  | none => []
  | some value => [(name, toJson value)]

def listMember {α : Type} (name : String) (toJson : α → Json) (values : List α) : Members Json :=
  if values.isEmpty then [] else [(name, .array (values.map toJson))]

/-- The members that give a presence (`PresenceReprRef`). -/
def Presence.toMembers {α : Type} (toJson : α → Json) : Presence α → Members Json
  | .required => [("required", .bool true)]
  | .optional default => optionalMember "defaultValue" toJson default

/-- The members that every property has, after its kind. -/
def Declaration.toMembers {α : Type} (kind : SchemaKind) (toJson : α → Json)
    (node : Declaration α) : Members Json :=
  ("type", .string kind.name) :: ("name", .string node.name)
    :: (optionalMember "description" .string node.description ++ node.presence.toMembers toJson)

mutual

/-- The document of a property, as the derived `serialize` writes it. -/
def SchemaNode.toJson : SchemaNode → Json
  | .string node rules => .object <| node.toMembers .string .string
      ++ optionalMember "minLength" .ofUInt64 rules.minLength
      ++ optionalMember "maxLength" .ofUInt64 rules.maxLength
      ++ optionalMember "pattern" .string rules.pattern
      ++ listMember "examples" .string rules.examples
  | .number node rules => .object <| node.toMembers .number .number
      ++ optionalMember "min" .ofExtendedDouble rules.min
      ++ optionalMember "max" .ofExtendedDouble rules.max
      ++ listMember "examples" .number rules.examples
  | .boolean node examples => .object <| node.toMembers .boolean .bool
      ++ listMember "examples" .bool examples
  | .enum node rules => .object <| node.toMembers .enum .string
      ++ [("enum", .strings rules.allowed)] ++ listMember "examples" .string rules.examples
  | .object node properties => .object <| node.toMembers .object .object
      ++ [("properties", .array (SchemaNode.toJsonList properties))]

def SchemaNode.toJsonList : List SchemaNode → List Json
  | [] => []
  | node :: rest => node.toJson :: SchemaNode.toJsonList rest

end

def RootSchema.toJson (schema : RootSchema) : Json :=
  .object [("description", .string schema.description),
    ("properties", .array (SchemaNode.toJsonList schema.properties))]

end ConfigSchema
