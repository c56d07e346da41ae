import ConfigSchema.Schema.Builder
import ConfigSchema.Schema.Error

/-! # Reading schemas (`from_value`)

The kind of a property is looked up before anything else. Then its own fields are read in the order
of the document; a missing field is noticed after them, and the presence, which stands in the same
object, comes last. -/
namespace ConfigSchema

/-! ## Kinds -/

/-- Where a property stands. Below a section the number of a kind does for its name: there a
property is read from a copy of the document, where both are accepted. -/
inductive NodePlace
  | section
  | nested
deriving DecidableEq

namespace SchemaKind

def ofName (name : String) : Decoded SchemaKind :=
  match all.find? fun kind => kind.name == name with
  | some kind => .ok kind
  | none => .error (.unknownKind name (all.map SchemaKind.name))

def ofJson (place : NodePlace) : Json → Decoded SchemaKind
  | .string name => ofName name
  | .number (.integer n) =>
    if place = .nested ∧ 0 ≤ n.val then
      match all[n.val.toNat]? with
      | some kind => .ok kind
      | none => .error (.wrongValue (.integer n.val) (.kindIndex all.length))
    else .error (.wrongType (.integer n.val) .kindName)
  | other => other.mistyped .kindName

/-- The kind that the members of a property give; only one may. -/
def ofMembers (place : NodePlace) : Option SchemaKind → Members Json → Decoded SchemaKind
  | none, [] => .error (.missingField "type")
  | some kind, [] => .ok kind
  | found, (name, value) :: rest =>
    if name = "type" then
      match found with
      | some _ => .error (.duplicateField "type")
      | none =>
        match ofJson place value with
        | .error reason => .error reason
        | .ok kind => ofMembers place (some kind) rest
    else ofMembers place found rest

/-- The node type of a kind, as messages call it. -/
def recordName : SchemaKind → String
  | string => "StringNode"
  | number => "NumberNode"
  | boolean => "BooleanNode"
  | enum => "EnumNode"
  | object => "ObjectNode"

end SchemaKind

/-! ## Presence -/

/-- The two fields of a presence, as far as they were given (`PresenceRepr`). -/
structure PresenceFields (α : Type) where
  required : Bool := false
  default : Option α := none

namespace PresenceFields

variable {α : Type}

def field (value : Json → Decoded α) (fields : PresenceFields α) (name : String) (document : Json) :
    Option (Decoded (PresenceFields α)) :=
  if name = "required" then
    some do return { fields with required := ← document.toFlag }
  else if name = "defaultValue" then
    some do return { fields with default := ← document.toOption value }
  else none

/-- The presence that two fields declare, unless they contradict each other. -/
def toPresence : PresenceFields α → Decoded (Presence α)
  | ⟨true, some _⟩ => .error .requiredWithDefault
  | ⟨true, none⟩ => .ok .required
  | ⟨false, default⟩ => .ok (.optional default)

end PresenceFields

namespace Presence

variable {α : Type}

/-- The presence declared among the members of an object. -/
def ofMembers (value : Json → Decoded α) (members : Members Json) : Decoded (Presence α) := do
  (← Json.decodeMembers (PresenceFields.field value) [] {} members).toPresence

/-- The presence that a document of its own declares. An array gives both fields in order. -/
def ofJson (value : Json → Decoded α) : Json → Decoded (Presence α)
  | .object members => ofMembers value members
  | .array [] => .error (.wrongLength 1 (.recordOf "PresenceRepr" 2))
  | .array [flag] => do
    let _ ← flag.toFlag
    .error (.wrongLength 1 (.recordOf "PresenceRepr" 2))
  | .array (flag :: default :: rest) => do
    let fields : PresenceFields α := ⟨← flag.toFlag, ← default.toOption value⟩
    if rest.isEmpty then fields.toPresence
    else .error (.wrongLength (rest.length + 2) .fewerItems)
  | other => other.mistyped (.record "PresenceRepr")

end Presence

/-! ## Properties -/

/-- A field of a property: its document and, where it lists properties, those. -/
structure NodeField where
  document : Json
  properties : Decoded (List SchemaNode)

/-- What has been read of a property so far. -/
structure NodeDraft (ρ : Type) where
  name : Option String := none
  description : Option String := none
  rules : ρ

namespace NodeDraft

variable {ρ α : Type}

def field (ruleField : ρ → String → NodeField → Option (Decoded ρ)) (draft : NodeDraft ρ)
    (name : String) (value : NodeField) : Option (Decoded (NodeDraft ρ)) :=
  if name = "name" then
    some do return { draft with name := some (← value.document.toText) }
  else if name = "description" then
    some do return { draft with description := ← value.document.toOption Json.toText }
  else (ruleField draft.rules name value).map fun rules => do
    return { draft with rules := ← rules }

def ofFields (ruleField : ρ → String → NodeField → Option (Decoded ρ)) (rules : ρ)
    (fields : Members NodeField) : Decoded (NodeDraft ρ) :=
  Json.decodeMembers (field ruleField) [] { rules } fields

/-- The declaration of a property: its fields, then its presence. -/
def declaration (draft : NodeDraft ρ) (name : String) (value : Json → Decoded α)
    (fields : Members NodeField) : Decoded (Declaration α) := do
  let presence ← Presence.ofMembers value (fields.map fun (key, field) => (key, field.document))
  return { name, description := draft.description, presence }

end NodeDraft

def StringRules.field (rules : StringRules) (name : String) (value : NodeField) :
    Option (Decoded StringRules) :=
  if name = "minLength" then
    some do return { rules with minLength := ← value.document.toOption Json.toLength }
  else if name = "maxLength" then
    some do return { rules with maxLength := ← value.document.toOption Json.toLength }
  else if name = "pattern" then
    some do return { rules with pattern := ← value.document.toOption Json.toText }
  else if name = "examples" then
    some do return { rules with examples := ← value.document.toList Json.toText }
  else none

def NumberRules.field (rules : NumberRules) (name : String) (value : NodeField) :
    Option (Decoded NumberRules) :=
  if name = "min" then
    some do return { rules with min := ← value.document.toOption Json.toBound }
  else if name = "max" then
    some do return { rules with max := ← value.document.toOption Json.toBound }
  else if name = "examples" then
    some do return { rules with examples := ← value.document.toList Json.toNumber }
  else none

def booleanField (_ : List Bool) (name : String) (value : NodeField) :
    Option (Decoded (List Bool)) :=
  if name = "examples" then some (value.document.toList Json.toFlag) else none

/-- What has been read of an enum. The literals must not be empty (`non_empty_enum`). -/
structure EnumDraft where
  rules : Option EnumRules := none
  examples : List String := []

def EnumDraft.field (draft : EnumDraft) (name : String) (value : NodeField) :
    Option (Decoded EnumDraft) :=
  if name = "enum" then
    some do
      match EnumRules.ofAllowed? (← value.document.toList Json.toText) with
      | some rules => return { draft with rules := some rules }
      | none => .error .emptyEnum
  else if name = "examples" then
    some do return { draft with examples := ← value.document.toList Json.toText }
  else none

def objectField (_ : List SchemaNode) (name : String) (value : NodeField) :
    Option (Decoded (List SchemaNode)) :=
  if name = "properties" then some value.properties else none

/-- The property of a kind that some fields declare. -/
def SchemaNode.ofFields (fields : Members NodeField) : SchemaKind → Decoded SchemaNode
  | .string => do
    let draft ← NodeDraft.ofFields StringRules.field {} fields
    let name ← Json.require "name" draft.name
    return .string (← draft.declaration name Json.toText fields) draft.rules
  | .number => do
    let draft ← NodeDraft.ofFields NumberRules.field {} fields
    let name ← Json.require "name" draft.name
    return .number (← draft.declaration name Json.toNumber fields) draft.rules
  | .boolean => do
    let draft ← NodeDraft.ofFields booleanField [] fields
    let name ← Json.require "name" draft.name
    return .boolean (← draft.declaration name Json.toFlag fields) draft.rules
  | .enum => do
    let draft ← NodeDraft.ofFields EnumDraft.field {} fields
    let name ← Json.require "name" draft.name
    let rules ← Json.require "enum" draft.rules.rules
    return .enum (← draft.declaration name Json.toText fields)
      { rules with examples := draft.rules.examples }
  | .object => do
    let draft ← NodeDraft.ofFields objectField [] fields
    let name ← Json.require "name" draft.name
    return .object (← draft.declaration name Json.toMembers fields) draft.rules

mutual

/-- The property that a document declares. -/
def SchemaNode.ofJson (place : NodePlace) : Json → Decoded SchemaNode
  | .object members => do
    let kind ← SchemaKind.ofMembers place none members
    SchemaNode.ofFields (nodeFields members) kind
  | .array [] => .error (.missingField "type")
  | .array (kind :: _) => do
    .error (.wrongType .array (.record (← SchemaKind.ofJson place kind).recordName))
  | other => other.mistyped .property

def nodeFields : List (String × Json) → Members NodeField
  | [] => []
  | (name, document) :: rest =>
    (name, ⟨document, if name = "properties" then propertiesOf document else .ok []⟩)
      :: nodeFields rest

def propertiesOf : Json → Decoded (List SchemaNode)
  | .array items => nestedNodes items
  | other => other.mistyped .array

def nestedNodes : List Json → Decoded (List SchemaNode)
  | [] => .ok []
  | item :: rest => do
    let node ← SchemaNode.ofJson .nested item
    return node :: (← nestedNodes rest)

end

/-! ## Root schemas -/

namespace RootSchema

def field (schema : RootSchema) (name : String) (document : Json) : Option (Decoded RootSchema) :=
  if name = "description" then
    some do return { schema with description := ← document.toText }
  else if name = "properties" then
    some do return { schema with properties := ← document.toList (SchemaNode.ofJson .section) }
  else none

/-- The schema that a document declares. An array gives the description and the sections. -/
def decode : Json → Decoded RootSchema
  | .object members => Json.decodeMembers field [] {} members
  | .array [] => .ok {}
  | .array [description] => do return { description := ← description.toText }
  | .array (description :: properties :: rest) => do
    let schema : RootSchema :=
      ⟨← description.toText, ← properties.toList (SchemaNode.ofJson .section)⟩
    if rest.isEmpty then return schema
    .error (.wrongLength (rest.length + 2) .fewerItems)
  | other => other.mistyped (.record "RootSchema")

/-- Refuses a schema in which siblings share a name (`ensure_unique_names`). -/
def checkNames (schema : RootSchema) : Except SchemaError Unit :=
  match schema.firstDuplicate with
  | some duplicate => .error (.duplicateProperty duplicate)
  | none => .ok ()

/-- The schema that a document declares, with unique names throughout (`from_value`). -/
def ofJson (document : Json) : Except SchemaError RootSchema := do
  let schema ← (decode document).mapError .parse
  schema.checkNames
  return schema

end RootSchema

end ConfigSchema
