import ConfigSchema.Json.Skipper
import ConfigSchema.Schema.Reader

/-! # Reading schemas from text

Read in one pass, a text is refused for what is wrong first, be it the text's form or what it says:
a section that is wrong is noticed when it ends, a kind that is wrong at once, and fields that a
schema does not have are passed over. -/
namespace ConfigSchema

inductive TextError
  | malformed (fault : SyntaxError)
  | refused (reason : DecodeError)
deriving DecidableEq

def TextError.message : TextError → String
  | malformed fault => fault.message
  | refused reason => reason.message

abbrev SchemaScan := StateT Cursor (Except TextError)

namespace SchemaScan

def scan {α : Type} (reader : Scan α) : SchemaScan α := fun cursor =>
  (reader cursor).mapError .malformed

def refuse {α : Type} (reason : DecodeError) : SchemaScan α := throw (.refused reason)

/-- Fails because the next value has the wrong kind. Containers are not read for that. -/
def mistyped {α : Type} (expected : Expected) : SchemaScan α := do
  match ← scan Scan.token with
  | none => scan (Scan.failAhead .endInValue)
  | some '[' => refuse (.wrongType .array expected)
  | some '{' => refuse (.wrongType .object expected)
  | some c => refuse (.wrongType (← scan (Scan.leaf c)).found expected)

def text (expected : Expected) : SchemaScan String := do
  if (← scan Scan.token) = some '"' then scan Scan.string else mistyped expected

def kind : SchemaScan SchemaKind := do
  match SchemaKind.ofName (← text .kindName) with
  | .ok kind => return kind
  | .error reason => refuse reason

/-- How deep containers may nest inside a section. -/
def sectionDepth : Nat := Scan.depthLimit - 3

/-- The members of a section: its kind, and all others as they are. -/
def sectionMembers : (fuel : Nat) → (first : Bool) → Option SchemaKind → Members Json →
    SchemaScan (Option SchemaKind × Members Json)
  | 0, _, found, members => return (found, members.reverse)
  | fuel + 1, first, found, members => do
    if ← scan (Scan.hasMember first) then
      let name ← scan Scan.string
      if name = "type" then
        if found.isSome then refuse (.duplicateField "type")
        scan Scan.colon
        let kind ← kind
        sectionMembers fuel false (some kind) members
      else
        scan Scan.colon
        let value ← scan (Scan.document sectionDepth)
        sectionMembers fuel false found ((name, value) :: members)
    else
      scan Scan.skip
      return (found, members.reverse)

def node : SchemaScan SchemaNode := do
  match ← scan Scan.token with
  | none => scan (Scan.failAhead .endInValue)
  | some '{' =>
    scan Scan.skip
    let (found, members) ← sectionMembers ((← get).rest.length + 1) true none []
    match found with
    | none => refuse (.missingField "type")
    | some kind =>
      match SchemaNode.ofFields (nodeFields members) kind with
      | .ok node => return node
      | .error reason => refuse reason
  | some '[' =>
    scan Scan.skip
    if ← scan (Scan.hasItem true) then
      let kind ← kind
      let _ ← scan do
        Scan.items (Scan.document sectionDepth) ((← get).rest.length + 1) false
      refuse (.wrongType .array (.record kind.recordName))
    else refuse (.missingField "type")
  | some _ => mistyped .property

def nodeItems : (fuel : Nat) → (first : Bool) → SchemaScan (List SchemaNode)
  | 0, _ => return []
  | fuel + 1, first => do
    if ← scan (Scan.hasItem first) then
      let section' ← node
      return section' :: (← nodeItems fuel false)
    else
      scan Scan.skip
      return []

def nodes : SchemaScan (List SchemaNode) := do
  if (← scan Scan.token) = some '[' then
    scan Scan.skip
    nodeItems ((← get).rest.length + 1) true
  else mistyped .array

/-- The fields of a root schema after its brace. -/
def rootFields : (fuel : Nat) → (first : Bool) → (description : Option String) →
    (properties : Option (List SchemaNode)) → SchemaScan RootSchema
  | 0, _, description, properties => return ⟨description.getD "", properties.getD []⟩
  | fuel + 1, first, description, properties => do
    if ← scan (Scan.hasMember first) then
      let name ← scan Scan.string
      if name = "description" then
        if description.isSome then refuse (.duplicateField name)
        scan Scan.colon
        let value ← text .string
        rootFields fuel false (some value) properties
      else if name = "properties" then
        if properties.isSome then refuse (.duplicateField name)
        scan Scan.colon
        let value ← nodes
        rootFields fuel false description (some value)
      else
        scan Scan.colon
        scan Scan.skipValue
        rootFields fuel false description properties
    else
      scan Scan.skip
      return ⟨description.getD "", properties.getD []⟩

/-- The parts of a root schema that is written as an array, after its bracket. -/
def rootItems : SchemaScan RootSchema := do
  let hasDescription ← scan (Scan.hasItem true)
  let description ← if hasDescription then text .string else pure ""
  let hasProperties ← scan (Scan.hasItem (!hasDescription))
  let properties ← if hasProperties then nodes else pure []
  scan Scan.closeArray
  return ⟨description, properties⟩

def root : SchemaScan RootSchema := do
  match ← scan Scan.token with
  | none => scan (Scan.failAhead .endInValue)
  | some '{' =>
    scan Scan.skip
    rootFields ((← get).rest.length + 1) true none none
  | some '[' =>
    scan Scan.skip
    rootItems
  | some _ => mistyped (.record "RootSchema")

end SchemaScan

/-- The schema that a text declares. Whether its names are unique is not checked. -/
def RootSchema.ofText (text : String) : Except TextError RootSchema :=
  (do
    let schema ← SchemaScan.root
    SchemaScan.scan Scan.finish
    return schema : SchemaScan RootSchema).run' (Cursor.start text)

end ConfigSchema
