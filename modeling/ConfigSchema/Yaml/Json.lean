import ConfigSchema.Json.Decode
import ConfigSchema.Yaml.Basic

/-! # YAML documents as JSON documents (`yaml_to_json`)

Tags are dropped and scalar keys become text. What has no JSON form is refused, with the dotted path
of keys and positions that leads to it. -/
namespace ConfigSchema

/-! ## How values are shown -/

/-- A number as a key and in messages. -/
def YamlNumber.text : YamlNumber → String
  | integer n => toString n.val
  | double (.finite x) => x.numeral .yaml
  | double (.infinite false) => ".inf"
  | double (.infinite true) => "-.inf"
  | double .nan => ".nan"

/-- The name of a tag without the mark in front of it, if that leaves a name. -/
def tagName (tag : String) : String :=
  match tag.toList with
  | '!' :: c :: rest => String.ofList (c :: rest)
  | _ => tag

mutual

/-- A value in a message, as its debug form shows it. -/
def Yaml.shown : Yaml → String
  | .null => "Null"
  | .bool value => "Bool(" ++ toString value ++ ")"
  | .number value => "Number(" ++ value.text ++ ")"
  | .string value => "String(" ++ Text.quoted value ++ ")"
  | .sequence items => "Sequence [" ++ String.intercalate ", " (shownItems items) ++ "]"
  | .mapping entries => "Mapping \x7b" ++ String.intercalate ", " (shownEntries entries) ++ "\x7d"
  | .tagged tag value =>
    "TaggedValue \x7b tag: !" ++ tagName tag ++ ", value: " ++ value.shown ++ " \x7d"

def shownItems : List Yaml → List String
  | [] => []
  | item :: rest => item.shown :: shownItems rest

/-- The entries of a mapping in a message. Scalar keys stand bare. -/
def shownEntries : List (Yaml × Yaml) → List String
  | [] => []
  | (.bool key, value) :: rest => (toString key ++ ": " ++ value.shown) :: shownEntries rest
  | (.number key, value) :: rest => (key.text ++ ": " ++ value.shown) :: shownEntries rest
  | (.string key, value) :: rest => (Text.quoted key ++ ": " ++ value.shown) :: shownEntries rest
  | (key, value) :: rest => (key.shown ++ ": " ++ value.shown) :: shownEntries rest

end

/-! ## Conversion -/

/-- Why a YAML document has no JSON form. -/
inductive YamlFault
  | number (value : YamlNumber) (place : String)
  | key (shown place : String)
deriving DecidableEq

def YamlFault.message : YamlFault → String
  | number value place => "number " ++ value.text ++ " at '" ++ place ++ "' has no JSON form"
  | key shown place => "map key at '" ++ place ++ "' must be a scalar, found " ++ shown

/-- The place of a part of a document (`child_path`). -/
def childPlace (place part : String) : String :=
  if place.isEmpty then part else place ++ "." ++ part

/-- The number as a JSON number, if it is finite (`yaml_number`). -/
def YamlNumber.toNumber? : YamlNumber → Option Number
  | integer n => some (.integer n)
  | double x => x.toDouble?.map .double

/-- The text of a key; only scalars have one. -/
def Yaml.keyText? : Yaml → Option String
  | .string value => some value
  | .number value => some value.text
  | .bool value => some (toString value)
  | .null | .sequence _ | .mapping _ | .tagged _ _ => none

mutual

/-- The JSON form of a value at a place (`yaml_to_json`). -/
def Yaml.toJson (place : String) : Yaml → Except YamlFault Json
  | .null => .ok .null
  | .bool value => .ok (.bool value)
  | .number value =>
    match value.toNumber? with
    | some number => .ok (.number number)
    | none => .error (.number value place)
  | .string value => .ok (.string value)
  | .sequence items => do return .array (← itemsToJson place 0 items)
  | .mapping entries => do return .object (← entriesToJson place entries [])
  | .tagged _ value => value.toJson place

/-- The sequence branch of `yaml_to_json`, from a position on. -/
def itemsToJson (place : String) (position : Nat) : List Yaml → Except YamlFault (List Json)
  | [] => .ok []
  | item :: rest => do
    let first ← item.toJson (childPlace place (toString position))
    return first :: (← itemsToJson place (position + 1) rest)

/-- The mapping branch of `yaml_to_json`: the members of some entries, added to those before them.
Of keys with the same text the last one counts. -/
def entriesToJson (place : String) : List (Yaml × Yaml) → Members Json →
    Except YamlFault (Members Json)
  | [], done => .ok done
  | (key, value) :: rest, done => do
    match key.keyText? with
    | none => .error (.key key.shown place)
    | some name =>
      let entry ← value.toJson (childPlace place name)
      entriesToJson place rest (done.insert name entry)

end

end ConfigSchema
