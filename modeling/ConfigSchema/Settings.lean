import ConfigSchema.Schema.Basic
import ConfigSchema.Json.Printer

/-! # The settings of a section (`materialize`)

The resolved values of a section: for every declared property its value, its default, or the mark
that it is unset. What a nested object holds beyond its declaration is kept. -/
namespace ConfigSchema

/-! ## Filling in defaults -/

mutual

/-- The value of a property with the defaults of nested properties filled in
(`with_nested_defaults`). -/
def SchemaNode.fill : SchemaNode → Json → Json
  | .object _ properties, .object members => .object (fillMembers members properties members)
  | _, value => value

/-- The loop of `with_nested_defaults`: members that are present are filled in turn, the others get
their default as it stands. -/
def fillMembers (raw : Members Json) : List SchemaNode → Members Json → Members Json
  | [], filled => filled
  | child :: rest, filled =>
    fillMembers raw rest <|
      match raw.get? child.name with
      | some value => filled.insert child.name (child.fill value)
      | none =>
        match child.defaultJson with
        | some value => filled.insert child.name value
        | none => filled

end

/-- The value of a property (`resolve`): what was found, or else its default, filled in. -/
def SchemaNode.resolve (node : SchemaNode) (found : Option Json) : Option Json :=
  (found.or node.defaultJson).map node.fill

/-! ## Handing maps over -/

/-- A map as it is handed to a writer (`serialize_map`): how many entries to expect, then the
entries one by one. -/
structure Emission (α : Type) where
  announced : Nat
  entries : Members α

/-! ## The settings of a section -/

/-- The declared properties of a section in the order of the schema, and their values
(`ValidatedConfig`). -/
structure Settings where
  entries : Members (Option Json) := []

namespace Settings

/-- The value of a property (`get`); nothing if it is unset or not declared. -/
def get? (settings : Settings) (name : String) : Option Json :=
  (Members.get? settings.entries name).join

/-- Whether a property is declared, set or not. -/
def declares (settings : Settings) (name : String) : Bool := Members.has settings.entries name

def size (settings : Settings) : Nat := settings.entries.length

def isEmpty (settings : Settings) : Bool := settings.entries.isEmpty

def values (settings : Settings) : Members Json :=
  settings.entries.filterMap fun (name, value) => value.map fun value => (name, value)

/-- The settings as `serialize` hands them over: those that are set, in the order of the schema. -/
def emission (settings : Settings) : Emission Json where
  announced := settings.entries.countP fun entry => entry.2.isSome
  entries := settings.entries.flatMap fun (name, value) =>
    value.toList.map fun value => (name, value)

/-- The settings in the order of the schema, as a text of them has it. -/
def written (settings : Settings) : Json := .object settings.emission.entries

/-- The settings as a document (`to_json`), which sorts them. -/
def toJson (settings : Settings) : Json := .object (Members.sorted settings.values)

end Settings

/-- The settings that a section resolves to (`materialize`). Only objects declare properties, and a
section that is absent or no object resolves to the defaults. -/
def SchemaNode.materialize (node : SchemaNode) (section' : Option Json) : Settings :=
  let raw := (section'.bind Json.members?).getD []
  ⟨node.properties.map fun property =>
    (property.name, property.resolve (Members.get? raw property.name))⟩

end ConfigSchema
