import ConfigSchema.Json.Decode
import ConfigSchema.Kind

/-! # Reading kinds -/
namespace ConfigSchema

/-- The member of a list that a document names: by a string, or by an object whose only member has
that name and is null. -/
def decodeName {α : Type} (all : List α) (name : α → String) (document : Json) : Decoded α :=
  let named (given : String) : Decoded α :=
    match all.find? fun one => name one == given with
    | some one => .ok one
    | none => .error (.unknownKind given (all.map name))
  match document with
  | .string given => named given
  | .object [(given, content)] => do
    let one ← named given
    match content with
    | .null => return one
    | other => other.mistyped .nothing
  | .object _ => .error (.wrongValue .object .singleEntry)
  | other => other.mistyped .nameOrEntry

def ValueKind.decode : Json → Decoded ValueKind := decodeName all name

def SchemaKind.decode : Json → Decoded SchemaKind := decodeName all name

end ConfigSchema
