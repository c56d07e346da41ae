import ConfigSchema.Schema.Basic

/-! # Unique names (`ensure_unique_names`)

Siblings must have different names. The check runs through the tree in order, each property before
its children and its children before its next sibling. -/
namespace ConfigSchema

/-- A name that two siblings share, and the path of their parent (`DuplicateProperty`). -/
structure DuplicateName where
  parent : String
  name : String
deriving DecidableEq, Repr

/-- The parent of sections. -/
def rootPath : String := "<root>"

/-- The path of a property below a parent. A path that reads like the root is continued as the root
itself. -/
def childPath (parent name : String) : String :=
  if parent = rootPath then name else parent ++ "." ++ name

mutual

/-- The first property that has the name of an earlier sibling (`ensure_unique_names`), given the
names of those before. -/
def firstDuplicate (parent : String) (seen : List String) : List SchemaNode → Option DuplicateName
  | [] => none
  | node :: rest =>
    if seen.contains node.name then some ⟨parent, node.name⟩
    else
      match node.firstDuplicateBelow (childPath parent node.name) with
      | some duplicate => some duplicate
      | none => firstDuplicate parent (node.name :: seen) rest

def SchemaNode.firstDuplicateBelow (path : String) : SchemaNode → Option DuplicateName
  | .object _ properties => firstDuplicate path [] properties
  | .string _ _ | .number _ _ | .boolean _ _ | .enum _ _ => none

end

/-- The check of a whole schema (`RootSchema.ensure_unique_names`). -/
def RootSchema.firstDuplicate (schema : RootSchema) : Option DuplicateName :=
  ConfigSchema.firstDuplicate rootPath [] schema.properties

end ConfigSchema
