import ConfigSchema.Proofs.Sites
import ConfigSchema.Schema.Names
import Mathlib.Tactic.Tauto

namespace ConfigSchema

/-- Siblings have different names, at every depth. -/
def RootSchema.UniqueNames (schema : RootSchema) : Prop :=
  (schema.properties.map SchemaNode.name).Nodup ∧ ∀ node ∈ schema.properties, node.UniqueNames

instance (schema : RootSchema) : Decidable schema.UniqueNames :=
  inferInstanceAs (Decidable (_ ∧ _))

/-- Among siblings each is compared with those before it and is then searched itself. -/
theorem firstDuplicate_eq_none_iff {properties : List SchemaNode}
    (below : ∀ property ∈ properties, ∀ path,
      property.firstDuplicateBelow path = none ↔ property.UniqueNames)
    (parent : String) (seen : List String) :
    firstDuplicate parent seen properties = none ↔
      (∀ property ∈ properties, property.name ∉ seen) ∧
        (properties.map SchemaNode.name).Nodup ∧
          ∀ property ∈ properties, property.UniqueNames := by
  induction properties generalizing seen with
  | nil => simp [firstDuplicate]
  | cons node rest ih =>
    obtain ⟨own, later⟩ := List.forall_mem_cons.1 below
    rw [firstDuplicate]
    by_cases repeated : node.name ∈ seen
    · simp [repeated]
    · have unseen_iff : (∀ property ∈ rest, property.name ∉ node.name :: seen) ↔
          node.name ∉ rest.map SchemaNode.name ∧ ∀ property ∈ rest, property.name ∉ seen := by
        simp only [List.mem_cons, List.mem_map, not_or, forall_and, not_exists, not_and]
      cases found : node.firstDuplicateBelow (childPath parent node.name) with
      | some duplicate =>
        have notUnique : ¬ node.UniqueNames := by
          rw [← own (childPath parent node.name), found]
          simp
        simp [repeated, notUnique]
      | none =>
        have unique := (own (childPath parent node.name)).1 found
        simp only [List.contains_iff_mem, repeated, if_false, ih later, unseen_iff,
          List.forall_mem_cons, List.map_cons, List.nodup_cons, unique, not_false_eq_true, true_and]
        tauto

theorem SchemaNode.uniqueNames_of_leaf {node : SchemaNode} (leaf : node.kind ≠ .object) :
    node.UniqueNames := by
  simp [UniqueNames, properties_of_leaf leaf, sites_of_leaf leaf]

theorem SchemaNode.firstDuplicateBelow_eq_none_iff (node : SchemaNode) (path : String) :
    node.firstDuplicateBelow path = none ↔ node.UniqueNames := by
  induction node using SchemaNode.induction generalizing path with
  | leaf node leaf =>
    refine iff_of_true ?_ (uniqueNames_of_leaf leaf)
    cases node with
    | object => exact absurd rfl leaf
    | string | number | boolean | enum => rfl
  | object node properties ih =>
    rw [firstDuplicateBelow, firstDuplicate_eq_none_iff ih, uniqueNames_object]
    simp

/-- **No repeated name is found exactly if there is none.** -/
theorem RootSchema.firstDuplicate_eq_none_iff (schema : RootSchema) :
    schema.firstDuplicate = none ↔ schema.UniqueNames := by
  rw [firstDuplicate, ConfigSchema.firstDuplicate_eq_none_iff fun property _ =>
    property.firstDuplicateBelow_eq_none_iff]
  simp [UniqueNames]

end ConfigSchema
