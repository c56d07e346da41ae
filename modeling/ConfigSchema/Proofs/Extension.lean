import ConfigSchema.Proofs.Settings
import Mathlib.Data.List.Forall2

/-! # What resolving keeps

A resolved value extends the value that was found (`SchemaNode.Extends`): it keeps every key and,
under names that are not declared, every value; and it adds nothing but defaults of declared
properties. Of several siblings with one name the last one counts
(`SchemaNode.materialize_extends`). -/
namespace ConfigSchema

namespace SchemaNode

/-! ## Extending a value -/

/-- A value extends another one as a value of a property. Of the children of an object those that
are heeded say how the values under their names are extended. -/
inductive Extends (heeded : List SchemaNode → List SchemaNode) : SchemaNode → Json → Json → Prop
  /-- Without children, and where there is no object, nothing is changed. -/
  | same {node : SchemaNode} {value : Json}
    (nothing : node.properties = [] ∨ value.members? = none) : Extends heeded node value value
  /-- An object is extended member by member. -/
  | object {node : SchemaNode} {raw filled : Members Json}
    (declares : node.properties ≠ [])
    (kept : ∀ key, raw.has key = true → filled.has key = true)
    (undeclared : ∀ key ∉ node.properties.map name, filled.get? key = raw.get? key)
    (declared : ∀ child ∈ heeded node.properties, ∀ value value',
      raw.get? child.name = some value → filled.get? child.name = some value' →
        Extends heeded child value value')
    (added : ∀ key value, raw.has key = false → filled.get? key = some value →
      ∃ child ∈ node.properties, child.name = key ∧ child.defaultJson = some value) :
    Extends heeded node (.object raw) (.object filled)

/-- The children that are heeded where some have one name: the last of each. -/
abbrev lastNamed (properties : List SchemaNode) : List SchemaNode := lastOfEach name properties

/-! ## Filling extends -/

section
variable {raw : Members Json} {properties : List SchemaNode}

theorem has_fillMembers {filled : Members Json} {key : String} (has : filled.has key = true) :
    (fillMembers raw properties filled).has key = true := by
  rw [Members.has_eq_isSome] at has ⊢
  rw [fillMembers_eq_foldl, Members.get?_foldl_insert, Option.isSome_or, has, Bool.or_true]

/-- What is filled in where there was nothing is the default of some property of that name. -/
theorem exists_default_of_fillMembers {key : String} {value : Json} (absent : raw.has key = false)
    (found : (fillMembers raw properties raw).get? key = some value) :
    ∃ child ∈ properties, child.name = key ∧ child.defaultJson = some value := by
  have unset : raw.get? key = none := by simpa [Members.has_eq_isSome] using absent
  rw [fillMembers_eq_foldl, Members.get?_foldl_insert, unset, Option.or_none] at found
  have inserted := List.mem_reverse.1 (Members.mem_of_get? found)
  obtain ⟨⟨name, given⟩, entry_mem, entry_eq⟩ := List.mem_filterMap.1 inserted
  obtain ⟨child, child_mem, child_eq⟩ := List.mem_map.1 entry_mem
  obtain ⟨rfl, rfl⟩ := Prod.mk.inj child_eq
  obtain ⟨given, given_eq, pair⟩ := Option.map_eq_some_iff.1 entry_eq
  obtain ⟨rfl, rfl⟩ := Prod.mk.inj pair
  refine ⟨child, child_mem, rfl, ?_⟩
  rwa [unset] at given_eq

/-- Of several properties with one name the last one fills the value that was found. -/
theorem get?_fillMembers_of_last {child : SchemaNode} (last : child ∈ lastNamed properties)
    {value : Json} (found : raw.get? child.name = some value) (filled : Members Json) :
    (fillMembers raw properties filled).get? child.name = some (child.fill value) := by
  induction properties generalizing filled with
  | nil => simp [lastOfEach] at last
  | cons first rest ih =>
    rw [fillMembers_cons]
    by_cases again : first.name ∈ rest.map name
    · rw [lastNamed, lastOfEach, if_pos again] at last
      exact ih last _
    · rw [lastNamed, lastOfEach, if_neg again] at last
      rcases List.mem_cons.1 last with rfl | later
      · have given : child.fillFound (raw.get? child.name) = some (child.fill value) := by
          rw [found]
          rfl
        rw [get?_fillMembers_of_notMem raw again, given, Option.map_some, Option.getD_some,
          Members.get?_insert, if_pos rfl]
      · exact ih later _

end

/-- **A filled value extends the value.** -/
theorem extends_fill (node : SchemaNode) (value : Json) :
    node.Extends lastNamed value (node.fill value) := by
  induction node using SchemaNode.induction generalizing value with
  | leaf node leaf =>
    rw [fill_of_leaf leaf]
    exact .same (.inl (properties_of_leaf leaf))
  | object node properties ih =>
    rcases value.object_or_not with ⟨members, rfl⟩ | notObject
    · rw [fill_object]
      by_cases nothing : properties = []
      · subst nothing
        rw [fillMembers]
        exact .same (.inl rfl)
      · refine .object nothing ?_ ?_ ?_ ?_
        · intro key has
          exact has_fillMembers has
        · intro key undeclared
          exact get?_fillMembers_of_notMem members undeclared members
        · intro child last value value' found found'
          have filled := get?_fillMembers_of_last last found members
          obtain rfl : child.fill value = value' := Option.some.inj (filled.symm.trans found')
          exact ih child ((lastOfEach_sublist name properties).subset last) value
        · intro key value absent found
          exact exists_default_of_fillMembers absent found
    · rw [fill_of_not_object notObject]
      exact .same (.inr notObject)

/-- With unique names every child is the last of its name. -/
theorem Extends.of_uniqueNames {node : SchemaNode} {value value' : Json}
    (ext : node.Extends lastNamed value value') (unique : node.UniqueNames) :
    node.Extends id value value' := by
  induction ext with
  | same nothing => exact .same nothing
  | @object node _ _ declares kept undeclared _ added ih =>
    refine .object declares kept undeclared ?_ added
    intro child mem value value' found found'
    have last : child ∈ lastNamed node.properties := by
      rw [lastNamed, lastOfEach_eq_self unique.1]
      exact mem
    exact ih child last value value' found found' (unique.of_mem mem)

/-! ## Settings extend the section -/

/-- What the settings of a section say of a declared property. -/
structure SettledBy (heeded : List SchemaNode → List SchemaNode) (members : Members Json)
    (property : SchemaNode) (entry : String × Option Json) : Prop where
  name : entry.1 = property.name
  present : ∀ value ∈ members.get? property.name,
    ∃ resolved ∈ entry.2, property.Extends heeded value resolved
  unset : entry.2 = none ↔ members.get? property.name = none ∧ property.defaultJson = none

theorem settledBy_resolve {heeded : List SchemaNode → List SchemaNode} {property : SchemaNode}
    (fill : ∀ value, property.Extends heeded value (property.fill value)) (members : Members Json) :
    property.SettledBy heeded members
      (property.name, property.resolve (members.get? property.name)) where
  name := rfl
  present := by
    intro value found
    rw [Option.mem_def] at found
    refine ⟨property.fill value, ?_, fill value⟩
    rw [found]
    rfl
  unset := by
    rw [resolve, Option.map_eq_none_iff, Option.or_eq_none_iff]

/-- **Resolving neither loses nor alters nor invents anything.** The settings of an object section
list the declared properties in the order of the schema. One that is there has a value that extends
the value found, in the sense of the last property where nested siblings have one name, and of every
property if names are unique; and a property is unset exactly if it is absent and has no default. -/
theorem materialize_extends (node : SchemaNode) (members : Members Json) :
    List.Forall₂ (SettledBy lastNamed members) node.properties
      (node.materialize (some (.object members))).entries ∧
    (node.UniqueNames → List.Forall₂ (SettledBy id members) node.properties
      (node.materialize (some (.object members))).entries) := by
  rw [materialize_eq, List.forall₂_map_right_iff, List.forall₂_map_right_iff, List.forall₂_same,
    List.forall₂_same]
  constructor
  · intro property _
    exact settledBy_resolve property.extends_fill members
  · intro unique property mem
    refine settledBy_resolve (fun value => ?_) members
    exact (property.extends_fill value).of_uniqueNames (unique.of_mem mem)

/-! ### Counterexample: two nested properties of one name

The first `a` below `pair` declares nothing, the second one a mode with a default. An empty `a` is
filled in the sense of the second, and so changed although the first would leave it alone. -/

/-- A section with a pair of properties of the given names below an object. -/
def pairNode (first second : String) : SchemaNode :=
  .object { name := "app" }
    [.object { name := "pair" }
      [.object { name := first } [],
        .object { name := second }
          [.string { name := "mode", presence := .optional (some "strict") } {}]]]

/-- A section with an empty object, and one that is null, below the pair. -/
def pairSection : Members Json := [("pair", .object [("a", .object []), ("b", .null)])]

theorem repeated_name_not_extended :
    ¬ List.Forall₂ (SettledBy id pairSection) (pairNode "a" "a").properties
      ((pairNode "a" "a").materialize (some (.object pairSection))).entries := by
  intro settled
  obtain ⟨pair, -⟩ := List.forall₂_cons.1 settled
  obtain ⟨resolved, resolved_eq, ext⟩ := pair.present _ rfl
  cases resolved_eq
  cases ext with
  | object _ _ _ declared _ =>
    -- Below the first property of the pair nothing is declared, so nothing may change.
    have first := declared _ List.mem_cons_self (.object []) (.object [("mode", .string "strict")])
      rfl rfl
    cases first with
    | object declares => exact declares rfl

/-- With two names both are extended, and a value that is no object stays what it is. -/
theorem materialize_extends_pair :
    (pairNode "a" "b").UniqueNames ∧
      List.Forall₂ (SettledBy id pairSection) (pairNode "a" "b").properties
        ((pairNode "a" "b").materialize (some (.object pairSection))).entries := by
  have unique : (pairNode "a" "b").UniqueNames := by decide
  exact ⟨unique, (materialize_extends (pairNode "a" "b") pairSection).2 unique⟩

end SchemaNode

end ConfigSchema
