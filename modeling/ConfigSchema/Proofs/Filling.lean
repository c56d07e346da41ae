import ConfigSchema.Proofs.Members
import ConfigSchema.Proofs.Sites
import ConfigSchema.Settings
import Mathlib.Data.List.Nodup

/-! # Filling in defaults (`with_nested_defaults`)

A value is left alone by `with_nested_defaults` exactly if it is complete, that is if it lacks no
reached property that has a default (`fill_eq_self_iff`). A default that is inserted is not filled,
so filling a second time changes nothing exactly if every default that the first time inserted is
complete (`fill_fill_eq_iff`). -/
namespace ConfigSchema

/-! ## Member by member -/

namespace SchemaNode

theorem fill_of_leaf {node : SchemaNode} (leaf : node.kind ≠ .object) (value : Json) :
    node.fill value = value := by
  cases node with
  | object => exact absurd rfl leaf
  | string | number | boolean | enum => rw [fill]; simp

theorem fill_of_not_object {value : Json} (h : value.members? = none) (node : SchemaNode) :
    node.fill value = value := by
  cases value with
  | object => simp [Json.members?] at h
  | null | bool | number | string | array => rw [fill]; simp

/-- What filling an object leaves under a declared name. -/
def fillFound (node : SchemaNode) (found : Option Json) : Option Json :=
  (found.map node.fill).or node.defaultJson

theorem fillFound_eq_self_iff (node : SchemaNode) (found : Option Json) :
    node.fillFound found = found ↔
      (found = none → node.defaultJson = none) ∧ ∀ value ∈ found, node.fill value = value := by
  cases found with
  | none => simp [fillFound]
  | some value => simp [fillFound]

end SchemaNode

theorem fillMembers_cons (raw : Members Json) (child : SchemaNode) (rest : List SchemaNode)
    (filled : Members Json) :
    fillMembers raw (child :: rest) filled =
      fillMembers raw rest
        (((child.fillFound (raw.get? child.name)).map (filled.insert child.name)).getD filled) := by
  rw [fillMembers, SchemaNode.fillFound]
  cases raw.get? child.name with
  | some value => rfl
  | none => cases child.defaultJson <;> rfl

/-- Names that are not declared keep their members. -/
theorem get?_fillMembers_of_notMem (raw : Members Json) {properties : List SchemaNode}
    {key : String} (undeclared : key ∉ properties.map SchemaNode.name) (filled : Members Json) :
    (fillMembers raw properties filled).get? key = filled.get? key := by
  induction properties generalizing filled with
  | nil => rfl
  | cons child rest ih =>
    rw [List.map_cons, List.mem_cons, not_or] at undeclared
    rw [fillMembers_cons, ih undeclared.2]
    cases child.fillFound (raw.get? child.name) with
    | none => rfl
    | some value =>
      rw [Option.map_some, Option.getD_some, Members.get?_insert, if_neg (Ne.symm undeclared.1)]

/-- Siblings do not disturb one another, so each declared name gets its own. -/
theorem get?_fillMembers_of_mem (raw : Members Json) {properties : List SchemaNode}
    (nodup : (properties.map SchemaNode.name).Nodup) {child : SchemaNode} (mem : child ∈ properties)
    (filled : Members Json) :
    (fillMembers raw properties filled).get? child.name =
      (child.fillFound (raw.get? child.name)).or (filled.get? child.name) := by
  induction properties generalizing filled with
  | nil => simp at mem
  | cons first rest ih =>
    obtain ⟨fresh, nodupRest⟩ := List.nodup_cons.1 nodup
    rw [fillMembers_cons]
    rcases List.mem_cons.1 mem with rfl | later
    · rw [get?_fillMembers_of_notMem raw fresh]
      cases child.fillFound (raw.get? child.name) with
      | none => rfl
      | some value => simp [Members.get?_insert]
    · have other : first.name ≠ child.name := fun same =>
        fresh (same ▸ List.mem_map_of_mem later)
      rw [ih nodupRest later]
      cases first.fillFound (raw.get? first.name) with
      | none => rfl
      | some value => simp [Members.get?_insert, other]

/-- **Filling an object, name by name.** -/
theorem get?_fillMembers (raw : Members Json) {properties : List SchemaNode}
    (nodup : (properties.map SchemaNode.name).Nodup) {child : SchemaNode}
    (mem : child ∈ properties) :
    (fillMembers raw properties raw).get? child.name = child.fillFound (raw.get? child.name) := by
  rw [get?_fillMembers_of_mem raw nodup mem]
  cases h : raw.get? child.name with
  | none => rw [Option.or_none]
  | some value => simp [SchemaNode.fillFound]

theorem fillMembers_eq_self_iff (raw : Members Json) {properties : List SchemaNode}
    (nodup : (properties.map SchemaNode.name).Nodup) :
    fillMembers raw properties raw = raw ↔
      ∀ child ∈ properties, child.fillFound (raw.get? child.name) = raw.get? child.name := by
  constructor
  · intro same child mem
    rw [← get?_fillMembers raw nodup mem, same]
  · intro each
    -- Nothing is changed under repeated names either, so the induction need not carry `nodup`.
    clear nodup
    induction properties with
    | nil => rfl
    | cons child rest ih =>
      have kept :
          ((child.fillFound (raw.get? child.name)).map (raw.insert child.name)).getD raw = raw := by
        rw [each child List.mem_cons_self]
        cases h : raw.get? child.name with
        | none => rfl
        | some value => exact Members.insert_self h
      rw [fillMembers_cons, kept]
      exact ih fun child later => each child (List.mem_cons_of_mem _ later)

/-! ### All members at once -/

def fillings (raw : Members Json) (properties : List SchemaNode) : Settings :=
  ⟨properties.map fun child => (child.name, child.fillFound (raw.get? child.name))⟩

theorem names_fillings (raw : Members Json) (properties : List SchemaNode) :
    (fillings raw properties).entries.map Prod.fst = properties.map SchemaNode.name := by
  rw [fillings, List.map_map]
  rfl

/-- Filling an object inserts what each declared property gives. -/
theorem fillMembers_eq_foldl (raw : Members Json) (properties : List SchemaNode)
    (filled : Members Json) :
    fillMembers raw properties filled =
      (fillings raw properties).values.foldl
        (fun done member => done.insert member.1 member.2) filled := by
  induction properties generalizing filled with
  | nil => rfl
  | cons child rest ih =>
    rw [fillMembers_cons, ih]
    cases found : child.fillFound (raw.get? child.name) with
    | none => simp [fillings, Settings.values, found]
    | some value => simp [fillings, Settings.values, found]

/-- **Giving a member another value.** An object is filled as before exactly if the member comes out
as before. -/
theorem fillMembers_insert_eq_iff (members : Members Json) {properties : List SchemaNode}
    (nodup : (properties.map SchemaNode.name).Nodup) {child : SchemaNode} (mem : child ∈ properties)
    (entry : Json) :
    fillMembers (members.insert child.name entry) properties (members.insert child.name entry) =
        fillMembers members properties members ↔
      some (child.fill entry) = child.fillFound (members.get? child.name) := by
  have inserted : (members.insert child.name entry).get? child.name = some entry := by
    rw [Members.get?_insert, if_pos rfl]
  constructor
  · intro same
    rw [← get?_fillMembers members nodup mem, ← same, get?_fillMembers _ nodup mem, inserted]
    rfl
  · intro same
    -- Every declared name gets the same, so what was inserted before is overwritten.
    have sameFillings : fillings (members.insert child.name entry) properties =
        fillings members properties := by
      rw [fillings, fillings, Settings.mk.injEq, List.map_inj_left]
      intro other other_mem
      by_cases own : other.name = child.name
      · obtain rfl : other = child := List.inj_on_of_nodup_map nodup other_mem mem own
        rw [inserted, ← same]
        rfl
      · rw [Members.get?_insert, if_neg (Ne.symm own)]
    have overwritten : child.name ∈ (fillings members properties).values.map Prod.fst := by
      refine List.mem_map.2 ⟨(child.name, child.fill entry), ?_, rfl⟩
      refine List.mem_filterMap.2 ⟨(child.name, some (child.fill entry)), ?_, rfl⟩
      rw [same]
      exact List.mem_map.2 ⟨child, mem, rfl⟩
    rw [fillMembers_eq_foldl, fillMembers_eq_foldl, sameFillings,
      Members.foldl_insert_of_mem overwritten]

/-! ## Complete values -/

namespace SchemaNode

/-- Something holds of every property that is absent although the object above it is there. -/
def AllAbsent (P : SchemaNode → Prop) (node : SchemaNode) (value : Json) : Prop :=
  ∀ site ∈ node.sites, site.Reached value → site.value? value = none → P site.node

/-- No property with a default is absent from an object that is there. -/
def Complete (node : SchemaNode) (value : Json) : Prop :=
  node.AllAbsent (fun absent => absent.defaultJson = none) value

/-- Every default that stands in for an absent property below a value is complete. -/
def InsertsComplete (node : SchemaNode) (value : Json) : Prop :=
  node.AllAbsent (fun absent => ∀ default ∈ absent.defaultJson, absent.Complete default) value

/-- The defaults of all properties below the first level are complete. -/
def NestedDefaultsComplete (node : SchemaNode) : Prop :=
  ∀ site ∈ node.sites, site.above ≠ [] →
    ∀ default ∈ site.node.defaultJson, site.node.Complete default

instance (P : SchemaNode → Prop) [DecidablePred P] (node : SchemaNode) (value : Json) :
    Decidable (node.AllAbsent P value) :=
  inferInstanceAs (Decidable (∀ site ∈ node.sites, _))

instance (node : SchemaNode) (value : Json) : Decidable (node.Complete value) :=
  inferInstanceAs (Decidable (node.AllAbsent _ value))

instance (node : SchemaNode) : Decidable node.NestedDefaultsComplete :=
  inferInstanceAs (Decidable (∀ site ∈ node.sites, _))

section
variable {P : SchemaNode → Prop}

theorem allAbsent_of_leaf {node : SchemaNode} (leaf : node.kind ≠ .object) (value : Json) :
    node.AllAbsent P value := by
  intro site mem
  rw [sites_of_leaf leaf] at mem
  simp at mem

theorem allAbsent_of_not_object (node : SchemaNode) {value : Json} (h : value.members? = none) :
    node.AllAbsent P value :=
  fun _ _ reached => absurd reached (Site.not_reached h)

theorem allAbsent_object {node : Declaration (Members Json)} {properties : List SchemaNode}
    {members : Members Json} :
    (object node properties).AllAbsent P (.object members) ↔
      ∀ child ∈ properties, (members.get? child.name = none → P child) ∧
        ∀ value ∈ members.get? child.name, child.AllAbsent P value := by
  rw [AllAbsent, forall_sites_object]
  refine forall₂_congr fun child _ => and_congr ?_ ?_
  · simp [Site.reached_here, Site.value?_here, Json.members?]
  · simp only [Site.reached_below, Site.value?_below, Site.node_below, Json.member?_object,
      Option.mem_def, AllAbsent]
    constructor
    · intro all value found site mem reached absent
      exact all site mem ⟨value, found, reached⟩ (by simpa [found] using absent)
    · rintro all site mem ⟨value, found, reached⟩ absent
      exact all value found site mem reached (by simpa [found] using absent)

end

theorem complete_object {node : Declaration (Members Json)} {properties : List SchemaNode}
    {members : Members Json} :
    (object node properties).Complete (.object members) ↔
      ∀ child ∈ properties, (members.get? child.name = none → child.defaultJson = none) ∧
        ∀ value ∈ members.get? child.name, child.Complete value :=
  allAbsent_object

theorem insertsComplete_object {node : Declaration (Members Json)} {properties : List SchemaNode}
    {members : Members Json} :
    (object node properties).InsertsComplete (.object members) ↔
      ∀ child ∈ properties,
        (members.get? child.name = none → ∀ default ∈ child.defaultJson, child.Complete default) ∧
        ∀ value ∈ members.get? child.name, child.InsertsComplete value :=
  allAbsent_object

theorem fill_object (node : Declaration (Members Json)) (properties : List SchemaNode)
    (members : Members Json) :
    (object node properties).fill (.object members) =
      .object (fillMembers members properties members) := by
  rw [fill]

/-- **Filling leaves a value alone exactly if it is complete.** -/
theorem fill_eq_self_iff {node : SchemaNode} (unique : node.UniqueNames) (value : Json) :
    node.fill value = value ↔ node.Complete value := by
  induction node using SchemaNode.induction generalizing value with
  | leaf node leaf => simp [fill_of_leaf leaf, Complete, allAbsent_of_leaf leaf]
  | object node properties ih =>
    obtain ⟨nodup, uniqueBelow⟩ := uniqueNames_object.1 unique
    rcases value.object_or_not with ⟨members, rfl⟩ | h
    · rw [fill_object, Json.object.injEq, fillMembers_eq_self_iff members nodup, complete_object]
      refine forall₂_congr fun child mem => ?_
      rw [fillFound_eq_self_iff]
      exact and_congr_right fun _ => forall₂_congr fun value _ =>
        ih child mem (uniqueBelow child mem) value
    · simp [fill_of_not_object h, Complete, allAbsent_of_not_object _ h]

/-- A filled value is complete exactly if the defaults inserted into it are. -/
theorem complete_fill_iff {node : SchemaNode} (unique : node.UniqueNames) (value : Json) :
    node.Complete (node.fill value) ↔ node.InsertsComplete value := by
  induction node using SchemaNode.induction generalizing value with
  | leaf node leaf => simp [Complete, InsertsComplete, allAbsent_of_leaf leaf]
  | object node properties ih =>
    obtain ⟨nodup, uniqueBelow⟩ := uniqueNames_object.1 unique
    rcases value.object_or_not with ⟨members, rfl⟩ | h
    · rw [fill_object, complete_object, insertsComplete_object]
      refine forall₂_congr fun child mem => ?_
      rw [get?_fillMembers members nodup mem, fillFound]
      cases members.get? child.name with
      | none => simp
      | some value => simpa using ih child mem (uniqueBelow child mem) value
    · simp [fill_of_not_object h, Complete, InsertsComplete, allAbsent_of_not_object _ h]

theorem fill_fill_eq_iff {node : SchemaNode} (unique : node.UniqueNames) (value : Json) :
    node.fill (node.fill value) = node.fill value ↔ node.InsertsComplete value := by
  rw [fill_eq_self_iff unique, complete_fill_iff unique]

end SchemaNode

end ConfigSchema
