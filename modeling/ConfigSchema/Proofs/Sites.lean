import ConfigSchema.Schema.Basic

/-! # The places of a schema

A property that is declared below a node, at any depth, stands at a site: the names of the objects
above it lead there. A document is looked into along the same names, so what a schema says about a
document can be said site by site (`SchemaNode.forall_sites_object`, `Site.reached_below`). -/
namespace ConfigSchema

/-! ## Induction over schemas -/

/-- Only objects have properties, so every other kind is a leaf. -/
@[elab_as_elim]
theorem SchemaNode.induction {motive : SchemaNode → Prop}
    (leaf : ∀ node : SchemaNode, node.kind ≠ .object → motive node)
    (object : ∀ node properties, (∀ property ∈ properties, motive property) →
      motive (.object node properties)) :
    ∀ node, motive node
  | .string _ _ => leaf _ (by simp [SchemaNode.kind])
  | .number _ _ => leaf _ (by simp [SchemaNode.kind])
  | .boolean _ _ => leaf _ (by simp [SchemaNode.kind])
  | .enum _ _ => leaf _ (by simp [SchemaNode.kind])
  | .object node properties =>
    object node properties fun property _ => SchemaNode.induction leaf object property

theorem SchemaNode.properties_of_leaf {node : SchemaNode} (leaf : node.kind ≠ .object) :
    node.properties = [] := by
  cases node with
  | object => exact absurd rfl leaf
  | string | number | boolean | enum => rfl

/-- A property with a default need not be given. -/
theorem SchemaNode.isRequired_of_default {node : SchemaNode} {value : Json}
    (default : node.defaultJson = some value) : node.isRequired = false := by
  cases node with
  | string node | number node | boolean node | enum node | object node =>
    cases h : node.presence with
    | required => simp [SchemaNode.defaultJson, h, Presence.default?] at default
    | optional => simp [SchemaNode.isRequired, h, Presence.isRequired]

/-! ## Following names into a document -/

/-- The document that names lead to, each one in the object that the ones before it lead to. -/
def Json.at? (document : Json) : List String → Option Json
  | [] => some document
  | name :: rest => (document.member? name).bind fun value => value.at? rest

@[simp] theorem Json.at?_nil (document : Json) : document.at? [] = some document := rfl

theorem Json.at?_cons (document : Json) (name : String) (rest : List String) :
    document.at? (name :: rest) = (document.member? name).bind fun value => value.at? rest := rfl

/-- A document has members or is no object. -/
theorem Json.object_or_not (document : Json) :
    (∃ members : Members Json, document = .object members) ∨ document.members? = none := by
  cases document with
  | object members => exact .inl ⟨members, rfl⟩
  | null | bool | number | string | array => exact .inr rfl

@[simp] theorem Json.member?_object (members : Members Json) (name : String) :
    (Json.object members).member? name = members.get? name := rfl

/-! ## Sites -/

/-- A declared property and the names of the objects above it. -/
structure Site where
  above : List String
  node : SchemaNode

namespace Site

def names (site : Site) : List String := site.above ++ [site.node.name]

/-- The dotted path of a property, from the name of the section on. -/
def path (site : Site) (top : String) : String := String.intercalate "." (top :: site.names)

/-- The same property, seen from one object further up. -/
def below (name : String) (site : Site) : Site := { site with above := name :: site.above }

/-- What a document holds for a property. -/
def value? (site : Site) (document : Json) : Option Json := document.at? site.names

/-- Whether every object above a property is there: each beginning of the names above it leads to
an object. -/
def Reached (site : Site) (document : Json) : Prop :=
  ∀ depth < site.above.length + 1,
    ((document.at? (site.above.take depth)).bind Json.members?).isSome

instance (site : Site) (document : Json) : Decidable (site.Reached document) :=
  inferInstanceAs (Decidable (∀ depth < _, _))

theorem path_here (node : SchemaNode) (top : String) :
    path ⟨[], node⟩ top = top ++ "." ++ node.name := rfl

/-- Paths grow name by name. -/
theorem path_below (name : String) (site : Site) (top : String) :
    (site.below name).path top = site.path (top ++ "." ++ name) := rfl

theorem names_below (name : String) (site : Site) : (site.below name).names = name :: site.names :=
  rfl

@[simp] theorem node_below (name : String) (site : Site) : (site.below name).node = site.node := rfl

theorem value?_here (node : SchemaNode) (document : Json) :
    value? ⟨[], node⟩ document = document.member? node.name := by
  simp [value?, names, Json.at?_cons]

theorem value?_below (name : String) (site : Site) (document : Json) :
    (site.below name).value? document = (document.member? name).bind site.value? := rfl

theorem reached_here (node : SchemaNode) (document : Json) :
    Reached ⟨[], node⟩ document ↔ document.members?.isSome := by
  simp [Reached]

theorem reached_below (name : String) (site : Site) (document : Json) :
    (site.below name).Reached document ↔
      ∃ value, document.member? name = some value ∧ site.Reached value := by
  -- The beginning of length zero leads to the document itself; the others start with the name.
  have first : document.member? name ≠ none → document.members?.isSome := by
    cases document <;> simp [Json.member?, Json.members?]
  simp only [Reached, below, List.length_cons, Nat.forall_lt_succ_left (n := site.above.length + 1)]
  simp only [List.take_zero, List.take_succ_cons, Json.at?_nil, Json.at?_cons, Option.bind_some]
  cases h : document.member? name with
  | none => exact ⟨fun ⟨_, deeper⟩ => by simpa using deeper 0 (Nat.succ_pos _), by simp⟩
  | some value => simp [first (by simp [h])]

/-- Nothing is reached in a document that is no object. -/
theorem not_reached {site : Site} {document : Json} (h : document.members? = none) :
    ¬ site.Reached document := by
  intro reached
  have := reached 0 (Nat.succ_pos _)
  simp [h] at this

end Site

mutual

/-- The sites below a node, depth first. -/
def SchemaNode.sites : SchemaNode → List Site
  | .object _ properties => sitesOf properties
  | .string _ _ | .number _ _ | .boolean _ _ | .enum _ _ => []

def sitesOf : List SchemaNode → List Site
  | [] => []
  | node :: rest => ⟨[], node⟩ :: node.sites.map (Site.below node.name) ++ sitesOf rest

end

/-- The site of a property and the sites below it, as its parent sees them. -/
def SchemaNode.ownSites (node : SchemaNode) : List Site :=
  ⟨[], node⟩ :: node.sites.map (Site.below node.name)

theorem sitesOf_eq_flatMap (properties : List SchemaNode) :
    sitesOf properties = properties.flatMap SchemaNode.ownSites := by
  induction properties with
  | nil => rfl
  | cons node rest ih => rw [sitesOf, ih, List.flatMap_cons, SchemaNode.ownSites]

theorem SchemaNode.sites_eq_flatMap (node : SchemaNode) :
    node.sites = node.properties.flatMap SchemaNode.ownSites := by
  cases node with
  | object node properties => exact sitesOf_eq_flatMap properties
  | string | number | boolean | enum => rfl

/-- A site below a node is a property of the node or lies below one. -/
theorem SchemaNode.mem_sites_iff {node : SchemaNode} {site : Site} :
    site ∈ node.sites ↔ ∃ property ∈ node.properties,
      site = ⟨[], property⟩ ∨ ∃ inner ∈ property.sites, inner.below property.name = site := by
  rw [sites_eq_flatMap, List.mem_flatMap]
  simp only [ownSites, List.mem_cons, List.mem_map]

/-- What holds at every site below an object holds of each property and at every site below it. -/
theorem SchemaNode.forall_sites_object {node : Declaration (Members Json)}
    {properties : List SchemaNode} {P : Site → Prop} :
    (∀ site ∈ (SchemaNode.object node properties).sites, P site) ↔
      ∀ property ∈ properties,
        P ⟨[], property⟩ ∧ ∀ site ∈ property.sites, P (site.below property.name) := by
  rw [sites_eq_flatMap, SchemaNode.properties]
  simp only [List.mem_flatMap, ownSites, List.mem_cons, List.mem_map]
  constructor
  · intro all property mem
    exact ⟨all _ ⟨property, mem, .inl rfl⟩,
      fun site below => all _ ⟨property, mem, .inr ⟨site, below, rfl⟩⟩⟩
  · rintro each site ⟨property, mem, rfl | ⟨site, below, rfl⟩⟩
    · exact (each property mem).1
    · exact (each property mem).2 site below

theorem SchemaNode.sites_of_leaf {node : SchemaNode} (leaf : node.kind ≠ .object) :
    node.sites = [] := by
  rw [sites_eq_flatMap, properties_of_leaf leaf, List.flatMap_nil]

/-! ## Unique names -/

/-- Siblings have different names, at every depth below a node. -/
def SchemaNode.UniqueNames (node : SchemaNode) : Prop :=
  (node.properties.map SchemaNode.name).Nodup ∧
    ∀ site ∈ node.sites, (site.node.properties.map SchemaNode.name).Nodup

instance (node : SchemaNode) : Decidable node.UniqueNames :=
  inferInstanceAs (Decidable (_ ∧ _))

theorem SchemaNode.uniqueNames_object {node : Declaration (Members Json)}
    {properties : List SchemaNode} :
    (SchemaNode.object node properties).UniqueNames ↔
      (properties.map SchemaNode.name).Nodup ∧ ∀ property ∈ properties, property.UniqueNames := by
  rw [UniqueNames, forall_sites_object]
  rfl

theorem SchemaNode.UniqueNames.of_mem {node property : SchemaNode} (unique : node.UniqueNames)
    (mem : property ∈ node.properties) : property.UniqueNames := by
  cases node with
  | object node properties => exact (uniqueNames_object.1 unique).2 property mem
  | string | number | boolean | enum => exact absurd mem List.not_mem_nil

end ConfigSchema
