import ConfigSchema.Proofs.Canonical
import ConfigSchema.Proofs.Declarations
import ConfigSchema.Proofs.Names
import Mathlib.Data.List.Nodup

/-! # The schema language (`from_value`)

Which documents are schemas, said field by field and without a word on reading (`Json.IsSchema`).
Among the documents that name no member twice, as no canonical one does
(`Json.IsCanonical.namesOnce`), and give no kind by its number, `from_value` succeeds on these and
on no others (`RootSchema.ofJson_isOk_iff_isSchema`). -/
namespace ConfigSchema

/-! ## Fields -/

/-- The kind of value that a property of a kind holds. -/
def SchemaKind.valueKind : SchemaKind → ValueKind
  | string | enum => .string
  | number => .number
  | boolean => .boolean
  | object => .object

/-- The member of a name is absent or satisfies a condition. -/
def Members.Optionally (members : Members Json) (key : String) (P : Json → Prop) : Prop :=
  ∀ document ∈ members.get? key, P document

namespace Json

def NullOr (P : Json → Prop) (document : Json) : Prop := document = .null ∨ P document

/-- An array all of whose items satisfy a condition. -/
def IsListOf (P : Json → Prop) : Json → Prop
  | .array items => ∀ item ∈ items, P item
  | .null | .bool _ | .number _ | .string _ | .object _ => False

def IsLength : Json → Prop
  | .number (.integer n) => 0 ≤ n.val ∧ n.val < Integer64.bound
  | .number (.double _) | .null | .bool _ | .string _ | .array _ | .object _ => False

/-- The items of an array; other documents have none. -/
def items : Json → List Json
  | .array items => items
  | .null | .bool _ | .number _ | .string _ | .object _ => []

end Json

namespace Members

/-- What a member lists. -/
def listed (members : Members Json) (key : String) : List Json :=
  (members.get? key).elim [] Json.items

def HasExamples (members : Members Json) (kind : ValueKind) : Prop :=
  members.Optionally "examples" (Json.IsListOf (·.kind = kind))

/-- The members give what a property of a kind has besides its declaration. -/
def HasRules (members : Members Json) : SchemaKind → Prop
  | .string => members.Optionally "minLength" (Json.NullOr Json.IsLength) ∧
      members.Optionally "maxLength" (Json.NullOr Json.IsLength) ∧
      members.Optionally "pattern" (Json.NullOr (·.kind = .string)) ∧ members.HasExamples .string
  | .number => members.Optionally "min" (Json.NullOr (·.kind = .number)) ∧
      members.Optionally "max" (Json.NullOr (·.kind = .number)) ∧ members.HasExamples .number
  | .boolean => members.HasExamples .boolean
  | .enum => (∃ literals ≠ [], members.get? "enum" = some (.array literals) ∧
      ∀ literal ∈ literals, literal.kind = .string) ∧ members.HasExamples .string
  | .object => members.Optionally "properties" (·.kind = .array)

/-- The members give what every property declares. -/
structure HasDeclaration (members : Members Json) (kind : ValueKind) : Prop where
  name : ∃ name, members.get? "name" = some (.string name)
  description : members.Optionally "description" (Json.NullOr (·.kind = .string))
  required : members.Optionally "required" (·.kind = .boolean)
  default : members.Optionally "defaultValue" (Json.NullOr (·.kind = kind))
  consistent : members.get? "required" = some (.bool true) →
    members.Optionally "defaultValue" (· = .null)

end Members

/-! ## Properties and schemas -/

namespace Json

/-- A well-formed property: an object with the form of its kind. What an object lists as its
properties are properties with different names. -/
inductive IsNode : Json → Prop
  | intro {members : Members Json} {kind : SchemaKind}
      (type : members.get? "type" = some (.string kind.name))
      (declaration : members.HasDeclaration kind.valueKind) (rules : members.HasRules kind)
      (properties : kind = .object → ∀ item ∈ members.listed "properties", item.IsNode)
      (names : kind = .object →
        ((members.listed "properties").map (·.member? "name")).Nodup) : IsNode (.object members)

/-- A list of properties with different names. -/
structure IsNodeList (document : Json) : Prop where
  array : document.kind = .array
  nodes : ∀ item ∈ document.items, item.IsNode
  names : (document.items.map (·.member? "name")).Nodup

/-- The parts of a root schema: an object gives them by name, an array in order. -/
def parts : Json → Members Json
  | .object members => members
  | .array items => ["description", "properties"].zip items
  | .null | .bool _ | .number _ | .string _ => []

/-- A root schema: an object, or an array of at most two items, that gives perhaps a description and
perhaps the sections. -/
structure IsSchema (document : Json) : Prop where
  form : document.kind = .object ∨ document.kind = .array ∧ document.items.length ≤ 2
  description : document.parts.Optionally "description" (·.kind = .string)
  properties : document.parts.Optionally "properties" IsNodeList

mutual

/-- A property and the properties declared below it. -/
def nodes : Json → List Json
  | .object members => .object members ::
      if (Members.get? members "type").bind string? = some SchemaKind.object.name then
        nodesIn members
      else []
  | other => [other]

def nodesIn : List (String × Json) → List Json
  | [] => []
  | (name, value) :: rest => if name = "properties" then value.nodesListed else nodesIn rest

def nodesListed : Json → List Json
  | .array items => nodesOf items
  | _ => []

/-- Properties and what is declared below them. -/
def nodesOf : List Json → List Json
  | [] => []
  | item :: rest => item.nodes ++ nodesOf rest

end

/-- All properties declared in a root schema. -/
def declaredNodes (document : Json) : List Json :=
  (document.parts.listed "properties").flatMap nodes

/-- The kind of a property is given by its number. -/
def kindIsNumber (node : Json) : Bool :=
  match node.member? "type" with
  | some (.number (.integer _)) => true
  | _ => false

end Json

/-! ## What readers accept -/

/-- A reader succeeds on the documents that satisfy a condition and on no others. -/
def Accepts {α : Type} (read : Json → Decoded α) (P : Json → Prop) : Prop :=
  ∀ document, (∃ value, read document = .ok value) ↔ P document

namespace Accepts

variable {α : Type} {read : Json → Decoded α} {P : Json → Prop}

theorem toText : Accepts Json.toText (·.kind = .string) := by
  intro document
  cases document <;> simp [Json.toText, Json.mistyped_ne_ok, Json.kind]

theorem toFlag : Accepts Json.toFlag (·.kind = .boolean) := by
  intro document
  cases document <;> simp [Json.toFlag, Json.mistyped_ne_ok, Json.kind]

theorem toNumber : Accepts Json.toNumber (·.kind = .number) := by
  intro document
  cases document <;> simp [Json.toNumber, Json.mistyped_ne_ok, Json.kind]

theorem toBound : Accepts Json.toBound (·.kind = .number) := by
  intro document
  cases document <;> simp [Json.toBound, Json.mistyped_ne_ok, Json.kind]

theorem toMembers : Accepts Json.toMembers (·.kind = .object) := by
  intro document
  cases document <;> simp [Json.toMembers, Json.mistyped_ne_ok, Json.kind]

theorem toLength : Accepts Json.toLength Json.IsLength := by
  intro document
  cases document with
  | number value =>
    cases value with
    | integer n => simp [Json.toLength_eq_ok_iff, Json.IsLength, n.upper]
    | double => simp [Json.toLength, Json.mistyped_ne_ok, Json.IsLength]
  | null | bool | string | array | object =>
    simp [Json.toLength, Json.mistyped_ne_ok, Json.IsLength]

theorem toOption (accepts : Accepts read P) : Accepts (Json.toOption read) (Json.NullOr P) := by
  intro document
  rw [Json.NullOr, ← accepts]
  by_cases isNull : document = .null <;> simp [Json.toOption_eq_ok_iff, isNull]

theorem toList (accepts : Accepts read P) : Accepts (Json.toList read) (Json.IsListOf P) := by
  intro document
  cases document with
  | array items => simp [Json.toList_eq_ok_iff, exists_forall₂_iff, accepts _, Json.IsListOf]
  | null | bool | number | string | object =>
    simp [Json.toList, Json.mistyped_ne_ok, Json.IsListOf]

/-- A field can be read if it is absent or its document is accepted. -/
theorem field (accepts : Accepts read P) (members : Members Json) (key : String) (absent : α) :
    (∃ value, members.readField key read absent = .ok value) ↔ members.Optionally key P := by
  simp only [Members.readField_isOk_iff, accepts _, Members.Optionally]

theorem examples {kind : ValueKind} (accepts : Accepts read (·.kind = kind))
    (members : Members Json) :
    (∃ values, members.readField "examples" (Json.toList read) [] = .ok values) ↔
      members.HasExamples kind :=
  accepts.toList.field members "examples" []

end Accepts

/-! ## Declarations that can be read -/

section
variable {α : Type} {members : Members Json}

theorem Members.get?_eq_true_iff {key : String} {flag : Bool}
    (read_eq : members.readField key Json.toFlag false = .ok flag) :
    members.get? key = some (.bool true) ↔ flag = true := by
  cases found : members.get? key with
  | none =>
    rw [readField_of_absent found] at read_eq
    cases read_eq
    simp
  | some document =>
    rw [readField_of_get? found, Json.toFlag_eq_ok_iff] at read_eq
    simp [read_eq]

theorem Members.optionally_null_iff {key : String} {read : Json → Decoded α} {value : Option α}
    (read_eq : members.readField key (Json.toOption read) none = .ok value) :
    members.Optionally key (· = .null) ↔ value = none := by
  cases found : members.get? key with
  | none =>
    rw [readField_of_absent found] at read_eq
    cases read_eq
    simp [Optionally, found]
  | some document =>
    rw [readField_of_get? found, Json.toOption_eq_ok_iff] at read_eq
    rcases read_eq with ⟨rfl, rfl⟩ | ⟨notNull, given, -, rfl⟩
    · simp [Optionally, found]
    · simp [Optionally, found, notNull]

theorem PresenceFields.exists_toPresence_iff {fields : PresenceFields α} :
    (∃ presence, fields.toPresence = .ok presence) ↔
      (fields.required = true → fields.default = none) := by
  obtain ⟨required, default⟩ := fields
  cases required <;> cases default <;> simp [toPresence]

variable {read : Json → Decoded α} {kind : ValueKind}

/-- A presence can be read if both of its fields can be and do not contradict each other. -/
theorem Presence.exists_ofMembers_iff (nodup : (members.map Prod.fst).Nodup)
    (accepts : Accepts read (·.kind = kind)) :
    (∃ presence, Presence.ofMembers read members = .ok presence) ↔
      members.Optionally "required" (·.kind = .boolean) ∧
        members.Optionally "defaultValue" (Json.NullOr (·.kind = kind)) ∧
          (members.get? "required" = some (.bool true) →
            members.Optionally "defaultValue" (· = .null)) := by
  rw [← Accepts.toFlag.field members "required" false,
    ← accepts.toOption.field members "defaultValue" none]
  simp only [Presence.ofMembers_eq_ok_iff nodup]
  constructor
  · rintro ⟨presence, fields, flag_eq, default_eq, agree⟩
    refine ⟨⟨_, flag_eq⟩, ⟨_, default_eq⟩, ?_⟩
    rw [Members.get?_eq_true_iff flag_eq, Members.optionally_null_iff default_eq]
    exact PresenceFields.exists_toPresence_iff.1 ⟨presence, agree⟩
  · rintro ⟨⟨flag, flag_eq⟩, ⟨default, default_eq⟩, consistent⟩
    rw [Members.get?_eq_true_iff flag_eq, Members.optionally_null_iff default_eq] at consistent
    have agree : ∃ presence, PresenceFields.toPresence ⟨flag, default⟩ = .ok presence :=
      PresenceFields.exists_toPresence_iff.2 consistent
    obtain ⟨presence, agree⟩ := agree
    exact ⟨presence, ⟨flag, default⟩, flag_eq, default_eq, agree⟩

/-- A declaration can be read if its parts can be. -/
theorem Declaration.exists_given_iff (nodup : (members.map Prod.fst).Nodup)
    (accepts : Accepts read (·.kind = kind)) :
    (∃ node : Declaration α, node.Given read members) ↔ members.HasDeclaration kind := by
  have description_iff := Accepts.toText.toOption.field members "description" none
  have presence_iff := Presence.exists_ofMembers_iff nodup accepts
  constructor
  · rintro ⟨node, name, description, presence⟩
    obtain ⟨required, default, consistent⟩ := presence_iff.1 ⟨_, presence⟩
    exact ⟨⟨_, name⟩, description_iff.1 ⟨_, description⟩, required, default, consistent⟩
  · rintro ⟨⟨name, name_eq⟩, description, required, default, consistent⟩
    obtain ⟨description', description_eq⟩ := description_iff.2 description
    obtain ⟨presence, presence_eq⟩ := presence_iff.2 ⟨required, default, consistent⟩
    exact ⟨⟨name, description', presence⟩, name_eq, description_eq, presence_eq⟩

end

/-! ## Rules that can be read -/

section
variable {members : Members Json}

theorem StringRules.exists_given_iff :
    (∃ rules : StringRules, rules.Given members) ↔ members.HasRules .string := by
  have length_iff := Accepts.toLength.toOption.field members
  rw [Members.HasRules, ← length_iff "minLength" none, ← length_iff "maxLength" none,
    ← Accepts.toText.toOption.field members "pattern" none, ← Accepts.toText.examples]
  exact ⟨fun ⟨_, min, max, pattern, examples⟩ => ⟨⟨_, min⟩, ⟨_, max⟩, ⟨_, pattern⟩, ⟨_, examples⟩⟩,
    fun ⟨⟨_, min⟩, ⟨_, max⟩, ⟨_, pattern⟩, ⟨_, examples⟩⟩ =>
      ⟨⟨_, _, _, _⟩, min, max, pattern, examples⟩⟩

theorem NumberRules.exists_given_iff :
    (∃ rules : NumberRules, rules.Given members) ↔ members.HasRules .number := by
  have bound_iff := Accepts.toBound.toOption.field members
  rw [Members.HasRules, ← bound_iff "min" none, ← bound_iff "max" none,
    ← Accepts.toNumber.examples]
  exact ⟨fun ⟨_, min, max, examples⟩ => ⟨⟨_, min⟩, ⟨_, max⟩, ⟨_, examples⟩⟩,
    fun ⟨⟨_, min⟩, ⟨_, max⟩, ⟨_, examples⟩⟩ => ⟨⟨_, _, _⟩, min, max, examples⟩⟩

theorem EnumRules.exists_given_iff :
    (∃ rules : EnumRules, rules.Given members) ↔ members.HasRules .enum := by
  rw [Members.HasRules, ← Accepts.toText.examples]
  constructor
  · rintro ⟨⟨allowed, ne_nil, examples⟩, allowed_eq, examples_eq⟩
    refine ⟨⟨allowed.map .string, by simpa using ne_nil, allowed_eq, ?_⟩, ⟨_, examples_eq⟩⟩
    simp [Json.kind]
  · rintro ⟨⟨literals, ne_nil, found, isText⟩, ⟨examples, examples_eq⟩⟩
    obtain ⟨allowed, read⟩ := (Accepts.toText.toList (.array literals)).2 isText
    rw [Json.toList_toText_eq_ok_iff] at read
    have ne_nil' : allowed ≠ [] := by
      rintro rfl
      exact ne_nil (Json.array.inj read)
    exact ⟨⟨allowed, ne_nil', examples⟩, by rw [found, read], examples_eq⟩

end

/-! ## Properties that can be read -/

namespace Json

theorem sizeOf_listed_lt {members : Members Json} {key : String} {item : Json}
    (mem : item ∈ members.listed key) : sizeOf item < sizeOf (object members) := by
  rw [Members.listed] at mem
  cases found : members.get? key with
  | none => simp [found] at mem
  | some value =>
    have inObject := sizeOf_value_lt (Members.mem_of_get? found)
    cases value with
    | array items =>
      rw [found] at mem
      exact Nat.lt_trans (sizeOf_item_lt mem) inObject
    | null | bool | number | string | object => simp [found, Json.items] at mem

/-- An object after all that it lists as its properties. -/
@[elab_as_elim]
theorem node_induction {motive : Json → Prop}
    (leaf : ∀ document, document.kind ≠ .object → motive document)
    (object : ∀ members : Members Json, (∀ item ∈ members.listed "properties", motive item) →
      motive (object members)) : ∀ document, motive document
  | .object members => object members fun item _ => node_induction leaf object item
  | null => leaf _ (by simp [kind])
  | bool _ => leaf _ (by simp [kind])
  | number _ => leaf _ (by simp [kind])
  | string _ => leaf _ (by simp [kind])
  | array _ => leaf _ (by simp [kind])
termination_by document => sizeOf document
decreasing_by exact sizeOf_listed_lt ‹_›

theorem nodesOf_eq_flatMap (items : List Json) : nodesOf items = items.flatMap nodes := by
  induction items with
  | nil => simp [nodesOf]
  | cons item rest ih => rw [nodesOf, ih, List.flatMap_cons]

theorem nodesListed_eq_flatMap (document : Json) :
    document.nodesListed = document.items.flatMap nodes := by
  cases document <;> simp [nodesListed, items, nodesOf_eq_flatMap]

theorem nodesIn_eq_flatMap (members : Members Json) :
    nodesIn members = (members.listed "properties").flatMap nodes := by
  induction members with
  | nil => simp [nodesIn, Members.listed]
  | cons member rest ih =>
    obtain ⟨name, value⟩ := member
    rw [nodesIn]
    by_cases h : name = "properties"
    · simp [h, nodesListed_eq_flatMap, Members.listed, Members.get?_cons]
    · rw [if_neg h, ih, Members.listed, Members.listed, Members.get?_cons, if_neg h]

/-- Below an object property stand the properties that it lists. -/
theorem mem_nodes_of_listed {members : Members Json}
    (type : members.get? "type" = some (.string SchemaKind.object.name)) {item node : Json}
    (listed : item ∈ members.listed "properties") (below : node ∈ item.nodes) :
    node ∈ (object members).nodes := by
  rw [nodes, if_pos (by rw [type]; rfl), nodesIn_eq_flatMap]
  exact List.mem_cons_of_mem _ (List.mem_flatMap.2 ⟨item, listed, below⟩)

theorem NamesOnce.of_listed {members : Members Json} (once : (object members).NamesOnce)
    {key : String} {item : Json} (mem : item ∈ members.listed key) : item.NamesOnce := by
  rw [Members.listed] at mem
  cases found : members.get? key with
  | none => simp [found] at mem
  | some value =>
    have onceValue := once.of_get? found
    cases value with
    | array items =>
      rw [found] at mem
      exact namesOnce_array.1 onceValue item mem
    | null | bool | number | string | object => simp [found, Json.items] at mem

theorem NamesOnce.of_parts {document value : Json} (once : document.NamesOnce) {key : String}
    (found : document.parts.get? key = some value) : value.NamesOnce := by
  cases document with
  | object members => exact once.of_get? found
  | array items =>
    have mem := (List.of_mem_zip (Members.mem_of_get? found)).2
    exact namesOnce_array.1 once value mem
  | null | bool | number | string => cases found

end Json

section
variable {place : NodePlace}

theorem SchemaNode.member?_name_of_ofJson {document : Json} (once : document.NamesOnce)
    {node : SchemaNode} (read : SchemaNode.ofJson place document = .ok node) :
    document.member? "name" = some (.string node.name) := by
  obtain ⟨members, rfl⟩ := SchemaNode.object_of_ofJson read
  exact ((SchemaNode.ofJson_object_eq_ok_iff once.nodup).1 read).2.name_eq

/-- Siblings can be read, with different names throughout, if each of them can be and they are named
differently. -/
theorem exists_siblings_iff {items : List Json} (once : ∀ item ∈ items, item.NamesOnce)
    (each : ∀ item ∈ items,
      (∃ node, SchemaNode.ofJson place item = .ok node ∧ node.UniqueNames) ↔ item.IsNode) :
    (∃ nodes, List.Forall₂ (fun item node => SchemaNode.ofJson place item = .ok node) items nodes ∧
      (nodes.map SchemaNode.name).Nodup ∧ ∀ node ∈ nodes, node.UniqueNames) ↔
      (∀ item ∈ items, item.IsNode) ∧ (items.map (·.member? "name")).Nodup := by
  have names_iff : ∀ nodes,
      List.Forall₂ (fun item node => SchemaNode.ofJson place item = .ok node) items nodes →
        ((items.map (·.member? "name")).Nodup ↔ (nodes.map SchemaNode.name).Nodup) := by
    intro nodes read
    have names_eq : items.map (·.member? "name") =
        (nodes.map SchemaNode.name).map fun name => some (.string name) := by
      rw [List.map_map, ← List.forall₂_eq_eq_eq, List.forall₂_map_left_iff,
        List.forall₂_map_right_iff]
      exact ((List.forall₂_and_left items nodes).2 ⟨once, read⟩).imp
        fun item node ⟨once, read⟩ => SchemaNode.member?_name_of_ofJson once read
    rw [names_eq, List.nodup_map_iff fun name name' same => by simpa using same]
  rw [← forall₂_congr each, ← exists_forall₂_iff]
  constructor
  · rintro ⟨nodes, read, nodup, unique⟩
    exact ⟨⟨nodes, forall₂_and_right_iff.2 ⟨read, unique⟩⟩, (names_iff nodes read).2 nodup⟩
  · rintro ⟨⟨nodes, both⟩, nodup⟩
    obtain ⟨read, unique⟩ := forall₂_and_right_iff.1 both
    exact ⟨nodes, read, (names_iff nodes read).1 nodup, unique⟩

theorem SchemaNode.exists_iff {P : SchemaNode → Prop} :
    (∃ node, P node) ↔ (∃ node rules, P (.string node rules)) ∨
      (∃ node rules, P (.number node rules)) ∨ (∃ node examples, P (.boolean node examples)) ∨
        (∃ node rules, P (.enum node rules)) ∨ ∃ node properties, P (.object node properties) := by
  constructor
  · rintro ⟨_ | _ | _ | _ | _, holds⟩
    · exact .inl ⟨_, _, holds⟩
    · exact .inr <| .inl ⟨_, _, holds⟩
    · exact .inr <| .inr <| .inl ⟨_, _, holds⟩
    · exact .inr <| .inr <| .inr <| .inl ⟨_, _, holds⟩
    · exact .inr <| .inr <| .inr <| .inr ⟨_, _, holds⟩
  · rintro (⟨_, _, holds⟩ | ⟨_, _, holds⟩ | ⟨_, _, holds⟩ | ⟨_, _, holds⟩ | ⟨_, _, holds⟩) <;>
      exact ⟨_, holds⟩

/-- The properties of an object can be read if it lists none or lists properties. -/
theorem exists_properties_iff {members : Members Json} (once : (Json.object members).NamesOnce)
    (each : ∀ item ∈ members.listed "properties",
      (∃ node, SchemaNode.ofJson .nested item = .ok node ∧ node.UniqueNames) ↔ item.IsNode) :
    (∃ properties, members.readField "properties" propertiesOf [] = .ok properties ∧
      (properties.map SchemaNode.name).Nodup ∧ ∀ property ∈ properties, property.UniqueNames) ↔
      members.HasRules .object ∧ (∀ item ∈ members.listed "properties", item.IsNode) ∧
        ((members.listed "properties").map (·.member? "name")).Nodup := by
  rw [Members.HasRules, Members.Optionally]
  cases found : members.get? "properties" with
  | none => simp [Members.readField_of_absent found, Members.listed, found]
  | some document =>
    have listed : members.listed "properties" = document.items := by
      rw [Members.listed, found]
      rfl
    have onceItems := once.of_get? found
    rw [listed] at each ⊢
    simp only [Members.readField_of_get? found, propertiesOf_eq_ok_iff]
    cases document with
    | array items =>
      have siblings := exists_siblings_iff (Json.namesOnce_array.1 onceItems) each
      simpa [Json.kind, Json.items] using siblings
    | null | bool | number | string | object => simp [Json.kind]

theorem SchemaKind.exists_ofJson_iff {members : Members Json}
    (named : (Json.object members).kindIsNumber = false) {kind : SchemaKind} :
    (∃ document, members.get? "type" = some document ∧
      SchemaKind.ofJson place document = .ok kind) ↔
      members.get? "type" = some (.string kind.name) := by
  cases found : members.get? "type" with
  | none => simp
  | some document =>
    have notNumber : ∀ n, document ≠ .number (.integer n) := by
      rintro n rfl
      simp [Json.kindIsNumber, found] at named
    simp [SchemaKind.ofJson_eq_ok_iff, notNumber]

namespace SchemaNode

/-- The members of an object give a property of a kind, with different names below it, if they have
the form of that kind. -/
theorem exists_given_iff {members : Members Json} (once : (Json.object members).NamesOnce)
    (kind : SchemaKind)
    (each : kind = .object → ∀ item ∈ members.listed "properties",
      (∃ node, SchemaNode.ofJson .nested item = .ok node ∧ node.UniqueNames) ↔ item.IsNode) :
    (∃ node : SchemaNode, node.kind = kind ∧ node.Given members ∧ node.UniqueNames) ↔
      members.HasDeclaration kind.valueKind ∧ members.HasRules kind ∧
        (kind = .object → (∀ item ∈ members.listed "properties", item.IsNode) ∧
          ((members.listed "properties").map (·.member? "name")).Nodup) := by
  have nodup := once.nodup
  rw [exists_iff]
  cases kind with
  | string =>
    rw [SchemaKind.valueKind, ← Declaration.exists_given_iff nodup Accepts.toText,
      ← StringRules.exists_given_iff]
    simp [kind, Given, UniqueNames, properties, sites]
  | number =>
    rw [SchemaKind.valueKind, ← Declaration.exists_given_iff nodup Accepts.toNumber,
      ← NumberRules.exists_given_iff]
    simp [kind, Given, UniqueNames, properties, sites]
  | boolean =>
    rw [SchemaKind.valueKind, ← Declaration.exists_given_iff nodup Accepts.toFlag,
      Members.HasRules, ← Accepts.toFlag.examples]
    simp [kind, Given, UniqueNames, properties, sites]
  | enum =>
    rw [SchemaKind.valueKind, ← Declaration.exists_given_iff nodup Accepts.toText,
      ← EnumRules.exists_given_iff]
    simp [kind, Given, UniqueNames, properties, sites]
  | object =>
    have properties_iff := exists_properties_iff once (each rfl)
    rw [SchemaKind.valueKind, ← Declaration.exists_given_iff nodup Accepts.toMembers]
    simp only [forall_const, ← properties_iff]
    simp [kind, Given, uniqueNames_object, and_assoc]

/-- **The language of properties.** A property can be read, with different names below it, from the
well-formed documents. -/
theorem exists_ofJson_iff (place : NodePlace) {document : Json} (once : document.NamesOnce)
    (named : ∀ node ∈ document.nodes, node.kindIsNumber = false) :
    (∃ node, SchemaNode.ofJson place document = .ok node ∧ node.UniqueNames) ↔ document.IsNode := by
  induction document using Json.node_induction generalizing place with
  | leaf document notObject =>
    refine iff_of_false ?_ ?_
    · rintro ⟨node, read, -⟩
      obtain ⟨members, rfl⟩ := object_of_ofJson read
      exact notObject rfl
    · rintro ⟨⟩
      exact notObject rfl
  | object members ih =>
    have each : members.get? "type" = some (.string SchemaKind.object.name) →
        ∀ item ∈ members.listed "properties",
          (∃ node, SchemaNode.ofJson .nested item = .ok node ∧ node.UniqueNames) ↔
            item.IsNode := fun type item listed =>
      ih item listed .nested (once.of_listed listed) fun node below =>
        named node (Json.mem_nodes_of_listed type listed below)
    have ownKind := named (.object members) List.mem_cons_self
    simp only [ofJson_object_eq_ok_iff once.nodup, SchemaKind.exists_ofJson_iff ownKind]
    constructor
    · rintro ⟨node, ⟨type, given⟩, unique⟩
      have form := (exists_given_iff once node.kind fun isObject => each (isObject ▸ type)).1
        ⟨node, rfl, given, unique⟩
      exact ⟨type, form.1, form.2.1, fun isObject => (form.2.2 isObject).1,
        fun isObject => (form.2.2 isObject).2⟩
    · rintro @⟨_, kind, type, declaration, rules, properties, names⟩
      obtain ⟨node, rfl, given, unique⟩ :=
        (exists_given_iff once kind fun isObject => each (isObject ▸ type)).2
          ⟨declaration, rules, fun isObject => ⟨properties isObject, names isObject⟩⟩
      exact ⟨node, ⟨type, given⟩, unique⟩

end SchemaNode

end

/-! ## Root schemas that can be read -/

/-- The sections of a schema can be read, with different names throughout, from a list of
properties. -/
theorem exists_sections_iff {document : Json} (once : document.NamesOnce)
    (named : ∀ item ∈ document.items, ∀ node ∈ item.nodes, node.kindIsNumber = false) :
    (∃ nodes, document.toList (SchemaNode.ofJson .section) = .ok nodes ∧
      (nodes.map SchemaNode.name).Nodup ∧ ∀ node ∈ nodes, node.UniqueNames) ↔
      document.IsNodeList := by
  cases document with
  | array items =>
    have onceItems := Json.namesOnce_array.1 once
    have siblings := exists_siblings_iff onceItems fun item mem =>
      SchemaNode.exists_ofJson_iff .section (onceItems item mem) (named item mem)
    simp only [Json.toList_eq_ok_iff, Json.array.injEq, exists_eq_left', siblings]
    exact ⟨fun ⟨nodes, names⟩ => ⟨rfl, nodes, names⟩, fun list => ⟨list.nodes, list.names⟩⟩
  | null | bool | number | string | object =>
    refine iff_of_false ?_ fun list => ?_
    · simp [Json.toList, Json.mistyped_ne_ok]
    · have := list.array
      simp [Json.kind] at this

theorem RootSchema.decode_eq_ok_iff {document : Json} (once : document.NamesOnce)
    {schema : RootSchema} :
    decode document = .ok schema ↔
      (document.kind = .object ∨ document.kind = .array ∧ document.items.length ≤ 2) ∧
      document.parts.readField "description" Json.toText "" = .ok schema.description ∧
      document.parts.readField "properties" (Json.toList (SchemaNode.ofJson .section)) [] =
        .ok schema.properties := by
  obtain ⟨description, properties⟩ := schema
  cases document with
  | object members => simp [decode_object_eq_ok_iff once.nodup, Json.parts, Json.kind]
  | array items =>
    -- No element, only the description, both, or one too many.
    rcases items with _ | ⟨given, _ | ⟨sections, _ | ⟨third, rest⟩⟩⟩
    · simp [decode, Json.parts, Json.kind, Json.items, Members.readField]
    · simp [decode, Json.parts, Json.kind, Json.items, Members.readField, Members.get?_cons,
        map_eq_ok_iff]
    · simp [decode, Json.parts, Json.kind, Json.items, Members.readField, Members.get?_cons,
        bind_eq_ok_iff, map_eq_ok_iff]
    · simp [decode, Json.kind, Json.items, bind_eq_ok_iff]
  | null | bool | number | string => simp [decode, Json.kind, Json.mistyped_ne_ok]

theorem exists_parts_iff {document : Json} (once : document.NamesOnce)
    (named : ∀ node ∈ document.declaredNodes, node.kindIsNumber = false) :
    (∃ nodes,
      document.parts.readField "properties" (Json.toList (SchemaNode.ofJson .section)) [] =
        .ok nodes ∧
      (nodes.map SchemaNode.name).Nodup ∧ ∀ node ∈ nodes, node.UniqueNames) ↔
      document.parts.Optionally "properties" Json.IsNodeList := by
  rw [Members.Optionally]
  cases found : document.parts.get? "properties" with
  | none => simp [Members.readField_of_absent found]
  | some sections =>
    have onceSections : sections.NamesOnce := once.of_parts found
    simp only [Members.readField_of_get? found, Option.mem_some_iff, forall_eq']
    refine exists_sections_iff onceSections fun item mem node below => named node ?_
    refine List.mem_flatMap.2 ⟨item, ?_, below⟩
    rw [Members.listed, found]
    exact mem

/-- **The schema language.** A document can be read as a schema exactly if it is one. -/
theorem RootSchema.ofJson_isOk_iff_isSchema {document : Json} (once : document.NamesOnce)
    (named : ∀ node ∈ document.declaredNodes, node.kindIsNumber = false) :
    (∃ schema, RootSchema.ofJson document = .ok schema) ↔ document.IsSchema := by
  have sections_iff := exists_parts_iff once named
  have description_iff := Accepts.toText.field document.parts "description" ""
  simp only [ofJson_eq_ok_iff, firstDuplicate_eq_none_iff, UniqueNames, decode_eq_ok_iff once]
  constructor
  · rintro ⟨schema, ⟨form, description, properties⟩, names⟩
    exact ⟨form, description_iff.1 ⟨_, description⟩, sections_iff.1 ⟨_, properties, names⟩⟩
  · rintro ⟨form, description, properties⟩
    obtain ⟨text, text_eq⟩ := description_iff.2 description
    obtain ⟨nodes, nodes_eq, names⟩ := sections_iff.2 properties
    exact ⟨⟨text, nodes⟩, ⟨form, text_eq, nodes_eq⟩, names⟩

/-- A server with a port and, one level further down, a mode. -/
def serverDocument : Json :=
  .object [("description", .string "server"), ("properties", .array [.object
    [("type", .string "object"), ("name", .string "server"), ("properties", .array [
      .object [("name", .string "port"), ("type", .string "number"), ("required", .bool true),
        ("defaultValue", .null)],
      .object [("type", .string "object"), ("name", .string "tls"), ("defaultValue", .object []),
        ("properties", .array [.object
          [("type", .string "enum"), ("name", .string "mode"),
            ("enum", .array [.string "strict", .string "lax"])]])]])]])]

theorem RootSchema.ofJson_isOk_iff_isSchema_server :
    serverDocument.NamesOnce ∧
      (∀ node ∈ serverDocument.declaredNodes, node.kindIsNumber = false) ∧
      serverDocument.IsSchema := by
  have once : serverDocument.NamesOnce := by decide
  have named : ∀ node ∈ serverDocument.declaredNodes, node.kindIsNumber = false := by decide
  exact ⟨once, named, (ofJson_isOk_iff_isSchema once named).1 ⟨_, rfl⟩⟩

end ConfigSchema
