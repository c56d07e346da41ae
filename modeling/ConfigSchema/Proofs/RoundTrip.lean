import ConfigSchema.Proofs.Language
import ConfigSchema.Schema.Printer

/-! # Schemas survive being written

A schema is read back from the canonical form of the document that it is written to, in which the
members of a property stand in another order. What is written for a value is read as that value
(`Survives`), and what is left out is what a reader assumes (`RootSchema.ofJson_toJson_canonical`).
-/
namespace ConfigSchema

/-! ## Written members -/

section
variable {α : Type} {write : α → Json}

theorem get?_optionalMember (name : String) (value : Option α) (key : String) :
    (optionalMember name write value).get? key = if name = key then value.map write else none := by
  cases value <;> simp [optionalMember, Members.get?_cons]

theorem get?_listMember (name : String) (values : List α) (key : String) :
    (listMember name write values).get? key =
      if name = key ∧ values ≠ [] then some (.array (values.map write)) else none := by
  cases values <;> simp [listMember, Members.get?_cons]

theorem names_optionalMember_sublist (name : String) (value : Option α) :
    ((optionalMember name write value).map Prod.fst).Sublist [name] := by
  cases value <;> simp [optionalMember]

theorem names_listMember_sublist (name : String) (values : List α) :
    ((listMember name write values).map Prod.fst).Sublist [name] := by
  cases values <;> simp [listMember]

theorem Presence.get?_toMembers (presence : Presence α) (key : String) :
    (presence.toMembers write).get? key =
      if key = "required" ∧ presence.isRequired then some (.bool true)
      else if key = "defaultValue" then presence.default?.map write else none := by
  cases presence with
  | required => simp [toMembers, Members.get?_cons, isRequired, default?, eq_comm]
  | «optional» default => simp [toMembers, get?_optionalMember, isRequired, default?, eq_comm]

end

/-! ## Values that survive -/

def ExtendedDouble.isFinite : ExtendedDouble → Bool
  | .finite _ => true
  | .infinite _ | .nan => false

/-- What is written for a value is not null and, in canonical form, is read as that value. -/
structure Survives {α : Type} (read : Json → Decoded α) (write : α → Json) (value : α) : Prop where
  notNull : (write value).canonical ≠ .null
  read_eq : read (write value).canonical = .ok value

namespace Survives

theorem text (value : String) : Survives Json.toText .string value := ⟨nofun, rfl⟩

theorem flag (value : Bool) : Survives Json.toFlag .bool value := ⟨nofun, rfl⟩

theorem number (value : Number) : Survives Json.toNumber .number value := ⟨nofun, rfl⟩

theorem length (value : UInt64) : Survives Json.toLength .ofUInt64 value := by
  refine ⟨nofun, Json.toLength_eq_ok_iff.2 ⟨_, rfl, Int.natCast_nonneg _, ?_⟩⟩
  simp [Integer64.ofUInt64]

theorem bound {value : ExtendedDouble} (finite : value.isFinite) :
    Survives Json.toBound .ofExtendedDouble value := by
  cases value with
  | finite x => exact ⟨nofun, rfl⟩
  | infinite | nan => cases finite

theorem members {value : Members Json} (isCanonical : (Json.object value).IsCanonical) :
    Survives Json.toMembers .object value := by
  have same := isCanonical.canonical_eq
  refine ⟨by simp [same], Json.toMembers_eq_ok_iff.2 ⟨value, same, ?_⟩⟩
  rw [Json.canonical] at same
  exact Json.object.inj same

variable {α : Type} {read : Json → Decoded α} {write : α → Json} {members : Members Json}
  {key : String}

/-- A value that is written only if there is one. -/
theorem option {value : Option α} (survives : ∀ given ∈ value, Survives read write given)
    (found : members.get? key = (value.map write).map Json.canonical) :
    members.readField key (Json.toOption read) none = .ok value := by
  cases value with
  | none => rw [Members.readField_of_absent found]
  | some given =>
    obtain ⟨notNull, read_eq⟩ := survives given rfl
    rw [Members.readField_of_get? found, Json.toOption_eq_ok_iff]
    exact .inr ⟨notNull, given, read_eq, rfl⟩

/-- A list that is written only if it is not empty. -/
theorem list {values : List α} (survives : ∀ given ∈ values, Survives read write given)
    (found : members.get? key =
      (if values ≠ [] then some (.array (values.map write)) else none : Option Json).map
        Json.canonical) :
    members.readField key (Json.toList read) [] = .ok values := by
  cases values with
  | nil => rw [Members.readField_of_absent found]
  | cons first rest =>
    rw [if_pos (by simp), Option.map_some, Json.canonical_array] at found
    rw [Members.readField_of_get? found, Json.toList_eq_ok_iff]
    refine ⟨_, rfl, ?_⟩
    rw [List.map_map, List.forall₂_map_left_iff, List.forall₂_same]
    exact fun given mem => (survives given mem).read_eq

end Survives

/-! ## Declarations that survive -/

section
variable {α : Type} {read : Json → Decoded α} {write : α → Json}

/-- The names that a declaration can write. -/
def Declaration.keys : List String := ["type", "name", "description", "required", "defaultValue"]

theorem Presence.names_toMembers_sublist (presence : Presence α) :
    ((presence.toMembers write).map Prod.fst).Sublist ["required", "defaultValue"] := by
  cases presence with
  | required => exact List.Sublist.cons_cons _ (List.nil_sublist _)
  | «optional» => exact .cons _ (names_optionalMember_sublist _ _)

theorem Declaration.names_toMembers_sublist (kind : SchemaKind) (node : Declaration α) :
    ((node.toMembers kind write).map Prod.fst).Sublist keys := by
  rw [toMembers, List.map_cons, List.map_cons, List.map_append]
  refine .cons_cons _ (.cons_cons _ ?_)
  exact (names_optionalMember_sublist _ _).append (Presence.names_toMembers_sublist _)

/-- The members of a property in canonical form: what it declares and the rules of its kind. -/
def Declaration.written (kind : SchemaKind) (write : α → Json) (node : Declaration α)
    (rules : Members Json) : Members Json :=
  Members.sorted (Json.canonicalMembers (node.toMembers kind write ++ rules))

theorem Declaration.nodup_written (kind : SchemaKind) (node : Declaration α)
    (rules : Members Json) : ((node.written kind write rules).map Prod.fst).Nodup :=
  (Members.ascending_sorted _).nodup

end

/-! ### Rules with names of their own -/

section
variable {α : Type} {read : Json → Decoded α} {write : α → Json} {node : Declaration α}
  {rules : Members Json} {names : List String}

theorem Declaration.get?_written (kind : SchemaKind)
    (ruleNames : (rules.map Prod.fst).Sublist names) (distinct : (keys ++ names).Nodup)
    (key : String) :
    (node.written kind write rules).get? key =
      (((node.toMembers kind write).get? key).or (rules.get? key)).map Json.canonical := by
  have nodup : ((node.toMembers kind write ++ rules).map Prod.fst).Nodup := by
    rw [List.map_append]
    exact distinct.sublist ((names_toMembers_sublist kind node).append ruleNames)
  rw [written, Json.get?_canonical nodup, Members.get?_append]

theorem Declaration.get?_written_rule (kind : SchemaKind)
    (ruleNames : (rules.map Prod.fst).Sublist names) (distinct : (keys ++ names).Nodup)
    {key : String} (mem : key ∈ names) :
    (node.written kind write rules).get? key = (rules.get? key).map Json.canonical := by
  have foreign : (node.toMembers kind write).get? key = none := by
    rw [Members.get?_eq_none_iff]
    exact fun own => (List.nodup_append.1 distinct).2.2 key
      ((names_toMembers_sublist kind node).subset own) key mem rfl
  rw [get?_written kind ruleNames distinct, foreign, Option.none_or]

theorem Declaration.get?_written_key (kind : SchemaKind)
    (ruleNames : (rules.map Prod.fst).Sublist names) (distinct : (keys ++ names).Nodup)
    {key : String} (mem : key ∈ keys) :
    (node.written kind write rules).get? key =
      ((node.toMembers kind write).get? key).map Json.canonical := by
  have foreign : rules.get? key = none := by
    rw [Members.get?_eq_none_iff]
    exact fun rule => (List.nodup_append.1 distinct).2.2 key mem key (ruleNames.subset rule) rfl
  rw [get?_written kind ruleNames distinct, foreign, Option.or_none]

theorem Declaration.type_written (kind : SchemaKind)
    (ruleNames : (rules.map Prod.fst).Sublist names) (distinct : (keys ++ names).Nodup) :
    (node.written kind write rules).get? "type" = some (.string kind.name) := by
  rw [get?_written_key kind ruleNames distinct (by decide)]
  rfl

/-- A declaration is read as it was written if its default is. -/
theorem Declaration.given_written (kind : SchemaKind)
    (ruleNames : (rules.map Prod.fst).Sublist names) (distinct : (keys ++ names).Nodup)
    (survives : ∀ value ∈ node.presence.default?, Survives read write value) :
    node.Given read (node.written kind write rules) := by
  have lookup : ∀ key ∈ keys, (node.written kind write rules).get? key =
      ((node.toMembers kind write).get? key).map Json.canonical :=
    fun key mem => get?_written_key kind ruleNames distinct mem
  refine ⟨?_, ?_, ?_⟩
  · rw [lookup "name" (by decide)]
    rfl
  · refine Survives.option (fun value _ => Survives.text value) ?_
    rw [lookup "description" (by decide)]
    simp [toMembers, Members.get?_cons, Members.get?_append, get?_optionalMember,
      Presence.get?_toMembers]
  · have required : (node.written kind write rules).get? "required" =
        if node.presence.isRequired then some (.bool true) else none := by
      rw [lookup "required" (by decide)]
      cases h : node.presence.isRequired <;>
        simp [toMembers, Members.get?_cons, Members.get?_append, get?_optionalMember,
          Presence.get?_toMembers, h, Json.canonical]
    have default : (node.written kind write rules).get? "defaultValue" =
        (node.presence.default?.map write).map Json.canonical := by
      rw [lookup "defaultValue" (by decide)]
      simp [toMembers, Members.get?_cons, Members.get?_append, get?_optionalMember,
        Presence.get?_toMembers]
    refine (Presence.ofMembers_eq_ok_iff (nodup_written kind node rules)).2
      ⟨⟨node.presence.isRequired, node.presence.default?⟩, ?_, Survives.option survives default, ?_⟩
    · cases h : node.presence.isRequired <;>
        simp [Members.readField, required, h, Json.toFlag]
    · cases node.presence <;> rfl

end

/-! ## Rules that survive -/

section
variable {members : Members Json}

def StringRules.toMembers (rules : StringRules) : Members Json :=
  optionalMember "minLength" .ofUInt64 rules.minLength ++
    (optionalMember "maxLength" .ofUInt64 rules.maxLength ++
      (optionalMember "pattern" .string rules.pattern ++
        listMember "examples" .string rules.examples))

def NumberRules.toMembers (rules : NumberRules) : Members Json :=
  optionalMember "min" .ofExtendedDouble rules.min ++
    (optionalMember "max" .ofExtendedDouble rules.max ++
      listMember "examples" .number rules.examples)

def EnumRules.toMembers (rules : EnumRules) : Members Json :=
  ("enum", .strings rules.allowed) :: listMember "examples" .string rules.examples

theorem StringRules.names_toMembers_sublist (rules : StringRules) :
    (rules.toMembers.map Prod.fst).Sublist ["minLength", "maxLength", "pattern", "examples"] := by
  simp only [toMembers, List.map_append]
  exact (names_optionalMember_sublist _ _).append <| (names_optionalMember_sublist _ _).append <|
    (names_optionalMember_sublist _ _).append <| names_listMember_sublist _ _

theorem NumberRules.names_toMembers_sublist (rules : NumberRules) :
    (rules.toMembers.map Prod.fst).Sublist ["min", "max", "examples"] := by
  simp only [toMembers, List.map_append]
  exact (names_optionalMember_sublist _ _).append <| (names_optionalMember_sublist _ _).append <|
    names_listMember_sublist _ _

theorem EnumRules.names_toMembers_sublist (rules : EnumRules) :
    (rules.toMembers.map Prod.fst).Sublist ["enum", "examples"] :=
  .cons_cons _ (names_listMember_sublist _ _)

theorem StringRules.given_written {rules : StringRules}
    (lookup : ∀ key ∈ ["minLength", "maxLength", "pattern", "examples"],
      members.get? key = (rules.toMembers.get? key).map Json.canonical) : rules.Given members where
  minLength := Survives.option (fun value _ => .length value) <| by
    rw [lookup "minLength" (by decide)]
    simp [toMembers, Members.get?_append, get?_optionalMember, get?_listMember]
  maxLength := Survives.option (fun value _ => .length value) <| by
    rw [lookup "maxLength" (by decide)]
    simp [toMembers, Members.get?_append, get?_optionalMember, get?_listMember]
  pattern := Survives.option (fun value _ => .text value) <| by
    rw [lookup "pattern" (by decide)]
    simp [toMembers, Members.get?_append, get?_optionalMember, get?_listMember]
  examples := Survives.list (fun value _ => .text value) <| by
    rw [lookup "examples" (by decide)]
    simp [toMembers, Members.get?_append, get?_optionalMember, get?_listMember]

theorem NumberRules.given_written {rules : NumberRules}
    (finite : (∀ bound ∈ rules.min, bound.isFinite) ∧ ∀ bound ∈ rules.max, bound.isFinite)
    (lookup : ∀ key ∈ ["min", "max", "examples"],
      members.get? key = (rules.toMembers.get? key).map Json.canonical) : rules.Given members where
  min := Survives.option (fun bound mem => .bound (finite.1 bound mem)) <| by
    rw [lookup "min" (by decide)]
    simp [toMembers, Members.get?_append, get?_optionalMember, get?_listMember]
  max := Survives.option (fun bound mem => .bound (finite.2 bound mem)) <| by
    rw [lookup "max" (by decide)]
    simp [toMembers, Members.get?_append, get?_optionalMember, get?_listMember]
  examples := Survives.list (fun value _ => .number value) <| by
    rw [lookup "examples" (by decide)]
    simp [toMembers, Members.get?_append, get?_optionalMember, get?_listMember]

theorem EnumRules.given_written {rules : EnumRules}
    (lookup : ∀ key ∈ ["enum", "examples"],
      members.get? key = (rules.toMembers.get? key).map Json.canonical) : rules.Given members where
  allowed := by
    rw [lookup "enum" (by decide), toMembers, Members.get?_cons, if_pos rfl, Option.map_some,
      Json.strings, Json.canonical_array, List.map_map]
    rfl
  examples := Survives.list (fun value _ => .text value) <| by
    rw [lookup "examples" (by decide)]
    simp [toMembers, Members.get?_cons, get?_listMember]

end

/-! ## Properties that survive -/

namespace SchemaNode

/-- A document can hold the property: bounds are finite, and the default of an object is canonical,
as every object is that a document holds. -/
def Writable : SchemaNode → Prop
  | number _ rules => (∀ bound ∈ rules.min, bound.isFinite) ∧ ∀ bound ∈ rules.max, bound.isFinite
  | object node _ => ∀ members ∈ node.presence.default?, (Json.object members).IsCanonical
  | string _ _ | boolean _ _ | enum _ _ => True

instance : DecidablePred Writable
  | number _ _ => inferInstanceAs (Decidable (_ ∧ _))
  | object _ _ => inferInstanceAs (Decidable (∀ _ ∈ _, _))
  | string _ _ | boolean _ _ | enum _ _ => inferInstanceAs (Decidable True)

def AllWritable (node : SchemaNode) : Prop :=
  node.Writable ∧ ∀ site ∈ node.sites, site.node.Writable

instance (node : SchemaNode) : Decidable node.AllWritable :=
  inferInstanceAs (Decidable (_ ∧ _))

theorem allWritable_object {node : Declaration (Members Json)} {properties : List SchemaNode} :
    (object node properties).AllWritable ↔
      (object node properties).Writable ∧ ∀ property ∈ properties, property.AllWritable := by
  rw [AllWritable, forall_sites_object]
  rfl

theorem allWritable_of_leaf {node : SchemaNode} (leaf : node.kind ≠ .object)
    (writable : node.Writable) : node.AllWritable := by
  refine ⟨writable, ?_⟩
  simp [sites_of_leaf leaf]

theorem toJsonList_eq_map (nodes : List SchemaNode) :
    toJsonList nodes = nodes.map toJson := by
  induction nodes with
  | nil => simp [toJsonList]
  | cons node rest ih => rw [toJsonList, ih, List.map_cons]

/-- A property is read from the members that its declaration and its rules write. -/
theorem ofJson_written (place : NodePlace) {α : Type} {declared : Declaration α} {write : α → Json}
    {rules : Members Json} {names : List String} (ruleNames : (rules.map Prod.fst).Sublist names)
    (distinct : (Declaration.keys ++ names).Nodup) {node : SchemaNode} {kind : SchemaKind}
    (kind_eq : node.kind = kind) (given : node.Given (declared.written kind write rules)) :
    SchemaNode.ofJson place (.object (declared.written kind write rules)) = .ok node := by
  have type : (declared.written kind write rules).get? "type" = some (.string kind.name) :=
    Declaration.type_written kind ruleNames distinct
  rw [ofJson_object_eq_ok_iff (Declaration.nodup_written kind declared rules), kind_eq]
  exact ⟨⟨_, type, SchemaKind.ofJson_eq_ok_iff.2 (.inl rfl)⟩, given⟩

/-- A property is read as it was written. -/
theorem ofJson_toJson (place : NodePlace) {node : SchemaNode}
    (writable : node.AllWritable) : SchemaNode.ofJson place node.toJson.canonical = .ok node := by
  induction node using SchemaNode.induction generalizing place with
  | leaf node leaf =>
    cases node with
    | object => exact absurd rfl leaf
    | string declared rules =>
      have names := rules.names_toMembers_sublist
      have distinct :
          (Declaration.keys ++ ["minLength", "maxLength", "pattern", "examples"]).Nodup := by decide
      have written : (string declared rules).toJson.canonical =
          .object (declared.written .string .string rules.toMembers) := by
        simp [toJson, Json.canonical, Declaration.written, StringRules.toMembers]
      rw [written]
      refine ofJson_written place names distinct rfl ⟨?_, ?_⟩
      · exact Declaration.given_written .string names distinct fun value _ => .text value
      · exact StringRules.given_written fun key mem =>
          Declaration.get?_written_rule .string names distinct mem
    | number declared rules =>
      have names := rules.names_toMembers_sublist
      have distinct : (Declaration.keys ++ ["min", "max", "examples"]).Nodup := by decide
      have written : (number declared rules).toJson.canonical =
          .object (declared.written .number .number rules.toMembers) := by
        simp [toJson, Json.canonical, Declaration.written, NumberRules.toMembers]
      rw [written]
      refine ofJson_written place names distinct rfl ⟨?_, ?_⟩
      · exact Declaration.given_written .number names distinct fun value _ => .number value
      · exact NumberRules.given_written writable.1 fun key mem =>
          Declaration.get?_written_rule .number names distinct mem
    | boolean declared examples =>
      have names : ((listMember "examples" .bool examples).map Prod.fst).Sublist ["examples"] :=
        names_listMember_sublist _ _
      have distinct : (Declaration.keys ++ ["examples"]).Nodup := by decide
      have written : (boolean declared examples).toJson.canonical =
          .object (declared.written .boolean .bool (listMember "examples" .bool examples)) := by
        simp [toJson, Json.canonical, Declaration.written]
      rw [written]
      refine ofJson_written place names distinct rfl ⟨?_, ?_⟩
      · exact Declaration.given_written .boolean names distinct fun value _ => .flag value
      · refine Survives.list (fun value _ => .flag value) ?_
        rw [Declaration.get?_written_rule .boolean names distinct (by decide), get?_listMember]
        simp
    | enum declared rules =>
      have names := rules.names_toMembers_sublist
      have distinct : (Declaration.keys ++ ["enum", "examples"]).Nodup := by decide
      have written : (enum declared rules).toJson.canonical =
          .object (declared.written .enum .string rules.toMembers) := by
        simp [toJson, Json.canonical, Declaration.written, EnumRules.toMembers]
      rw [written]
      refine ofJson_written place names distinct rfl ⟨?_, ?_⟩
      · exact Declaration.given_written .enum names distinct fun value _ => .text value
      · exact EnumRules.given_written fun key mem =>
          Declaration.get?_written_rule .enum names distinct mem
  | object declared properties ih =>
    have below := (allWritable_object.1 writable).2
    let rules : Members Json := [("properties", .array (toJsonList properties))]
    have names : (rules.map Prod.fst).Sublist ["properties"] := .refl _
    have distinct : (Declaration.keys ++ ["properties"]).Nodup := by decide
    have written : (object declared properties).toJson.canonical =
        .object (declared.written .object .object rules) := by
      simp [toJson, Json.canonical, Declaration.written, rules]
    rw [written]
    refine ofJson_written place names distinct rfl ⟨?_, ?_⟩
    · exact Declaration.given_written .object names distinct fun value mem =>
        .members (writable.1 value mem)
    · have listed : (declared.written .object .object rules).get? "properties" =
          some (.array (properties.map fun property => property.toJson.canonical)) := by
        rw [Declaration.get?_written_rule .object names distinct (by decide), Members.get?_cons,
          if_pos rfl, Option.map_some, Json.canonical_array, toJsonList_eq_map, List.map_map]
        rfl
      rw [Members.readField_of_get? listed, propertiesOf_eq_ok_iff]
      refine ⟨_, rfl, ?_⟩
      rw [List.forall₂_map_left_iff, List.forall₂_same]
      exact fun property mem => ih property mem .nested (below property mem)

end SchemaNode

/-! ## What is read can be written -/

section
variable {α : Type} {members : Members Json}

/-- What is read satisfies whatever a reader grants. -/
theorem Members.forall_of_readField {read : Json → Decoded α} {P : α → Prop}
    (grants : ∀ {document value}, read document = .ok value → P value) {key : String}
    {value : Option α} (read_eq : members.readField key (Json.toOption read) none = .ok value) :
    ∀ given ∈ value, P given := by
  rintro given rfl
  cases found : members.get? key with
  | none => simp [readField_of_absent found] at read_eq
  | some document =>
    rw [readField_of_get? found, Json.toOption_eq_ok_iff] at read_eq
    rcases read_eq with ⟨-, none_eq⟩ | ⟨-, value, value_eq, same⟩
    · cases none_eq
    · cases same
      exact grants value_eq

theorem Json.isFinite_of_toBound {document : Json} {bound : ExtendedDouble}
    (read : document.toBound = .ok bound) : bound.isFinite := by
  obtain ⟨value, -, rfl⟩ := Json.toBound_eq_ok_iff.1 read
  rfl

theorem Json.isCanonical_of_toMembers {document : Json} {given : Members Json}
    (read : document.toMembers = .ok given) : (Json.object given).IsCanonical := by
  obtain ⟨members, rfl, rfl⟩ := Json.toMembers_eq_ok_iff.1 read
  exact isCanonical_canonical (.object members)

theorem Presence.readField_default (nodup : (members.map Prod.fst).Nodup)
    {read : Json → Decoded α} {presence : Presence α}
    (given : Presence.ofMembers read members = .ok presence) :
    members.readField "defaultValue" (Json.toOption read) none = .ok presence.default? := by
  obtain ⟨⟨required, default⟩, -, default_eq, agree⟩ := (ofMembers_eq_ok_iff nodup).1 given
  rw [default_eq]
  cases required <;> cases default <;> cases agree <;> rfl

end

/-- A property that is read from a document is writable, and so is everything below it. -/
theorem SchemaNode.allWritable_of_ofJson {place : NodePlace} {document : Json}
    (once : document.NamesOnce) {node : SchemaNode}
    (read : SchemaNode.ofJson place document = .ok node) : node.AllWritable := by
  induction document using Json.node_induction generalizing place node with
  | leaf document notObject =>
    obtain ⟨members, rfl⟩ := object_of_ofJson read
    exact absurd rfl notObject
  | object members ih =>
    have nodup := once.nodup
    have given := ((ofJson_object_eq_ok_iff nodup).1 read).2
    cases node with
    | string | boolean | enum => exact allWritable_of_leaf nofun trivial
    | number declared rules =>
      refine allWritable_of_leaf nofun ⟨?_, ?_⟩
      · exact Members.forall_of_readField Json.isFinite_of_toBound given.2.min
      · exact Members.forall_of_readField Json.isFinite_of_toBound given.2.max
    | object declared properties =>
      have default : Writable (.object declared properties) :=
        Members.forall_of_readField Json.isCanonical_of_toMembers
          (Presence.readField_default nodup given.1.presence)
      refine allWritable_object.2 ⟨default, ?_⟩
      have listed := given.2
      cases found : members.get? "properties" with
      | none =>
        rw [Members.readField_of_absent found] at listed
        cases listed
        simp
      | some document =>
        rw [Members.readField_of_get? found, propertiesOf_eq_ok_iff] at listed
        obtain ⟨items, rfl, each⟩ := listed
        intro property mem
        obtain ⟨item, item_mem, item_read⟩ := exists_mem_of_forall₂ each mem
        have item_listed : item ∈ members.listed "properties" := by
          rwa [Members.listed, found]
        exact ih item item_listed (once.of_listed item_listed) item_read

/-! ## What is built can be written -/

namespace SchemaNode

/-- A property that is put together by the builders, with ranges that are finite. -/
inductive Built : SchemaNode → Prop
  | newString (name : String) : Built (.string { name } {})
  | newNumber (name : String) : Built (.number { name } {})
  | newBoolean (name : String) : Built (.boolean { name } [])
  | newEnum (name : String) {allowed : List String} {rules : EnumRules}
      (made : EnumRules.ofAllowed? allowed = some rules) : Built (.enum { name } rules)
  | newObject (name : String) {properties : List SchemaNode}
      (parts : ∀ property ∈ properties, property.Built) : Built (.object { name } properties)
  | required {node : SchemaNode} (built : node.Built) : Built node.required
  | described {node : SchemaNode} (description : String) (built : node.Built) :
    Built (node.described description)
  | stringDefault {node rules} (value : String) (built : Built (.string node rules)) :
    Built (.string (node.withDefault value) rules)
  | numberDefault {node rules} (value : Number) (built : Built (.number node rules)) :
    Built (.number (node.withDefault value) rules)
  | booleanDefault {node examples} (value : Bool) (built : Built (.boolean node examples)) :
    Built (.boolean (node.withDefault value) examples)
  | enumDefault {node rules} (value : String) (built : Built (.enum node rules)) :
    Built (.enum (node.withDefault value) rules)
  | objectDefault {node properties} {value : Members Json}
      (isCanonical : (Json.object value).IsCanonical) (built : Built (.object node properties)) :
    Built (.object (node.withDefault value) properties)
  | minLength {node rules} (length : UInt64) (built : Built (.string node rules)) :
    Built (.string node (rules.withMinLength length))
  | maxLength {node rules} (length : UInt64) (built : Built (.string node rules)) :
    Built (.string node (rules.withMaxLength length))
  | pattern {node rules} (pattern : String) (built : Built (.string node rules)) :
    Built (.string node (rules.withPattern pattern))
  | range {node rules} {min max : ExtendedDouble} (finite : min.isFinite ∧ max.isFinite)
      (built : Built (.number node rules)) : Built (.number node (rules.withRange min max))
  | examples {node rules} (examples : List String) (built : Built (.enum node rules)) :
    Built (.enum node (rules.withExamples examples))

theorem AllWritable.required {node : SchemaNode} (writable : node.AllWritable) :
    node.required.AllWritable := by
  cases node with
  | string | boolean | enum => exact allWritable_of_leaf nofun trivial
  | number => exact allWritable_of_leaf nofun writable.1
  | object => exact ⟨nofun, writable.2⟩

theorem AllWritable.described {node : SchemaNode} (writable : node.AllWritable)
    (description : String) : (node.described description).AllWritable := by
  cases node with
  | string | boolean | enum => exact allWritable_of_leaf nofun trivial
  | number => exact allWritable_of_leaf nofun writable.1
  | object => exact ⟨writable.1, writable.2⟩

/-- No step of a builder loses what makes a property writable. -/
theorem Built.allWritable {node : SchemaNode} (built : node.Built) : node.AllWritable := by
  induction built with
  | newString | newBoolean | newEnum | stringDefault | booleanDefault | enumDefault | minLength
  | maxLength | pattern | examples => exact allWritable_of_leaf nofun trivial
  | newNumber => exact allWritable_of_leaf nofun ⟨nofun, nofun⟩
  | newObject name _ ih => exact allWritable_object.2 ⟨nofun, ih⟩
  | required _ ih => exact ih.required
  | described description _ ih => exact ih.described description
  | numberDefault value _ ih => exact allWritable_of_leaf nofun ih.1
  | objectDefault isCanonical _ ih =>
    refine ⟨?_, ih.2⟩
    rintro members ⟨⟩
    exact isCanonical
  | range finite _ _ =>
    refine allWritable_of_leaf nofun ⟨?_, ?_⟩
    · rintro bound ⟨⟩
      exact finite.1
    · rintro bound ⟨⟩
      exact finite.2

end SchemaNode

/-! ## Root schemas that survive -/

namespace RootSchema

/-- A document can hold the schema: names are unique and properties are writable, at every depth. -/
structure Portable (schema : RootSchema) : Prop where
  names : schema.UniqueNames
  nodes : ∀ node ∈ schema.properties, node.AllWritable

theorem ofJson_toJson {schema : RootSchema} (portable : schema.Portable) :
    ofJson schema.toJson.canonical = .ok schema := by
  refine ofJson_eq_ok_iff.2 ⟨?_, schema.firstDuplicate_eq_none_iff.2 portable.names⟩
  let given : Members Json := [("description", .string schema.description),
    ("properties", .array (SchemaNode.toJsonList schema.properties))]
  have names : (given.map Prod.fst).Nodup := by
    change ["description", "properties"].Nodup
    decide
  have nodup := (Members.ascending_sorted (Json.canonicalMembers given)).nodup
  have description := Json.get?_canonical names "description"
  have properties := Json.get?_canonical names "properties"
  rw [toJson, Json.canonical, decode_object_eq_ok_iff nodup,
    Members.readField_of_get? description, Members.readField_of_get? properties]
  refine ⟨rfl, Json.toList_eq_ok_iff.2 ⟨_, rfl, ?_⟩⟩
  rw [Json.canonicalItems_eq_map, SchemaNode.toJsonList_eq_map, List.forall₂_map_left_iff,
    List.forall₂_map_left_iff, List.forall₂_same]
  exact fun node mem => node.ofJson_toJson .section (portable.nodes node mem)

theorem portable_of_ofJson {document : Json} (once : document.NamesOnce) {schema : RootSchema}
    (read : ofJson document = .ok schema) : schema.Portable := by
  obtain ⟨decoded, unique⟩ := ofJson_eq_ok_iff.1 read
  obtain ⟨-, -, sections⟩ := (decode_eq_ok_iff once).1 decoded
  refine ⟨schema.firstDuplicate_eq_none_iff.1 unique, ?_⟩
  cases found : document.parts.get? "properties" with
  | none =>
    rw [Members.readField_of_absent found, Except.ok.injEq] at sections
    simp [← sections]
  | some list =>
    rw [Members.readField_of_get? found, Json.toList_eq_ok_iff] at sections
    obtain ⟨items, rfl, all⟩ := sections
    intro node mem
    obtain ⟨item, item_mem, item_read⟩ := exists_mem_of_forall₂ all mem
    exact SchemaNode.allWritable_of_ofJson
      (Json.namesOnce_array.1 (once.of_parts found) item item_mem) item_read

/-- **Reading undoes writing.** A schema that a document can hold is read back from its document as
it is. Every schema that was read from a document is one, and so is every schema that was built from
properties with different names. -/
theorem ofJson_toJson_canonical :
    (∀ schema : RootSchema, schema.Portable → ofJson schema.toJson.canonical = .ok schema) ∧
    (∀ (document : Json) (schema : RootSchema), document.NamesOnce →
      ofJson document = .ok schema → schema.Portable) ∧
    ∀ schema : RootSchema, schema.UniqueNames → (∀ node ∈ schema.properties, node.Built) →
      schema.Portable :=
  ⟨fun _ portable => ofJson_toJson portable, fun _ _ once read => portable_of_ofJson once read,
    fun _ unique built => ⟨unique, fun node mem => (built node mem).allWritable⟩⟩

/-- The schema of `serverDocument`. -/
def server : RootSchema where
  description := "server"
  properties := [.object { name := "server" }
    [.number { name := "port", presence := .required } {},
      .object { name := "tls", presence := .optional (some []) }
        [.enum { name := "mode" } ⟨["strict", "lax"], by decide, []⟩]]]

theorem ofJson_toJson_canonical_server :
    ofJson serverDocument = .ok server ∧ server.UniqueNames ∧
      (∀ node ∈ server.properties, node.Built) ∧ server.Portable ∧
      ofJson server.toJson.canonical = .ok server := by
  have read : ofJson serverDocument = .ok server := rfl
  have unique : server.UniqueNames := by decide
  have made : EnumRules.ofAllowed? ["strict", "lax"] =
      some ⟨["strict", "lax"], by decide, []⟩ := rfl
  have built : ∀ node ∈ server.properties, node.Built := by
    refine List.forall_mem_singleton.2 (.newObject "server" (List.forall_mem_cons.2 ⟨?_, ?_⟩))
    · exact .required (.newNumber "port")
    · refine List.forall_mem_singleton.2 (.objectDefault (by decide) (.newObject "tls" ?_))
      exact List.forall_mem_singleton.2 (.newEnum "mode" made)
  have portable : server.Portable :=
    ofJson_toJson_canonical.2.1 serverDocument server (by decide) read
  have portable' : server.Portable := ofJson_toJson_canonical.2.2 server unique built
  exact ⟨read, unique, built, portable, ofJson_toJson_canonical.1 server portable'⟩

end RootSchema

end ConfigSchema
