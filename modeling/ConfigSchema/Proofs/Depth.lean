import ConfigSchema.Proofs.Language

/-! # Properties at every depth

Below a section the number of a kind does for its name (`Json.numberedKind?`). With the name in
place of the number (`Json.kindNamed`) a property that can be read at one depth can be read at every
depth, and what is read is the same (`RootSchema.accepted_at_depth_iff`). -/
namespace ConfigSchema

/-! ## Documents at a depth -/

namespace Json

/-- The schema document whose only section is a property. -/
def asOnlySection (node : Json) : Json := .object [("properties", .array [node])]

/-- A document stands in another one, so many levels down: each level is an object property whose
only property is the next level. -/
inductive StandsIn (node : Json) : NodePlace → Nat → Json → Prop
  | self {place : NodePlace} : StandsIn node place 0 node
  | within {place : NodePlace} {depth : Nat} {members : Members Json} {inner : Json}
      (type : ∃ document, members.get? "type" = some document ∧
        SchemaKind.ofJson place document = .ok .object)
      (declaration : members.HasDeclaration .object)
      (properties : members.get? "properties" = some (.array [inner]))
      (stands : StandsIn node .nested depth inner) :
      StandsIn node place (depth + 1) (.object members)

/-- The kind that a property gives by its number. -/
def numberedKind? (node : Json) : Option SchemaKind :=
  match node.member? "type" with
  | some (.number (.integer n)) => if 0 ≤ n.val then SchemaKind.all[n.val.toNat]? else none
  | _ => none

/-- The same property, with the name of its kind in place of the number. -/
def kindNamed : Json → Json
  | .object members =>
    match (object members).numberedKind? with
    | some kind => .object (Members.replace "type" (.string kind.name) members)
    | none => .object members
  | other => other

end Json

def SchemaNode.soleBelow : Nat → SchemaNode → Option SchemaNode
  | 0, node => some node
  | depth + 1, .object _ [property] => property.soleBelow depth
  | _ + 1, _ => none

def RootSchema.soleAt (depth : Nat) (schema : RootSchema) : Option SchemaNode :=
  match schema.properties with
  | [node] => node.soleBelow depth
  | _ => none

/-! ## The kind of a property -/

namespace SchemaKind

variable {members : Members Json} {kind : SchemaKind}

theorem exists_section_iff :
    (∃ document, members.get? "type" = some document ∧ ofJson .section document = .ok kind) ↔
      members.get? "type" = some (.string kind.name) := by
  simp [ofJson_eq_ok_iff]

theorem exists_nested_iff :
    (∃ document, members.get? "type" = some document ∧ ofJson .nested document = .ok kind) ↔
      members.get? "type" = some (.string kind.name) ∨
        (Json.object members).numberedKind? = some kind := by
  simp only [ofJson_eq_ok_iff, Json.numberedKind?, Json.member?_object]
  cases members.get? "type" with
  | none => simp
  | some document =>
    cases document with
    | number value => cases value <;> simp
    | null | bool | string | array | object => simp

end SchemaKind

/-! ## Fields other than the kind -/

section
variable {first second : Members Json} (nodup : (first.map Prod.fst).Nodup)
  (nodup' : (second.map Prod.fst).Nodup)
  (same : ∀ key, key ≠ "type" → first.get? key = second.get? key)
include same

theorem Members.readField_of_same {γ : Type} {key : String} (other : key ≠ "type")
    {read : Json → Decoded γ} {absent value : γ}
    (read_eq : first.readField key read absent = .ok value) :
    second.readField key read absent = .ok value := by
  rwa [readField, ← same key other]

include nodup nodup'

theorem Declaration.Given.of_same {α : Type} {value : Json → Decoded α} {node : Declaration α}
    (given : node.Given value first) : node.Given value second where
  name := (same _ (by decide)).symm.trans given.name
  description := Members.readField_of_same same (by decide) given.description
  presence := by
    obtain ⟨fields, required, default, agree⟩ :=
      (Presence.ofMembers_eq_ok_iff nodup).1 given.presence
    exact (Presence.ofMembers_eq_ok_iff nodup').2
      ⟨fields, Members.readField_of_same same (by decide) required,
        Members.readField_of_same same (by decide) default, agree⟩

/-- What members give of a property of a kind does not depend on the kind that they name. -/
theorem SchemaNode.Given.of_same {node : SchemaNode} (given : node.Given first) :
    node.Given second := by
  have field {γ : Type} {key : String} {read : Json → Decoded γ} {absent value : γ}
      (other : key ≠ "type") (read_eq : first.readField key read absent = .ok value) :
      second.readField key read absent = .ok value := Members.readField_of_same same other read_eq
  cases node with
  | string node rules =>
    obtain ⟨own, rules⟩ := given
    exact ⟨own.of_same nodup nodup' same, field (by decide) rules.minLength,
      field (by decide) rules.maxLength, field (by decide) rules.pattern,
      field (by decide) rules.examples⟩
  | number node rules =>
    obtain ⟨own, rules⟩ := given
    exact ⟨own.of_same nodup nodup' same, field (by decide) rules.min,
      field (by decide) rules.max, field (by decide) rules.examples⟩
  | boolean node examples =>
    exact ⟨given.1.of_same nodup nodup' same, field (by decide) given.2⟩
  | enum node rules =>
    obtain ⟨own, rules⟩ := given
    exact ⟨own.of_same nodup nodup' same, (same _ (by decide)).symm.trans rules.allowed,
      field (by decide) rules.examples⟩
  | object node properties =>
    exact ⟨given.1.of_same nodup nodup' same, field (by decide) given.2⟩

end

theorem SchemaNode.given_replace_type_iff {members : Members Json} {node : SchemaNode}
    (nodup : (members.map Prod.fst).Nodup) (has : members.has "type" = true) (type : Json) :
    node.Given (members.replace "type" type) ↔ node.Given members := by
  have nodup' : ((members.replace "type" type).map Prod.fst).Nodup := by
    rwa [Members.names_replace]
  have same : ∀ key, key ≠ "type" →
      members.get? key = (members.replace "type" type).get? key := by
    intro key other
    rw [Members.get?_replace has, if_neg other.symm]
  exact ⟨fun given => given.of_same nodup' nodup fun key other => (same key other).symm,
    fun given => given.of_same nodup nodup' same⟩

/-! ## Places -/

theorem forall₂_singleton_left_iff {α β : Type} {R : α → β → Prop} {item : α} {values : List β} :
    List.Forall₂ R [item] values ↔ ∃ value, values = [value] ∧ R item value := by
  simp [List.forall₂_cons_left_iff, and_comm]

theorem SchemaKind.name_injective {first second : SchemaKind} (same : first.name = second.name) :
    first = second := by
  have read := ofName_eq_ok_iff.2 same
  rw [ofName_eq_ok_iff.2 rfl] at read
  exact Except.ok.inj read

namespace Json

theorem numberedKind?_of_name {members : Members Json} {name : String}
    (named : members.get? "type" = some (.string name)) :
    (object members).numberedKind? = none := by
  simp [numberedKind?, named]

theorem object_of_numberedKind? {node : Json} {kind : SchemaKind}
    (numbered : node.numberedKind? = some kind) :
    ∃ (members : Members Json) (n : Integer64), node = .object members ∧
      members.get? "type" = some (.number (.integer n)) := by
  unfold numberedKind? at numbered
  split at numbered
  · rename_i n type
    cases node with
    | object members => exact ⟨members, n, rfl, type⟩
    | null | bool | number | string | array => cases type
  · cases numbered

theorem kindNamed_of_none {node : Json} (named : node.numberedKind? = none) :
    node.kindNamed = node := by
  cases node with
  | object members => rw [kindNamed, named]
  | null | bool | number | string | array => rfl

theorem kindNamed_of_some {members : Members Json} {kind : SchemaKind}
    (numbered : (object members).numberedKind? = some kind) :
    (object members).kindNamed = .object (members.replace "type" (.string kind.name)) := by
  rw [kindNamed, numbered]

end Json

namespace SchemaNode

variable {document : Json} {node : SchemaNode}

/-- A section is read like a property below one, unless it gives its kind by a number. -/
theorem ofJson_section_iff (once : document.NamesOnce) :
    ofJson .section document = .ok node ↔
      ofJson .nested document = .ok node ∧ document.numberedKind? = none := by
  by_cases isObject : ∃ members : Members Json, document = .object members
  · obtain ⟨members, rfl⟩ := isObject
    rw [ofJson_object_eq_ok_iff once.nodup, ofJson_object_eq_ok_iff once.nodup,
      SchemaKind.exists_section_iff, SchemaKind.exists_nested_iff]
    constructor
    · rintro ⟨named, given⟩
      exact ⟨⟨.inl named, given⟩, Json.numberedKind?_of_name named⟩
    · rintro ⟨⟨named | numbered, given⟩, none⟩
      · exact ⟨named, given⟩
      · rw [none] at numbered
        cases numbered
  · exact iff_of_false (fun read => isObject (object_of_ofJson read))
      fun ⟨read, _⟩ => isObject (object_of_ofJson read)

/-- With the name of its kind in place of the number, a property below a section can be a
section. -/
theorem ofJson_kindNamed_iff (once : document.NamesOnce) :
    ofJson .section document.kindNamed = .ok node ↔ ofJson .nested document = .ok node := by
  cases numbered : document.numberedKind? with
  | none =>
    rw [Json.kindNamed_of_none numbered, ofJson_section_iff once]
    exact and_iff_left numbered
  | some kind =>
    obtain ⟨members, n, rfl, type⟩ := Json.object_of_numberedKind? numbered
    have nodup := once.nodup
    have nodup' : ((members.replace "type" (.string kind.name)).map Prod.fst).Nodup := by
      rwa [Members.names_replace]
    have has : members.has "type" = true := by rw [Members.has_eq_isSome, type, Option.isSome_some]
    -- One place names the kind and the other numbers it; all other members are the same.
    have kind_iff : kind.name = node.kind.name ↔ kind = node.kind :=
      ⟨SchemaKind.name_injective, congrArg _⟩
    rw [Json.kindNamed_of_some numbered, ofJson_object_eq_ok_iff nodup,
      ofJson_object_eq_ok_iff nodup', SchemaKind.exists_section_iff, SchemaKind.exists_nested_iff,
      numbered, Members.get?_replace has, type, given_replace_type_iff nodup has]
    simp [kind_iff]

/-- An object whose only property is a document can be read exactly if that can be read below
it. -/
theorem ofJson_within_iff {place : NodePlace} {members : Members Json} {inner : Json}
    (nodup : (members.map Prod.fst).Nodup)
    (type : ∃ document, members.get? "type" = some document ∧
      SchemaKind.ofJson place document = .ok .object)
    (properties : members.get? "properties" = some (.array [inner])) :
    ofJson place (.object members) = .ok node ↔
      ∃ (declared : Declaration (Members Json)) (property : SchemaNode),
        node = .object declared [property] ∧ declared.Given Json.toMembers members ∧
          ofJson .nested inner = .ok property := by
  rw [ofJson_object_eq_ok_iff nodup]
  obtain ⟨document, found, isObject⟩ := type
  have kind_iff : (∃ document, members.get? "type" = some document ∧
      SchemaKind.ofJson place document = .ok node.kind) ↔ node.kind = .object := by
    simp [found, isObject, eq_comm]
  have listed_iff : ∀ nodes, members.readField "properties" propertiesOf [] = .ok nodes ↔
      ∃ property, nodes = [property] ∧ ofJson .nested inner = .ok property := by
    intro nodes
    rw [Members.readField_of_get? properties, propertiesOf_eq_ok_iff]
    simp [forall₂_singleton_left_iff]
  rw [kind_iff]
  constructor
  · rintro ⟨kind, given⟩
    cases node with
    | object declared nodes =>
      obtain ⟨declaration, listed⟩ := given
      obtain ⟨property, rfl, read⟩ := (listed_iff nodes).1 listed
      exact ⟨declared, property, rfl, declaration, read⟩
    | string | number | boolean | enum => cases kind
  · rintro ⟨declared, property, rfl, declaration, read⟩
    exact ⟨rfl, declaration, (listed_iff _).2 ⟨property, rfl, read⟩⟩

end SchemaNode

/-! ## Depths -/

def NodePlace.below : NodePlace → Nat → NodePlace
  | place, 0 => place
  | _, _ + 1 => .nested

theorem NodePlace.below_nested (depth : Nat) : NodePlace.nested.below depth = .nested := by
  cases depth <;> rfl

theorem Json.NamesOnce.of_only {members : Members Json} {inner : Json}
    (once : (object members).NamesOnce)
    (properties : members.get? "properties" = some (.array [inner])) : inner.NamesOnce :=
  namesOnce_array.1 (once.of_get? properties) inner List.mem_cons_self

namespace Json.StandsIn

variable {node outer : Json} {place : NodePlace} {depth : Nat}

theorem namesOnce (stands : node.StandsIn place depth outer) (once : outer.NamesOnce) :
    node.NamesOnce := by
  induction stands with
  | self => exact once
  | within type declaration properties stands ih =>
    exact ih (once.of_only properties)

/-- What stands in a document that can be read can be read, as the property that stands there. -/
theorem of_read (stands : node.StandsIn place depth outer) (once : outer.NamesOnce)
    {around : SchemaNode} (read : SchemaNode.ofJson place outer = .ok around)
    (unique : around.UniqueNames) :
    ∃ parsed, SchemaNode.ofJson (place.below depth) node = .ok parsed ∧ parsed.UniqueNames ∧
      around.soleBelow depth = some parsed := by
  induction stands generalizing around with
  | self => exact ⟨around, read, unique, rfl⟩
  | within type declaration properties stands ih =>
    obtain ⟨declared, property, rfl, -, below⟩ :=
      (SchemaNode.ofJson_within_iff once.nodup type properties).1 read
    have uniqueInner := (SchemaNode.uniqueNames_object.1 unique).2 property List.mem_cons_self
    obtain ⟨parsed, readInner, uniqueParsed, sole⟩ := ih (once.of_only properties) below uniqueInner
    rw [NodePlace.below_nested] at readInner
    exact ⟨parsed, readInner, uniqueParsed, sole⟩

/-- What a document stands in can be read if it can be. -/
theorem exists_read (stands : node.StandsIn place depth outer) (once : outer.NamesOnce)
    {parsed : SchemaNode} (read : SchemaNode.ofJson (place.below depth) node = .ok parsed)
    (unique : parsed.UniqueNames) :
    ∃ around, SchemaNode.ofJson place outer = .ok around ∧ around.UniqueNames := by
  induction stands with
  | self => exact ⟨parsed, read, unique⟩
  | within type declaration properties stands ih =>
    obtain ⟨property, below, uniqueBelow⟩ :=
      ih (once.of_only properties) (by rwa [NodePlace.below_nested])
    obtain ⟨declared, given⟩ :=
      (Declaration.exists_given_iff once.nodup Accepts.toMembers).2 declaration
    refine ⟨.object declared [property], ?_, ?_⟩
    · exact (SchemaNode.ofJson_within_iff once.nodup type properties).2
        ⟨declared, property, rfl, given, below⟩
    · rw [SchemaNode.uniqueNames_object]
      simpa using uniqueBelow

end Json.StandsIn

/-! ## Schemas with one section -/

namespace RootSchema

theorem ofJson_asOnlySection_iff {node : Json} {schema : RootSchema} :
    ofJson node.asOnlySection = .ok schema ↔
      ∃ parsed, schema = ⟨"", [parsed]⟩ ∧ SchemaNode.ofJson .section node = .ok parsed ∧
        parsed.UniqueNames := by
  have nodup : ([("properties", Json.array [node])].map Prod.fst).Nodup := by simp
  have sections_iff : ∀ nodes,
      Json.toList (SchemaNode.ofJson .section) (.array [node]) = .ok nodes ↔
        ∃ parsed, nodes = [parsed] ∧ SchemaNode.ofJson .section node = .ok parsed := by
    intro nodes
    rw [Json.toList_eq_ok_iff]
    simp [forall₂_singleton_left_iff]
  rw [ofJson_eq_ok_iff, firstDuplicate_eq_none_iff, UniqueNames, Json.asOnlySection,
    decode_object_eq_ok_iff nodup, Members.readField_cons_self,
    Members.readField_cons_of_ne (by decide), sections_iff]
  obtain ⟨description, nodes⟩ := schema
  constructor
  · rintro ⟨⟨described, parsed, rfl, read⟩, -, unique⟩
    obtain rfl := Except.ok.inj described
    exact ⟨parsed, rfl, read, unique parsed List.mem_cons_self⟩
  · rintro ⟨parsed, same, read, unique⟩
    obtain ⟨rfl, rfl⟩ := RootSchema.mk.inj same
    exact ⟨⟨rfl, parsed, rfl, read⟩, List.nodup_singleton _, by simpa using unique⟩

section
variable {node outer : Json} {depth : Nat}

/-- A section is accepted if it names its kind, given that it is accepted with its kind named. -/
theorem exists_flat_iff (once : node.NamesOnce) :
    (∃ flat, ofJson node.asOnlySection = .ok flat) ↔
      node.numberedKind? = none ∧ ∃ named, ofJson node.kindNamed.asOnlySection = .ok named := by
  simp only [ofJson_asOnlySection_iff, SchemaNode.ofJson_section_iff once,
    SchemaNode.ofJson_kindNamed_iff once]
  constructor
  · rintro ⟨flat, parsed, same, ⟨read, named⟩, unique⟩
    exact ⟨named, flat, parsed, same, read, unique⟩
  · rintro ⟨named, schema, parsed, same, read, unique⟩
    exact ⟨schema, parsed, same, ⟨read, named⟩, unique⟩

/-- What is accepted below a section is accepted as a section with its kind named, and is the same
property there. -/
theorem exists_named_of_deep (once : outer.NamesOnce)
    (stands : node.StandsIn .section (depth + 1) outer) {deep : RootSchema}
    (accepted : ofJson outer.asOnlySection = .ok deep) :
    ∃ named parsed, ofJson node.kindNamed.asOnlySection = .ok named ∧
      named.soleAt 0 = some parsed ∧ deep.soleAt (depth + 1) = some parsed := by
  obtain ⟨around, rfl, read, unique⟩ := ofJson_asOnlySection_iff.1 accepted
  obtain ⟨parsed, readNode, uniqueNode, sole⟩ := stands.of_read once read unique
  have readNamed := (SchemaNode.ofJson_kindNamed_iff (stands.namesOnce once)).2 readNode
  exact ⟨⟨"", [parsed]⟩, parsed, ofJson_asOnlySection_iff.2 ⟨parsed, rfl, readNamed, uniqueNode⟩,
    rfl, sole⟩

/-- What is accepted as a section with its kind named is accepted below a section. -/
theorem exists_deep_of_named (once : outer.NamesOnce)
    (stands : node.StandsIn .section (depth + 1) outer) {named : RootSchema}
    (accepted : ofJson node.kindNamed.asOnlySection = .ok named) :
    ∃ deep, ofJson outer.asOnlySection = .ok deep := by
  obtain ⟨parsed, rfl, readNamed, unique⟩ := ofJson_asOnlySection_iff.1 accepted
  have read := (SchemaNode.ofJson_kindNamed_iff (stands.namesOnce once)).1 readNamed
  obtain ⟨around, readOuter, uniqueOuter⟩ := stands.exists_read once read unique
  exact ⟨_, ofJson_asOnlySection_iff.2 ⟨around, rfl, readOuter, uniqueOuter⟩⟩

/-- **The language of properties at every depth.** A property is accepted as a section exactly if it
is accepted below sections, but for one that gives its kind by a number and would be accepted with
the name in its place: that is refused as a section alone. What is read is the same at every depth,
and the same as with the name. -/
theorem accepted_at_depth_iff (once : outer.NamesOnce)
    (stands : node.StandsIn .section (depth + 1) outer) :
    (((∃ flat, ofJson node.asOnlySection = .ok flat) ↔
        ∃ deep, ofJson outer.asOnlySection = .ok deep) ↔
      (node.numberedKind? ≠ none → ¬ ∃ named, ofJson node.kindNamed.asOnlySection = .ok named)) ∧
    (∀ flat deep, ofJson node.asOnlySection = .ok flat → ofJson outer.asOnlySection = .ok deep →
      ∃ parsed, flat.soleAt 0 = some parsed ∧ deep.soleAt (depth + 1) = some parsed) ∧
    ∀ deep, ofJson outer.asOnlySection = .ok deep →
      ∃ named parsed, ofJson node.kindNamed.asOnlySection = .ok named ∧
        named.soleAt 0 = some parsed ∧ deep.soleAt (depth + 1) = some parsed := by
  have flat_iff := exists_flat_iff (stands.namesOnce once)
  have deep_iff : (∃ deep, ofJson outer.asOnlySection = .ok deep) ↔
      ∃ named, ofJson node.kindNamed.asOnlySection = .ok named := by
    constructor
    · rintro ⟨deep, accepted⟩
      obtain ⟨named, _, acceptedNamed, -⟩ := exists_named_of_deep once stands accepted
      exact ⟨named, acceptedNamed⟩
    · rintro ⟨named, accepted⟩
      exact exists_deep_of_named once stands accepted
  refine ⟨?_, ?_, fun deep => exists_named_of_deep once stands⟩
  · rw [flat_iff, deep_iff, and_iff_right_iff_imp]
    exact ⟨fun names numbered accepted => numbered (names accepted),
      fun refused accepted => not_not.1 fun numbered => refused numbered accepted⟩
  · intro flat deep acceptedFlat acceptedDeep
    obtain ⟨named, parsed, acceptedNamed, soleNamed, soleDeep⟩ :=
      exists_named_of_deep once stands acceptedDeep
    rw [Json.kindNamed_of_none (flat_iff.1 ⟨flat, acceptedFlat⟩).1, acceptedFlat] at acceptedNamed
    obtain rfl := Except.ok.inj acceptedNamed
    exact ⟨parsed, soleNamed, soleDeep⟩

end

end RootSchema

/-! ## A mode at several depths -/

def wrapping (name : String) (inner : Json) : Members Json :=
  [("name", .string name), ("properties", .array [inner]), ("type", .string "object")]

theorem hasDeclaration_wrapping (name : String) (inner : Json) :
    (wrapping name inner).HasDeclaration .object where
  name := ⟨name, rfl⟩
  description := by simp [Members.Optionally, wrapping, Members.get?_cons]
  required := by simp [Members.Optionally, wrapping, Members.get?_cons]
  default := by simp [Members.Optionally, wrapping, Members.get?_cons]
  consistent := by simp [wrapping, Members.get?_cons]

theorem Json.StandsIn.wrapped {node inner : Json} {depth : Nat}
    (stands : node.StandsIn .nested depth inner) (place : NodePlace) (name : String) :
    node.StandsIn place (depth + 1) (.object (wrapping name inner)) :=
  .within ⟨_, rfl, by cases place <;> rfl⟩ (hasDeclaration_wrapping name inner) rfl stands

/-- A mode whose kind is given in one way or another. -/
def modeDocument (kind : Json) : Json := .object [("name", .string "mode"), ("type", kind)]

/-- A mode two levels below a section. -/
def modeTwoBelow (kind : Json) : Json :=
  .object (wrapping "server" (.object (wrapping "tls" (modeDocument kind))))

/-- A mode whose kind is given by the number of strings. -/
def numberedMode : Json := modeDocument (.number (.integer ⟨0, by decide, by decide⟩))

namespace RootSchema

theorem accepted_at_depth_iff_named :
    (modeTwoBelow (.string "string")).NamesOnce ∧
      (modeDocument (.string "string")).StandsIn .section 2 (modeTwoBelow (.string "string")) ∧
      ((∃ flat, ofJson (modeDocument (.string "string")).asOnlySection = .ok flat) ↔
        ∃ deep, ofJson (modeTwoBelow (.string "string")).asOnlySection = .ok deep) := by
  have once : (modeTwoBelow (.string "string")).NamesOnce := by decide
  have here : (modeDocument (.string "string")).StandsIn .nested 0
      (modeDocument (.string "string")) := .self
  have stands := (here.wrapped .nested "tls").wrapped .section "server"
  exact ⟨once, stands, (accepted_at_depth_iff once stands).1.2 fun numbered => absurd rfl numbered⟩

/-- A kind that is given by its number is refused in a section and read below one. -/
theorem numbered_kind_below_section :
    numberedMode.StandsIn .section 1 (.object (wrapping "app" numberedMode)) ∧
      ofJson numberedMode.asOnlySection = .error (.parse (.wrongType (.integer 0) .kindName)) ∧
      ofJson (Json.object (wrapping "app" numberedMode)).asOnlySection =
        .ok ⟨"", [.object { name := "app" } [.string { name := "mode" } {}]]⟩ :=
  ⟨Json.StandsIn.self.wrapped .section "app", rfl, rfl⟩

end RootSchema

end ConfigSchema
