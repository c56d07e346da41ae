import ConfigSchema.Proofs.Canonical
import ConfigSchema.Proofs.Resolution
import ConfigSchema.Proofs.Settings
import ConfigSchema.Proofs.Validation

/-! # The declared part of a document

An object may hold more than its schema declares. Validation sees only its declared part
(`SchemaNode.check_declared`), and so does resolving at the level of the section
(`SchemaNode.declaredSection_materialize`); a whole configuration is resolved without the keys that
name no section and without those that are null (`Validator.configure_filter`). -/
namespace ConfigSchema

/-! ## Declared parts -/

mutual

/-- A value without the keys that are not declared for it. What declares no children says nothing
about the keys of its value. -/
def SchemaNode.declaredPart : SchemaNode → Json → Json
  | .object _ properties, .object members =>
    if properties.isEmpty then .object members
    else .object (Members.reduce (fun key value => declaredValue key value properties) members)
  | _, value => value

/-- What is left of a member: the declared part of its value, if a property has its name. -/
def declaredValue (key : String) (value : Json) : List SchemaNode → Option Json
  | [] => none
  | child :: rest =>
    if child.name = key then some (child.declaredPart value) else declaredValue key value rest

end

def declaredMembers (properties : List SchemaNode) (members : Members Json) : Members Json :=
  members.reduce fun key value => declaredValue key value properties

/-- A section without undeclared keys. No key is declared if the node declares no properties. -/
def SchemaNode.declaredSection (node : SchemaNode) : Json → Json
  | .object members => .object (declaredMembers node.properties members)
  | value => value

section
variable {properties : List SchemaNode}

theorem declaredValue_of_mem (nodup : (properties.map SchemaNode.name).Nodup) {child : SchemaNode}
    (mem : child ∈ properties) (value : Json) :
    declaredValue child.name value properties = some (child.declaredPart value) := by
  induction properties with
  | nil => exact absurd mem List.not_mem_nil
  | cons first rest ih =>
    obtain ⟨fresh, nodupRest⟩ := List.nodup_cons.1 nodup
    rw [declaredValue]
    rcases List.mem_cons.1 mem with rfl | later
    · rw [if_pos rfl]
    · have other : first.name ≠ child.name := fun same =>
        fresh (same ▸ List.mem_map_of_mem later)
      rw [if_neg other, ih nodupRest later]

theorem declaredValue_of_notMem {key : String} (undeclared : key ∉ properties.map SchemaNode.name)
    (value : Json) : declaredValue key value properties = none := by
  induction properties with
  | nil => rw [declaredValue]
  | cons first rest ih =>
    rw [List.map_cons, List.mem_cons, not_or] at undeclared
    rw [declaredValue, if_neg (Ne.symm undeclared.1), ih undeclared.2]

/-- Under a declared name stands the declared part of what stood there. -/
theorem get?_declaredMembers (nodup : (properties.map SchemaNode.name).Nodup) {child : SchemaNode}
    (mem : child ∈ properties) (members : Members Json) :
    (declaredMembers properties members).get? child.name =
      (members.get? child.name).map child.declaredPart :=
  Members.get?_reduce_of_kept (declaredValue_of_mem nodup mem) members

/-- Under any other name stands nothing. -/
theorem get?_declaredMembers_of_notMem {key : String}
    (undeclared : key ∉ properties.map SchemaNode.name) (members : Members Json) :
    (declaredMembers properties members).get? key = none :=
  Members.get?_reduce_of_dropped (declaredValue_of_notMem undeclared) members

theorem ascending_declaredMembers {members : Members Json} (ascending : members.Ascending) :
    (declaredMembers properties members).Ascending :=
  List.Pairwise.sublist (Members.names_reduce_sublist _ members) ascending

/-- Declared members in ascending order are equal if what stands under each declared name is. -/
theorem declaredMembers_eq_of (nodup : (properties.map SchemaNode.name).Nodup)
    {first second : Members Json} (ascending : first.Ascending) (ascending' : second.Ascending)
    (same : ∀ child ∈ properties, (first.get? child.name).map child.declaredPart =
      (second.get? child.name).map child.declaredPart) :
    declaredMembers properties first = declaredMembers properties second := by
  refine (ascending_declaredMembers ascending).ext (ascending_declaredMembers ascending') ?_
  intro key
  by_cases declared : key ∈ properties.map SchemaNode.name
  · obtain ⟨child, mem, rfl⟩ := List.mem_map.1 declared
    rw [get?_declaredMembers nodup mem, get?_declaredMembers nodup mem, same child mem]
  · rw [get?_declaredMembers_of_notMem declared, get?_declaredMembers_of_notMem declared]

end

namespace SchemaNode

theorem declaredPart_of_not_object {value : Json} (h : value.members? = none) (node : SchemaNode) :
    node.declaredPart value = value := by
  cases value with
  | object => simp [Json.members?] at h
  | null | bool | number | string | array => rw [declaredPart]; simp

theorem declaredPart_of_childless (node : SchemaNode) (childless : node.properties = [])
    (value : Json) : node.declaredPart value = value := by
  cases node with
  | object node properties =>
    rw [show properties = [] from childless]
    cases value with
    | object => rw [declaredPart]; rfl
    | null | bool | number | string | array => rw [declaredPart]; simp
  | string | number | boolean | enum => rw [declaredPart]; simp

theorem declaredPart_object (node : Declaration (Members Json)) {properties : List SchemaNode}
    (declares : properties ≠ []) (members : Members Json) :
    (object node properties).declaredPart (.object members) =
      .object (declaredMembers properties members) := by
  rw [declaredPart, if_neg (mt List.isEmpty_iff.1 declares), declaredMembers]

/-! ## Validation -/

/-- A member is checked as its declared part would be, if its value is. -/
theorem memberViolations_declared {node : SchemaNode}
    (part : ∀ path value,
      node.valueViolations path (node.declaredPart value) = node.valueViolations path value)
    {members declared : Members Json}
    (found : declared.get? node.name = (members.get? node.name).map node.declaredPart)
    (parent : String) :
    node.memberViolations parent declared = node.memberViolations parent members := by
  rw [memberViolations, memberViolations, found]
  cases members.get? node.name with
  | none => rfl
  | some value => simp only [Option.map_some, part]

/-- **Of a value only the declared part is checked.** -/
theorem valueViolations_declaredPart {node : SchemaNode} (unique : node.UniqueNames) (path : String)
    (value : Json) :
    node.valueViolations path (node.declaredPart value) = node.valueViolations path value := by
  induction node using SchemaNode.induction generalizing path value with
  | leaf node leaf => rw [declaredPart_of_childless node (properties_of_leaf leaf)]
  | object node properties ih =>
    obtain ⟨nodup, uniqueBelow⟩ := uniqueNames_object.1 unique
    rcases value.object_or_not with ⟨members, rfl⟩ | notObject
    -- an object that declares no children keeps all of its keys
    · by_cases childless : properties = []
      · rw [declaredPart_of_childless (object node properties) childless]
      · rw [declaredPart_object node childless, valueViolations_object, valueViolations_object]
        apply List.flatMap_congr
        intro property mem
        have part := ih property mem (uniqueBelow property mem)
        exact memberViolations_declared part (get?_declaredMembers nodup mem members) path
    · rw [declaredPart_of_not_object notObject]

theorem check_declared {node : SchemaNode} (unique : node.UniqueNames) (members : Members Json) :
    node.check (some (.object (declaredMembers node.properties members))) =
      node.check (some (.object members)) := by
  rw [check_object, check_object]
  apply List.flatMap_congr
  intro property mem
  have part := valueViolations_declaredPart (unique.of_mem mem)
  exact memberViolations_declared part (get?_declaredMembers unique.1 mem members) node.name

/-! ## Settings -/

/-- What stands for a property depends on the declared part of what was found, if what it is filled
to does. -/
theorem declared_standing {node : SchemaNode} {found : Option Json}
    (standing : Option Json → Option Json)
    (filled : ∀ value, standing (some value) = some (node.fill value))
    (fill : ∀ value ∈ found,
      node.declaredPart (node.fill (node.declaredPart value)) =
        node.declaredPart (node.fill value)) :
    (standing (found.map node.declaredPart)).map node.declaredPart =
      (standing found).map node.declaredPart := by
  cases found with
  | none => rfl
  | some value => simpa [filled] using fill value rfl

theorem ascending_fillMembers {members : Members Json} (ascending : members.Ascending)
    (raw : Members Json) (properties : List SchemaNode) :
    (fillMembers raw properties members).Ascending := by
  rw [fillMembers_eq_foldl]
  exact Members.ascending_foldl_insert _ ascending

/-- **Filling goes by the declared part.** Undeclared keys stay where they are, and what is filled
in beside them does not depend on them. -/
theorem declaredPart_fill {node : SchemaNode} (unique : node.UniqueNames) {value : Json}
    (isCanonical : value.IsCanonical) :
    node.declaredPart (node.fill (node.declaredPart value)) =
      node.declaredPart (node.fill value) := by
  induction node using SchemaNode.induction generalizing value with
  | leaf node leaf =>
    simp only [declaredPart_of_childless node (properties_of_leaf leaf)]
  | object node properties ih =>
    obtain ⟨nodup, uniqueBelow⟩ := uniqueNames_object.1 unique
    rcases value.object_or_not with ⟨members, rfl⟩ | notObject
    · by_cases childless : properties = []
      · simp only [declaredPart_of_childless (object node properties) childless]
      · obtain ⟨ascending, values⟩ := Json.isCanonical_object.1 isCanonical
        rw [declaredPart_object node childless, fill_object, fill_object,
          declaredPart_object node childless, declaredPart_object node childless, Json.object.injEq]
        -- filled members stay sorted, so it is enough to compare what stands under each name
        refine declaredMembers_eq_of nodup
          (ascending_fillMembers (ascending_declaredMembers ascending) _ _)
          (ascending_fillMembers ascending _ _) ?_
        intro child mem
        rw [get?_fillMembers _ nodup mem, get?_fillMembers _ nodup mem,
          get?_declaredMembers nodup mem]
        refine declared_standing child.fillFound (fun _ => rfl) fun value found => ?_
        exact ih child mem (uniqueBelow child mem) (values _ (Members.mem_of_get? found))
    · rw [declaredPart_of_not_object notObject]

/-- The declared part of the settings of a section comes from the declared part of the section. -/
theorem declaredSection_materialize {node : SchemaNode} (unique : node.UniqueNames)
    {members : Members Json} (isCanonical : (Json.object members).IsCanonical) :
    node.declaredSection
        (node.materialize (some (node.declaredSection (.object members)))).toJson =
      node.declaredSection (node.materialize (some (.object members))).toJson := by
  obtain ⟨ascending, values⟩ := Json.isCanonical_object.1 isCanonical
  rw [declaredSection, Settings.toJson, Settings.toJson, declaredSection, declaredSection,
    Json.object.injEq]
  refine declaredMembers_eq_of unique.1 (Members.ascending_sorted _) (Members.ascending_sorted _) ?_
  intro child mem
  have resolved := member?_toJson_materialize unique.1 mem
    (some (.object (declaredMembers node.properties members)))
  have resolved' := member?_toJson_materialize unique.1 mem (some (.object members))
  rw [Settings.toJson, Json.member?_object, Option.bind_some, Json.member?_object]
    at resolved resolved'
  rw [resolved, resolved', get?_declaredMembers unique.1 mem]
  refine declared_standing child.resolve (fun _ => rfl) fun value found => ?_
  exact declaredPart_fill (unique.of_mem mem) (values _ (Members.mem_of_get? found))

end SchemaNode

/-! ## Configurations -/

namespace Validator

/-- A section that is null is checked and resolved as one that is absent. -/
theorem check_null (node : SchemaNode) : node.check (some .null) = node.check none := rfl

theorem materialize_null (node : SchemaNode) :
    node.materialize (some .null) = node.materialize none := rfl

/-- Dropping a key leaves every section that it does not name as it is, and drops the section that
it names. -/
theorem sectionOf_filter {members : Members Json} (nodup : (members.map Prod.fst).Nodup)
    {keep : String × Json → Bool} {node : SchemaNode}
    (dropped : ∀ value, members.get? node.name = some value → keep (node.name, value) = false →
      value = .null) :
    sectionOf ⟨.object (members.filter keep)⟩ node = sectionOf ⟨.object members⟩ node ∨
      sectionOf ⟨.object (members.filter keep)⟩ node = none ∧
        sectionOf ⟨.object members⟩ node = some .null := by
  simp only [sectionOf, Json.member?_object, Members.get?_filter nodup]
  cases found : members.get? node.name with
  | none => exact .inl rfl
  | some value =>
    cases kept : keep (node.name, value) with
    | true => exact .inl (by simp [Option.filter, kept])
    | false =>
      obtain rfl := dropped value found kept
      exact .inr ⟨by simp [Option.filter, kept], rfl⟩

/-- **Keys that name no section do not count, and null counts as absent.** A document without some
such keys has the same configuration or the same error, with the same events. -/
theorem configure_filter {schema : RootSchema} {members : Members Json}
    (nodup : (members.map Prod.fst).Nodup) {keep : String × Json → Bool}
    (dropped : ∀ member ∈ members, keep member = false →
      member.1 ∉ schema.properties.map SchemaNode.name ∨ member.2 = .null) :
    configure ⟨.object (members.filter keep)⟩ schema = configure ⟨.object members⟩ schema := by
  have sections : ∀ node ∈ schema.properties,
      sectionOf ⟨.object (members.filter keep)⟩ node = sectionOf ⟨.object members⟩ node ∨
        sectionOf ⟨.object (members.filter keep)⟩ node = none ∧
          sectionOf ⟨.object members⟩ node = some .null := by
    intro node mem
    refine sectionOf_filter nodup fun value found gone => ?_
    rcases dropped _ (Members.mem_of_get? found) gone with unnamed | null
    · exact absurd (List.mem_map_of_mem mem) unnamed
    · exact null
  refine configure_congr (fun node mem => ?_) fun node mem => ?_
  · rcases sections node mem with same | ⟨absent, null⟩
    · rw [faults, faults, same]
    · rw [faults, faults, absent, null, check_null]
  · rcases sections node mem with same | ⟨absent, null⟩
    · rw [same]
    · rw [absent, null, materialize_null]

end Validator

/-! ## Undeclared keys -/

namespace SchemaNode

/-- The settings of a section hold declared properties only. -/
theorem member?_toJson_materialize_of_notMem {node : SchemaNode} {key : String}
    (undeclared : key ∉ node.properties.map name) (section' : Option Json) :
    (node.materialize section').declares key = false ∧
      (node.materialize section').toJson.member? key = none ∧
      (node.materialize section').written.member? key = none := by
  have unlisted : key ∉ (node.materialize section').entries.map Prod.fst := by
    rwa [entries_materialize]
  have unset : key ∉ (node.materialize section').values.map Prod.fst := fun mem =>
    unlisted ((Members.names_filterMap_sublist _).subset mem)
  refine ⟨?_, ?_, ?_⟩
  · rw [Settings.declares, Members.has_eq_isSome, (Members.get?_eq_none_iff _ _).2 unlisted]
    rfl
  · rw [Settings.toJson, Json.member?_object, Members.get?_sorted, Members.get?_eq_none_iff,
      List.map_reverse, List.mem_reverse]
    exact unset
  · rw [Settings.written, Settings.entries_emission, Json.member?_object, Members.get?_eq_none_iff]
    exact unset

/-- **Undeclared keys have no influence.** Sections with the same declared part have the same
violations, and resolve to documents with the same declared part; a key that the section does not
declare is in none of what it resolves to. And the keys of a document that name no section, or that
are null, may be dropped without a change to the outcome, to any section of it or to the events. -/
theorem undeclared_keys_ignored :
    (∀ (node : SchemaNode) (first second : Members Json), node.UniqueNames →
      (Json.object first).IsCanonical → (Json.object second).IsCanonical →
      node.declaredSection (.object first) = node.declaredSection (.object second) →
        node.check (some (.object first)) = node.check (some (.object second)) ∧
        node.declaredSection (node.materialize (some (.object first))).toJson =
          node.declaredSection (node.materialize (some (.object second))).toJson) ∧
    (∀ (node : SchemaNode) (members : Members Json), ∀ key ∉ node.properties.map name,
      (node.materialize (some (.object members))).declares key = false ∧
        (node.materialize (some (.object members))).toJson.member? key = none ∧
        (node.materialize (some (.object members))).written.member? key = none) ∧
    ∀ (schema : RootSchema) (members : Members Json) (keep : String × Json → Bool),
      (members.map Prod.fst).Nodup →
      (∀ member ∈ members, keep member = false →
        member.1 ∉ schema.properties.map name ∨ member.2 = .null) →
        Validator.configure ⟨.object (members.filter keep)⟩ schema =
          Validator.configure ⟨.object members⟩ schema := by
  refine ⟨?_, ?_, ?_⟩
  · intro node first second unique isCanonical isCanonical' same
    have sameMembers : declaredMembers node.properties first =
        declaredMembers node.properties second := Json.object.inj same
    constructor
    · rw [← check_declared unique first, sameMembers, check_declared unique second]
    · rw [← declaredSection_materialize unique isCanonical, same,
        declaredSection_materialize unique isCanonical']
  · intro node members key undeclared
    exact member?_toJson_materialize_of_notMem undeclared _
  · intro schema members keep nodup dropped
    exact Validator.configure_filter nodup dropped

/-- A section with free labels and with a listener, whose port must be given. -/
def gatewayNode : SchemaNode :=
  .object { name := "gateway" }
    [.object { name := "labels" } [],
      .object { name := "listener" }
        [.number { name := "port", presence := .required } {},
          .string { name := "host", presence := .optional (some "localhost") } {}]]

/-- A gateway with some undeclared keys at its own level and in its listener. -/
def gatewaySection (more : Members Json) (undeclared : String) : Members Json :=
  more ++ [("labels", .object [("team", .string "a")]),
    ("listener", .object [(undeclared, .null)])]

/-- The key beside the labels is dropped and that in the listener is kept, each without a trace in
what is declared. -/
theorem undeclared_keys_ignored_gateway :
    let first := gatewaySection [("debug", .bool true)] "note"
    let second := gatewaySection [] "zone"
    let document : Members Json :=
      [("comment", .string "x"), ("gateway", .object first), ("log", .null)]
    let schema : RootSchema := { properties := [gatewayNode, .object { name := "log" } []] }
    gatewayNode.UniqueNames ∧ (Json.object first).IsCanonical ∧ (Json.object second).IsCanonical ∧
      gatewayNode.declaredSection (.object first) = gatewayNode.declaredSection (.object second) ∧
      gatewayNode.check (some (.object first)) = [.missingProperty "gateway.listener.port"] ∧
      gatewayNode.check (some (.object first)) = gatewayNode.check (some (.object second)) ∧
      (gatewayNode.materialize (some (.object first))).toJson = .object
        [("labels", .object [("team", .string "a")]),
          ("listener", .object [("host", .string "localhost"), ("note", .null)])] ∧
      gatewayNode.declaredSection (gatewayNode.materialize (some (.object first))).toJson =
        gatewayNode.declaredSection (gatewayNode.materialize (some (.object second))).toJson ∧
      (gatewayNode.materialize (some (.object first))).toJson.member? "debug" = none ∧
      Validator.configure ⟨.object (document.filter fun member => member.1 == "gateway")⟩ schema =
        Validator.configure ⟨.object document⟩ schema := by
  intro first second document schema
  have unique : gatewayNode.UniqueNames := by decide
  have isCanonical : (Json.object first).IsCanonical := by decide
  have isCanonical' : (Json.object second).IsCanonical := by decide
  have same : gatewayNode.declaredSection (.object first) =
      gatewayNode.declaredSection (.object second) := rfl
  obtain ⟨sections, unlisted, dropped⟩ := undeclared_keys_ignored
  obtain ⟨sameCheck, samePart⟩ :=
    sections gatewayNode first second unique isCanonical isCanonical' same
  have noDebug := (unlisted gatewayNode first "debug" (by decide)).2.1
  refine ⟨unique, isCanonical, isCanonical', same, rfl, sameCheck, rfl, samePart, noDebug, ?_⟩
  refine dropped schema document (fun member => member.1 == "gateway") (by decide) ?_
  intro member mem gone
  simp only [document, List.mem_cons, List.not_mem_nil, or_false] at mem
  rcases mem with rfl | rfl | rfl
  · exact .inl (by decide)
  · simp at gone
  · exact .inr rfl

end SchemaNode

end ConfigSchema
