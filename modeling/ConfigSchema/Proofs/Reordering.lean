import ConfigSchema.Proofs.Names
import ConfigSchema.Proofs.Resolution
import ConfigSchema.Proofs.Settings
import ConfigSchema.Proofs.Validation
import Mathlib.Data.List.Forall2

/-! # The order of siblings

Each sibling is checked by itself, so in another order the violations are the same up to theirs
(`SchemaNode.Reordered.check_perm`). Filling an object inserts what each of them gives, so as long
as names are unique a configuration is the same document (`Validator.configure_reordered`). -/
namespace ConfigSchema

/-! ## Schemas in another order -/

/-- The same property, with siblings below it in another order at any depth. -/
inductive SchemaNode.Reordered : SchemaNode → SchemaNode → Prop
  | refl (node : SchemaNode) : Reordered node node
  | object (node : Declaration (Members Json)) {properties between reordered : List SchemaNode} :
    List.Forall₂ Reordered properties between → between.Perm reordered →
      Reordered (.object node properties) (.object node reordered)

/-- The same siblings in another order, here and at any depth below. -/
def ReorderedSiblings (properties reordered : List SchemaNode) : Prop :=
  ∃ between, List.Forall₂ SchemaNode.Reordered properties between ∧ between.Perm reordered

structure RootSchema.Reordered (schema reordered : RootSchema) : Prop where
  description : reordered.description = schema.description
  properties : ReorderedSiblings schema.properties reordered.properties

namespace SchemaNode.Reordered

variable {node other : SchemaNode}

theorem name_eq (order : node.Reordered other) : other.name = node.name := by
  cases order <;> rfl

theorem isRequired_eq (order : node.Reordered other) : other.isRequired = node.isRequired := by
  cases order <;> rfl

theorem defaultJson_eq (order : node.Reordered other) : other.defaultJson = node.defaultJson := by
  cases order <;> rfl

theorem authoringViolations_eq (order : node.Reordered other) (path : String) :
    other.authoringViolations path = node.authoringViolations path := by
  cases order <;> rfl

theorem siblings (order : node.Reordered other) :
    ReorderedSiblings node.properties other.properties := by
  cases order with
  | refl => exact ⟨_, List.forall₂_same.2 fun property _ => .refl property, .refl _⟩
  | object _ pairs perm => exact ⟨_, pairs, perm⟩

end SchemaNode.Reordered

namespace ReorderedSiblings

variable {α : Type} {properties reordered : List SchemaNode}

/-- What each of the siblings gives, in another order. -/
theorem map_perm (siblings : ReorderedSiblings properties reordered) {f : SchemaNode → α}
    (each : ∀ property ∈ properties, ∀ other, property.Reordered other → f other = f property) :
    (properties.map f).Perm (reordered.map f) := by
  obtain ⟨between, pairs, perm⟩ := siblings
  have same : between.map f = properties.map f := by
    clear perm
    induction pairs with
    | nil => rfl
    | cons pair _ ih =>
      obtain ⟨own, later⟩ := List.forall_mem_cons.1 each
      rw [List.map_cons, List.map_cons, own _ pair, ih later]
  exact same ▸ perm.map f

theorem flatMap_perm (siblings : ReorderedSiblings properties reordered)
    {f : SchemaNode → List α}
    (each : ∀ property ∈ properties, ∀ other, property.Reordered other →
      (f property).Perm (f other)) :
    (properties.flatMap f).Perm (reordered.flatMap f) := by
  obtain ⟨between, pairs, perm⟩ := siblings
  have same : (properties.flatMap f).Perm (between.flatMap f) := by
    clear perm
    induction pairs with
    | nil => exact .refl _
    | cons pair _ ih =>
      obtain ⟨own, later⟩ := List.forall_mem_cons.1 each
      rw [List.flatMap_cons, List.flatMap_cons]
      exact (own _ pair).append (ih later)
  exact same.trans (perm.flatMap_right f)

theorem isEmpty_eq (siblings : ReorderedSiblings properties reordered) :
    reordered.isEmpty = properties.isEmpty := by
  obtain ⟨between, pairs, perm⟩ := siblings
  rw [Bool.eq_iff_iff, List.isEmpty_iff_length_eq_zero, List.isEmpty_iff_length_eq_zero,
    pairs.length_eq, perm.length_eq]

end ReorderedSiblings

/-! ## Violations -/

namespace SchemaNode

namespace Reordered

variable {node other : SchemaNode}

theorem memberViolations_perm (order : node.Reordered other)
    (values : ∀ path value,
      (node.valueViolations path value).Perm (other.valueViolations path value))
    (parent : String) (members : Members Json) :
    (node.memberViolations parent members).Perm (other.memberViolations parent members) := by
  simp only [memberViolations, order.name_eq, order.isRequired_eq, order.authoringViolations_eq]
  cases members.get? node.name with
  | none => exact .refl _
  | some value => exact (values _ value).append_right _

theorem valueViolations_perm (order : node.Reordered other) (path : String) (value : Json) :
    (node.valueViolations path value).Perm (other.valueViolations path value) := by
  induction node using SchemaNode.induction generalizing other path value with
  | leaf node leaf =>
    cases order with
    | refl => exact .refl _
    | object => exact absurd rfl leaf
  | object node properties ih =>
    cases order with
    | refl => exact .refl _
    | object _ pairs perm =>
      rcases value.object_or_not with ⟨members, rfl⟩ | notObject
      · rw [valueViolations_object, valueViolations_object]
        refine ReorderedSiblings.flatMap_perm ⟨_, pairs, perm⟩ fun property mem other order => ?_
        exact order.memberViolations_perm (ih property mem order) path members
      · rw [valueViolations_object_of_not path notObject,
          valueViolations_object_of_not path notObject]

/-- **The order of siblings shows only in the order of the violations.** -/
theorem check_perm (order : node.Reordered other) (section' : Option Json) :
    (node.check section').Perm (other.check section') := by
  rcases absent_or_given section' with absent | ⟨value, rfl, given⟩
  · rw [check_of_absent node absent, check_of_absent other absent, order.isRequired_eq,
      order.name_eq]
  · rw [check_of_present node given, check_of_present other given, order.siblings.isEmpty_eq,
      order.name_eq]
    split
    · exact .refl _
    · exact order.valueViolations_perm node.name value

end Reordered

end SchemaNode

/-! ## Settings -/

namespace Settings

theorem nodup_values {settings : Settings} (nodup : (settings.entries.map Prod.fst).Nodup) :
    (settings.values.map Prod.fst).Nodup :=
  nodup.sublist (Members.names_filterMap_sublist settings.entries)

theorem values_perm {first second : Settings} (order : first.entries.Perm second.entries) :
    first.values.Perm second.values :=
  order.filterMap _

/-- The document of settings does not depend on their order. -/
theorem toJson_perm {first second : Settings} (order : first.entries.Perm second.entries)
    (nodup : (first.entries.map Prod.fst).Nodup) : first.toJson = second.toJson := by
  rw [toJson, toJson, Members.sorted_perm (values_perm order) (nodup_values nodup)]

end Settings

namespace SchemaNode.Reordered

variable {node other : SchemaNode}

theorem fillFound_eq (order : node.Reordered other)
    (fill : ∀ value, other.fill value = node.fill value) (found : Option Json) :
    other.fillFound found = node.fillFound found := by
  rw [fillFound, fillFound, order.defaultJson_eq, funext fill]

/-- **The order of siblings does not matter to what is filled in.** -/
theorem fill_eq (order : node.Reordered other) (unique : node.UniqueNames) (value : Json) :
    other.fill value = node.fill value := by
  induction node using SchemaNode.induction generalizing other value with
  | leaf node leaf =>
    cases order with
    | refl => rfl
    | object => exact absurd rfl leaf
  | object node properties ih =>
    cases order with
    | refl => rfl
    | @object _ _ _ reordered pairs perm =>
      obtain ⟨nodup, uniqueBelow⟩ := uniqueNames_object.1 unique
      rcases value.object_or_not with ⟨members, rfl⟩ | notObject
      · have entries :
            (fillings members properties).entries.Perm (fillings members reordered).entries := by
          refine ReorderedSiblings.map_perm ⟨_, pairs, perm⟩ fun child mem other order => ?_
          have fill := fun value => ih child mem order (uniqueBelow child mem) value
          rw [order.name_eq, order.fillFound_eq fill]
        have once := Settings.nodup_values (by rwa [names_fillings members properties])
        rw [fill_object, fill_object, fillMembers_eq_foldl, fillMembers_eq_foldl,
          Members.foldl_insert_perm (Settings.values_perm entries) once]
      · rw [fill_of_not_object notObject, fill_of_not_object notObject]

theorem resolve_eq (order : node.Reordered other) (unique : node.UniqueNames)
    (found : Option Json) : other.resolve found = node.resolve found := by
  rw [resolve, resolve, order.defaultJson_eq, funext (order.fill_eq unique)]

theorem toJson_materialize_eq (order : node.Reordered other) (unique : node.UniqueNames)
    (section' : Option Json) :
    (node.materialize section').toJson = (other.materialize section').toJson := by
  have entries : (node.materialize section').entries.Perm (other.materialize section').entries := by
    rw [materialize_eq, materialize_eq]
    refine order.siblings.map_perm fun property mem other order => ?_
    rw [order.name_eq, order.resolve_eq (unique.of_mem mem)]
  refine Settings.toJson_perm entries ?_
  rw [entries_materialize]
  exact unique.1

end SchemaNode.Reordered

/-! ## Configurations -/

namespace Validator

variable {schema reordered : RootSchema}

theorem faults_perm (order : schema.Reordered reordered) (validator : Validator) :
    (schema.properties.flatMap validator.faults).Perm
      (reordered.properties.flatMap validator.faults) := by
  refine order.properties.flatMap_perm fun node _ other order => ?_
  rw [faults, faults, sectionOf, sectionOf, order.name_eq]
  exact order.check_perm _

theorem toJson_sections_eq (unique : schema.UniqueNames) (order : schema.Reordered reordered)
    (validator : Validator) :
    Configuration.toJson ⟨schema.properties.map fun node =>
        (node.name, node.materialize (validator.sectionOf node))⟩ =
      Configuration.toJson ⟨reordered.properties.map fun node =>
        (node.name, node.materialize (validator.sectionOf node))⟩ := by
  have sections : (schema.properties.map fun node =>
      (node.name, (node.materialize (validator.sectionOf node)).toJson)).Perm
        (reordered.properties.map fun node =>
          (node.name, (node.materialize (validator.sectionOf node)).toJson)) := by
    refine order.properties.map_perm fun node mem other order => ?_
    rw [sectionOf, sectionOf, order.name_eq,
      order.toJson_materialize_eq (unique.2 node mem)]
  have nodup : ((schema.properties.map fun node =>
      (node.name, (node.materialize (validator.sectionOf node)).toJson)).map Prod.fst).Nodup := by
    rw [List.map_map]
    exact unique.1
  simp only [Configuration.toJson, List.map_map]
  exact congrArg Json.object (Members.sorted_perm sections nodup)

/-- **The order in which siblings are declared does not matter.** With siblings in another order at
any depth the violations of a document are the same up to their order, the document has a
configuration as before or has none as before, and the configuration is the same document. -/
theorem configure_reordered (unique : schema.UniqueNames) (order : schema.Reordered reordered)
    (validator : Validator) :
    (validator.validateRoot schema).result.Perm (validator.validateRoot reordered).result ∧
    ((∃ configuration, (validator.configure schema).result = .ok configuration) ↔
      ∃ configuration, (validator.configure reordered).result = .ok configuration) ∧
    ∀ configuration configuration', (validator.configure schema).result = .ok configuration →
      (validator.configure reordered).result = .ok configuration' →
      configuration.toJson = configuration'.toJson := by
  have faults := faults_perm order validator
  rw [validateRoot, validateRoot, validateSections_eq, validateSections_eq]
  refine ⟨faults, ?_⟩
  by_cases nothing : schema.properties.flatMap validator.faults = []
  · have nothing' : reordered.properties.flatMap validator.faults = [] :=
      (nothing ▸ faults).nil_eq.symm
    rw [configure_of_valid (List.flatMap_eq_nil_iff.1 nothing),
      configure_of_valid (List.flatMap_eq_nil_iff.1 nothing')]
    refine ⟨⟨fun _ => ⟨_, rfl⟩, fun _ => ⟨_, rfl⟩⟩, ?_⟩
    rintro configuration configuration' ⟨⟩ ⟨⟩
    exact toJson_sections_eq unique order validator
  · have something : reordered.properties.flatMap validator.faults ≠ [] :=
      fun nothing' => nothing (nothing' ▸ faults).eq_nil
    rw [configure_of_invalid nothing, configure_of_invalid something]
    refine ⟨⟨?_, ?_⟩, ?_⟩
    · rintro ⟨configuration, ⟨⟩⟩
    · rintro ⟨configuration, ⟨⟩⟩
    · rintro configuration configuration' ⟨⟩

/-- Two sections, the first one with an object among its properties. -/
def forwardSchema : RootSchema where
  properties :=
    [.object { name := "app" }
      [.number { name := "port", presence := .required } {},
        .object { name := "limits" }
          [.string { name := "low", presence := .optional (some "1") } {},
            .string { name := "high", presence := .optional (some "9") } {}]],
      .object { name := "log" } [.string { name := "level" } {}]]

/-- The same sections, and the same properties at every level, the other way round. -/
def backwardSchema : RootSchema where
  properties :=
    [.object { name := "log" } [.string { name := "level" } {}],
      .object { name := "app" }
        [.object { name := "limits" }
          [.string { name := "high", presence := .optional (some "9") } {},
            .string { name := "low", presence := .optional (some "1") } {}],
          .number { name := "port", presence := .required } {}]]

theorem forwardSchema_reordered : forwardSchema.Reordered backwardSchema where
  description := rfl
  properties :=
    have limits := SchemaNode.Reordered.object { name := "limits" }
      (.cons (.refl _) (.cons (.refl _) .nil)) (.swap _ _ [])
    have app := SchemaNode.Reordered.object { name := "app" }
      (.cons (.refl _) (.cons limits .nil)) (.swap _ _ [])
    ⟨_, .cons app (.cons (.refl _) .nil), .swap _ _ []⟩

/-- A document with three faults, one of them in the second section. -/
def faultyDocument : Json :=
  .object [("app", .object [("limits", .null)]), ("log", .object [("level", .null)])]

/-- A document without faults that leaves both limits to their defaults. -/
def validDocument : Json :=
  .object [("app", .object [("port", .ofUInt64 80), ("limits", .object [])])]

/-- Both ways the same faults are found, and without faults the configurations are one document. -/
theorem configure_reordered_backward :
    forwardSchema.UniqueNames ∧ forwardSchema.Reordered backwardSchema ∧
      [.missingProperty "app.port", .typeMismatch "app.limits" .object .null,
          .typeMismatch "log.level" .string .null].Perm
        (validateRoot ⟨faultyDocument⟩ backwardSchema).result ∧
      ∃ configuration configuration',
        (configure ⟨validDocument⟩ forwardSchema).result = .ok configuration ∧
        (configure ⟨validDocument⟩ backwardSchema).result = .ok configuration' ∧
        configuration.toJson = configuration'.toJson := by
  have unique : forwardSchema.UniqueNames := by decide
  obtain ⟨sameFaults, -, -⟩ := configure_reordered unique forwardSchema_reordered ⟨faultyDocument⟩
  have found : (validateRoot ⟨faultyDocument⟩ forwardSchema).result =
      [.missingProperty "app.port", .typeMismatch "app.limits" .object .null,
        .typeMismatch "log.level" .string .null] := by decide
  obtain ⟨-, sameOutcome, sameDocument⟩ :=
    configure_reordered unique forwardSchema_reordered ⟨validDocument⟩
  obtain ⟨configuration, resolved⟩ :
      ∃ configuration, (configure ⟨validDocument⟩ forwardSchema).result = .ok configuration :=
    ⟨_, rfl⟩
  obtain ⟨configuration', resolved'⟩ := sameOutcome.1 ⟨configuration, resolved⟩
  exact ⟨unique, forwardSchema_reordered, found ▸ sameFaults, configuration, configuration',
    resolved, resolved', sameDocument _ _ resolved resolved'⟩

end Validator

end ConfigSchema
