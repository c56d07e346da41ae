import ConfigSchema.Proofs.Resolution
import ConfigSchema.Proofs.Settings
import ConfigSchema.Proofs.Validation

/-! # Validating what was resolved

As long as the defaults of the schema can be trusted, filling them in never changes what validation
finds: a value that is there keeps its violations (`valueViolations_fill`); a property that was
absent was no fault if it has a default, and its default brings none. -/
namespace ConfigSchema

namespace SchemaNode

/-! ## Trusted defaults -/

/-- Every default below a node is a valid value of its property, and every enum below it declares
only literals of its own set. -/
def TrustedDefaults (path : String) (node : SchemaNode) : Prop :=
  ∀ site ∈ node.sites,
    (∀ default ∈ site.node.defaultJson,
      site.node.valueViolations (site.path path) default = []) ∧
    site.node.authoringViolations (site.path path) = []

instance (path : String) (node : SchemaNode) : Decidable (node.TrustedDefaults path) :=
  inferInstanceAs (Decidable (∀ site ∈ node.sites, _ ∧ _))

/-- A property of an object whose defaults are trusted, seen from the object at a path. -/
structure Trusted (parent : String) (node : SchemaNode) : Prop where
  default : ∀ default ∈ node.defaultJson,
    node.valueViolations (parent ++ "." ++ node.name) default = []
  literals : node.authoringViolations (parent ++ "." ++ node.name) = []
  below : node.TrustedDefaults (parent ++ "." ++ node.name)

theorem TrustedDefaults.of_mem {path : String} {node property : SchemaNode}
    (trusted : node.TrustedDefaults path) (mem : property ∈ node.properties) :
    property.Trusted path := by
  cases node with
  | object node properties =>
    obtain ⟨here, below⟩ := forall_sites_object.1 trusted property mem
    exact ⟨here.1, here.2, below⟩
  | string | number | boolean | enum => exact absurd mem List.not_mem_nil

/-! ## Filling and violations -/

/-- A member is as faulty as before if its value is, and if one that was absent now has a trusted
default. -/
theorem Trusted.memberViolations_eq {parent : String} {node : SchemaNode}
    (trusted : node.Trusted parent)
    (fill : ∀ value, node.valueViolations (parent ++ "." ++ node.name) (node.fill value) =
      node.valueViolations (parent ++ "." ++ node.name) value)
    {members filled : Members Json}
    (found : filled.get? node.name = node.fillFound (members.get? node.name) ∨
      filled.get? node.name = node.resolve (members.get? node.name)) :
    node.memberViolations parent filled = node.memberViolations parent members := by
  simp only [memberViolations]
  cases present : members.get? node.name with
  | some value =>
    have filled_eq : filled.get? node.name = some (node.fill value) := by
      simpa [present, fillFound, resolve] using found
    simp only [filled_eq, fill]
  | none =>
    cases default : node.defaultJson with
    | none =>
      have filled_eq : filled.get? node.name = none := by
        simpa [present, fillFound, resolve, default] using found
      simp only [filled_eq]
    | some value =>
      -- Filling inserts the default as it is, resolving inserts it filled: neither is a fault.
      have valid := trusted.default value default
      have filled_eq : ∃ value' , filled.get? node.name = some value' ∧
          node.valueViolations (parent ++ "." ++ node.name) value' = [] := by
        rw [present, fillFound, resolve, default] at found
        rcases found with found | found
        · exact ⟨value, found, valid⟩
        · exact ⟨node.fill value, found, by rw [fill, valid]⟩
      obtain ⟨value', filled_eq, valid'⟩ := filled_eq
      simp [filled_eq, valid', trusted.literals, isRequired_of_default default]

/-- **Filling keeps the violations of a value.** -/
theorem valueViolations_fill {node : SchemaNode} (unique : node.UniqueNames) {path : String}
    (trusted : node.TrustedDefaults path) (value : Json) :
    node.valueViolations path (node.fill value) = node.valueViolations path value := by
  induction node using SchemaNode.induction generalizing path value with
  | leaf node leaf => rw [fill_of_leaf leaf]
  | object node properties ih =>
    obtain ⟨nodup, uniqueBelow⟩ := uniqueNames_object.1 unique
    rcases value.object_or_not with ⟨members, rfl⟩ | h
    · rw [fill_object, valueViolations_object, valueViolations_object]
      apply List.flatMap_congr
      intro property mem
      have trusted := trusted.of_mem mem
      exact trusted.memberViolations_eq (ih property mem (uniqueBelow property mem) trusted.below)
        (.inl (get?_fillMembers members nodup mem))
    · rw [fill_of_not_object h]

theorem check_toJson_materialize_object {node : SchemaNode} (unique : node.UniqueNames)
    (trusted : node.TrustedDefaults node.name) (members : Members Json) :
    node.check (some (node.materialize (some (.object members))).toJson) =
      node.check (some (.object members)) := by
  rw [Settings.toJson, check_object, check_object]
  apply List.flatMap_congr
  intro property mem
  have trusted := trusted.of_mem mem
  have resolved := member?_toJson_materialize unique.1 mem (some (.object members))
  exact trusted.memberViolations_eq (valueViolations_fill (unique.of_mem mem) trusted.below)
    (.inr resolved)

/-- **Resolving keeps the violations of a section.** The document that an object section resolves to
has the violations of the section itself, whether or not there are any; in particular the settings
that a validator gives out for such a section are valid. -/
theorem check_toJson_materialize (node : SchemaNode) (unique : node.UniqueNames)
    (trusted : node.TrustedDefaults node.name) :
    (∀ members, node.check (some (node.materialize (some (.object members))).toJson) =
      node.check (some (.object members))) ∧
    ∀ (validator : Validator) (key : Option String) (members : Members Json) (settings : Settings),
      validator.find? key = some (.object members) →
      (validator.settings node key).result = .ok settings →
      node.check (some settings.toJson) = [] := by
  refine ⟨check_toJson_materialize_object unique trusted, ?_⟩
  intro validator key members settings present given
  rw [Validator.settings_eq, present] at given
  simp only at given
  split at given
  · rename_i valid
    cases given
    rw [check_toJson_materialize_object unique trusted, List.isEmpty_iff.1 valid]
  · simp at given

/-- A listener with a name and with two objects of the same shape, one of which has a default. -/
def listenerNode : SchemaNode :=
  let mode : SchemaNode := .enum { name := "mode", presence := .optional (some "strict") }
    { allowed := ["strict", "off"], allowed_ne_nil := by simp }
  .object { name := "listener" }
    [.string { name := "host" } { minLength := some 3 },
      .object { name := "tls" } [mode],
      .object { name := "backup", presence := .optional (some []) } [mode]]

/-- Defaults are inserted below a value and below another default, and the fault beside them stays
what it was. -/
theorem check_toJson_materialize_listener :
    listenerNode.UniqueNames ∧ listenerNode.TrustedDefaults listenerNode.name ∧
      listenerNode.check (some (listenerNode.materialize (some (.object
        [("host", .string "ab"), ("tls", .object [])]))).toJson) =
      [.tooShort "listener.host" 3] := by
  have unique : listenerNode.UniqueNames := by decide
  have trusted : listenerNode.TrustedDefaults listenerNode.name := by decide
  refine ⟨unique, trusted, ?_⟩
  rw [(check_toJson_materialize listenerNode unique trusted).1]
  decide

end SchemaNode

end ConfigSchema
