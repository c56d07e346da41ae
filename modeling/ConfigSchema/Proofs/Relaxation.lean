import ConfigSchema.Proofs.Nesting
import Mathlib.Logic.Relation

/-! # Relaxed schemas

A property whose value broke no rule breaks none when a rule is relaxed, so a relaxed schema reports
nothing at a path at which the schema itself is silent (`SchemaNode.check_relaxed`). What is
reported at a path can be another violation: a text that is no longer too short may turn out not to
match its pattern. -/
namespace ConfigSchema

/-! ## Relaxing -/

/-- A bound is dropped or moved outward. -/
inductive Eased {α : Type} (further : α → α → Prop) : Option α → Option α → Prop
  | dropped (bound : α) : Eased further (some bound) none
  | moved {bound eased : α} (outward : further eased bound) :
      Eased further (some bound) (some eased)

namespace SchemaNode

/-- The same property, optional and without a default. -/
def madeOptional : SchemaNode → SchemaNode
  | string node rules => string { node with presence := .optional none } rules
  | number node rules => number { node with presence := .optional none } rules
  | boolean node examples => boolean { node with presence := .optional none } examples
  | enum node rules => enum { node with presence := .optional none } rules
  | object node properties => object { node with presence := .optional none } properties

/-- A schema and the schema with one rule of it relaxed, at any depth: a requirement, a property, a
bound or a pattern dropped, a bound moved outward, or literals added to an enum. -/
inductive RelaxedOnce : SchemaNode → SchemaNode → Prop
  | requirement {node : SchemaNode} (required : node.isRequired = true) :
    RelaxedOnce node node.madeOptional
  | property (node : Declaration (Members Json)) (before : List SchemaNode) (dropped : SchemaNode)
    (after : List SchemaNode) :
    RelaxedOnce (object node (before ++ dropped :: after)) (object node (before ++ after))
  | minLength (node : Declaration String) (rules : StringRules) {bound : Option UInt64}
    (eased : Eased (· < ·) rules.minLength bound) :
    RelaxedOnce (string node rules) (string node { rules with minLength := bound })
  | maxLength (node : Declaration String) (rules : StringRules) {bound : Option UInt64}
    (eased : Eased (· > ·) rules.maxLength bound) :
    RelaxedOnce (string node rules) (string node { rules with maxLength := bound })
  | pattern (node : Declaration String) (rules : StringRules) :
    RelaxedOnce (string node rules) (string node { rules with pattern := none })
  | min (node : Declaration Number) (rules : NumberRules) {bound : Option ExtendedDouble}
    (eased : Eased (fun eased bound => eased.lt bound = true) rules.min bound) :
    RelaxedOnce (number node rules) (number node { rules with min := bound })
  | max (node : Declaration Number) (rules : NumberRules) {bound : Option ExtendedDouble}
    (eased : Eased (fun eased bound => bound.lt eased = true) rules.max bound) :
    RelaxedOnce (number node rules) (number node { rules with max := bound })
  | literals (node : Declaration String) (rules : EnumRules) {allowed : List String}
    (ne_nil : allowed ≠ []) (more : rules.allowed ⊆ allowed) :
    RelaxedOnce (enum node rules) (enum node ⟨allowed, ne_nil, rules.examples⟩)
  | inside (node : Declaration (Members Json)) (before : List SchemaNode)
    {inner relaxed : SchemaNode} (after : List SchemaNode) (once : RelaxedOnce inner relaxed) :
    RelaxedOnce (object node (before ++ inner :: after)) (object node (before ++ relaxed :: after))

/-- A schema and the schema with any of its rules relaxed, one after another. -/
def Relaxed : SchemaNode → SchemaNode → Prop := Relation.ReflTransGen RelaxedOnce

end SchemaNode

/-! ## Order of doubles -/

theorem ExtendedDouble.lt_trans {x y z : ExtendedDouble} (first : x.lt y = true)
    (second : y.lt z = true) : x.lt z = true := by
  cases x with
  | nan => cases first
  | infinite negative => cases y <;> cases z <;> simp_all [lt]
  | finite x =>
    cases y with
    | nan => cases first
    | infinite negative => cases z <;> simp_all [lt]
    | finite y =>
      cases z with
      | nan => cases second
      | infinite negative => simpa [lt] using second
      | finite z =>
        simp only [lt, Double.lt, decide_eq_true_eq] at first second ⊢
        omega

/-! ## Values that break no rule -/

theorem StringRules.broken_eq_nil_iff (rules : StringRules) (path text : String) :
    rules.broken path text = [] ↔
      (∀ min ∈ rules.minLength, min.toNat ≤ text.length) ∧
      (∀ max ∈ rules.maxLength, text.length ≤ max.toNat) ∧
      ∀ source ∈ rules.pattern, ∃ pattern, Pattern.compile source = .ok pattern ∧
        pattern.isMatch text = true := by
  simp only [broken, List.append_eq_nil_iff, List.flatMap_eq_nil_iff, Option.mem_toList, and_assoc,
    ite_eq_right_iff, List.cons_ne_nil, imp_false, Nat.not_lt, Option.mem_def]
  refine and_congr_right fun _ => and_congr_right fun _ => forall₂_congr fun source _ => ?_
  cases Pattern.compile source with
  | ok pattern => simp
  | error reason => simp

theorem NumberRules.broken_eq_nil_iff (rules : NumberRules) (path : String) (actual : Number) :
    rules.broken path actual = [] ↔
      (∀ min ∈ rules.min, ¬ (ExtendedDouble.finite actual.toDouble).lt min = true) ∧
      ∀ max ∈ rules.max, ¬ max.lt (ExtendedDouble.finite actual.toDouble) = true := by
  simp only [broken, List.append_eq_nil_iff, List.flatMap_eq_nil_iff, Option.mem_toList,
    ite_eq_right_iff, List.cons_ne_nil, imp_false, Option.mem_def]

/-- A text that kept a bound keeps one that is dropped or moved outward. -/
theorem Eased.holds {α : Type} {further : α → α → Prop} {old new : Option α}
    (eased : Eased further old new) {keeps : α → Prop}
    (outward : ∀ bound eased, further eased bound → keeps bound → keeps eased)
    (kept : ∀ bound ∈ old, keeps bound) : ∀ bound ∈ new, keeps bound := by
  cases eased with
  | dropped => simp
  | @moved bound eased further =>
    rintro _ ⟨⟩
    exact outward bound eased further (kept bound rfl)

/-! ## Where violations are reported -/

/-- What is reported at the same path whatever the path is, is reported at it. -/
theorem Violation.path_eq {violations : List Violation} {path : String}
    (same : violations = violations.map (mapPath fun _ => path)) :
    ∀ violation ∈ violations, violation.path = path := by
  intro violation mem
  rw [same] at mem
  obtain ⟨other, -, rfl⟩ := List.mem_map.1 mem
  exact path_mapPath _ other

/-- Where all violations have one path, it is enough that the first list is not empty alone. -/
theorem Violation.paths_subset {first second : List Violation} {path : String}
    (firstPath : ∀ violation ∈ first, violation.path = path)
    (secondPath : ∀ violation ∈ second, violation.path = path)
    (silent : first = [] → second = []) :
    second.map Violation.path ⊆ first.map Violation.path := by
  intro reported mem
  obtain ⟨violation, found, rfl⟩ := List.mem_map.1 mem
  cases first with
  | nil =>
    rw [silent rfl] at found
    exact absurd found List.not_mem_nil
  | cons other rest =>
    rw [secondPath violation found, ← firstPath other List.mem_cons_self]
    exact List.mem_cons_self

namespace SchemaNode

/-- At a path at which nothing is reported of this node, nothing is reported of the other one. -/
structure Covers (node other : SchemaNode) : Prop where
  name_eq : other.name = node.name
  required : other.isRequired = true → node.isRequired = true
  declared : node.properties = [] → other.properties = []
  value (path : String) (value : Json) :
    (other.valueViolations path value).map Violation.path ⊆
      (node.valueViolations path value).map Violation.path
  authoring (path : String) :
    (other.authoringViolations path).map Violation.path ⊆
      (node.authoringViolations path).map Violation.path

namespace Covers

variable {node other third : SchemaNode}

theorem refl (node : SchemaNode) : node.Covers node where
  name_eq := rfl
  required := id
  declared := id
  value _ _ := List.Subset.refl _
  authoring _ := List.Subset.refl _

theorem trans (first : node.Covers other) (second : other.Covers third) : node.Covers third where
  name_eq := second.name_eq.trans first.name_eq
  required := first.required ∘ second.required
  declared := second.declared ∘ first.declared
  value path value := List.Subset.trans (second.value path value) (first.value path value)
  authoring path := List.Subset.trans (second.authoring path) (first.authoring path)

/-- A scalar covers one of which nothing is reported where nothing is reported of itself. -/
theorem of_leaf (leaf : node.kind ≠ .object) (otherLeaf : other.kind ≠ .object)
    (name_eq : other.name = node.name)
    (required : other.isRequired = true → node.isRequired = true)
    (broken : ∀ path value, node.broken path value = [] → other.broken path value = [])
    (strays : ∀ path, node.strays path = [] → other.strays path = []) : node.Covers other where
  name_eq := name_eq
  required := required
  declared _ := properties_of_leaf otherLeaf
  value path value := by
    refine Violation.paths_subset
      (Violation.path_eq (valueViolations_mapPath_of_leaf (fun _ => path) path value leaf))
      (Violation.path_eq (valueViolations_mapPath_of_leaf (fun _ => path) path value otherLeaf)) ?_
    rw [valueViolations_of_leaf path value leaf, valueViolations_of_leaf path value otherLeaf]
    simpa using broken path value
  authoring path := by
    refine Violation.paths_subset
      (Violation.path_eq (node.authoringViolations_mapPath (fun _ => path) path))
      (Violation.path_eq (other.authoringViolations_mapPath (fun _ => path) path)) ?_
    rw [authoringViolations_eq_head?, authoringViolations_eq_head?]
    simpa using strays path

/-- A member of an object is covered as its value is. -/
theorem memberViolations (covers : node.Covers other) (parent : String) (members : Members Json) :
    (other.memberViolations parent members).map Violation.path ⊆
      (node.memberViolations parent members).map Violation.path := by
  rw [SchemaNode.memberViolations, SchemaNode.memberViolations, covers.name_eq]
  cases members.get? node.name with
  | some value =>
    simp only [List.map_append]
    exact List.append_subset.2
      ⟨List.subset_append_of_subset_left _ (covers.value _ value),
        List.subset_append_of_subset_right _ (covers.authoring _)⟩
  | none =>
    cases required : other.isRequired with
    | false => exact List.nil_subset _
    | true =>
      rw [covers.required required]
      exact List.Subset.refl _

/-- An object covers one of which every property is covered by a property of its own. -/
theorem object (declaration : Declaration (Members Json)) {properties others : List SchemaNode}
    (each : ∀ other ∈ others, ∃ property ∈ properties, property.Covers other) :
    (SchemaNode.object declaration properties).Covers (.object declaration others) where
  name_eq := rfl
  required := id
  declared none := by
    refine List.eq_nil_iff_forall_not_mem.2 fun other mem => ?_
    obtain ⟨property, found, -⟩ := each other mem
    rw [show properties = [] from none] at found
    exact List.not_mem_nil found
  value path value := by
    rcases value.object_or_not with ⟨members, rfl⟩ | h
    · rw [valueViolations_object, valueViolations_object]
      intro reported mem
      simp only [List.map_flatMap, List.mem_flatMap] at mem ⊢
      obtain ⟨other, there, mem⟩ := mem
      obtain ⟨property, found, covers⟩ := each other there
      exact ⟨property, found, covers.memberViolations path members mem⟩
    · rw [valueViolations_object_of_not path h, valueViolations_object_of_not path h]
      exact List.Subset.refl _
  authoring _ := List.Subset.refl _

/-! ### One rule relaxed -/

theorem madeOptional (required : node.isRequired = true) : node.Covers node.madeOptional where
  name_eq := by cases node <;> rfl
  required optional := by cases node <;> cases optional
  declared := by cases node <;> exact id
  value path value := by
    have same : node.madeOptional.valueViolations path value = node.valueViolations path value := by
      cases node <;> rfl
    rw [same]
    exact List.Subset.refl _
  authoring path := by
    have same : node.madeOptional.authoringViolations path = node.authoringViolations path := by
      cases node with
      | enum node rules =>
        cases presence : node.presence with
        | optional => simp [SchemaNode.isRequired, presence, Presence.isRequired] at required
        | required =>
          simp only [SchemaNode.madeOptional, SchemaNode.authoringViolations,
            EnumRules.authoringViolation?, presence, Presence.default?]
      | string | number | boolean | object => rfl
    rw [same]
    exact List.Subset.refl _

theorem string (declaration : Declaration String) {rules eased : StringRules}
    (broken : ∀ path text, rules.broken path text = [] → eased.broken path text = []) :
    (SchemaNode.string declaration rules).Covers (.string declaration eased) := by
  refine of_leaf nofun nofun rfl id (fun path value => ?_) fun _ => id
  cases value with
  | string text => exact broken path text
  | null | bool | number | array | object => exact id

theorem number (declaration : Declaration Number) {rules eased : NumberRules}
    (broken : ∀ path actual, rules.broken path actual = [] → eased.broken path actual = []) :
    (SchemaNode.number declaration rules).Covers (.number declaration eased) := by
  refine of_leaf nofun nofun rfl id (fun path value => ?_) fun _ => id
  cases value with
  | number actual => exact broken path actual
  | null | bool | string | array | object => exact id

theorem enum (declaration : Declaration String) {rules eased : EnumRules}
    (examples : eased.examples = rules.examples) (more : rules.allowed ⊆ eased.allowed) :
    (SchemaNode.enum declaration rules).Covers (.enum declaration eased) := by
  refine of_leaf nofun nofun rfl id (fun path value => ?_) fun path => ?_
  · cases value with
    | string text =>
      by_cases member : text ∈ rules.allowed
      · simp [broken, more member]
      · simp [broken, member]
    | null | bool | number | array | object =>
      exact fun mistyped => absurd mistyped (List.cons_ne_nil _ _)
  · simp only [strays, EnumRules.strays_eq_nil_iff, examples]
    rintro ⟨default, others⟩
    exact ⟨fun value given => more (default value given),
      fun value listed => more (others value listed)⟩

end Covers

/-- What relaxing one rule leaves to report. -/
theorem RelaxedOnce.covers {node relaxed : SchemaNode} (once : node.RelaxedOnce relaxed) :
    node.Covers relaxed := by
  induction once with
  | requirement required => exact Covers.madeOptional required
  | property node before dropped after =>
    refine Covers.object node fun other mem => ⟨other, ?_, Covers.refl other⟩
    rcases List.mem_append.1 mem with here | there
    · exact List.mem_append_left _ here
    · exact List.mem_append_right _ (List.mem_cons_of_mem _ there)
  | minLength node rules eased =>
    refine Covers.string node fun path text => ?_
    simp only [StringRules.broken_eq_nil_iff]
    refine And.imp_left (eased.holds fun bound lower less long => ?_)
    exact Nat.le_trans (UInt64.le_iff_toNat_le.1 (UInt64.le_of_lt less)) long
  | maxLength node rules eased =>
    refine Covers.string node fun path text => ?_
    simp only [StringRules.broken_eq_nil_iff]
    refine And.imp_right (And.imp_left (eased.holds fun bound higher greater short => ?_))
    exact Nat.le_trans short (UInt64.le_iff_toNat_le.1 (UInt64.le_of_lt greater))
  | pattern node rules =>
    refine Covers.string node fun path text => ?_
    simp only [StringRules.broken_eq_nil_iff]
    refine And.imp_right (And.imp_right fun _ => ?_)
    simp
  | min node rules eased =>
    refine Covers.number node fun path actual => ?_
    simp only [NumberRules.broken_eq_nil_iff]
    refine And.imp_left (eased.holds fun bound lower less above below => above ?_)
    exact ExtendedDouble.lt_trans below less
  | max node rules eased =>
    refine Covers.number node fun path actual => ?_
    simp only [NumberRules.broken_eq_nil_iff]
    refine And.imp_right (eased.holds fun bound higher greater below above => below ?_)
    exact ExtendedDouble.lt_trans greater above
  | literals node rules ne_nil more => exact Covers.enum node rfl more
  | inside node before after once ih =>
    refine Covers.object node fun other mem => ?_
    rcases List.mem_append.1 mem with here | here
    · exact ⟨other, List.mem_append_left _ here, Covers.refl other⟩
    · rcases List.mem_cons.1 here with rfl | there
      · exact ⟨_, List.mem_append_right _ List.mem_cons_self, ih⟩
      · exact ⟨other, List.mem_append_right _ (List.mem_cons_of_mem _ there), Covers.refl other⟩

theorem Relaxed.covers {node relaxed : SchemaNode} (steps : node.Relaxed relaxed) :
    node.Covers relaxed := by
  induction steps with
  | refl => exact Covers.refl node
  | tail _ once ih => exact ih.trans once.covers

/-! ## Checking -/

theorem Covers.check {node other : SchemaNode} (covers : node.Covers other)
    (section' : Option Json) :
    (other.check section').map Violation.path ⊆ (node.check section').map Violation.path := by
  rcases absent_or_given section' with absent | ⟨value, rfl, given⟩
  · rw [check_of_absent node absent, check_of_absent other absent, covers.name_eq]
    cases required : other.isRequired with
    | false => exact List.nil_subset _
    | true =>
      rw [covers.required required]
      exact List.Subset.refl _
  · -- An object of which all properties are dropped is not even looked into.
    by_cases undeclared : other.properties = []
    · rw [check_of_present other given, if_pos (List.isEmpty_iff.2 undeclared)]
      exact List.nil_subset _
    · rw [check_of_declared other undeclared given,
        check_of_declared node (mt covers.declared undeclared) given, covers.name_eq]
      exact covers.value node.name value

/-- **Relaxing a schema introduces no faulty path.** Whatever the section, a path at which a relaxed
schema reports a violation is one at which the schema reports one. So a section that is valid stays
valid. -/
theorem check_relaxed {node relaxed : SchemaNode} (steps : node.Relaxed relaxed)
    (section' : Option Json) :
    (relaxed.check section').map Violation.path ⊆ (node.check section').map Violation.path ∧
      (node.check section' = [] → relaxed.check section' = []) := by
  have paths := steps.covers.check section'
  refine ⟨paths, fun valid => ?_⟩
  rw [valid] at paths
  exact List.map_eq_nil_iff.1 (List.eq_nil_of_subset_nil paths)

/-- A code of at most one character and perhaps of at least some, and a port. -/
def codeAndPort (minLength : Option UInt64) (presence : Presence Number) : SchemaNode :=
  .object { name := "server" }
    [.string { name := "code" } { minLength, maxLength := some 1 },
      .number { name := "port", presence } {}]

theorem codeAndPort_relaxed :
    (codeAndPort (some 5) .required).Relaxed (codeAndPort none (.optional none)) := by
  have code : (codeAndPort (some 5) .required).RelaxedOnce (codeAndPort none .required) :=
    .inside _ [] _ (.minLength _ _ (.dropped 5))
  have port : (codeAndPort none .required).RelaxedOnce (codeAndPort none (.optional none)) :=
    .inside _ [.string { name := "code" } { maxLength := some 1 }] [] (.requirement rfl)
  exact .tail (.single code) port

/-- The code is no longer too short; that it is too long was not reported before. -/
theorem check_relaxed_codeAndPort :
    let node := codeAndPort (some 5) .required
    let relaxed := codeAndPort none (.optional none)
    let section' := some (Json.object [("code", .string "abc")])
    node.Relaxed relaxed ∧
      node.check section' = [.tooShort "server.code" 5, .missingProperty "server.port"] ∧
      relaxed.check section' = [.tooLong "server.code" 1] ∧
      (relaxed.check section').map Violation.path ⊆ (node.check section').map Violation.path ∧
      (node.check section' = [] → relaxed.check section' = []) :=
  ⟨codeAndPort_relaxed, rfl, rfl, check_relaxed codeAndPort_relaxed _⟩

end SchemaNode

end ConfigSchema
