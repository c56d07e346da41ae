import ConfigSchema.Proofs.Validation

/-! # Validation further down

What validation finds wrong with a value does not depend on where the value stands. So a section
that is nested below other objects adds to their check what it gives on its own, seen from further
up, and nothing else (`SchemaNode.violations_anywhere`). -/
namespace ConfigSchema

/-! ## Violations at another path -/

namespace Violation

/-- The same violation at another path, or of a section of another name. -/
def mapPath (change : String → String) : Violation → Violation
  | missingSection name => missingSection (change name)
  | missingProperty path => missingProperty (change path)
  | typeMismatch path expected actual => typeMismatch (change path) expected actual
  | tooShort path min => tooShort (change path) min
  | tooLong path max => tooLong (change path) max
  | patternMismatch path pattern => patternMismatch (change path) pattern
  | invalidPattern path pattern reason => invalidPattern (change path) pattern reason
  | belowMinimum path min actual => belowMinimum (change path) min actual
  | aboveMaximum path max actual => aboveMaximum (change path) max actual
  | notInEnum path allowed actual => notInEnum (change path) allowed actual
  | defaultNotInEnum path value allowed => defaultNotInEnum (change path) value allowed
  | exampleNotInEnum path value allowed => exampleNotInEnum (change path) value allowed

theorem path_mapPath (change : String → String) (violation : Violation) :
    (violation.mapPath change).path = change violation.path := by
  cases violation <;> rfl

/-- The same violation, seen from further up: the path of the parent and a dot stand in front. -/
def under (parent : String) : Violation → Violation := mapPath fun path => parent ++ "." ++ path

end Violation

/-- A path below a path. -/
theorem append_dot_assoc (parent path name : String) :
    parent ++ "." ++ path ++ "." ++ name = parent ++ "." ++ (path ++ "." ++ name) := by
  simp only [String.append_assoc]

/-! ## Scalars

Which rules a value breaks has nothing to do with its path. -/

section

variable (change : String → String) (path : String)

theorem StringRules.broken_mapPath (rules : StringRules) (text : String) :
    rules.broken (change path) text = (rules.broken path text).map (Violation.mapPath change) := by
  simp only [broken, List.map_append, List.map_flatMap]
  congr 1
  · congr 1
    · refine List.flatMap_congr fun min _ => ?_
      split <;> rfl
    · refine List.flatMap_congr fun max _ => ?_
      split <;> rfl
  · refine List.flatMap_congr fun source _ => ?_
    cases Pattern.compile source with
    | ok pattern => cases h : pattern.isMatch text <;> simp [h, Violation.mapPath]
    | error reason => rfl

theorem NumberRules.broken_mapPath (rules : NumberRules) (actual : Number) :
    rules.broken (change path) actual =
      (rules.broken path actual).map (Violation.mapPath change) := by
  simp only [broken, List.map_append, List.map_flatMap]
  congr 1
  · refine List.flatMap_congr fun min _ => ?_
    split <;> rfl
  · refine List.flatMap_congr fun max _ => ?_
    split <;> rfl

theorem EnumRules.strays_mapPath (rules : EnumRules) (node : Declaration String) :
    rules.strays node (change path) =
      (rules.strays node path).map (Violation.mapPath change) := by
  simp only [strays, List.map_append, List.map_map]
  rfl

namespace SchemaNode

theorem broken_mapPath (value : Json) (node : SchemaNode) :
    node.broken (change path) value = (node.broken path value).map (Violation.mapPath change) := by
  cases node with
  | string node rules =>
    cases value with
    | string text => exact rules.broken_mapPath change path text
    | null | bool | number | array | object => rfl
  | number node rules =>
    cases value with
    | number actual => exact rules.broken_mapPath change path actual
    | null | bool | string | array | object => rfl
  | enum node rules =>
    cases value with
    | string text =>
      by_cases member : text ∈ rules.allowed <;> simp [broken, member, Violation.mapPath]
    | null | bool | number | array | object => rfl
  | boolean | object => cases value <;> rfl

theorem authoringViolations_mapPath (node : SchemaNode) :
    node.authoringViolations (change path) =
      (node.authoringViolations path).map (Violation.mapPath change) := by
  cases node with
  | enum node rules =>
    rw [authoringViolations_eq_head?, authoringViolations_eq_head?, strays, strays,
      rules.strays_mapPath, List.head?_map, Option.toList_map]
  | string | number | boolean | object => rfl

theorem valueViolations_mapPath_of_leaf (value : Json) {node : SchemaNode}
    (leaf : node.kind ≠ .object) :
    node.valueViolations (change path) value =
      (node.valueViolations path value).map (Violation.mapPath change) := by
  rw [valueViolations_of_leaf _ value leaf, valueViolations_of_leaf _ value leaf, broken_mapPath,
    List.head?_map, Option.toList_map]

end SchemaNode

end

/-! ## Objects -/

namespace SchemaNode

/-- A member is reported below a longer path as it is below the last part of that path, if its value
is. -/
theorem memberViolations_under {node : SchemaNode} (parent path : String)
    (below : ∀ path value, node.valueViolations (parent ++ "." ++ path) value =
      (node.valueViolations path value).map (Violation.under parent))
    (members : Members Json) :
    node.memberViolations (parent ++ "." ++ path) members =
      (node.memberViolations path members).map (Violation.under parent) := by
  rw [memberViolations, memberViolations, append_dot_assoc]
  cases members.get? node.name with
  | none => cases h : node.isRequired <;> rfl
  | some value =>
    have authoring := node.authoringViolations_mapPath (fun path => parent ++ "." ++ path)
      (path ++ "." ++ node.name)
    simp only [below, authoring, List.map_append, Violation.under]

/-- **A value further down.** At a longer path the same is found wrong with a value. -/
theorem valueViolations_under (node : SchemaNode) (parent path : String) (value : Json) :
    node.valueViolations (parent ++ "." ++ path) value =
      (node.valueViolations path value).map (Violation.under parent) := by
  induction node using SchemaNode.induction generalizing path value with
  | leaf node leaf =>
    exact valueViolations_mapPath_of_leaf (fun path => parent ++ "." ++ path) path value leaf
  | object node properties ih =>
    rcases value.object_or_not with ⟨members, rfl⟩ | h
    · rw [valueViolations_object, valueViolations_object, List.map_flatMap]
      exact List.flatMap_congr fun property mem =>
        property.memberViolations_under parent path (ih property mem) members
    · rw [valueViolations_object_of_not _ h, valueViolations_object_of_not _ h]
      rfl

/-- A section that is an object is checked as a value of its node is. -/
theorem check_members (node : Declaration (Members Json)) (properties : List SchemaNode)
    (members : Members Json) :
    (object node properties).check (some (.object members)) =
      (object node properties).valueViolations node.name (.object members) := by
  rw [check_object, valueViolations_object]
  rfl

/-- A section that declares properties is checked as a value of its node is. -/
theorem check_of_declared (node : SchemaNode) (declared : node.properties ≠ []) {value : Json}
    (given : value ≠ .null) : node.check (some value) = node.valueViolations node.name value := by
  rw [check_of_present node given, if_neg (mt List.isEmpty_iff.1 declared)]

end SchemaNode

/-! ## Objects around a section -/

/-- Names lead into an object, and from its member of the first name on. -/
theorem Json.at?_cons_eq_some {document value : Json} {name : String} {rest : List String}
    (found : document.at? (name :: rest) = some value) :
    ∃ (members : Members Json) (inner : Json),
      document = .object members ∧ members.get? name = some inner ∧
        inner.at? rest = some value := by
  rw [at?_cons] at found
  obtain ⟨inner, here, further⟩ := Option.bind_eq_some_iff.1 found
  rcases document.object_or_not with ⟨members, rfl⟩ | h
  · exact ⟨members, inner, rfl, here, further⟩
  · simp [member?, h] at here

/-- Only from an object names lead anywhere. -/
theorem Json.object_of_at? {document value : Json} {above : List String} {last : String}
    (found : document.at? (above ++ [last]) = some value) :
    ∃ members : Members Json, document = .object members := by
  cases above with
  | nil | cons =>
    obtain ⟨members, -, rfl, -⟩ := at?_cons_eq_some found
    exact ⟨members, rfl⟩

/-- An object with a place among its properties. -/
structure Surroundings where
  node : Declaration (Members Json)
  before : List SchemaNode
  after : List SchemaNode

namespace Surroundings

def around (outer : Surroundings) (inner : List SchemaNode) : SchemaNode :=
  .object outer.node (outer.before ++ inner ++ outer.after)

/-- Objects one inside the other, the outermost first, with properties put in the innermost. Without
any objects these are just the properties. -/
def enclose : List Surroundings → List SchemaNode → List SchemaNode
  | [], inner => inner
  | outer :: rest, inner => [outer.around (enclose rest inner)]

def names (chain : List Surroundings) : List String := chain.map fun outer => outer.node.name

/-- What a property adds to the violations of an object around it. -/
theorem exists_siblings (outer : Surroundings) (path : String) (members : Members Json) :
    ∃ left right, ∀ inner : List SchemaNode,
      (outer.around inner).valueViolations path (.object members) =
        left ++ inner.flatMap (SchemaNode.memberViolations path members) ++ right := by
  refine ⟨outer.before.flatMap (SchemaNode.memberViolations path members),
    outer.after.flatMap (SchemaNode.memberViolations path members), fun inner => ?_⟩
  rw [around, SchemaNode.valueViolations_object, List.flatMap_append, List.flatMap_append]

/-- An object that is there reports of itself what is wrong with its value. -/
theorem memberViolations_object {path : String} {members : Members Json}
    (node : Declaration (Members Json)) (properties : List SchemaNode) {value : Json}
    (found : members.get? node.name = some value) :
    (SchemaNode.object node properties).memberViolations path members =
      (SchemaNode.object node properties).valueViolations (path ++ "." ++ node.name) value := by
  have found' : members.get? (SchemaNode.object node properties).name = some value := found
  rw [SchemaNode.memberViolations, found']
  exact List.append_nil _

/-- What an object deep inside others adds to their violations: what is wrong with its value. -/
theorem exists_around (chain : List Surroundings) (outer : Surroundings)
    (node : Declaration (Members Json)) (properties : List SchemaNode) (path : String)
    {document value : Json} (found : document.at? (names chain ++ [node.name]) = some value) :
    ∃ left right,
      (outer.around (enclose chain [])).valueViolations path document = left ++ right ∧
      (outer.around (enclose chain [.object node properties])).valueViolations path document =
        left ++ (SchemaNode.object node properties).valueViolations
          (String.intercalate "." (path :: names chain) ++ "." ++ node.name) value ++ right := by
  induction chain generalizing outer path document with
  | nil =>
    obtain ⟨members, inner, rfl, here, further⟩ := Json.at?_cons_eq_some found
    obtain rfl := Option.some.inj further
    obtain ⟨left, right, siblings⟩ := outer.exists_siblings path members
    refine ⟨left, right, ?_, ?_⟩
    · rw [enclose, siblings, List.flatMap_nil, List.append_nil]
    · rw [enclose, siblings, List.flatMap_singleton, memberViolations_object _ _ here]
      rfl
  | cons next rest ih =>
    obtain ⟨members, inner, rfl, here, further⟩ := Json.at?_cons_eq_some found
    obtain ⟨left, right, siblings⟩ := outer.exists_siblings path members
    obtain ⟨left', right', without, within⟩ := ih next (path ++ "." ++ next.node.name) further
    -- Only the sibling that leads further in reports something else with the object than without.
    refine ⟨left ++ left', right' ++ right, ?_, ?_⟩
    · rw [enclose, siblings, List.flatMap_singleton, around, memberViolations_object _ _ here,
        ← around, without]
      simp only [List.append_assoc]
    · rw [enclose, siblings, List.flatMap_singleton, around, memberViolations_object _ _ here,
        ← around, within]
      simp only [List.append_assoc]
      rfl

end Surroundings

open Surroundings in
/-- **Validation does not depend on the place.** At a longer path the same is found wrong with a
value, and a section that declares properties is checked as a value of its node. So among the
violations of an object that has the section anywhere below it, those that the section adds are
exactly those that it gives on its own, with the way there in front of their paths. -/
theorem SchemaNode.violations_anywhere :
    (∀ (node : SchemaNode) (value : Json) (parent path : String),
      node.valueViolations (parent ++ "." ++ path) value =
        (node.valueViolations path value).map (Violation.under parent)) ∧
    (∀ (node : Declaration (Members Json)) (properties : List SchemaNode) (value : Json),
      properties ≠ [] → value ≠ .null →
        (object node properties).check (some value) =
          (object node properties).valueViolations node.name value) ∧
    ∀ (outermost : Surroundings) (chain : List Surroundings) (node : Declaration (Members Json))
      (properties : List SchemaNode) (document value : Json),
      properties ≠ [] → value ≠ .null →
      document.at? (names chain ++ [node.name]) = some value →
        ∃ left right,
          (outermost.around (enclose chain [])).check (some document) = left ++ right ∧
          (outermost.around (enclose chain [object node properties])).check (some document) =
            left ++ ((object node properties).check (some value)).map
              (Violation.under (String.intercalate "." (names (outermost :: chain)))) ++ right := by
  have section_check : ∀ (node : Declaration (Members Json)) (properties : List SchemaNode)
      (value : Json), properties ≠ [] → value ≠ .null →
        (object node properties).check (some value) =
          (object node properties).valueViolations node.name value :=
    fun node properties _ declared given =>
      check_of_declared (object node properties) declared given
  refine ⟨fun node value parent path => node.valueViolations_under parent path value,
    section_check, ?_⟩
  intro outermost chain node properties document value declared given found
  obtain ⟨left, right, without, within⟩ :=
    exists_around chain outermost node properties outermost.node.name found
  obtain ⟨members, rfl⟩ := Json.object_of_at? found
  refine ⟨left, right, ?_, ?_⟩
  · rw [around, check_members, ← around, without]
  · rw [around, check_members, ← around, within, section_check node properties value declared given,
      valueViolations_under]
    rfl

/-- A required mode, and a level whose default is not one of its literals. -/
def tlsProperties : List SchemaNode :=
  [.string ⟨"mode", none, .required⟩ { minLength := some 2 },
    .enum ⟨"level", none, .optional (some "max")⟩ ⟨["low", "high"], by decide, []⟩]

/-- Objects around a section, each with a required property besides. -/
def serverAround : Surroundings := ⟨{ name := "server" }, [.boolean ⟨"on", none, .required⟩ []], []⟩

@[inherit_doc serverAround]
def listenerAround : Surroundings :=
  ⟨{ name := "listener" }, [], [.string ⟨"host", none, .required⟩ {}]⟩

theorem SchemaNode.violations_anywhere_tls :
    let tls : SchemaNode := object { name := "tls" } tlsProperties
    let value : Json := .object [("level", .null)]
    let document : Json := .object [("listener", .object [("tls", value)])]
    tlsProperties ≠ [] ∧ value ≠ .null ∧ document.at? ["listener", "tls"] = some value ∧
      tls.check (some value) =
        [.missingProperty "tls.mode", .notInEnum "tls.level" ["low", "high"] "null",
          .defaultNotInEnum "tls.level" "max" ["low", "high"]] ∧
      ∃ left right,
        (serverAround.around (Surroundings.enclose [listenerAround] [])).check (some document) =
          left ++ right ∧
        (serverAround.around (Surroundings.enclose [listenerAround] [tls])).check (some document) =
          left ++ (tls.check (some value)).map (Violation.under "server.listener") ++ right :=
  ⟨nofun, nofun, rfl, rfl,
    violations_anywhere.2.2 serverAround [listenerAround] { name := "tls" } tlsProperties
      (.object [("listener", .object [("tls", .object [("level", .null)])])])
      (.object [("level", .null)]) nofun nofun rfl⟩

end ConfigSchema
