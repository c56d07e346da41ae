import ConfigSchema.Proofs.Sites
import ConfigSchema.Validation
import Mathlib.Data.List.Basic

/-! # What validation reports (`check`)

The violations of a section, said site by site. `check` reports exactly this, each thing once and in
the order of the sites: nothing is masked by a sibling or by what is wrong further down. -/
namespace ConfigSchema

/-! ## Member by member -/

def SchemaNode.memberViolations (parent : String) (members : Members Json) (node : SchemaNode) :
    List Violation :=
  match members.get? node.name with
  | some value =>
    node.valueViolations (parent ++ "." ++ node.name) value
      ++ node.authoringViolations (parent ++ "." ++ node.name)
  | none => if node.isRequired then [.missingProperty (parent ++ "." ++ node.name)] else []

/-- Siblings are checked one after another, and none looks at another. -/
theorem membersViolations_eq_flatMap (parent : String) (members : Members Json)
    (properties : List SchemaNode) :
    membersViolations parent members properties =
      properties.flatMap (SchemaNode.memberViolations parent members) := by
  induction properties with
  | nil => rfl
  | cons node rest ih =>
    rw [membersViolations, ih, List.flatMap_cons]
    rfl

namespace SchemaNode

theorem valueViolations_object (path : String) (members : Members Json)
    (node : Declaration (Members Json)) (properties : List SchemaNode) :
    (object node properties).valueViolations path (.object members) =
      properties.flatMap (memberViolations path members) := by
  rw [valueViolations, membersViolations_eq_flatMap]

theorem valueViolations_object_of_not (path : String) {value : Json} (h : value.members? = none)
    (node : Declaration (Members Json)) (properties : List SchemaNode) :
    (object node properties).valueViolations path value = [.ofKind path .object value] := by
  cases value with
  | object => simp [Json.members?] at h
  | null | bool | number | string | array => rw [valueViolations]; simp

/-- The check of a section that is an object, whether or not its node declares anything. -/
theorem check_object (node : SchemaNode) (members : Members Json) :
    node.check (some (.object members)) =
      node.properties.flatMap (memberViolations node.name members) := by
  simp only [check, Option.filter, Json.isNull, Bool.not_false, if_true]
  split
  · rename_i h
    rw [List.isEmpty_iff.1 h, List.flatMap_nil]
  · exact membersViolations_eq_flatMap node.name members node.properties

/-- A section that is missing or null counts as absent; any other is given. -/
theorem absent_or_given (section' : Option Json) :
    (∀ value ∈ section', value = .null) ∨ ∃ value, section' = some value ∧ value ≠ .null := by
  cases section' with
  | none => exact .inl (by simp)
  | some value =>
    by_cases null : value = .null
    · exact .inl (by simp [null])
    · exact .inr ⟨value, rfl, null⟩

theorem check_of_absent (node : SchemaNode) {section' : Option Json}
    (absent : ∀ value ∈ section', value = .null) :
    node.check section' = if node.isRequired then [.missingSection node.name] else [] := by
  cases section' with
  | none => rfl
  | some value =>
    rw [absent value rfl]
    rfl

/-- A section that is given is checked as a value of a property would be, if its node declares
anything. -/
theorem check_of_present (node : SchemaNode) {value : Json} (given : value ≠ .null) :
    node.check (some value) =
      if node.properties.isEmpty then [] else node.valueViolations node.name value := by
  have found : (some value).filter (fun value => !value.isNull) = some value := by
    cases value with
    | null => exact absurd rfl given
    | bool | number | string | array | object => rfl
  simp only [check, found]
  split
  · rfl
  · rename_i declares
    cases node with
    | object node properties =>
      cases value with
      | object members => rw [valueViolations]; rfl
      | null | bool | number | string | array => rw [valueViolations]; simp
    | string | number | boolean | enum => exact absurd rfl declares

end SchemaNode

/-! ## The rules of single values -/

/-- All the rules that a text breaks, in the order in which they are looked at. -/
def StringRules.broken (rules : StringRules) (path text : String) : List Violation :=
  (rules.minLength.toList.flatMap fun min =>
    if text.length < min.toNat then [.tooShort path min] else [])
  ++ (rules.maxLength.toList.flatMap fun max =>
    if max.toNat < text.length then [.tooLong path max] else [])
  ++ (rules.pattern.toList.flatMap fun source =>
    match Pattern.compile source with
    | .ok pattern => if pattern.isMatch text then [] else [.patternMismatch path source]
    | .error reason => [.invalidPattern path source reason])

def NumberRules.broken (rules : NumberRules) (path : String) (actual : Number) : List Violation :=
  (rules.min.toList.flatMap fun min =>
    if (ExtendedDouble.finite actual.toDouble).lt min then [.belowMinimum path min actual] else [])
  ++ (rules.max.toList.flatMap fun max =>
    if max.lt (ExtendedDouble.finite actual.toDouble) then [.aboveMaximum path max actual] else [])

/-- All the literals that an enum declares outside its own set: its default, then its examples. -/
def EnumRules.strays (rules : EnumRules) (node : Declaration String) (path : String) :
    List Violation :=
  ((node.presence.default?.toList.filter (· ∉ rules.allowed)).map
    fun value => .defaultNotInEnum path value rules.allowed)
  ++ ((rules.examples.filter (· ∉ rules.allowed)).map
    fun value => .exampleNotInEnum path value rules.allowed)

namespace SchemaNode

/-- All the rules that a value breaks. A value of the wrong kind breaks only that one, and of what
is below an object nothing counts against the object. -/
def broken (path : String) (value : Json) : SchemaNode → List Violation
  | .string _ rules =>
    match value with
    | .string text => rules.broken path text
    | other => [.typeMismatch path .string other.kind]
  | .number _ rules =>
    match value with
    | .number actual => rules.broken path actual
    | other => [.typeMismatch path .number other.kind]
  | .boolean _ _ =>
    match value with
    | .bool _ => []
    | other => [.typeMismatch path .boolean other.kind]
  | .enum _ rules =>
    match value with
    | .string text => if text ∈ rules.allowed then [] else [.notInEnum path rules.allowed text]
    | other => [.notInEnum path rules.allowed other.text]
  | .object _ _ =>
    match value with
    | .object _ => []
    | other => [.typeMismatch path .object other.kind]

/-- The literals that a property declares outside its own set; only enums have one. -/
def strays (path : String) : SchemaNode → List Violation
  | .enum node rules => rules.strays node path
  | .string _ _ | .number _ _ | .boolean _ _ | .object _ _ => []

/-- What is reported of a property that is present: the first rule that its value breaks, then the
first stray literal of its own. -/
def presentReport (path : String) (value : Json) (node : SchemaNode) : List Violation :=
  (node.broken path value).head?.toList ++ (node.strays path).head?.toList

end SchemaNode

/-- What is reported of a site. It is reached when every object above it is there; a reached
property that is absent is reported if it is required. -/
def Site.report (top : String) (document : Json) (site : Site) : List Violation :=
  if site.Reached document then
    match site.value? document with
    | none => if site.node.isRequired then [.missingProperty (site.path top)] else []
    | some value => site.node.presentReport (site.path top) value
  else []

/-! ## The first broken rule -/

/-- A rule that is set is the first of all if it is broken, and nothing otherwise. -/
theorem head?_broken {α : Type} (rule : Option α) (p : α → Bool) (violation : α → Violation)
    (rest : List Violation) :
    ((rule.toList.flatMap fun bound => if p bound then [violation bound] else []) ++ rest).head? =
      ((rule.filter p).map violation).or rest.head? := by
  cases rule with
  | none => rfl
  | some bound => by_cases h : p bound <;> simp [Option.filter, h]

theorem StringRules.violation?_string (rules : StringRules) (path text : String) :
    rules.violation? path (.string text) = (rules.broken path text).head? := by
  obtain ⟨minLength, maxLength, pattern, examples⟩ := rules
  have tooShort := head?_broken minLength (fun min => text.length < min.toNat) (.tooShort path)
  have tooLong := head?_broken maxLength (fun max => max.toNat < text.length) (.tooLong path)
  simp only [decide_eq_true_eq] at tooShort tooLong
  simp only [broken, violation?, List.append_assoc, tooShort, tooLong]
  -- In each case the rules that come before the reported one are known to hold.
  split
  · rename_i min _ h
    simp [h]
  · rename_i max _ short long
    simp [short, long]
  · rename_i short long
    simp [short, long]
  · rename_i source short long
    simp only [short, long, Option.map_none, Option.none_or, Option.toList_some,
      List.flatMap_singleton]
    cases Pattern.compile source with
    | error reason => rfl
    | ok pattern => cases h : pattern.isMatch text <;> simp [h]

theorem NumberRules.violation?_number (rules : NumberRules) (path : String) (actual : Number) :
    rules.violation? path (.number actual) = (rules.broken path actual).head? := by
  obtain ⟨min, max, examples⟩ := rules
  have below := head?_broken min (ExtendedDouble.finite actual.toDouble).lt
    (.belowMinimum path · actual)
  have above := head?_broken max (fun max => max.lt (ExtendedDouble.finite actual.toDouble))
    (.aboveMaximum path · actual) []
  rw [List.append_nil] at above
  simp only [broken, violation?, below, above]
  split
  · rename_i min _ h
    simp [h]
  · rename_i max _ low high
    simp [low, high]
  · rename_i low high
    simp [low, high]

theorem EnumRules.authoringViolation?_eq_head? (rules : EnumRules) (node : Declaration String)
    (path : String) :
    rules.authoringViolation? node path = (rules.strays node path).head? := by
  have allows : ∀ value, (!rules.allows value) = decide (value ∉ rules.allowed) := by
    simp [EnumRules.allows]
  simp only [authoringViolation?, strays, allows]
  cases h : node.presence.default? with
  | none => simp [List.head?_filter]
  | some value =>
    by_cases stray : value ∈ rules.allowed <;> simp [Option.filter, stray, List.head?_filter]

theorem EnumRules.strays_eq_nil_iff (rules : EnumRules) (node : Declaration String)
    (path : String) :
    rules.strays node path = [] ↔
      (∀ value ∈ node.presence.default?, value ∈ rules.allowed) ∧
      ∀ value ∈ rules.examples, value ∈ rules.allowed := by
  simp [strays, List.filter_eq_nil_iff]

namespace SchemaNode

theorem authoringViolations_eq_head? (path : String) (node : SchemaNode) :
    node.authoringViolations path = (node.strays path).head?.toList := by
  cases node with
  | enum node rules =>
    rw [authoringViolations, EnumRules.authoringViolation?_eq_head?, strays]
  | string | number | boolean | object => rfl

/-- A scalar reports the first rule that its value breaks. -/
theorem valueViolations_of_leaf (path : String) (value : Json) {node : SchemaNode}
    (leaf : node.kind ≠ .object) :
    node.valueViolations path value = (node.broken path value).head?.toList := by
  cases node with
  | object => exact absurd rfl leaf
  | string node rules =>
    rw [valueViolations]
    cases value with
    | string text => rw [StringRules.violation?_string, broken]
    | null | bool | number | array | object => rfl
  | number node rules =>
    rw [valueViolations]
    cases value with
    | number actual => rw [NumberRules.violation?_number, broken]
    | null | bool | string | array | object => rfl
  | boolean node examples => cases value <;> rfl
  | enum node rules =>
    rw [valueViolations]
    cases value with
    | string text =>
      by_cases member : text ∈ rules.allowed <;>
        simp [broken, EnumRules.violation?, EnumRules.allows, Json.string?, Json.shown, member]
    | null | bool | number | array | object => rfl

end SchemaNode

/-! ## Site by site -/

namespace Site

theorem report_here (top : String) (members : Members Json) (node : SchemaNode) :
    report top (.object members) ⟨[], node⟩ =
      match members.get? node.name with
      | none => if node.isRequired then [.missingProperty (top ++ "." ++ node.name)] else []
      | some value => node.presentReport (top ++ "." ++ node.name) value := by
  rw [report, if_pos ((reached_here node _).2 rfl), value?_here, path_here]
  rfl

/-- Below a member that is there, a site is reported as the member itself would report it. -/
theorem report_below {top name : String} {document value : Json} (site : Site)
    (found : document.member? name = some value) :
    (site.below name).report top document = site.report (top ++ "." ++ name) value := by
  have reached : (site.below name).Reached document ↔ site.Reached value := by
    simp [reached_below, found]
  have value? : (site.below name).value? document = site.value? value := by
    rw [value?_below, found, Option.bind_some]
  by_cases h : site.Reached value
  · rw [report, report, if_pos h, if_pos (reached.2 h), value?, path_below, node_below]
  · rw [report, report, if_neg h, if_neg (mt reached.1 h)]

/-- Below a member that is absent nothing is reported. -/
theorem report_below_of_absent {top name : String} {document : Json} (site : Site)
    (absent : document.member? name = none) :
    (site.below name).report top document = [] := by
  have unreached : ¬ (site.below name).Reached document := by
    simp [reached_below, absent]
  rw [report, if_neg unreached]

theorem report_of_not_object {top : String} {document : Json} (site : Site)
    (h : document.members? = none) : site.report top document = [] := by
  rw [report, if_neg (not_reached h)]

end Site

namespace SchemaNode

/-- What a property and all sites below it report of its value. -/
def Reports (node : SchemaNode) : Prop :=
  ∀ (path : String) (value : Json),
    node.valueViolations path value ++ node.authoringViolations path =
      node.presentReport path value ++ node.sites.flatMap (Site.report path value)

/-- A member that is there reports for itself and for all sites below it; of one that is not, at
most that it is missing. -/
theorem Reports.memberViolations {node : SchemaNode} (reports : node.Reports) (top : String)
    (members : Members Json) :
    node.memberViolations top members =
      node.ownSites.flatMap (Site.report top (.object members)) := by
  rw [ownSites, List.flatMap_cons, Site.report_here, List.flatMap_map, SchemaNode.memberViolations]
  cases found : members.get? node.name with
  | none =>
    have silent : (node.sites.flatMap fun site =>
        (site.below node.name).report top (.object members)) = [] :=
      List.flatMap_eq_nil_iff.2 fun site _ => Site.report_below_of_absent site found
    rw [silent, List.append_nil]
  | some value =>
    refine (reports (top ++ "." ++ node.name) value).trans ?_
    congr 1
    apply List.flatMap_congr
    intro site _
    refine (Site.report_below site ?_).symm
    exact found

theorem reports (node : SchemaNode) : node.Reports := by
  induction node using SchemaNode.induction with
  | leaf node leaf =>
    intro path value
    rw [valueViolations_of_leaf path value leaf, authoringViolations_eq_head?, sites_of_leaf leaf,
      List.flatMap_nil, List.append_nil, presentReport]
  | object node properties ih =>
    intro path value
    rw [show (object node properties).authoringViolations path = [] from rfl, List.append_nil]
    rcases value.object_or_not with ⟨members, rfl⟩ | h
    · rw [valueViolations_object, sites_eq_flatMap, List.flatMap_assoc]
      exact List.flatMap_congr fun property mem => (ih property mem).memberViolations path members
    · have silent : (object node properties).sites.flatMap (Site.report path value) = [] :=
        List.flatMap_eq_nil_iff.2 fun site _ => Site.report_of_not_object site h
      rw [valueViolations_object_of_not path h, silent, List.append_nil]
      cases value with
      | object => simp [Json.members?] at h
      | null | bool | number | string | array => rfl

/-- **A check reports every fault exactly once and nothing else.** Of an object section it reports,
in the order of the sites, what each reached site reports. -/
theorem check_eq_report (node : SchemaNode) (members : Members Json) :
    node.check (some (.object members)) =
      node.sites.flatMap (Site.report node.name (.object members)) := by
  rw [check_object, sites_eq_flatMap, List.flatMap_assoc]
  exact List.flatMap_congr fun property _ =>
    property.reports.memberViolations node.name members

end SchemaNode

end ConfigSchema
