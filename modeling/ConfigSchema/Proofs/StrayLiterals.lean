import ConfigSchema.Proofs.Validation
import Mathlib.Data.List.Forall2

/-! # Stray literals

A literal of an enum, its default or an example, that lies outside its set is reported of every enum
that a section gives. Which enums these are is a matter of which properties are there and not of
what they hold, so neither a wrong value nor a fault beside or above it hides, repeats or moves such
a report (`SchemaNode.stray_literals_reported`). -/
namespace ConfigSchema

/-- Whether a stray literal is reported. -/
def Violation.isStray : Violation → Bool
  | defaultNotInEnum _ _ _ | exampleNotInEnum _ _ _ => true
  | _ => false

/-- Whether a property is an enum with a stray literal, as its default or among its examples. -/
def SchemaNode.declaresStray : SchemaNode → Bool
  | .enum node rules =>
    node.presence.default?.any (fun value => value ∉ rules.allowed) ||
      rules.examples.any fun value => value ∉ rules.allowed
  | .string _ _ | .number _ _ | .boolean _ _ | .object _ _ => false

namespace Site

/-- A section gives a property: every object above it is there, and the innermost one holds it. -/
def Given (site : Site) (document : Json) : Prop :=
  site.Reached document ∧ (site.value? document).isSome = true

instance (site : Site) (document : Json) : Decidable (site.Given document) :=
  inferInstanceAs (Decidable (_ ∧ _))

/-- A violation reports a stray literal of an enum, at its path: its default or, if that is allowed
or there is none, an example. -/
inductive ReportsStray (top : String) : Site → Violation → Prop
  | default {above : List String} {node : Declaration String} {rules : EnumRules} {value : String}
    (declared : node.presence.default? = some value) (stray : value ∉ rules.allowed) :
    ReportsStray top ⟨above, .enum node rules⟩
      (.defaultNotInEnum (path ⟨above, .enum node rules⟩ top) value rules.allowed)
  | example {above : List String} {node : Declaration String} {rules : EnumRules} {value : String}
    (allowed : ∀ default ∈ node.presence.default?, default ∈ rules.allowed)
    (declared : value ∈ rules.examples) (stray : value ∉ rules.allowed) :
    ReportsStray top ⟨above, .enum node rules⟩
      (.exampleNotInEnum (path ⟨above, .enum node rules⟩ top) value rules.allowed)

end Site

/-! ## Reports of single properties -/

/-- No rule for texts is about literals. -/
theorem StringRules.isStray_of_mem_broken {rules : StringRules} {path text : String}
    {violation : Violation} (mem : violation ∈ rules.broken path text) :
    violation.isStray = false := by
  simp only [broken, List.mem_append, List.mem_flatMap, List.mem_ite_nil_right,
    List.mem_singleton] at mem
  rcases mem with (⟨min, -, -, rfl⟩ | ⟨max, -, -, rfl⟩) | ⟨source, -, mem⟩
  · rfl
  · rfl
  · cases compiled : Pattern.compile source with
    | error reason =>
      simp only [compiled, List.mem_singleton] at mem
      subst mem
      rfl
    | ok pattern =>
      simp only [compiled, List.mem_ite_nil_left, List.mem_singleton] at mem
      obtain ⟨-, rfl⟩ := mem
      rfl

theorem NumberRules.isStray_of_mem_broken {rules : NumberRules} {path : String} {actual : Number}
    {violation : Violation} (mem : violation ∈ rules.broken path actual) :
    violation.isStray = false := by
  simp only [broken, List.mem_append, List.mem_flatMap, List.mem_ite_nil_right,
    List.mem_singleton] at mem
  rcases mem with ⟨min, -, -, rfl⟩ | ⟨max, -, -, rfl⟩
  · rfl
  · rfl

theorem EnumRules.isStray_of_mem_strays {rules : EnumRules} {node : Declaration String}
    {path : String} {violation : Violation} (mem : violation ∈ rules.strays node path) :
    violation.isStray = true := by
  simp only [strays, List.mem_append, List.mem_map] at mem
  rcases mem with ⟨value, -, rfl⟩ | ⟨value, -, rfl⟩
  · rfl
  · rfl

namespace SchemaNode

/-- What is wrong with a value is never that a literal is stray. -/
theorem isStray_of_mem_broken {node : SchemaNode} {path : String} {value : Json}
    {violation : Violation} (mem : violation ∈ node.broken path value) :
    violation.isStray = false := by
  cases node with
  | string node rules =>
    cases value with
    | string text => exact StringRules.isStray_of_mem_broken mem
    | null | bool | number | array | object =>
      obtain rfl := List.mem_singleton.1 mem
      rfl
  | number node rules =>
    cases value with
    | number actual => exact NumberRules.isStray_of_mem_broken mem
    | null | bool | string | array | object =>
      obtain rfl := List.mem_singleton.1 mem
      rfl
  | boolean node examples =>
    cases value with
    | bool => exact absurd mem List.not_mem_nil
    | null | number | string | array | object =>
      obtain rfl := List.mem_singleton.1 mem
      rfl
  | enum node rules =>
    cases value with
    | string text =>
      simp only [broken, List.mem_ite_nil_left, List.mem_singleton] at mem
      obtain ⟨-, rfl⟩ := mem
      rfl
    | null | bool | number | array | object =>
      obtain rfl := List.mem_singleton.1 mem
      rfl
  | object node properties =>
    cases value with
    | object => exact absurd mem List.not_mem_nil
    | null | bool | number | string | array =>
      obtain rfl := List.mem_singleton.1 mem
      rfl

theorem isStray_of_mem_strays {node : SchemaNode} {path : String} {violation : Violation}
    (mem : violation ∈ node.strays path) : violation.isStray = true := by
  cases node with
  | enum node rules => exact EnumRules.isStray_of_mem_strays mem
  | string | number | boolean | object => exact absurd mem List.not_mem_nil

theorem declaresStray_eq_false_iff (path : String) (node : SchemaNode) :
    node.declaresStray = false ↔ node.strays path = [] := by
  cases node with
  | enum node rules =>
    rw [strays, EnumRules.strays_eq_nil_iff, declaresStray, Bool.or_eq_false_iff,
      List.any_eq_false]
    cases node.presence.default? with
    | none => simp
    | some value => simp
  | string | number | boolean | object => simp [declaresStray, strays]

/-- Of what is reported of a property that is there, only the part about its own literals is about
literals, whatever its value is. -/
theorem filter_presentReport (path : String) (value : Json) (node : SchemaNode) :
    (node.presentReport path value).filter Violation.isStray = (node.strays path).head?.toList := by
  have values : (node.broken path value).head?.toList.filter Violation.isStray = [] := by
    rw [List.filter_eq_nil_iff]
    intro violation mem
    have broken := List.mem_of_mem_head? (Option.mem_toList.1 mem)
    simp [isStray_of_mem_broken broken]
  have literals : (node.strays path).head?.toList.filter Violation.isStray =
      (node.strays path).head?.toList := by
    rw [List.filter_eq_self]
    intro violation mem
    exact isStray_of_mem_strays (List.mem_of_mem_head? (Option.mem_toList.1 mem))
  rw [presentReport, List.filter_append, values, literals, List.nil_append]

end SchemaNode

/-! ## Reports of sites -/

namespace Site

/-- The stray literals that are reported of a site. -/
def strayReport (top : String) (document : Json) (site : Site) : List Violation :=
  if site.Given document then (site.node.strays (site.path top)).head?.toList else []

theorem filter_report (top : String) (document : Json) (site : Site) :
    (site.report top document).filter Violation.isStray = site.strayReport top document := by
  rw [report, strayReport]
  by_cases reached : site.Reached document
  · cases held : site.value? document with
    | none =>
      have notGiven : ¬ site.Given document := by simp [Given, held]
      rw [if_pos reached, if_neg notGiven]
      cases required : site.node.isRequired with
      | true => rfl
      | false => rfl
    | some value =>
      have given : site.Given document := ⟨reached, by rw [held]; rfl⟩
      rw [if_pos reached, if_pos given]
      exact SchemaNode.filter_presentReport _ value site.node
  · have notGiven : ¬ site.Given document := fun given => reached given.1
    rw [if_neg reached, if_neg notGiven]
    rfl

/-- What is reported of a site first is a stray literal of it. -/
theorem reportsStray_of_head? {top : String} {site : Site} {violation : Violation}
    (first : (site.node.strays (site.path top)).head? = some violation) :
    site.ReportsStray top violation := by
  obtain ⟨above, node⟩ := site
  cases node with
  | enum node rules =>
    rw [SchemaNode.strays, EnumRules.strays, List.head?_append, Option.or_eq_some_iff,
      List.head?_map, List.head?_map, Option.map_eq_some_iff, Option.map_eq_some_iff,
      Option.map_eq_none_iff, List.head?_eq_none_iff] at first
    rcases first with ⟨value, found, rfl⟩ | ⟨noDefault, value, found, rfl⟩
    · obtain ⟨mem, outside⟩ := List.mem_filter.1 (List.mem_of_mem_head? found)
      exact .default (Option.mem_toList.1 mem) (of_decide_eq_true outside)
    · obtain ⟨mem, outside⟩ := List.mem_filter.1 (List.mem_of_mem_head? found)
      refine .example (fun default declared => ?_) mem (of_decide_eq_true outside)
      have allowed := List.filter_eq_nil_iff.1 noDefault default (Option.mem_toList.2 declared)
      simpa using allowed
  | string | number | boolean | object => cases first

/-- Of a given site with a stray literal exactly one such literal is reported. -/
theorem exists_strayReport {top : String} {document : Json} {site : Site}
    (given : site.Given document) (stray : site.node.declaresStray = true) :
    ∃ violation, site.strayReport top document = [violation] ∧ site.ReportsStray top violation := by
  cases reported : (site.node.strays (site.path top)).head? with
  | none =>
    have clean := List.head?_eq_none_iff.1 reported
    rw [← SchemaNode.declaresStray_eq_false_iff, stray] at clean
    cases clean
  | some violation =>
    refine ⟨violation, ?_, reportsStray_of_head? reported⟩
    rw [strayReport, if_pos given, reported]
    rfl

theorem strayReport_eq_nil {document : Json} {site : Site}
    (clean : site.Given document → site.node.declaresStray = false) (top : String) :
    site.strayReport top document = [] := by
  rw [strayReport]
  by_cases given : site.Given document
  · rw [if_pos given, (SchemaNode.declaresStray_eq_false_iff _ _).1 (clean given)]
    rfl
  · rw [if_neg given]

end Site

/-! ## Reports of a section -/

/-- The chosen items one by one beside what all items give, if each chosen one gives one thing and
every other one nothing. -/
theorem forall₂_filter_flatMap {α β : Type} {R : α → β → Prop} {chosen : α → Bool}
    {give : α → List β} {items : List α}
    (one : ∀ item ∈ items, chosen item = true → ∃ result, give item = [result] ∧ R item result)
    (none : ∀ item ∈ items, chosen item = false → give item = []) :
    List.Forall₂ R (items.filter chosen) (items.flatMap give) := by
  induction items with
  | nil => exact .nil
  | cons item rest ih =>
    obtain ⟨here, later⟩ := List.forall_mem_cons.1 one
    obtain ⟨here', later'⟩ := List.forall_mem_cons.1 none
    have ih := ih later later'
    rw [List.flatMap_cons]
    cases selected : chosen item with
    | true =>
      obtain ⟨result, given, related⟩ := here selected
      rw [List.filter_cons_of_pos selected, given]
      exact .cons related ih
    | false =>
      rw [List.filter_cons_of_neg (by simp [selected]), here' selected, List.nil_append]
      exact ih

namespace SchemaNode

/-- The stray literals that the check of a section reports, site by site. -/
theorem filter_check (node : SchemaNode) (members : Members Json) :
    (node.check (some (.object members))).filter Violation.isStray =
      node.sites.flatMap (Site.strayReport node.name (.object members)) := by
  rw [check_eq_report, List.filter_flatMap]
  exact List.flatMap_congr fun site _ => Site.filter_report node.name (.object members) site

/-- **Which stray literals are reported depends on what is there, not on what it holds.** Two
sections that give the same properties have the same reports of stray literals in the same order:
exactly one for each given enum with such a literal. -/
theorem stray_literals_reported (node : SchemaNode) (first second : Members Json)
    (same : ∀ site ∈ node.sites, site.Given (.object first) ↔ site.Given (.object second)) :
    (node.check (some (.object first))).filter Violation.isStray =
        (node.check (some (.object second))).filter Violation.isStray ∧
      List.Forall₂ (Site.ReportsStray node.name)
        (node.sites.filter fun site =>
          decide (site.Given (.object first)) && site.node.declaresStray)
        ((node.check (some (.object first))).filter Violation.isStray) := by
  rw [filter_check, filter_check]
  constructor
  · apply List.flatMap_congr
    intro site mem
    rw [Site.strayReport, Site.strayReport]
    simp only [same site mem]
  · apply forall₂_filter_flatMap
    · intro site mem chosen
      rw [Bool.and_eq_true, decide_eq_true_iff] at chosen
      exact Site.exists_strayReport chosen.1 chosen.2
    · intro site mem notChosen
      refine Site.strayReport_eq_nil (fun given => ?_) node.name
      simpa [given] using notChosen

/-- A section with an enum whose default is stray, and below an object one with a stray example and
one with neither. -/
def straysNode : SchemaNode :=
  .object { name := "app" }
    [.string { name := "host" } { minLength := some 3 },
      .enum { name := "mode", presence := .optional (some "max") } ⟨["low", "high"], nofun, []⟩,
      .object { name := "log" }
        [.enum { name := "level" } ⟨["debug"], nofun, ["debug", "trace"]⟩,
          .enum { name := "form" } ⟨["text"], nofun, []⟩]]

/-- A host, a mode and a level, and no form. -/
def straysSection (host mode level : Json) : Members Json :=
  [("host", host), ("log", .object [("level", level)]), ("mode", mode)]

/-- Three faults in the values, two of them of the enums themselves, leave the two reports as they
are. -/
theorem stray_literals_reported_app :
    let first := straysSection (.string "abc") (.string "low") (.string "debug")
    let second := straysSection (.string "a") (.string "mid") .null
    let reports : List Violation :=
      [.defaultNotInEnum "app.mode" "max" ["low", "high"],
        .exampleNotInEnum "app.log.level" "trace" ["debug"]]
    (∀ site ∈ straysNode.sites, site.Given (.object first) ↔ site.Given (.object second)) ∧
      straysNode.check (some (.object first)) = reports ∧
      straysNode.check (some (.object second)) =
        [.tooShort "app.host" 3, .notInEnum "app.mode" ["low", "high"] "mid",
          .defaultNotInEnum "app.mode" "max" ["low", "high"],
          .notInEnum "app.log.level" ["debug"] "null",
          .exampleNotInEnum "app.log.level" "trace" ["debug"]] ∧
      (straysNode.check (some (.object first))).filter Violation.isStray =
        (straysNode.check (some (.object second))).filter Violation.isStray ∧
      List.Forall₂ (Site.ReportsStray straysNode.name)
        (straysNode.sites.filter fun site =>
          decide (site.Given (.object first)) && site.node.declaresStray)
        ((straysNode.check (some (.object first))).filter Violation.isStray) := by
  intro first second reports
  have same : ∀ site ∈ straysNode.sites,
      site.Given (.object first) ↔ site.Given (.object second) := by decide
  obtain ⟨sameReports, each⟩ := stray_literals_reported straysNode first second same
  exact ⟨same, by decide, by decide, sameReports, each⟩

end SchemaNode

end ConfigSchema
