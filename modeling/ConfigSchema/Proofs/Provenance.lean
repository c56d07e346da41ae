import ConfigSchema.Proofs.Declarations
import ConfigSchema.Proofs.Names
import ConfigSchema.Proofs.Resolution
import ConfigSchema.Proofs.Settings
import ConfigSchema.Proofs.Validation

/-! # Where settings come from

A value that a section holds for a scalar property stands in the document, or else a declared
default supplies it (`SchemaNode.traceable_materialize`). Values of the document are checked,
defaults are trusted, so an enum resolves to one of its literals wherever the document gives its
value, and everywhere if no default holds anything else (`Validator.enum_values_checked`). -/
namespace ConfigSchema

namespace Site

theorem bind_value?_here (node : SchemaNode) (document : Option Json) :
    document.bind (value? ⟨[], node⟩) = document.bind (·.member? node.name) :=
  Option.bind_congr fun value _ => value?_here node value

theorem bind_value?_below (name : String) (site : Site) (document : Option Json) :
    document.bind (site.below name).value? = (document.bind (·.member? name)).bind site.value? := by
  rw [Option.bind_assoc]
  rfl

/-- Where there is a value, every object above it is there. -/
theorem reached_of_value? {site : Site} {document value : Json}
    (held : site.value? document = some value) : site.Reached document := by
  obtain ⟨above, node⟩ := site
  induction above generalizing document with
  | nil =>
    rw [value?_here] at held
    rw [reached_here]
    cases document with
    | object => rfl
    | null | bool | number | string | array => cases held
  | cons name rest ih =>
    obtain ⟨inner, found, held⟩ := Option.bind_eq_some_iff.1 held
    exact (reached_below name ⟨rest, node⟩ document).2 ⟨inner, found, ih held⟩

end Site

/-! ## Values and defaults -/

/-- A declared default holds a value for a site: the default of a property at the site or above it
that the document lacks. -/
def SchemaNode.Defaults (node : SchemaNode) (document : Option Json) (site : Site) (value : Json) :
    Prop :=
  ∃ outer ∈ node.sites, document.bind outer.value? = none ∧
    ∃ default rest, outer.node.defaultJson = some default ∧ site.names = outer.names ++ rest ∧
      default.at? rest = some value

namespace SchemaNode

section
variable {node property : SchemaNode} {document : Option Json} {site : Site} {value : Json}

/-- A property that the document lacks has its own default, and what is below it has what that
default holds. -/
theorem Defaults.here (mem : property ∈ node.properties)
    (absent : document.bind (·.member? property.name) = none) {default : Json}
    (declared : property.defaultJson = some default) {rest : List String}
    (names : site.names = property.name :: rest) (held : default.at? rest = some value) :
    node.Defaults document site value := by
  refine ⟨⟨[], property⟩, mem_sites_iff.2 ⟨property, mem, .inl rfl⟩, ?_, default, rest, declared,
    names, held⟩
  rwa [Site.bind_value?_here]

theorem Defaults.below (mem : property ∈ node.properties)
    (defaults : property.Defaults (document.bind (·.member? property.name)) site value) :
    node.Defaults document (site.below property.name) value := by
  obtain ⟨outer, outer_mem, absent, default, rest, declared, names, held⟩ := defaults
  refine ⟨outer.below property.name, mem_sites_iff.2 ⟨property, mem, .inr ⟨outer, outer_mem, rfl⟩⟩,
    ?_, default, rest, declared, ?_, held⟩
  · rwa [Site.bind_value?_below]
  · rw [Site.names_below, names, Site.names_below, List.cons_append]

/-- A document that is not there lacks everything. -/
theorem Defaults.of_absent (defaults : node.Defaults document site value) :
    node.Defaults none site value := by
  obtain ⟨outer, outer_mem, -, supplied⟩ := defaults
  exact ⟨outer, outer_mem, rfl, supplied⟩

end

/-- What is held for a scalar stands in the document or is supplied by a default. -/
def Traceable (node : SchemaNode) (document : Option Json) (site : Site) (held : Option Json) :
    Prop :=
  ∀ value, held = some value →
    document.bind site.value? = some value ∨ node.Defaults document site value

section
variable {node property : SchemaNode} {document held : Option Json}

/-- Both ways to give an absent property its default: filling inserts it, resolving inserts it
filled. -/
theorem traceable_here (mem : property ∈ node.properties) (scalar : property.kind ≠ .object)
    (held_eq : held = property.fillFound (document.bind (·.member? property.name)) ∨
      held = property.resolve (document.bind (·.member? property.name))) :
    node.Traceable document ⟨[], property⟩ held := by
  rintro value rfl
  have fill_id : property.fill = id := funext (fill_of_leaf scalar)
  have given : (document.bind (·.member? property.name)).or property.defaultJson = some value := by
    simpa only [fillFound, resolve, fill_id, Option.map_id, id, or_self, eq_comm] using held_eq
  cases found : document.bind (·.member? property.name) with
  | some own =>
    left
    rw [found, Option.some_or] at given
    rwa [Site.bind_value?_here, found]
  | none =>
    right
    rw [found, Option.none_or] at given
    exact .here mem found given rfl rfl

theorem traceable_below (mem : property ∈ node.properties) {site : Site}
    (fill : ∀ value, property.Traceable (some value) site (site.value? (property.fill value)))
    (held_eq : held = property.fillFound (document.bind (·.member? property.name)) ∨
      held = property.resolve (document.bind (·.member? property.name))) :
    node.Traceable document (site.below property.name) (held.bind site.value?) := by
  intro value value_eq
  cases found : document.bind (·.member? property.name) with
  | some own =>
    have filled : held = some (property.fill own) := by
      simpa [fillFound, resolve, found] using held_eq
    rw [filled, Option.bind_some] at value_eq
    rcases fill own value value_eq with kept | supplied
    · left
      rwa [Site.bind_value?_below, found]
    · exact .inr (.below mem (found ▸ supplied))
  | none =>
    right
    obtain ⟨given, rfl, value_eq⟩ := Option.bind_eq_some_iff.1 value_eq
    rw [found] at held_eq
    rcases held_eq with inserted | resolved
    · exact .here mem found inserted.symm rfl value_eq
    · rw [resolve, Option.none_or] at resolved
      obtain ⟨default, declared, rfl⟩ := Option.map_eq_some_iff.1 resolved.symm
      rcases fill default value value_eq with kept | supplied
      · exact .here mem found declared rfl kept
      · exact .below mem (found ▸ supplied.of_absent)

end

/-- A scalar below a filled value is what it was, or comes from a default that was inserted. -/
theorem traceable_fill {node : SchemaNode} (unique : node.UniqueNames) {site : Site}
    (mem : site ∈ node.sites) (scalar : site.node.kind ≠ .object) (document : Json) :
    node.Traceable (some document) site (site.value? (node.fill document)) := by
  induction node using SchemaNode.induction generalizing site document with
  | leaf node leaf => simp [sites_of_leaf leaf] at mem
  | object node properties ih =>
    obtain ⟨nodup, uniqueBelow⟩ := uniqueNames_object.1 unique
    rcases document.object_or_not with ⟨members, rfl⟩ | notObject
    · obtain ⟨property, property_mem, found⟩ := mem_sites_iff.1 mem
      have filled := get?_fillMembers members nodup property_mem
      rw [fill_object]
      rcases found with rfl | ⟨inner, inner_mem, rfl⟩
      · rw [Site.value?_here]
        exact traceable_here property_mem scalar (.inl filled)
      · rw [Site.value?_below]
        refine traceable_below property_mem (fun value => ?_) (.inl filled)
        exact ih property property_mem (uniqueBelow property property_mem) inner_mem scalar value
    · rw [fill_of_not_object notObject]
      exact fun value held => .inl held

/-- **Where a setting comes from.** What a resolved section holds for a scalar property stands in
the document or is supplied by a default. -/
theorem traceable_materialize {node : SchemaNode} (unique : node.UniqueNames) {site : Site}
    (mem : site ∈ node.sites) (scalar : site.node.kind ≠ .object) (section' : Option Json) :
    node.Traceable section' site (site.value? (node.materialize section').toJson) := by
  obtain ⟨property, property_mem, found⟩ := mem_sites_iff.1 mem
  have resolved := member?_toJson_materialize unique.1 property_mem section'
  rcases found with rfl | ⟨inner, inner_mem, rfl⟩
  · rw [Site.value?_here]
    exact traceable_here property_mem scalar (.inr resolved)
  · rw [Site.value?_below]
    refine traceable_below property_mem (fun value => ?_) (.inr resolved)
    exact traceable_fill (unique.of_mem property_mem) inner_mem scalar value

end SchemaNode

/-! ## Enums -/

def Json.IsOneOf (literals : List String) : Json → Prop
  | .string text => text ∈ literals
  | .null | .bool _ | .number _ | .array _ | .object _ => False

namespace SchemaNode

/-- The literals of an enum. -/
def literals? : SchemaNode → Option (List String)
  | enum _ rules => some rules.allowed
  | string _ _ | number _ _ | boolean _ _ | object _ _ => none

theorem isOneOf_of_broken {node : SchemaNode} {literals : List String}
    (isEnum : node.literals? = some literals) {path : String} {value : Json}
    (unbroken : node.broken path value = []) : value.IsOneOf literals := by
  cases node with
  | enum declared rules =>
    cases isEnum
    cases value with
    | string text =>
      by_cases member : text ∈ rules.allowed
      · exact member
      · simp [broken, member] at unbroken
    | null | bool | number | array | object => cases unbroken
  | string | number | boolean | object => cases isEnum

/-- A section in which nothing is wrong gives its enums only literals of theirs. -/
theorem isOneOf_of_check {node : SchemaNode} {section' : Option Json}
    (valid : node.check section' = []) {site : Site} (mem : site ∈ node.sites)
    {literals : List String} (isEnum : site.node.literals? = some literals) {value : Json}
    (held : section'.bind site.value? = some value) : value.IsOneOf literals := by
  obtain ⟨document, rfl, given⟩ := Option.bind_eq_some_iff.1 held
  have reached := Site.reached_of_value? given
  rcases document.object_or_not with ⟨members, rfl⟩ | notObject
  · rw [check_eq_report, List.flatMap_eq_nil_iff] at valid
    have silent := valid site mem
    rw [Site.report, if_pos reached, given] at silent
    have unbroken := (List.append_eq_nil_iff.1 silent).1
    rw [Option.toList_eq_nil_iff, List.head?_eq_none_iff] at unbroken
    exact isOneOf_of_broken isEnum unbroken
  · exact absurd reached (Site.not_reached notObject)

theorem scalar_of_literals? {node : SchemaNode} {literals : List String}
    (isEnum : node.literals? = some literals) : node.kind ≠ .object := by
  cases node with
  | object => cases isEnum
  | string | number | boolean | enum => nofun

end SchemaNode

/-- Whatever a configuration holds for an enum is one of its literals. -/
def Configuration.KeepsToEnums (configuration : Configuration) (schema : RootSchema) : Prop :=
  ∀ node ∈ schema.properties, ∀ settings ∈ configuration.find? node.name,
    ∀ site ∈ node.sites, ∀ literals ∈ site.node.literals?,
      ∀ value ∈ site.value? settings.toJson, value.IsOneOf literals

/-- Whatever a declared default holds for an enum, its own or one below it, is one of the literals
of that enum. -/
def RootSchema.DefaultsKeepToEnums (schema : RootSchema) : Prop :=
  ∀ node ∈ schema.properties, ∀ outer ∈ node.sites, ∀ default ∈ outer.node.defaultJson,
    ∀ site ∈ node.sites, ∀ literals ∈ site.node.literals?,
      ∀ rest, site.names = outer.names ++ rest →
        ∀ value ∈ default.at? rest, value.IsOneOf literals

namespace Validator

/-- In a configuration of a schema with unique names, each section is found under its name. -/
theorem find?_of_configure {validator : Validator} {schema : RootSchema}
    (unique : schema.UniqueNames) {configuration : Configuration}
    (resolved : (validator.configure schema).result = .ok configuration) {node : SchemaNode}
    (mem : node ∈ schema.properties) :
    validator.faults node = [] ∧
      configuration.find? node.name = some (node.materialize (validator.sectionOf node)) := by
  obtain ⟨valid, sections⟩ := sections_of_configure resolved
  refine ⟨valid node mem, ?_⟩
  rw [Configuration.find?, sections]
  exact Members.get?_map unique.1 _ mem

/-- **Enums keep to their sets, as far as defaults do.** What a configuration holds for an enum is
either the document's own value and one of the literals, or is supplied by a declared default. So if
the defaults of the schema hold only literals for enums, so does every configuration. -/
theorem enum_values_checked {validator : Validator} {document : Json} {schema : RootSchema}
    {configuration : Configuration} (accepted : RootSchema.ofJson document = .ok schema)
    (resolved : (validator.configure schema).result = .ok configuration) :
    (∀ node ∈ schema.properties, ∀ settings ∈ configuration.find? node.name,
      ∀ site ∈ node.sites, ∀ literals ∈ site.node.literals?, ∀ value ∈ site.value? settings.toJson,
        ((validator.document.member? node.name).bind site.value? = some value ∧
          value.IsOneOf literals) ∨
        node.Defaults (validator.document.member? node.name) site value) ∧
    (schema.DefaultsKeepToEnums → configuration.KeepsToEnums schema) := by
  have unique := schema.firstDuplicate_eq_none_iff.1 (RootSchema.ofJson_eq_ok_iff.1 accepted).2
  have traced : ∀ node ∈ schema.properties, ∀ settings ∈ configuration.find? node.name,
      ∀ site ∈ node.sites, ∀ literals ∈ site.node.literals?, ∀ value ∈ site.value? settings.toJson,
        ((validator.document.member? node.name).bind site.value? = some value ∧
          value.IsOneOf literals) ∨
        node.Defaults (validator.document.member? node.name) site value := by
    intro node node_mem settings settings_eq site site_mem literals isEnum value held
    obtain ⟨valid, found⟩ := find?_of_configure unique resolved node_mem
    obtain rfl : node.materialize (validator.sectionOf node) = settings :=
      Option.some.inj (found.symm.trans settings_eq)
    have scalar := SchemaNode.scalar_of_literals? isEnum
    rcases SchemaNode.traceable_materialize (unique.2 node node_mem) site_mem scalar _ value held
      with own | supplied
    · exact .inl ⟨own, SchemaNode.isOneOf_of_check valid site_mem isEnum own⟩
    · exact .inr supplied
  refine ⟨traced, ?_⟩
  intro keep node node_mem settings found site site_mem literals isEnum value held
  rcases traced node node_mem settings found site site_mem literals isEnum value held
    with ⟨-, isOneOf⟩ | ⟨outer, outer_mem, -, default, rest, declared, names, supplied⟩
  · exact isOneOf
  · exact keep node node_mem outer outer_mem default declared site site_mem literals isEnum rest
      names value supplied

/-! ### Counterexample: a default outside the set

`app.mode` may only be `"a"`, but its default is `"b"`. The default is trusted, so that is what an
empty document resolves to. -/

/-- A section with a mode, of which the default is given. -/
def modeDocument (default : String) : Json :=
  .object [("properties", .array [.object [("type", .string "object"), ("name", .string "app"),
    ("properties", .array [.object [("type", .string "enum"), ("name", .string "mode"),
      ("enum", .array [.string "a"]), ("defaultValue", .string default)]])]])]

/-- The schema of `modeDocument`. -/
def modeSchema (default : String) : RootSchema where
  properties := [.object { name := "app" }
    [.enum { name := "mode", presence := .optional (some default) } ⟨["a"], by decide, []⟩]]

/-- What an empty document resolves to. -/
def modeConfiguration (default : String) : Configuration :=
  ⟨[("app", ⟨[("mode", some (.string default))]⟩)]⟩

theorem enum_value_outside_set :
    RootSchema.ofJson (modeDocument "b") = .ok (modeSchema "b") ∧
      (configure ⟨.object []⟩ (modeSchema "b")).result = .ok (modeConfiguration "b") ∧
      ¬ (modeConfiguration "b").KeepsToEnums (modeSchema "b") := by
  refine ⟨rfl, rfl, fun keeps => ?_⟩
  have mode := keeps _ List.mem_cons_self ⟨[("mode", some (.string "b"))]⟩ rfl _ List.mem_cons_self
    ["a"] rfl (.string "b") rfl
  exact absurd (List.mem_singleton.1 mode) (by decide)

theorem enum_values_checked_mode :
    RootSchema.ofJson (modeDocument "a") = .ok (modeSchema "a") ∧
      (configure ⟨.object []⟩ (modeSchema "a")).result = .ok (modeConfiguration "a") ∧
      (modeSchema "a").DefaultsKeepToEnums ∧
      (modeConfiguration "a").KeepsToEnums (modeSchema "a") := by
  have accepted : RootSchema.ofJson (modeDocument "a") = .ok (modeSchema "a") := rfl
  have resolved :
      (configure ⟨.object []⟩ (modeSchema "a")).result = .ok (modeConfiguration "a") := rfl
  have keep : (modeSchema "a").DefaultsKeepToEnums := by
    intro node node_mem outer outer_mem default declared site site_mem literals isEnum rest names
      value held
    obtain rfl := List.mem_singleton.1 node_mem
    obtain rfl := List.mem_singleton.1 outer_mem
    obtain rfl := List.mem_singleton.1 site_mem
    obtain rfl : rest = [] := by simpa [Site.names] using names
    cases declared
    cases isEnum
    cases held
    exact List.mem_singleton.2 rfl
  exact ⟨accepted, resolved, keep, (enum_values_checked accepted resolved).2 keep⟩

end Validator

end ConfigSchema
