import ConfigSchema.Proofs.Settings

/-! # Defaults that are written out

For a property of the section itself it makes no difference whether its default is written into the
section or left to be filled in. Below the first level a default that is inserted stays as it
stands, while one that is written out is filled like every other value, so there it makes no
difference exactly if the default is complete (`SchemaNode.materialize_written_default_iff`). -/
namespace ConfigSchema

/-! ## Writing at a site -/

/-- The document with a member set in the object that names lead to. -/
def Json.insertAt (key : String) (entry : Json) : List String → Json → Json
  | [], .object members => .object (Members.insert members key entry)
  | name :: rest, .object members =>
    match Members.get? members name with
    | some value => .object (Members.insert members name (insertAt key entry rest value))
    | none => .object members
  | _, document => document

namespace Site

/-- The document with a value written for a property, into the object that encloses it. -/
def write (site : Site) (entry document : Json) : Json :=
  Json.insertAt site.node.name entry site.above document

theorem write_here (node : SchemaNode) (entry : Json) (members : Members Json) :
    write ⟨[], node⟩ entry (.object members) = .object (members.insert node.name entry) := rfl

theorem write_below {name : String} {members : Members Json} {value : Json}
    (found : members.get? name = some value) (site : Site) (entry : Json) :
    (site.below name).write entry (.object members) =
      .object (members.insert name (site.write entry value)) := by
  obtain ⟨above, node⟩ := site
  simp only [write, below, Json.insertAt, found]

end Site

/-! ## Filling what was written -/

namespace SchemaNode

/-- Below a value, a default that is written out is filled and one that is left out is not. -/
theorem fill_written_default_iff {node : SchemaNode} (unique : node.UniqueNames) {site : Site}
    (mem : site ∈ node.sites) {document : Json} (reached : site.Reached document)
    (absent : site.value? document = none) {default : Json}
    (declared : site.node.defaultJson = some default) :
    node.fill (site.write default document) = node.fill document ↔ site.node.Complete default := by
  induction node using SchemaNode.induction generalizing site document with
  | leaf node leaf => simp [sites_of_leaf leaf] at mem
  | object node properties ih =>
    obtain ⟨nodup, uniqueBelow⟩ := uniqueNames_object.1 unique
    rcases document.object_or_not with ⟨members, rfl⟩ | notObject
    · obtain ⟨property, property_mem, position⟩ := mem_sites_iff.1 mem
      rcases position with rfl | ⟨inner, inner_mem, rfl⟩
      · rw [Site.value?_here, Json.member?_object] at absent
        have omitted : property.fillFound none = some default := declared
        rw [Site.write_here, fill_object, fill_object, Json.object.injEq,
          fillMembers_insert_eq_iff members nodup property_mem, absent, omitted, Option.some.injEq]
        exact fill_eq_self_iff (uniqueBelow property property_mem) default
      · obtain ⟨value, found, deeper⟩ := (Site.reached_below _ inner _).1 reached
        rw [Json.member?_object] at found
        rw [Site.value?_below, Json.member?_object, found, Option.bind_some] at absent
        have present : property.fillFound (some value) = some (property.fill value) := rfl
        rw [Site.write_below found, fill_object, fill_object, Json.object.injEq,
          fillMembers_insert_eq_iff members nodup property_mem, found, present, Option.some.injEq]
        exact ih property property_mem (uniqueBelow property property_mem) inner_mem deeper absent
          declared
    · exact absurd reached (Site.not_reached notObject)

/-- A section resolves as before exactly if the one member that changed does. -/
theorem materialize_insert_eq_iff {node : SchemaNode}
    (nodup : (node.properties.map SchemaNode.name).Nodup) {property : SchemaNode}
    (mem : property ∈ node.properties) (members : Members Json) (entry : Json) :
    node.materialize (some (.object (members.insert property.name entry))) =
        node.materialize (some (.object members)) ↔
      property.resolve (some entry) = property.resolve (members.get? property.name) := by
  rw [materialize_eq_iff]
  simp only [Option.bind_some, Json.member?_object, Members.get?_insert]
  constructor
  · intro same
    simpa using same property mem
  · intro same other other_mem
    by_cases own : property.name = other.name
    · obtain rfl : property = other := List.inj_on_of_nodup_map nodup mem other_mem own
      rw [if_pos rfl, same]
    · rw [if_neg own]

/-- **Leaving a property out or writing out its default.** Both give the same settings exactly if
the property belongs to the section itself, or its default lacks nothing that has a default. -/
theorem materialize_written_default_iff {node : SchemaNode} (unique : node.UniqueNames)
    {members : Members Json} {site : Site} (mem : site ∈ node.sites)
    (reached : site.Reached (.object members)) (absent : site.value? (.object members) = none)
    {default : Json} (declared : site.node.defaultJson = some default) :
    node.materialize (some (site.write default (.object members))) =
        node.materialize (some (.object members)) ↔
      site.above = [] ∨ site.node.Complete default := by
  obtain ⟨property, property_mem, position⟩ := mem_sites_iff.1 mem
  rcases position with rfl | ⟨inner, inner_mem, rfl⟩
  · rw [Site.value?_here, Json.member?_object] at absent
    have same : property.resolve (some default) = property.resolve none := by
      rw [resolve, resolve, declared, Option.none_or, Option.some_or]
    rw [Site.write_here, materialize_insert_eq_iff unique.1 property_mem, absent]
    simp [same]
  · obtain ⟨value, found, deeper⟩ := (Site.reached_below _ inner _).1 reached
    rw [Json.member?_object] at found
    rw [Site.value?_below, Json.member?_object, found, Option.bind_some] at absent
    have resolved : ∀ value, property.resolve (some value) = some (property.fill value) :=
      fun _ => rfl
    have nested : (inner.below property.name).above ≠ [] := List.cons_ne_nil _ _
    rw [Site.write_below found, materialize_insert_eq_iff unique.1 property_mem, found, resolved,
      resolved, Option.some.injEq,
      fill_written_default_iff (unique.of_mem property_mem) inner_mem deeper absent declared]
    simp [nested]

/-! ### Counterexample: an empty default below the first level

`listener.tls` may be left out and is then empty. Written out, the empty object is filled and gets
the mode that is missing in it. -/

/-- The place of `tls` in a server, with its default. -/
def tlsSite (tls : Members Json) : Site :=
  ⟨["listener"], .object { name := "tls", presence := .optional (some tls) }
    [.string { name := "mode", presence := .optional (some "strict") } {}]⟩

/-- A section with an empty listener. -/
def emptyListener : Members Json := [("listener", .object [])]

theorem written_default_differs :
    (serverNode []).UniqueNames ∧ tlsSite [] ∈ (serverNode []).sites ∧
      (tlsSite []).Reached (.object emptyListener) ∧
      (tlsSite []).value? (.object emptyListener) = none ∧
      (tlsSite []).node.defaultJson = some (.object []) ∧
      (serverNode []).materialize
          (some ((tlsSite []).write (.object []) (.object emptyListener))) ≠
        (serverNode []).materialize (some (.object emptyListener)) := by
  have mem : tlsSite [] ∈ (serverNode []).sites := .tail _ (.head _)
  refine ⟨by decide, mem, by decide, by decide, rfl, fun same => ?_⟩
  have mode := congrArg
    (fun settings => (settings.toJson.at? ["listener", "tls", "mode"]).isSome) same
  revert mode
  decide

/-- A default that gives the mode itself may be written out or left out. -/
theorem written_default_complete :
    (serverNode [("mode", .string "off")]).UniqueNames ∧
      tlsSite [("mode", .string "off")] ∈ (serverNode [("mode", .string "off")]).sites ∧
      (tlsSite [("mode", .string "off")]).Reached (.object emptyListener) ∧
      (tlsSite [("mode", .string "off")]).value? (.object emptyListener) = none ∧
      (tlsSite [("mode", .string "off")]).node.Complete (.object [("mode", .string "off")]) ∧
      (serverNode [("mode", .string "off")]).materialize
          (some ((tlsSite [("mode", .string "off")]).write (.object [("mode", .string "off")])
            (.object emptyListener))) =
        (serverNode [("mode", .string "off")]).materialize (some (.object emptyListener)) := by
  have unique : (serverNode [("mode", .string "off")]).UniqueNames := by decide
  have mem : tlsSite [("mode", .string "off")] ∈ (serverNode [("mode", .string "off")]).sites :=
    .tail _ (.head _)
  have reached : (tlsSite [("mode", .string "off")]).Reached (.object emptyListener) := by decide
  have absent : (tlsSite [("mode", .string "off")]).value? (.object emptyListener) = none := by
    decide
  have complete : (tlsSite [("mode", .string "off")]).node.Complete
      (.object [("mode", .string "off")]) := by decide
  exact ⟨unique, mem, reached, absent, complete,
    (materialize_written_default_iff unique mem reached absent rfl).2 (.inr complete)⟩

end SchemaNode

end ConfigSchema
