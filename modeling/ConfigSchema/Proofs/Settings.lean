import ConfigSchema.Proofs.Filling

/-! # Resolving a section again (`materialize`)

Resolving the document of some settings finds every value filled already, save that a default which
was inserted below the first level was not filled. So resolving is not idempotent, and it is exactly
where all inserted defaults are complete. -/
namespace ConfigSchema

/-! ## Settings as a document -/

namespace Settings

/-- What is handed to a writer are the settings that are set. -/
theorem entries_emission (settings : Settings) : settings.emission.entries = settings.values := by
  obtain ⟨entries⟩ := settings
  simp only [emission, values]
  induction entries with
  | nil => rfl
  | cons entry rest ih =>
    obtain ⟨name, value⟩ := entry
    rw [List.flatMap_cons, ih, List.filterMap_cons]
    cases value with
    | none => rfl
    | some value => rfl

/-- A setting is found under its name in the document, if no other has the name. -/
theorem member?_toJson {settings : Settings} (nodup : (settings.entries.map Prod.fst).Nodup)
    (name : String) : settings.toJson.member? name = settings.get? name := by
  have nodupReverse : (settings.entries.reverse.map Prod.fst).Nodup :=
    (settings.entries.reverse_perm.map Prod.fst).nodup_iff.2 nodup
  rw [toJson, Json.member?_object, Members.get?_sorted, values, ← List.filterMap_reverse,
    Members.get?_filterMap nodupReverse, Members.get?_reverse nodup, get?]

end Settings

namespace SchemaNode

theorem materialize_eq (node : SchemaNode) (section' : Option Json) :
    node.materialize section' =
      ⟨node.properties.map fun property =>
        (property.name, property.resolve (section'.bind (·.member? property.name)))⟩ := by
  rw [materialize]
  cases section' with
  | none => rfl
  | some value =>
    rcases value.object_or_not with ⟨members, rfl⟩ | h
    · rfl
    · simp [Json.member?, h]

theorem entries_materialize (node : SchemaNode) (section' : Option Json) :
    (node.materialize section').entries.map Prod.fst = node.properties.map SchemaNode.name := by
  rw [materialize_eq, List.map_map]
  rfl

/-- What the settings of a section hold for each property, read back from the document. -/
theorem member?_toJson_materialize {node : SchemaNode}
    (nodup : (node.properties.map SchemaNode.name).Nodup) {property : SchemaNode}
    (mem : property ∈ node.properties) (section' : Option Json) :
    (node.materialize section').toJson.member? property.name =
      property.resolve (section'.bind (·.member? property.name)) := by
  rw [Settings.member?_toJson (by rwa [entries_materialize]), Settings.get?, materialize_eq,
    Members.get?_map nodup _ mem, Option.join_some]

theorem materialize_eq_iff (node : SchemaNode) (first second : Option Json) :
    node.materialize first = node.materialize second ↔
      ∀ property ∈ node.properties,
        property.resolve (first.bind (·.member? property.name)) =
          property.resolve (second.bind (·.member? property.name)) := by
  rw [materialize_eq, materialize_eq, Settings.mk.injEq, List.map_inj_left]
  simp

/-! ## Resolving twice -/

/-- A property resolves to the same again exactly if what it was resolved from inserts only complete
defaults. -/
theorem resolve_resolve_eq_iff {node : SchemaNode} (unique : node.UniqueNames)
    (found : Option Json) :
    node.resolve (node.resolve found) = node.resolve found ↔
      ∀ value ∈ found.or node.defaultJson, node.InsertsComplete value := by
  cases h : found.or node.defaultJson with
  | none =>
    obtain ⟨rfl, unset⟩ := Option.or_eq_none_iff.1 h
    simp [resolve, unset]
  | some value =>
    have first : node.resolve found = some (node.fill value) := by rw [resolve, h, Option.map_some]
    rw [first, resolve, Option.some_or, Option.map_some, Option.some.injEq, fill_fill_eq_iff unique]
    simp

end SchemaNode

/-- Objects inside one another along some names, the innermost one empty. -/
def Json.chain : List String → Json
  | [] => .object []
  | name :: rest => .object [(name, chain rest)]

theorem Json.member?_chain (name : String) (rest : List String) :
    (Json.chain (name :: rest)).member? name = some (Json.chain rest) := by
  simp [Json.chain, Members.get?_cons]

/-- Every site is reached somewhere without being filled. -/
theorem Site.reached_chain (node : SchemaNode) (above : List String) :
    Site.Reached ⟨above, node⟩ (Json.chain above) ∧
      Site.value? ⟨above, node⟩ (Json.chain above) = none := by
  induction above with
  | nil => exact ⟨(reached_here node _).2 rfl, by simp [value?_here, Json.chain]⟩
  | cons name rest ih =>
    have found := Json.member?_chain name rest
    refine ⟨(reached_below name ⟨rest, node⟩ _).2 ⟨_, found, ih.1⟩, ?_⟩
    exact (value?_below name ⟨rest, node⟩ _).trans (by simp [found, ih.2])

namespace SchemaNode

/-- Some section inserts an incomplete default exactly if one is declared below the first level. -/
theorem forall_insertsComplete_iff (node : SchemaNode) :
    (∀ section' : Option Json, ∀ property ∈ node.properties,
        ∀ value ∈ (section'.bind (·.member? property.name)).or property.defaultJson,
          property.InsertsComplete value) ↔
      node.NestedDefaultsComplete := by
  rw [NestedDefaultsComplete, sites_eq_flatMap]
  simp only [List.mem_flatMap, ownSites, List.mem_cons, List.mem_map]
  constructor
  · rintro inserts site ⟨property, mem, rfl | ⟨site, below, rfl⟩⟩ nested
    · exact absurd rfl nested
    · -- A chain of empty objects down to the site leaves nothing to insert there but its default.
      have found := Json.member?_chain property.name site.above
      obtain ⟨reached, absent⟩ := Site.reached_chain site.node site.above
      exact inserts (some (Json.chain (property.name :: site.above))) property mem _
        (by simp [found]) site below reached absent
  · intro nested section' property mem value _ site below _ _
    exact nested (site.below property.name) ⟨property, mem, .inr ⟨site, below, rfl⟩⟩
      (List.cons_ne_nil _ _)

/-- **When resolving is idempotent.** Resolving the document that a section was resolved to changes
nothing exactly if every default that was inserted below the first level is complete, that is if it
lacks nothing that has a default itself. So no section is changed exactly if all defaults declared
below the first level are complete. -/
theorem materialize_again_iff (node : SchemaNode) (unique : node.UniqueNames) :
    (∀ section' : Option Json,
      node.materialize (some (node.materialize section').toJson) = node.materialize section' ↔
        ∀ property ∈ node.properties,
          ∀ value ∈ (section'.bind (·.member? property.name)).or property.defaultJson,
            property.InsertsComplete value) ∧
    ((∀ section' : Option Json,
      node.materialize (some (node.materialize section').toJson) = node.materialize section') ↔
        node.NestedDefaultsComplete) := by
  have again : ∀ section' : Option Json,
      node.materialize (some (node.materialize section').toJson) = node.materialize section' ↔
        ∀ property ∈ node.properties,
          ∀ value ∈ (section'.bind (·.member? property.name)).or property.defaultJson,
            property.InsertsComplete value := by
    intro section'
    rw [materialize_eq_iff]
    refine forall₂_congr fun property mem => ?_
    rw [Option.bind_some, member?_toJson_materialize unique.1 mem]
    exact resolve_resolve_eq_iff (unique.of_mem mem) _
  exact ⟨again, (forall_congr' again).trans (forall_insertsComplete_iff node)⟩

/-! ### Counterexample: a default below the first level is inserted unfilled

`listener.tls` may be left out and is then empty, and `listener.tls.mode` may be left out and is
then `"strict"`. A section with an empty listener resolves to one with an empty `tls`, and that one
to one with a mode. -/

/-- A section with a default inside a default. -/
def serverNode (tls : Members Json) : SchemaNode :=
  .object { name := "server" }
    [.object { name := "listener" }
      [.object { name := "tls", presence := .optional (some tls) }
        [.string { name := "mode", presence := .optional (some "strict") } {}]]]

theorem materialize_not_idempotent :
    (serverNode []).UniqueNames ∧
      (serverNode []).materialize
          (some ((serverNode []).materialize (some (.object [("listener", .object [])]))).toJson) ≠
        (serverNode []).materialize (some (.object [("listener", .object [])])) := by
  refine ⟨by decide, fun same => ?_⟩
  have mode := congrArg
    (fun settings => (settings.toJson.at? ["listener", "tls", "mode"]).isSome) same
  revert mode
  decide

/-- With the mode written into the default, resolving the same section again changes nothing. -/
theorem materialize_again_complete :
    (serverNode [("mode", .string "strict")]).UniqueNames ∧
      (serverNode [("mode", .string "strict")]).NestedDefaultsComplete ∧
      (serverNode [("mode", .string "strict")]).materialize
          (some ((serverNode [("mode", .string "strict")]).materialize
            (some (.object [("listener", .object [])]))).toJson) =
        (serverNode [("mode", .string "strict")]).materialize
          (some (.object [("listener", .object [])])) := by
  have complete : (serverNode [("mode", .string "strict")]).NestedDefaultsComplete := by decide
  exact ⟨by decide, complete, (materialize_again_iff _ (by decide)).2.2 complete _⟩

end SchemaNode

end ConfigSchema
