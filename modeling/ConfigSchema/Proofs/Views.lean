import ConfigSchema.Proofs.Canonical
import ConfigSchema.Proofs.Resolution
import ConfigSchema.Proofs.Settings

/-! # The views of a configuration

A map that a writer puts together of the entries that it is handed is the document, whatever names
the schema repeats. A lookup finds the first entry of a name and the document holds the last one
that is set, so these two agree where no name is repeated (`Configuration.views_agree`). -/
namespace ConfigSchema

namespace Emission

variable {α : Type}

/-- The map that a writer puts together, with `write` for the values: a later entry takes the place
of an earlier one of its name. -/
def collected (write : α → Json) (emission : Emission α) : Json :=
  .object (emission.entries.foldl (fun map entry => Members.insert map entry.1 (write entry.2)) [])

/-- What was announced is what was handed over. -/
def KeepsCount (emission : Emission α) : Prop := emission.announced = emission.entries.length

theorem collected_eq_sorted (write : α → Json) (emission : Emission α) :
    emission.collected write =
      .object (Members.sorted (emission.entries.map fun entry => (entry.1, write entry.2))) := by
  rw [collected, Members.sorted, List.foldl_map]

end Emission

/-! ## Settings -/

namespace Settings

/-- As many entries are announced as are set. -/
theorem keepsCount_emission (settings : Settings) : settings.emission.KeepsCount := by
  obtain ⟨entries⟩ := settings
  simp only [Emission.KeepsCount, emission]
  induction entries with
  | nil => rfl
  | cons entry rest ih =>
    obtain ⟨name, value⟩ := entry
    rw [List.countP_cons, ih, List.flatMap_cons, List.length_append]
    cases value with
    | none => simp
    | some value =>
      simp only [Option.isSome_some, if_true, Option.toList_some, List.map_cons, List.map_nil,
        List.length_singleton]
      omega

theorem collected_emission (settings : Settings) :
    settings.emission.collected id = settings.toJson := by
  have whole : settings.emission.entries.map (fun entry => (entry.1, id entry.2)) =
      settings.emission.entries := List.map_id' _
  rw [Emission.collected_eq_sorted, whole, entries_emission, toJson]

theorem declares_iff (settings : Settings) (name : String) :
    settings.declares name = true ↔ name ∈ settings.entries.map Prod.fst := by
  rw [declares, Members.has_eq_isSome, Option.isSome_iff_ne_none, Ne, Members.get?_eq_none_iff,
    Decidable.not_not]

end Settings

/-! ## Configurations -/

namespace Configuration

theorem keepsCount_emission (configuration : Configuration) :
    configuration.emission.KeepsCount ∧
      ∀ entry ∈ configuration.emission.entries, entry.2.KeepsCount := by
  constructor
  · simp [Emission.KeepsCount, emission]
  · intro entry mem
    obtain ⟨⟨name, settings⟩, -, rfl⟩ := List.mem_map.1 mem
    exact settings.keepsCount_emission

theorem collected_emission (configuration : Configuration) :
    configuration.emission.collected (Emission.collected id) = configuration.toJson := by
  rw [Emission.collected_eq_sorted, emission, toJson, List.map_map]
  congr 2
  apply List.map_congr_left
  rintro ⟨name, settings⟩ -
  change (name, settings.emission.collected id) = (name, settings.toJson)
  rw [settings.collected_emission]

/-- A section is found under its name in the document, if no other has the name. -/
theorem member?_toJson {configuration : Configuration} (nodup : configuration.names.Nodup)
    (name : String) :
    configuration.toJson.member? name = (configuration.find? name).map Settings.toJson := by
  rw [toJson, Json.member?_object, Members.get?_sorted,
    Members.get?_reverse (by rwa [Members.names_map_entry]), Members.get?_map_entry, find?]

theorem find?_eq_none_iff (configuration : Configuration) (name : String) :
    configuration.find? name = none ↔ name ∉ configuration.names :=
  Members.get?_eq_none_iff configuration.sections name

/-- A section decodes as the document that it is. -/
theorem decode_of_find? {α : Type} {configuration : Configuration} {name : String}
    {settings : Settings} (found : configuration.find? name = some settings)
    (value : Json → Decoded α) :
    configuration.decode value name = (value settings.toJson).mapError (.deserialize name) := by
  rw [decode, found]

theorem decode_of_absent {α : Type} {configuration : Configuration} {name : String}
    (absent : configuration.find? name = none) (value : Json → Decoded α) :
    configuration.decode value name = .error (.unknownSection name) := by
  rw [decode, absent]

theorem names_of_configure {validator : Validator} {schema : RootSchema}
    {configuration : Configuration}
    (resolved : (validator.configure schema).result = .ok configuration) :
    configuration.names = schema.properties.map SchemaNode.name := by
  rw [names, (Validator.sections_of_configure resolved).2, List.map_map]
  rfl

/-- **All views agree.** The entries handed to a writer, collected with the last of each name, are
the document, section by section for a configuration, and as many are announced as are handed over.
If no two properties of a section have one name, a lookup in its settings and one in their document
find the same, and exactly the declared names are listed. If no two sections have one name, each is
found in the document of the configuration as the document that it is, decodes to that as a
document, and is unknown exactly if it is not listed. -/
theorem views_agree :
    (∀ settings : Settings,
      settings.emission.collected id = settings.toJson ∧ settings.emission.KeepsCount) ∧
    (∀ configuration : Configuration,
      configuration.emission.collected (Emission.collected id) = configuration.toJson ∧
        configuration.emission.KeepsCount ∧
        ∀ entry ∈ configuration.emission.entries, entry.2.KeepsCount) ∧
    (∀ (node : SchemaNode) (section' : Option Json),
      (node.properties.map SchemaNode.name).Nodup → ∀ name,
        (node.materialize section').get? name =
          (node.materialize section').toJson.member? name ∧
        ((node.materialize section').declares name = true ↔
          name ∈ node.properties.map SchemaNode.name)) ∧
    ∀ (validator : Validator) (schema : RootSchema) (configuration : Configuration),
      (schema.properties.map SchemaNode.name).Nodup →
      (validator.configure schema).result = .ok configuration → ∀ name,
        (configuration.find? name).map Settings.toJson = configuration.toJson.member? name ∧
        (name ∈ configuration.names → ∃ value, configuration.toJson.member? name = some value ∧
          configuration.decode .ok name = .ok value) ∧
        (configuration.decode .ok name = .error (.unknownSection name) ↔
          name ∉ configuration.names) := by
  refine ⟨?_, ?_, ?_, ?_⟩
  · intro settings
    exact ⟨settings.collected_emission, settings.keepsCount_emission⟩
  · intro configuration
    exact ⟨configuration.collected_emission, configuration.keepsCount_emission⟩
  · intro node section' nodup name
    have listed := node.entries_materialize section'
    refine ⟨?_, ?_⟩
    · rw [Settings.member?_toJson (by rwa [listed])]
    · rw [Settings.declares_iff, listed]
  · intro validator schema configuration nodup resolved name
    have nodup' : configuration.names.Nodup := by rwa [names_of_configure resolved]
    have document := member?_toJson nodup' name
    cases found : configuration.find? name with
    | none =>
      have unlisted := (configuration.find?_eq_none_iff name).1 found
      rw [found] at document
      refine ⟨document.symm, fun listed => absurd listed unlisted, ?_⟩
      exact iff_of_true (decode_of_absent found .ok) unlisted
    | some settings =>
      have listed : name ∈ configuration.names := by
        by_contra unlisted
        rw [(configuration.find?_eq_none_iff name).2 unlisted] at found
        cases found
      have decoded : configuration.decode .ok name = .ok settings.toJson :=
        decode_of_find? found .ok
      rw [found] at document
      refine ⟨document.symm, fun _ => ⟨settings.toJson, document, decoded⟩, ?_⟩
      refine iff_of_false (fun unknown => ?_) (fun unlisted => unlisted listed)
      rw [decoded] at unknown
      cases unknown

/-- A section with a port that is declared once for each of some defaults, and with a host. -/
def portNode (defaults : List String) : SchemaNode :=
  .object { name := "app" }
    (defaults.map
        (fun default => .string { name := "port", presence := .optional (some default) } {})
      ++ [.string { name := "host" } {}])

/-- With a repeated name the lookup and the document differ, and what is handed over still makes the
document. -/
theorem views_agree_ports :
    let repeated := (portNode ["80", "90"]).materialize none
    let schema : RootSchema := { properties := [portNode ["80"], .object { name := "log" } []] }
    repeated.emission.entries = [("port", .string "80"), ("port", .string "90")] ∧
      repeated.get? "port" = some (.string "80") ∧
      repeated.toJson = .object [("port", .string "90")] ∧
      repeated.emission.collected id = repeated.toJson ∧ repeated.emission.announced = 2 ∧
      ((portNode ["80"]).properties.map SchemaNode.name).Nodup ∧
      ((portNode ["80"]).materialize none).get? "port" =
        ((portNode ["80"]).materialize none).toJson.member? "port" ∧
      ((portNode ["80"]).materialize none).declares "host" = true ∧
      (schema.properties.map SchemaNode.name).Nodup ∧
      ∃ configuration, (Validator.configure ⟨.null⟩ schema).result = .ok configuration ∧
        (configuration.find? "app").map Settings.toJson = configuration.toJson.member? "app" ∧
        configuration.decode .ok "app" = .ok (.object [("port", .string "80")]) ∧
        configuration.decode .ok "web" = .error (.unknownSection "web") := by
  intro repeated schema
  obtain ⟨anySettings, -, uniqueSettings, uniqueSections⟩ := views_agree
  obtain ⟨collected, count⟩ := anySettings repeated
  have nodup : ((portNode ["80"]).properties.map SchemaNode.name).Nodup := by decide
  have nodup' : (schema.properties.map SchemaNode.name).Nodup := by decide
  obtain ⟨samePort, -⟩ := uniqueSettings (portNode ["80"]) none nodup "port"
  obtain ⟨-, declared⟩ := uniqueSettings (portNode ["80"]) none nodup "host"
  obtain ⟨configuration, resolved⟩ : ∃ configuration,
      (Validator.configure ⟨.null⟩ schema).result = .ok configuration := ⟨_, rfl⟩
  obtain ⟨sameApp, decodedApp, -⟩ :=
    uniqueSections ⟨.null⟩ schema configuration nodup' resolved "app"
  obtain ⟨-, -, unknown⟩ := uniqueSections ⟨.null⟩ schema configuration nodup' resolved "web"
  cases resolved
  obtain ⟨value, found, decoded⟩ := decodedApp (by decide)
  cases found
  exact ⟨rfl, rfl, rfl, collected, count, nodup, samePort, declared.2 (by decide), nodup', _, rfl,
    sameApp, decoded, unknown.2 (by decide)⟩

end Configuration

end ConfigSchema
