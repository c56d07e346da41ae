import ConfigSchema.Proofs.Canonical
import ConfigSchema.Proofs.Decoding
import ConfigSchema.Yaml.Json
import Mathlib.Data.List.Nodup

/-! # What a YAML document becomes (`yaml_to_json`)

Keys that differ can have one text, as `1` and `"1"` do, and then only the last of their entries is
kept by `yaml_to_json`. So a document keeps all its entries exactly if in every mapping of it the
texts of the keys are different (`Yaml.toJson_keeps`). -/
namespace ConfigSchema

/-! ## Items and entries -/

/-- Related lists are related position by position. -/
theorem forall₂_getElem? {α β : Type} {R : α → β → Prop} {items : List α} {values : List β}
    (all : List.Forall₂ R items values) {position : Nat} {item : α} {value : β}
    (here : items[position]? = some item) (here' : values[position]? = some value) :
    R item value := by
  obtain ⟨bound, rfl⟩ := List.getElem?_eq_some_iff.1 here
  obtain ⟨bound', rfl⟩ := List.getElem?_eq_some_iff.1 here'
  exact all.get bound bound'

theorem itemsToJson_eq_ok_iff {place : String} {position : Nat} {items : List Yaml}
    {documents : List Json} :
    itemsToJson place position items = .ok documents ↔
      List.Forall₂ (fun item document =>
        item.1.toJson (childPlace place (toString item.2)) = .ok document)
          (items.zipIdx position) documents := by
  induction items generalizing position documents with
  | nil => simp [itemsToJson, eq_comm]
  | cons item rest ih =>
    rw [itemsToJson, List.zipIdx_cons, List.forall₂_cons_left_iff]
    simp only [bind_eq_ok_iff, pure_eq_ok_iff, ih]
    constructor
    · rintro ⟨document, own, documents, later, rfl⟩
      exact ⟨document, documents, own, later, rfl⟩
    · rintro ⟨document, documents, own, later, rfl⟩
      exact ⟨document, own, documents, later, rfl⟩

/-- A member is what an entry becomes: the text of its key and its converted value. -/
def EntryBecomes (place : String) (entry : Yaml × Yaml) (member : String × Json) : Prop :=
  entry.1.keyText? = some member.1 ∧ entry.2.toJson (childPlace place member.1) = .ok member.2

theorem entriesToJson_eq_ok_iff {place : String} {entries : List (Yaml × Yaml)}
    {done members : Members Json} :
    entriesToJson place entries done = .ok members ↔
      ∃ converted : Members Json, List.Forall₂ (EntryBecomes place) entries converted ∧
        members = converted.foldl (fun done member => done.insert member.1 member.2) done := by
  induction entries generalizing done with
  | nil => simp [entriesToJson, eq_comm]
  | cons entry rest ih =>
    obtain ⟨key, value⟩ := entry
    rw [entriesToJson]
    simp only [List.forall₂_cons_left_iff, EntryBecomes]
    cases text : key.keyText? with
    | none => simp
    | some name =>
      simp only [bind_eq_ok_iff, ih]
      constructor
      · rintro ⟨document, own, converted, later, rfl⟩
        exact ⟨_, ⟨(name, document), converted, ⟨rfl, own⟩, later, rfl⟩, rfl⟩
      · rintro ⟨_, ⟨⟨_, document⟩, converted, ⟨⟨⟩, own⟩, later, rfl⟩, rfl⟩
        exact ⟨document, own, converted, later, rfl⟩

theorem Yaml.toJson_sequence_eq_ok_iff {place : String} {items : List Yaml} {document : Json} :
    (sequence items).toJson place = .ok document ↔
      ∃ documents, itemsToJson place 0 items = .ok documents ∧ document = .array documents := by
  rw [toJson]
  simp only [bind_eq_ok_iff, pure_eq_ok_iff]
  exact exists_congr fun _ => and_congr_right fun _ => eq_comm

theorem Yaml.toJson_mapping_eq_ok_iff {place : String} {entries : List (Yaml × Yaml)}
    {document : Json} :
    (mapping entries).toJson place = .ok document ↔
      ∃ converted : Members Json, List.Forall₂ (EntryBecomes place) entries converted ∧
        document = .object converted.sorted := by
  rw [toJson]
  simp only [bind_eq_ok_iff, pure_eq_ok_iff, entriesToJson_eq_ok_iff]
  constructor
  · rintro ⟨_, ⟨converted, all, rfl⟩, rfl⟩
    exact ⟨converted, all, rfl⟩
  · rintro ⟨converted, all, rfl⟩
    exact ⟨_, ⟨converted, all, rfl⟩, rfl⟩

/-! ## Entries under one text -/

/-- The entries that are heeded where the keys of some have one text: the last of each. -/
abbrev lastEntries (entries : List (Yaml × Yaml)) : List (Yaml × Yaml) :=
  lastOfEach (fun entry => entry.1.keyText?) entries

/-- The last entries become the last members. -/
theorem forall₂_lastEntries {place : String} {entries : List (Yaml × Yaml)}
    {converted : Members Json} (all : List.Forall₂ (EntryBecomes place) entries converted) :
    List.Forall₂ (EntryBecomes place) (lastEntries entries) (lastOfEach Prod.fst converted) := by
  have texts : entries.map (fun entry => entry.1.keyText?) =
      (converted.map Prod.fst).map some := by
    induction all with
    | nil => rfl
    | cons own _ ih => rw [List.map_cons, ih, own.1, List.map_cons, List.map_cons]
  induction all with
  | nil => exact .nil
  | @cons entry member rest converted own _ ih =>
    obtain ⟨-, textsRest⟩ := List.cons.inj texts
    have again_iff : entry.1.keyText? ∈ rest.map (fun entry => entry.1.keyText?) ↔
        member.1 ∈ converted.map Prod.fst := by
      rw [textsRest, own.1, List.mem_map]
      simp
    by_cases again : member.1 ∈ converted.map Prod.fst
    · rw [lastEntries, lastOfEach, if_pos (again_iff.2 again), lastOfEach, if_pos again]
      exact ih textsRest
    · rw [lastEntries, lastOfEach, if_neg (mt again_iff.1 again), lastOfEach, if_neg again]
      exact .cons own (ih textsRest)

/-- Sorting keeps the last member of each name and no other. -/
theorem Members.sorted_perm_lastOfEach {α : Type} (members : Members α) :
    members.sorted.Perm (lastOfEach Prod.fst members) := by
  have nodup := (ascending_sorted members).nodup
  have once := List.Nodup.of_map Prod.fst nodup
  have onceLast := List.Nodup.of_map Prod.fst (nodup_lastOfEach Prod.fst members)
  refine (List.perm_ext_iff_of_nodup once onceLast).2 ?_
  rintro ⟨key, entry⟩
  rw [mem_lastOfEach_iff, ← get?_sorted]
  exact ⟨get?_of_mem nodup, mem_of_get?⟩

namespace Yaml

/-! ## What is kept -/

/-- A document keeps a value. Of the entries of a mapping those that are heeded are kept, and
nothing else is: the object has one member for each of them, under the text of its key, and this
member keeps the value of the entry. -/
inductive Keeps (heeded : List (Yaml × Yaml) → List (Yaml × Yaml)) : Yaml → Json → Prop
  | null : Keeps heeded .null .null
  | bool (value : Bool) : Keeps heeded (.bool value) (.bool value)
  | number {value : YamlNumber} {number : Number} (finite : value.toNumber? = some number) :
    Keeps heeded (.number value) (.number number)
  | string (value : String) : Keeps heeded (.string value) (.string value)
  | sequence {items : List Yaml} {documents : List Json} (size : documents.length = items.length)
    (each : ∀ (position : Nat) item document, items[position]? = some item →
      documents[position]? = some document → Keeps heeded item document) :
    Keeps heeded (.sequence items) (.array documents)
  | mapping {entries : List (Yaml × Yaml)} {members : Members Json}
    (once : (members.map Prod.fst).Nodup) (size : members.length = (heeded entries).length)
    (found : ∀ entry ∈ heeded entries, ∃ text, entry.1.keyText? = some text ∧
      members.has text = true)
    (each : ∀ entry ∈ heeded entries, ∀ text document, entry.1.keyText? = some text →
      members.get? text = some document → Keeps heeded entry.2 document) :
    Keeps heeded (.mapping entries) (.object members)
  | tagged {tag : String} {value : Yaml} {document : Json} (inner : Keeps heeded value document) :
    Keeps heeded (.tagged tag value) document

theorem sizeOf_item_lt {items : List Yaml} {item : Yaml} (mem : item ∈ items) :
    sizeOf item < sizeOf (sequence items) := by
  have smaller := List.sizeOf_lt_of_mem mem
  simp only [sequence.sizeOf_spec]
  omega

theorem sizeOf_value_lt {entries : List (Yaml × Yaml)} {entry : Yaml × Yaml}
    (mem : entry ∈ entries) : sizeOf entry.2 < sizeOf (mapping entries) := by
  have smaller := List.sizeOf_lt_of_mem mem
  have part : sizeOf entry.2 < sizeOf entry := by
    obtain ⟨key, value⟩ := entry
    simp only [Prod.mk.sizeOf_spec]
    omega
  simp only [mapping.sizeOf_spec]
  omega

/-- Items, values of entries and tagged values are parts; keys are none. -/
@[elab_as_elim]
theorem induction {motive : Yaml → Prop} (null : motive null) (bool : ∀ value, motive (bool value))
    (number : ∀ value, motive (number value)) (string : ∀ value, motive (string value))
    (sequence : ∀ items, (∀ item ∈ items, motive item) → motive (sequence items))
    (mapping : ∀ entries : List (Yaml × Yaml), (∀ entry ∈ entries, motive entry.2) →
      motive (mapping entries))
    (tagged : ∀ tag value, motive value → motive (tagged tag value)) : ∀ value, motive value
  | .null => null
  | .bool value => bool value
  | .number value => number value
  | .string value => string value
  | .sequence items =>
    sequence items fun item _ => induction null bool number string sequence mapping tagged item
  | .mapping entries =>
    mapping entries fun entry _ => induction null bool number string sequence mapping tagged entry.2
  | .tagged tag value =>
    tagged tag value (induction null bool number string sequence mapping tagged value)
termination_by value => sizeOf value
decreasing_by
  · exact sizeOf_item_lt ‹_›
  · exact sizeOf_value_lt ‹_›
  · simp only [Yaml.tagged.sizeOf_spec]
    omega

/-- **Converting keeps of the entries under one text the last.** -/
theorem keeps_lastEntries {place : String} {value : Yaml} {document : Json}
    (converted : value.toJson place = .ok document) : value.Keeps lastEntries document := by
  induction value using Yaml.induction generalizing place document with
  | null =>
    rw [toJson] at converted
    cases converted
    exact .null
  | bool value =>
    rw [toJson] at converted
    cases converted
    exact .bool value
  | number value =>
    rw [toJson] at converted
    split at converted
    · rename_i number finite
      cases converted
      exact .number finite
    · cases converted
  | string value =>
    rw [toJson] at converted
    cases converted
    exact .string value
  | sequence items ih =>
    obtain ⟨documents, read, rfl⟩ := toJson_sequence_eq_ok_iff.1 converted
    have all := itemsToJson_eq_ok_iff.1 read
    refine .sequence ?_ ?_
    · rw [← all.length_eq, List.length_zipIdx]
    · intro position item document here here'
      have at_position : (items.zipIdx 0)[position]? = some (item, position) := by
        simp [List.getElem?_zipIdx, here]
      exact ih item (List.mem_of_getElem? here) (forall₂_getElem? all at_position here')
  | mapping entries ih =>
    obtain ⟨members, all, rfl⟩ := toJson_mapping_eq_ok_iff.1 converted
    have last := forall₂_lastEntries all
    have order := members.sorted_perm_lastOfEach
    have nodup := (Members.ascending_sorted members).nodup
    have becomes : ∀ entry ∈ lastEntries entries, ∃ member : String × Json,
        EntryBecomes place entry member ∧ members.sorted.get? member.1 = some member.2 := by
      intro entry mem
      obtain ⟨member, member_mem, own⟩ := exists_mem_of_forall₂ last.flip mem
      exact ⟨member, own, Members.get?_of_mem nodup (order.mem_iff.2 member_mem)⟩
    refine .mapping nodup ?_ ?_ ?_
    · rw [order.length_eq, last.length_eq]
    · intro entry mem
      obtain ⟨member, ⟨text, -⟩, found⟩ := becomes entry mem
      exact ⟨member.1, text, by rw [Members.has_eq_isSome, found]; rfl⟩
    · intro entry mem text document text_eq found
      obtain ⟨member, ⟨member_text, read⟩, member_found⟩ := becomes entry mem
      obtain rfl := Option.some.inj (member_text.symm.trans text_eq)
      obtain rfl := Option.some.inj (member_found.symm.trans found)
      exact ih entry ((lastOfEach_sublist _ entries).subset mem) read
  | tagged tag value ih =>
    rw [toJson] at converted
    exact .tagged (ih converted)

/-! ## When everything is kept -/

mutual

/-- The mappings in a value, each before those in it. -/
def mappings : Yaml → List (List (Yaml × Yaml))
  | sequence items => mappingsOfItems items
  | mapping entries => entries :: mappingsOfEntries entries
  | tagged _ value => value.mappings
  | null | bool _ | number _ | string _ => []

def mappingsOfItems : List Yaml → List (List (Yaml × Yaml))
  | [] => []
  | item :: rest => item.mappings ++ mappingsOfItems rest

def mappingsOfEntries : List (Yaml × Yaml) → List (List (Yaml × Yaml))
  | [] => []
  | (_, value) :: rest => value.mappings ++ mappingsOfEntries rest

end

theorem mappingsOfItems_eq_flatMap (items : List Yaml) :
    mappingsOfItems items = items.flatMap mappings := by
  induction items with
  | nil => simp [mappingsOfItems]
  | cons item rest ih => rw [mappingsOfItems, ih, List.flatMap_cons]

theorem mappingsOfEntries_eq_flatMap (entries : List (Yaml × Yaml)) :
    mappingsOfEntries entries = entries.flatMap fun entry => entry.2.mappings := by
  induction entries with
  | nil => simp [mappingsOfEntries]
  | cons entry rest ih => rw [mappingsOfEntries, ih, List.flatMap_cons]

/-- In every mapping the texts of the keys are different. -/
def DistinctTexts (value : Yaml) : Prop :=
  ∀ entries ∈ value.mappings, (entries.map fun entry => entry.1.keyText?).Nodup

instance (value : Yaml) : Decidable value.DistinctTexts :=
  inferInstanceAs (Decidable (∀ _ ∈ _, _))

theorem distinctTexts_sequence {items : List Yaml} :
    (sequence items).DistinctTexts ↔ ∀ item ∈ items, item.DistinctTexts := by
  simp only [DistinctTexts, mappings, mappingsOfItems_eq_flatMap, List.mem_flatMap]
  exact ⟨fun all item mem entries below => all entries ⟨item, mem, below⟩,
    fun each entries ⟨item, mem, below⟩ => each item mem entries below⟩

theorem distinctTexts_mapping {entries : List (Yaml × Yaml)} :
    (mapping entries).DistinctTexts ↔
      (entries.map fun entry => entry.1.keyText?).Nodup ∧
        ∀ entry ∈ entries, entry.2.DistinctTexts := by
  simp only [DistinctTexts, mappings, mappingsOfEntries_eq_flatMap, List.forall_mem_cons,
    List.mem_flatMap]
  exact and_congr_right fun _ =>
    ⟨fun all entry mem entries below => all entries ⟨entry, mem, below⟩,
      fun each entries ⟨entry, mem, below⟩ => each entry mem entries below⟩

theorem distinctTexts_tagged {tag : String} {value : Yaml} :
    (tagged tag value).DistinctTexts ↔ value.DistinctTexts := by
  simp only [DistinctTexts, mappings]

/-- Where all texts are different, every entry is the last of its text. -/
theorem Keeps.all {value : Yaml} {document : Json} (last : value.Keeps lastEntries document)
    (distinct : value.DistinctTexts) : value.Keeps id document := by
  induction last with
  | null => exact .null
  | bool value => exact .bool value
  | number finite => exact .number finite
  | string value => exact .string value
  | sequence size _ ih =>
    refine .sequence size fun position item document here here' => ?_
    have mem := List.mem_of_getElem? here
    exact ih position item document here here' (distinctTexts_sequence.1 distinct item mem)
  | mapping once size found _ ih =>
    obtain ⟨nodup, below⟩ := distinctTexts_mapping.1 distinct
    rw [lastEntries, lastOfEach_eq_self nodup] at size found ih
    refine .mapping once size found fun entry mem text document text_eq there => ?_
    exact ih entry mem text document text_eq there (below entry mem)
  | tagged _ ih => exact .tagged (ih (distinctTexts_tagged.1 distinct))

/-- Where an entry is not the last of its text, the object has too few members. -/
theorem Keeps.distinctTexts {value : Yaml} {document : Json}
    (last : value.Keeps lastEntries document) (all : value.Keeps id document) :
    value.DistinctTexts := by
  induction last with
  | null | bool | number | string => simp [DistinctTexts, mappings]
  | @sequence items documents size _ ih =>
    refine distinctTexts_sequence.2 fun item mem => ?_
    cases all with
    | sequence _ each =>
      obtain ⟨position, here⟩ := List.mem_iff_getElem?.1 mem
      obtain ⟨bound, -⟩ := List.getElem?_eq_some_iff.1 here
      have here' : documents[position]? = some documents[position] :=
        List.getElem?_eq_getElem (size ▸ bound)
      exact ih position item _ here here' (each position item _ here here')
  | @mapping entries members _ size _ _ ih =>
    cases all with
    | mapping _ size' found each =>
      have nodup : (entries.map fun entry => entry.1.keyText?).Nodup :=
        (length_lastOfEach_eq_iff _ entries).1 (size.symm.trans size')
      rw [lastEntries, lastOfEach_eq_self nodup] at ih
      refine distinctTexts_mapping.2 ⟨nodup, fun entry mem => ?_⟩
      obtain ⟨text, text_eq, has⟩ := found entry mem
      rw [Members.has_eq_isSome] at has
      obtain ⟨document, there⟩ := Option.isSome_iff_exists.1 has
      exact ih entry mem text document text_eq there (each entry mem text document text_eq there)
  | tagged _ ih =>
    cases all with
    | tagged inner => exact distinctTexts_tagged.2 (ih inner)

/-- **What converting keeps.** In a converted document every mapping has become an object with one
member for each text that its keys have, and under each text stands what the last entry of that text
has become. All entries are kept exactly if in every mapping the texts of the keys are different. -/
theorem toJson_keeps {place : String} {value : Yaml} {document : Json}
    (converted : value.toJson place = .ok document) :
    value.Keeps lastEntries document ∧ (value.Keeps id document ↔ value.DistinctTexts) := by
  have last := keeps_lastEntries converted
  exact ⟨last, last.distinctTexts, last.all⟩

/-! ### Counterexample: a number and its text as keys

YAML tells the keys `1` and `"1"` apart, but both have the text `1`, so of the two entries only the
second is kept. -/

/-- A sequence with a tagged mapping, of which the keys are one and a text. -/
def twoKeys (text : String) : Yaml :=
  .sequence [.tagged "!t" (.mapping
    [(.number (.integer (.ofUInt64 1)), .string "a"), (.string text, .null)])]

theorem equal_texts_lose_entry :
    (twoKeys "1").toJson "" = .ok (.array [.object [("1", .null)]]) ∧
      ¬ (twoKeys "1").Keeps id (.array [.object [("1", .null)]]) := by
  refine ⟨rfl, fun keeps => ?_⟩
  cases keeps with
  | sequence _ each =>
    cases each 0 _ _ rfl rfl with
    | tagged inner =>
      cases inner with
      | mapping _ size => exact absurd size (by decide)

theorem toJson_keeps_twoKeys :
    (twoKeys "2").toJson "" = .ok (.array [.object [("1", .string "a"), ("2", .null)]]) ∧
      (twoKeys "2").DistinctTexts ∧
      (twoKeys "2").Keeps id (.array [.object [("1", .string "a"), ("2", .null)]]) := by
  have converted : (twoKeys "2").toJson "" =
      .ok (.array [.object [("1", .string "a"), ("2", .null)]]) := rfl
  have distinct : (twoKeys "2").DistinctTexts := by decide
  exact ⟨converted, distinct, (toJson_keeps converted).2.2 distinct⟩

end Yaml

end ConfigSchema
