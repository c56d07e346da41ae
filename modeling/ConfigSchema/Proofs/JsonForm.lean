import ConfigSchema.Proofs.Conversion

/-! # What has a JSON form (`yaml_to_json`)

What is reported is the first part in document order that has no JSON form, at the place that the
keys and positions above it lead to (`Yaml.failsWith_toJson`). A value that has the structure of a
JSON document, with any tags and its members in any order, becomes this document
(`Yaml.Mirrors.toJson_eq`). -/
namespace ConfigSchema

namespace Yaml

/-! ## Parts -/

/-- A part of a document: a value, or a key of a mapping. -/
inductive Part
  | value (value : Yaml)
  | key (key : Yaml)

/-- A part has no JSON form: a number that is not finite, a key that is null, a sequence, a mapping
or tagged. Such a number may well be a key. -/
inductive Part.Faulty : Part → Prop
  | infinite (negative : Bool) : Faulty (value (number (.double (.infinite negative))))
  | nan : Faulty (value (number (.double .nan)))
  | nullKey : Faulty (key null)
  | sequenceKey (items : List Yaml) : Faulty (key (sequence items))
  | mappingKey (entries : List (Yaml × Yaml)) : Faulty (key (mapping entries))
  | taggedKey (tag : String) (inner : Yaml) : Faulty (key (tagged tag inner))

/-- What is reported of a part at a place. -/
def Part.fault? (place : String) : Part → Option YamlFault
  | value (number (.double (.infinite negative))) =>
    some (.number (.double (.infinite negative)) place)
  | value (number (.double .nan)) => some (.number (.double .nan) place)
  | value _ => none
  | key null => some (.key null.shown place)
  | key (sequence items) => some (.key (sequence items).shown place)
  | key (mapping entries) => some (.key (mapping entries).shown place)
  | key (tagged tag inner) => some (.key (tagged tag inner).shown place)
  | key _ => none

/-- Exactly the parts without a JSON form are reported, wherever they stand. -/
theorem Part.faulty_iff (part : Part) (place : String) :
    part.Faulty ↔ ∃ fault, part.fault? place = some fault := by
  constructor
  · rintro (_ | _) <;> exact ⟨_, rfl⟩
  · rintro ⟨fault, reported⟩
    cases part with
    | key key =>
      cases key with
      | null => exact .nullKey
      | sequence items => exact .sequenceKey items
      | mapping entries => exact .mappingKey entries
      | tagged tag inner => exact .taggedKey tag inner
      | bool | number | string => cases reported
    | value value =>
      cases value with
      | number value =>
        cases value with
        | integer n => cases reported
        | double x =>
          cases x with
          | finite x => cases reported
          | infinite negative => exact .infinite negative
          | nan => exact .nan
      | null | bool | string | sequence | mapping | tagged => cases reported

/-- A part and the keys and positions that lead to it. A key stands where its mapping stands. -/
structure Spot where
  above : List String
  part : Part

namespace Spot

/-- The place of a part, in a document that has a place itself. -/
def place (top : String) (spot : Spot) : String := spot.above.foldl childPlace top

/-- What is reported of a part, in a document that has a place itself. -/
def fault? (top : String) (spot : Spot) : Option YamlFault := spot.part.fault? (spot.place top)

def below (name : String) (spot : Spot) : Spot := { spot with above := name :: spot.above }

end Spot

mutual

/-- The parts of a value in document order: the value, then its items, or each of its keys with the
value after it. Below a key that has no text there is no place, and none is ever asked for. -/
def spots : Yaml → List Spot
  | sequence items => ⟨[], .value (sequence items)⟩ :: spotsOfItems 0 items
  | mapping entries => ⟨[], .value (mapping entries)⟩ :: spotsOfEntries entries
  | tagged tag value => ⟨[], .value (tagged tag value)⟩ :: value.spots
  | null => [⟨[], .value null⟩]
  | bool value => [⟨[], .value (bool value)⟩]
  | number value => [⟨[], .value (number value)⟩]
  | string value => [⟨[], .value (string value)⟩]

def spotsOfItems (position : Nat) : List Yaml → List Spot
  | [] => []
  | item :: rest => item.spots.map (Spot.below (toString position))
      ++ spotsOfItems (position + 1) rest

def spotsOfEntries : List (Yaml × Yaml) → List Spot
  | [] => []
  | (key, value) :: rest => ⟨[], .key key⟩ :: value.spots.map (Spot.below (key.keyText?.getD ""))
      ++ spotsOfEntries rest

end

/-! ## Failing at the first fault -/

/-- A result is an error exactly if there is a first fault, and is this fault then. -/
def FailsWith {α : Type} (result : Except YamlFault α) (first : Option YamlFault) : Prop :=
  ∀ fault, result = .error fault ↔ first = some fault

namespace FailsWith

variable {α β : Type}

theorem ok (value : α) : FailsWith (.ok value) none := by
  intro fault
  simp

theorem error (fault : YamlFault) : FailsWith (.error fault : Except YamlFault α) (some fault) := by
  intro other
  simp

/-- A second step is only taken if the first one does not fail. -/
theorem bind {result : Except YamlFault α} {next : α → Except YamlFault β}
    {first second : Option YamlFault} (own : FailsWith result first)
    (later : ∀ value, result = .ok value → FailsWith (next value) second) :
    FailsWith (result >>= next) (first.or second) := by
  cases result with
  | error fault =>
    rw [(own fault).1 rfl]
    exact error fault
  | ok value =>
    cases first with
    | some fault => cases (own fault).2 rfl
    | none => exact later value rfl

theorem map {result : Except YamlFault α} {first : Option YamlFault} (own : FailsWith result first)
    (f : α → β) : FailsWith (do return f (← result)) first := by
  have both := own.bind fun value _ => ok (f value)
  rwa [Option.or_none] at both

/-- What fails with the first fault among parts fails exactly if one of them is faulty. -/
theorem exists_iff {result : Except YamlFault α} {spots : List Spot} {top : String}
    (fails : FailsWith result (spots.findSome? (Spot.fault? top))) :
    (∃ fault, result = .error fault) ↔ ∃ spot ∈ spots, spot.part.Faulty := by
  unfold FailsWith at fails
  simp only [fails, ← Option.isSome_iff_exists, List.findSome?_isSome_iff]
  refine exists_congr fun spot => and_congr_right fun _ => ?_
  rw [Spot.fault?, Part.faulty_iff _ (spot.place top), Option.isSome_iff_exists]

end FailsWith

/-- Seen from further up, parts are reported at longer places. -/
theorem findSome?_below (top name : String) (spots : List Spot) :
    (spots.map (Spot.below name)).findSome? (Spot.fault? top) =
      spots.findSome? (Spot.fault? (childPlace top name)) := by
  rw [List.findSome?_map]
  rfl

/-- A key is at fault exactly if it has no text. -/
theorem Part.fault?_key (place : String) (key : Yaml) :
    (Part.key key).fault? place =
      match key.keyText? with
      | none => some (.key key.shown place)
      | some _ => none := by
  cases key <;> rfl

theorem failsWith_items {items : List Yaml}
    (each : ∀ item ∈ items, ∀ place,
      FailsWith (item.toJson place) (item.spots.findSome? (Spot.fault? place)))
    (place : String) (position : Nat) :
    FailsWith (itemsToJson place position items)
      ((spotsOfItems position items).findSome? (Spot.fault? place)) := by
  induction items generalizing position with
  | nil =>
    rw [itemsToJson, spotsOfItems]
    exact FailsWith.ok []
  | cons item rest ih =>
    obtain ⟨own, later⟩ := List.forall_mem_cons.1 each
    rw [itemsToJson, spotsOfItems, List.findSome?_append, findSome?_below]
    exact (own _).bind fun document _ => (ih later (position + 1)).map (document :: ·)

theorem failsWith_entries {entries : List (Yaml × Yaml)}
    (each : ∀ entry ∈ entries, ∀ place,
      FailsWith (entry.2.toJson place) (entry.2.spots.findSome? (Spot.fault? place)))
    (place : String) (done : Members Json) :
    FailsWith (entriesToJson place entries done)
      ((spotsOfEntries entries).findSome? (Spot.fault? place)) := by
  induction entries generalizing done with
  | nil =>
    rw [entriesToJson, spotsOfEntries]
    exact FailsWith.ok done
  | cons entry rest ih =>
    obtain ⟨key, value⟩ := entry
    obtain ⟨own, later⟩ := List.forall_mem_cons.1 each
    rw [entriesToJson, spotsOfEntries, List.cons_append, List.findSome?_cons,
      List.findSome?_append, findSome?_below, Spot.fault?, Part.fault?_key]
    -- Without a text the entry ends the conversion before its value is looked at.
    cases text : key.keyText? with
    | none => exact FailsWith.error _
    | some name => exact (own _).bind fun document _ => ih later (done.insert name document)

/-- **A conversion fails with the first fault in document order.** -/
theorem failsWith_toJson (value : Yaml) (place : String) :
    FailsWith (value.toJson place) (value.spots.findSome? (Spot.fault? place)) := by
  induction value using Yaml.induction generalizing place with
  | null => exact FailsWith.ok Json.null
  | bool value => exact FailsWith.ok (Json.bool value)
  | string value => exact FailsWith.ok (Json.string value)
  | number value =>
    rw [toJson, spots]
    cases value with
    | integer n => exact FailsWith.ok _
    | double x =>
      cases x with
      | finite x => exact FailsWith.ok _
      | infinite negative => exact FailsWith.error _
      | nan => exact FailsWith.error _
  | sequence items ih =>
    rw [toJson, spots, List.findSome?_cons]
    exact (failsWith_items ih place 0).map Json.array
  | mapping entries ih =>
    rw [toJson, spots, List.findSome?_cons]
    exact (failsWith_entries ih place []).map Json.object
  | tagged tag value ih =>
    rw [toJson, spots, List.findSome?_cons]
    exact ih place

/-! ## Documents written as YAML -/

/-- A value has the structure of a document: the same scalars, integers as integers and doubles as
doubles, items in order and members in any order under their names. Any value in it may be tagged.
-/
inductive Mirrors : Yaml → Json → Prop
  | null : Mirrors null .null
  | bool (value : Bool) : Mirrors (bool value) (.bool value)
  | integer (n : Integer64) : Mirrors (number (.integer n)) (.number (.integer n))
  | double (x : Double) : Mirrors (number (.double (.finite x))) (.number (.double x))
  | string (value : String) : Mirrors (string value) (.string value)
  | sequence {items : List Yaml} {documents : List Json}
    (each : List.Forall₂ Mirrors items documents) : Mirrors (sequence items) (.array documents)
  | mapping {entries : List (Yaml × Yaml)} {written members : Members Json}
    (keys : entries.map Prod.fst = written.map fun member => string member.1)
    (each : List.Forall₂ Mirrors (entries.map Prod.snd) (written.map Prod.snd))
    (order : written.Perm members) : Mirrors (mapping entries) (.object members)
  | tagged (tag : String) {value : Yaml} {document : Json} (inner : Mirrors value document) :
    Mirrors (tagged tag value) document

/-- Items that become documents one by one become the list of them. -/
theorem itemsToJson_of_forall₂ {items : List Yaml} {documents : List Json}
    (each : List.Forall₂ (fun item document => ∀ place, item.toJson place = .ok document)
      items documents) (place : String) (position : Nat) :
    itemsToJson place position items = .ok documents := by
  induction each generalizing position with
  | nil => rw [itemsToJson]
  | cons own _ ih =>
    rw [itemsToJson, own, ih]
    rfl

/-- Values under text keys become members under these texts. -/
theorem forall₂_entryBecomes {entries : List (Yaml × Yaml)} {written : Members Json}
    (keys : entries.map Prod.fst = written.map fun member => string member.1)
    (each : List.Forall₂ (fun value document => ∀ place, value.toJson place = .ok document)
      (entries.map Prod.snd) (written.map Prod.snd)) (place : String) :
    List.Forall₂ (EntryBecomes place) entries written := by
  induction entries generalizing written with
  | nil =>
    obtain rfl := List.map_eq_nil_iff.1 keys.symm
    exact .nil
  | cons entry rest ih =>
    cases written with
    | nil => cases keys
    | cons member written =>
      obtain ⟨key, keysLater⟩ := List.cons.inj keys
      obtain ⟨own, later⟩ := List.forall₂_cons.1 each
      refine .cons ⟨?_, own _⟩ (ih keysLater later)
      rw [key]
      rfl

/-- Where mirroring is enough for each value, it is enough for all of them. -/
theorem Mirrors.forall₂_toJson {values : List Yaml} {documents : List Json}
    (each : List.Forall₂ Mirrors values documents)
    (reads : ∀ value ∈ values, ∀ {document : Json}, value.Mirrors document →
      document.IsCanonical → ∀ place, value.toJson place = .ok document)
    (canonical : ∀ document ∈ documents, document.IsCanonical) :
    List.Forall₂ (fun value document => ∀ place, value.toJson place = .ok document)
      values documents := by
  have all := (List.forall₂_and_left values documents).2 ⟨reads, each⟩
  exact (forall₂_and_right_iff.2 ⟨all, canonical⟩).imp
    fun value document ⟨⟨reads, mirrors⟩, canonical⟩ => reads mirrors canonical

/-- **What is written as YAML is read back.** -/
theorem Mirrors.toJson_eq {value : Yaml} {document : Json} (mirrors : value.Mirrors document)
    (canonical : document.IsCanonical) (place : String) : value.toJson place = .ok document := by
  induction value using Yaml.induction generalizing document place with
  | null =>
    cases mirrors
    rfl
  | bool value =>
    cases mirrors
    rfl
  | string value =>
    cases mirrors
    rfl
  | number value =>
    cases mirrors with
    | integer n => rfl
    | double x => rfl
  | sequence items ih =>
    cases mirrors with
    | sequence each =>
      have all := forall₂_toJson each ih (Json.isCanonical_array.1 canonical)
      rw [toJson, itemsToJson_of_forall₂ all place 0]
      rfl
  | mapping entries ih =>
    cases mirrors with
    | @mapping _ written members keys each order =>
      obtain ⟨ascending, below⟩ := Json.isCanonical_object.1 canonical
      have reads : ∀ value ∈ entries.map Prod.snd, ∀ {document : Json}, value.Mirrors document →
          document.IsCanonical → ∀ place, value.toJson place = .ok document := by
        intro value mem
        obtain ⟨entry, there, rfl⟩ := List.mem_map.1 mem
        exact ih entry there
      have canonicalBelow : ∀ document ∈ written.map Prod.snd, document.IsCanonical := by
        intro document mem
        obtain ⟨member, there, rfl⟩ := List.mem_map.1 mem
        exact below member (order.mem_iff.1 there)
      have all := forall₂_entryBecomes keys (forall₂_toJson each reads canonicalBelow) place
      have nodup : (written.map Prod.fst).Nodup :=
        (order.map Prod.fst).nodup_iff.2 ascending.nodup
      refine toJson_mapping_eq_ok_iff.2 ⟨written, all, ?_⟩
      rw [Members.sorted_perm order nodup, Members.sorted_of_ascending ascending]
  | tagged tag value ih =>
    cases mirrors with
    | tagged _ inner =>
      rw [toJson]
      exact ih inner canonical place

/-- **Converting fails exactly on what has no JSON form, and is faithful otherwise.** What is
reported is the first part without a JSON form: a key before the value under it and at the place of
the mapping. A document written as YAML, with or without tags, becomes this document. -/
theorem toJson_faithful :
    (∀ value : Yaml, (∃ fault, value.toJson "" = .error fault) ↔
      ∃ spot ∈ value.spots, spot.part.Faulty) ∧
    (∀ (value : Yaml) (fault : YamlFault), value.toJson "" = .error fault →
      ∃ before spot after, value.spots = before ++ spot :: after ∧
        (∀ earlier ∈ before, ¬ earlier.part.Faulty) ∧
          spot.part.fault? (spot.place "") = some fault) ∧
    ∀ (value : Yaml) (document : Json), value.Mirrors document → document.IsCanonical →
      value.toJson "" = .ok document := by
  refine ⟨fun value => (failsWith_toJson value "").exists_iff, fun value fault failed => ?_,
    fun value document mirrors canonical => mirrors.toJson_eq canonical ""⟩
  have first := (failsWith_toJson value "" fault).1 failed
  obtain ⟨before, spot, after, split, reported, none⟩ := List.findSome?_eq_some_iff.1 first
  refine ⟨before, spot, after, split, fun earlier mem => ?_, reported⟩
  rw [Part.faulty_iff _ (earlier.place ""), ← Option.isSome_iff_exists,
    Option.not_isSome_iff_eq_none]
  exact none earlier mem

/-- A mapping in which a number that is not finite is a key, a key is null and a value is not
finite, in this order. -/
def nullKey : Yaml :=
  mapping [(string "limits", sequence [bool true, tagged "!t" (mapping
    [(number (.double .nan), null), (null, number (.double .nan))])])]

/-- The greatest integer and a double zero, under tags and with their names in descending order. -/
def taggedLimits : Yaml :=
  tagged "!t" (mapping
    [(string "max", tagged "!u" (number (.integer (.ofUInt64 0xFFFFFFFFFFFFFFFF)))),
      (string "least", number (.double (.finite (.zero true))))])

/-- The same numbers as a document. -/
def limits : Json :=
  .object [("least", .number (.double (.zero true))), ("max", .ofUInt64 0xFFFFFFFFFFFFFFFF)]

theorem taggedLimits_mirrors : taggedLimits.Mirrors limits := by
  have order : List.Perm
      ([("max", .ofUInt64 0xFFFFFFFFFFFFFFFF), ("least", .number (.double (.zero true)))] :
        Members Json)
      [("least", .number (.double (.zero true))), ("max", .ofUInt64 0xFFFFFFFFFFFFFFFF)] :=
    .swap _ _ _
  refine .tagged "!t" (.mapping ?_ ?_ order)
  · rfl
  · exact .cons (.tagged "!u" (.integer _)) (.cons (.double _) .nil)

theorem toJson_faithful_limits :
    nullKey.toJson "" = .error (.key "Null" "limits.1") ∧
      (∃ before spot after, nullKey.spots = before ++ spot :: after ∧
        (∀ earlier ∈ before, ¬ earlier.part.Faulty) ∧
          spot.part.fault? (spot.place "") = some (.key "Null" "limits.1")) ∧
      taggedLimits.Mirrors limits ∧ limits.IsCanonical ∧ taggedLimits.toJson "" = .ok limits := by
  have canonical : limits.IsCanonical := by decide
  exact ⟨rfl, toJson_faithful.2.1 nullKey _ rfl, taggedLimits_mirrors, canonical,
    toJson_faithful.2.2 taggedLimits limits taggedLimits_mirrors canonical⟩

end Yaml

end ConfigSchema
