import ConfigSchema.Proofs.Decoding
import ConfigSchema.Schema.Reader

/-! # What the fields of a property declare

The declaration of a property, the rules of its kind and its presence do not look at one another.
What each reads as is said of the fields as they stand, whatever their order and whatever else the
property holds (`SchemaNode.ofFields_eq_ok_iff`). -/
namespace ConfigSchema

/-! ## Fields -/

theorem get?_nodeFields (members : Members Json) (key : String) :
    (nodeFields members).get? key = (members.get? key).map fun document =>
      ⟨document, if key = "properties" then propertiesOf document else .ok []⟩ := by
  induction members with
  | nil => simp [nodeFields]
  | cons member rest ih =>
    obtain ⟨name, document⟩ := member
    rw [nodeFields, Members.get?_cons, Members.get?_cons]
    by_cases h : name = key
    · simp [h]
    · simp [h, ih]

theorem names_nodeFields (members : Members Json) :
    (nodeFields members).map Prod.fst = members.map Prod.fst := by
  induction members with
  | nil => simp [nodeFields]
  | cons member rest ih => simp [nodeFields, ih]

theorem documents_nodeFields (members : Members Json) :
    ((nodeFields members).map fun (key, field) => (key, field.document)) = members := by
  induction members with
  | nil => simp [nodeFields]
  | cons member rest ih => simpa [nodeFields] using ih

section
variable {γ : Type}

theorem readField_nodeFields (members : Members Json) (key : String) (read : Json → Decoded γ)
    (absent : γ) :
    (nodeFields members).readField key (fun field => read field.document) absent =
      members.readField key read absent := by
  rw [Members.readField, Members.readField, get?_nodeFields]
  cases members.get? key <;> rfl

theorem readField_properties (members : Members Json) (absent : List SchemaNode) :
    (nodeFields members).readField "properties" NodeField.properties absent =
      members.readField "properties" propertiesOf absent := by
  rw [Members.readField, Members.readField, get?_nodeFields]
  cases members.get? "properties" <;> rfl

end

/-! ## Presence -/

namespace Presence

variable {α : Type} {value : Json → Decoded α} {members : Members Json}

theorem slot_required :
    Slot (PresenceFields.field value) "required" Json.toFlag PresenceFields.required :=
  .here (fun _ _ => rfl) (.cons (fun _ _ => rfl) .nil)

theorem slot_default :
    Slot (PresenceFields.field value) "defaultValue" (Json.toOption value)
      PresenceFields.default :=
  .there (fun _ _ => rfl) (by decide) (.here (fun _ _ => rfl) .nil)

/-- The presence that members declare. -/
theorem ofMembers_eq_ok_iff (nodup : (members.map Prod.fst).Nodup) {presence : Presence α} :
    ofMembers value members = .ok presence ↔
      ∃ fields : PresenceFields α,
        members.readField "required" Json.toFlag false = .ok fields.required ∧
        members.readField "defaultValue" (Json.toOption value) none = .ok fields.default ∧
        fields.toPresence = .ok presence := by
  have slots : Slots (PresenceFields.field value) members {} _ _ :=
    .cons slot_required <| .cons slot_default .nil
  rw [ofMembers, bind_eq_ok_iff]
  simp only [slots.decode_eq_ok_iff nodup (.cons <| .cons .nil)
    (by rintro ⟨_, _⟩ ⟨_, _⟩ ⟨_, _⟩ ⟨_, _⟩; simp_all)]
  simp only [and_true, and_assoc]

end Presence

/-! ## What every property declares -/

section
variable {ρ α : Type} {ruleField : ρ → String → NodeField → Option (Decoded ρ)}

/-- The members give a declaration. -/
structure Declaration.Given (value : Json → Decoded α) (members : Members Json)
    (node : Declaration α) : Prop where
  name : members.get? "name" = some (.string node.name)
  description :
    members.readField "description" (Json.toOption Json.toText) none = .ok node.description
  presence : Presence.ofMembers value members = .ok node.presence

/-- A draft is read in parts: name, description, and the rules of its kind by themselves. -/
theorem NodeDraft.decode_eq_ok_iff
    (foreign : ∀ rules field, ruleField rules "name" field = none ∧
      ruleField rules "description" field = none)
    {fields : Members NodeField} (nodup : (fields.map Prod.fst).Nodup) {draft final : NodeDraft ρ} :
    Json.decodeMembers (NodeDraft.field ruleField) [] draft fields = .ok final ↔
      fields.readField "name" (fun field => some <$> field.document.toText) draft.name =
        .ok final.name ∧
      fields.readField "description" (fun field => field.document.toOption Json.toText)
        draft.description = .ok final.description ∧
      Json.decodeMembers ruleField [] draft.rules fields = .ok final.rules := by
  induction fields generalizing draft with
  | nil =>
    obtain ⟨name, description, rules⟩ := draft
    obtain ⟨name', description', rules'⟩ := final
    simp [Json.decodeMembers, Members.readField]
  | cons member rest ih =>
    obtain ⟨key, field⟩ := member
    obtain ⟨fresh, nodupRest⟩ := List.nodup_cons.1 nodup
    have absent : Members.get? rest key = none := (Members.get?_eq_none_iff rest key).2 fresh
    rw [decodeMembers_cons_eq_ok_iff fresh, decodeMembers_cons_eq_ok_iff fresh]
    by_cases isName : key = "name"
    · subst isName
      rw [Members.readField_cons_self, Members.readField_cons_of_ne (by decide)]
      simp only [NodeDraft.field, if_true, bind_pure_eq_map, (foreign _ _).1, ih nodupRest,
        Option.some.injEq, reduceCtorEq, false_and, false_or, exists_false, or_false, true_and,
        map_eq_ok_iff, Members.readField_of_absent absent]
      constructor
      · rintro ⟨_, ⟨text, text_eq, rfl⟩, name_eq, others⟩
        exact ⟨⟨text, text_eq, Except.ok.inj name_eq⟩, others⟩
      · rintro ⟨⟨text, text_eq, name_eq⟩, others⟩
        exact ⟨_, ⟨text, text_eq, rfl⟩, congrArg Except.ok name_eq, others⟩
    · by_cases isDescription : key = "description"
      · subst isDescription
        rw [Members.readField_cons_self, Members.readField_cons_of_ne (by decide)]
        simp only [NodeDraft.field, if_neg isName, if_true, bind_pure_eq_map, (foreign _ _).2,
          ih nodupRest, Option.some.injEq, reduceCtorEq, false_and, false_or, exists_false,
          or_false, true_and, map_eq_ok_iff, Members.readField_of_absent absent]
        constructor
        · rintro ⟨_, ⟨text, text_eq, rfl⟩, name_eq, description_eq, rules_eq⟩
          exact ⟨name_eq, text_eq.trans description_eq, rules_eq⟩
        · rintro ⟨name_eq, text_eq, rules_eq⟩
          exact ⟨_, ⟨_, text_eq, rfl⟩, name_eq, rfl, rules_eq⟩
      · rw [Members.readField_cons_of_ne isName, Members.readField_cons_of_ne isDescription]
        simp only [NodeDraft.field, if_neg isName, if_neg isDescription, ih nodupRest,
          Option.map_eq_none_iff, Option.map_eq_some_iff, bind_pure_eq_map]
        constructor
        · rintro (⟨unknown, name_eq, description_eq, later⟩ |
            ⟨next, ⟨result, taken, result_eq⟩, name_eq, description_eq, later⟩)
          · exact ⟨name_eq, description_eq, .inl ⟨unknown, later⟩⟩
          · obtain ⟨rules, rfl, rfl⟩ := map_eq_ok_iff.1 result_eq
            exact ⟨name_eq, description_eq, .inr ⟨rules, taken, later⟩⟩
        · rintro ⟨name_eq, description_eq, ⟨unknown, later⟩ | ⟨rules, taken, later⟩⟩
          · exact .inl ⟨unknown, name_eq, description_eq, later⟩
          · exact .inr ⟨_, ⟨_, taken, rfl⟩, name_eq, description_eq, later⟩

/-- The name, the description and the presence of a property are a declaration, and the rules of its
kind stand beside it. -/
theorem NodeDraft.exists_declaration_iff
    (ruleField : ρ → String → NodeField → Option (Decoded ρ)) (rules : ρ)
    (value : Json → Decoded α)
    (foreign : ∀ rules field, ruleField rules "name" field = none ∧
      ruleField rules "description" field = none)
    {members : Members Json} (nodup : (members.map Prod.fst).Nodup)
    (P : Declaration α → ρ → Prop) :
    (∃ draft, NodeDraft.ofFields ruleField rules (nodeFields members) = .ok draft ∧
      ∃ name, Json.require "name" draft.name = .ok name ∧
        ∃ node, draft.declaration name value (nodeFields members) = .ok node ∧
          P node draft.rules) ↔
      ∃ node : Declaration α, node.Given value members ∧
        ∃ rules', Json.decodeMembers ruleField [] rules (nodeFields members) = .ok rules' ∧
          P node rules' := by
  have nodup' : ((nodeFields members).map Prod.fst).Nodup := by rwa [names_nodeFields]
  have name_iff : ∀ name : String,
      (nodeFields members).readField "name" (fun field => some <$> field.document.toText) none =
        .ok (some name) ↔ members.get? "name" = some (.string name) := by
    intro name
    rw [readField_nodeFields members "name" (fun document => some <$> document.toText)]
    cases found : members.get? "name" with
    | none => simp [Members.readField_of_absent found]
    | some document => simp [Members.readField_of_get? found, map_eq_ok_iff, Json.toText_eq_ok_iff]
  constructor
  · rintro ⟨⟨name?, description, rules'⟩, decoded, name, name_eq, node, node_eq, holds⟩
    obtain ⟨name_read, description_read, rules_read⟩ :=
      (NodeDraft.decode_eq_ok_iff foreign nodup').1 decoded
    obtain rfl := Json.require_eq_ok_iff.1 name_eq
    rw [NodeDraft.declaration, documents_nodeFields, bind_pure_eq_map, map_eq_ok_iff] at node_eq
    obtain ⟨presence, presence_eq, rfl⟩ := node_eq
    have given : Declaration.Given value members ⟨name, description, presence⟩ :=
      ⟨(name_iff name).1 name_read, by rwa [readField_nodeFields] at description_read, presence_eq⟩
    exact ⟨_, given, rules', rules_read, holds⟩
  · rintro ⟨node, given, rules', rules_read, holds⟩
    refine ⟨⟨some node.name, node.description, rules'⟩, ?_, node.name, rfl, node, ?_, holds⟩
    · refine (NodeDraft.decode_eq_ok_iff foreign nodup').2
        ⟨(name_iff node.name).2 given.name, ?_, rules_read⟩
      rw [readField_nodeFields]
      exact given.description
    · rw [NodeDraft.declaration, documents_nodeFields, given.presence]
      rfl

end

/-! ## The rules of each kind -/

section
variable {members : Members Json}

structure StringRules.Given (members : Members Json) (rules : StringRules) : Prop where
  minLength : members.readField "minLength" (Json.toOption Json.toLength) none = .ok rules.minLength
  maxLength : members.readField "maxLength" (Json.toOption Json.toLength) none = .ok rules.maxLength
  pattern : members.readField "pattern" (Json.toOption Json.toText) none = .ok rules.pattern
  examples : members.readField "examples" (Json.toList Json.toText) [] = .ok rules.examples

namespace StringRules

theorem slot_minLength :
    Slot field "minLength" (fun field => field.document.toOption Json.toLength) minLength :=
  .here (fun _ _ => rfl) <| .cons (fun _ _ => rfl) <| .cons (fun _ _ => rfl) <|
    .cons (fun _ _ => rfl) .nil

theorem slot_maxLength :
    Slot field "maxLength" (fun field => field.document.toOption Json.toLength) maxLength :=
  .there (fun _ _ => rfl) (by decide) <| .here (fun _ _ => rfl) <| .cons (fun _ _ => rfl) <|
    .cons (fun _ _ => rfl) .nil

theorem slot_pattern :
    Slot field "pattern" (fun field => field.document.toOption Json.toText) pattern :=
  .there (fun _ _ => rfl) (by decide) <| .there (fun _ _ => rfl) (by decide) <|
    .here (fun _ _ => rfl) <| .cons (fun _ _ => rfl) .nil

theorem slot_examples :
    Slot field "examples" (fun field => field.document.toList Json.toText) examples :=
  .there (fun _ _ => rfl) (by decide) <| .there (fun _ _ => rfl) (by decide) <|
    .there (fun _ _ => rfl) (by decide) <| .here (fun _ _ => rfl) .nil

theorem decode_eq_ok_iff (nodup : ((nodeFields members).map Prod.fst).Nodup)
    {rules : StringRules} :
    Json.decodeMembers field [] {} (nodeFields members) = .ok rules ↔ rules.Given members := by
  have slots : Slots field (nodeFields members) {} _ _ :=
    .cons slot_minLength <| .cons slot_maxLength <| .cons slot_pattern <| .cons slot_examples .nil
  rw [slots.decode_eq_ok_iff nodup (.cons <| .cons <| .cons <| .cons .nil)
    (by rintro ⟨_, _⟩ ⟨_, _⟩ ⟨_, _, _, _⟩ ⟨_, _, _, _⟩; simp_all)]
  simp only [readField_nodeFields]
  exact ⟨fun ⟨min, max, pattern, examples, _⟩ => ⟨min, max, pattern, examples⟩,
    fun ⟨min, max, pattern, examples⟩ => ⟨min, max, pattern, examples, trivial⟩⟩

end StringRules

structure NumberRules.Given (members : Members Json) (rules : NumberRules) : Prop where
  min : members.readField "min" (Json.toOption Json.toBound) none = .ok rules.min
  max : members.readField "max" (Json.toOption Json.toBound) none = .ok rules.max
  examples : members.readField "examples" (Json.toList Json.toNumber) [] = .ok rules.examples

namespace NumberRules

theorem slot_min : Slot field "min" (fun field => field.document.toOption Json.toBound) min :=
  .here (fun _ _ => rfl) <| .cons (fun _ _ => rfl) <| .cons (fun _ _ => rfl) .nil

theorem slot_max : Slot field "max" (fun field => field.document.toOption Json.toBound) max :=
  .there (fun _ _ => rfl) (by decide) <| .here (fun _ _ => rfl) <| .cons (fun _ _ => rfl) .nil

theorem slot_examples :
    Slot field "examples" (fun field => field.document.toList Json.toNumber) examples :=
  .there (fun _ _ => rfl) (by decide) <| .there (fun _ _ => rfl) (by decide) <|
    .here (fun _ _ => rfl) .nil

theorem decode_eq_ok_iff (nodup : ((nodeFields members).map Prod.fst).Nodup)
    {rules : NumberRules} :
    Json.decodeMembers field [] {} (nodeFields members) = .ok rules ↔ rules.Given members := by
  have slots : Slots field (nodeFields members) {} _ _ :=
    .cons slot_min <| .cons slot_max <| .cons slot_examples .nil
  rw [slots.decode_eq_ok_iff nodup (.cons <| .cons <| .cons .nil)
    (by rintro ⟨_, _⟩ ⟨_, _⟩ ⟨_, _, _⟩ ⟨_, _, _⟩; simp_all)]
  simp only [readField_nodeFields]
  exact ⟨fun ⟨min, max, examples, _⟩ => ⟨min, max, examples⟩,
    fun ⟨min, max, examples⟩ => ⟨min, max, examples, trivial⟩⟩

end NumberRules

theorem booleanField_decode_eq_ok_iff (nodup : ((nodeFields members).map Prod.fst).Nodup)
    {examples : List Bool} :
    Json.decodeMembers booleanField [] [] (nodeFields members) = .ok examples ↔
      members.readField "examples" (Json.toList Json.toFlag) [] = .ok examples := by
  have slot : Slot booleanField "examples" (fun field => field.document.toList Json.toFlag) id :=
    .sole
  have slots : Slots _ (nodeFields members) [] _ _ := .cons slot .nil
  rw [slots.decode_eq_ok_iff nodup (.cons .nil) (by simp_all)]
  simp [readField_nodeFields]

theorem objectField_decode_eq_ok_iff (nodup : ((nodeFields members).map Prod.fst).Nodup)
    {properties : List SchemaNode} :
    Json.decodeMembers objectField [] [] (nodeFields members) = .ok properties ↔
      members.readField "properties" propertiesOf [] = .ok properties := by
  have slot : Slot objectField "properties" NodeField.properties id := .sole
  have slots : Slots _ (nodeFields members) [] _ _ := .cons slot .nil
  rw [slots.decode_eq_ok_iff nodup (.cons .nil) (by simp_all)]
  simp [readField_properties]

structure EnumRules.Given (members : Members Json) (rules : EnumRules) : Prop where
  allowed : members.get? "enum" = some (.strings rules.allowed)
  examples : members.readField "examples" (Json.toList Json.toText) [] = .ok rules.examples

/-- The literals of an enum, of which there must be one. -/
def Json.toAllowed (document : Json) : Decoded EnumRules := do
  match EnumRules.ofAllowed? (← document.toList Json.toText) with
  | some rules => return rules
  | none => .error .emptyEnum

theorem EnumRules.ofAllowed?_eq_some_iff {allowed : List String} {rules : EnumRules} :
    EnumRules.ofAllowed? allowed = some rules ↔ rules.allowed = allowed ∧ rules.examples = [] := by
  obtain ⟨allowed', ne_nil, examples⟩ := rules
  rw [EnumRules.ofAllowed?]
  split
  · simp [eq_comm]
  · rename_i empty
    refine iff_of_false (by simp) fun ⟨same, _⟩ => empty (same ▸ ne_nil)

theorem Json.toAllowed_eq_ok_iff {document : Json} {rules : EnumRules} :
    document.toAllowed = .ok rules ↔
      document = .strings rules.allowed ∧ rules.examples = [] := by
  simp only [toAllowed, bind_eq_ok_iff, toList_toText_eq_ok_iff]
  constructor
  · rintro ⟨texts, rfl, found⟩
    split at found
    · rename_i rules' rules'_eq
      obtain rfl := pure_eq_ok_iff.1 found
      obtain ⟨rfl, noExamples⟩ := EnumRules.ofAllowed?_eq_some_iff.1 rules'_eq
      exact ⟨rfl, noExamples⟩
    · cases found
  · rintro ⟨rfl, noExamples⟩
    refine ⟨rules.allowed, rfl, ?_⟩
    rw [EnumRules.ofAllowed?_eq_some_iff.2 ⟨rfl, noExamples⟩]
    rfl

namespace EnumDraft

theorem field_eq (draft : EnumDraft) (name : String) (value : NodeField) :
    draft.field name value =
      if name = "enum" then
        some do return { draft with rules := ← some <$> value.document.toAllowed }
      else if name = "examples" then
        some do return { draft with examples := ← value.document.toList Json.toText }
      else none := by
  rw [field]
  by_cases isEnum : name = "enum"
  · rw [if_pos isEnum, if_pos isEnum, Json.toAllowed]
    cases value.document.toList Json.toText with
    | error => rfl
    | ok texts =>
      cases h : EnumRules.ofAllowed? texts with
      | none => simp [bind, Except.bind, h]
      | some rules => simp [bind, Except.bind, h, pure, Except.pure]
  · rw [if_neg isEnum, if_neg isEnum]

theorem slot_rules :
    Slot field "enum" (fun field => some <$> field.document.toAllowed) EnumDraft.rules := by
  rw [show field = _ from funext fun _ => funext fun _ => funext fun _ => field_eq ..]
  exact .here (fun _ _ => rfl) <| .cons (fun _ _ => rfl) .nil

theorem slot_examples :
    Slot field "examples" (fun field => field.document.toList Json.toText)
      EnumDraft.examples := by
  rw [show field = _ from funext fun _ => funext fun _ => funext fun _ => field_eq ..]
  exact .there (fun _ _ => rfl) (by decide) <| .here (fun _ _ => rfl) .nil

theorem decode_eq_ok_iff (nodup : ((nodeFields members).map Prod.fst).Nodup) {draft : EnumDraft} :
    Json.decodeMembers field [] {} (nodeFields members) = .ok draft ↔
      members.readField "enum" (fun document => some <$> document.toAllowed) none =
        .ok draft.rules ∧
      members.readField "examples" (Json.toList Json.toText) [] = .ok draft.examples := by
  have slots : Slots field (nodeFields members) {} _ _ :=
    .cons slot_rules <| .cons slot_examples .nil
  rw [slots.decode_eq_ok_iff nodup (.cons <| .cons .nil)
    (by rintro ⟨_, _⟩ ⟨_, _⟩ ⟨_, _⟩ ⟨_, _⟩; simp_all)]
  rw [readField_nodeFields members "enum" fun document => some <$> document.toAllowed]
  rw [readField_nodeFields, and_true]

/-- The rules of an enum are its literals, which must be given, and its examples. -/
theorem exists_rules_iff (nodup : ((nodeFields members).map Prod.fst).Nodup)
    (P : EnumRules → Prop) :
    (∃ draft, Json.decodeMembers field [] {} (nodeFields members) = .ok draft ∧
      ∃ rules, Json.require "enum" draft.rules = .ok rules ∧
        P { rules with examples := draft.examples }) ↔
      ∃ rules : EnumRules, rules.Given members ∧ P rules := by
  simp only [decode_eq_ok_iff nodup, Json.require_eq_ok_iff]
  constructor
  · rintro ⟨⟨_, examples⟩, ⟨rules_read, examples_read⟩, rules, rfl, holds⟩
    refine ⟨_, ⟨?_, examples_read⟩, holds⟩
    cases found : members.get? "enum" with
    | none => simp [Members.readField_of_absent found] at rules_read
    | some document =>
      rw [Members.readField_of_get? found, map_eq_ok_iff] at rules_read
      obtain ⟨rules', rules'_eq, same⟩ := rules_read
      obtain rfl := Option.some.inj same
      rw [(Json.toAllowed_eq_ok_iff.1 rules'_eq).1]
  · rintro ⟨rules, given, holds⟩
    refine ⟨⟨some { rules with examples := [] }, rules.examples⟩, ⟨?_, given.examples⟩, _, rfl,
      holds⟩
    rw [Members.readField_of_get? given.allowed, map_eq_ok_iff]
    exact ⟨{ rules with examples := [] }, Json.toAllowed_eq_ok_iff.2 ⟨rfl, rfl⟩, rfl⟩

end EnumDraft

end

/-! ## Kinds -/

namespace SchemaKind

theorem ofName_eq_ok_iff {name : String} {kind : SchemaKind} :
    ofName name = .ok kind ↔ name = kind.name := by
  constructor
  · intro read
    rw [ofName] at read
    split at read
    · rename_i found found_eq
      cases read
      have same := List.find?_some found_eq
      exact (beq_iff_eq.1 same).symm
    · cases read
  · rintro rfl
    cases kind <;> rfl

theorem ofJson_eq_ok_iff {place : NodePlace} {document : Json} {kind : SchemaKind} :
    ofJson place document = .ok kind ↔
      document = .string kind.name ∨
        place = .nested ∧ ∃ n : Integer64, document = .number (.integer n) ∧ 0 ≤ n.val ∧
          all[n.val.toNat]? = some kind := by
  cases document with
  | string name => simp [ofJson, ofName_eq_ok_iff]
  | number value =>
    cases value with
    | integer n =>
      by_cases h : place = .nested ∧ 0 ≤ n.val
      · simp only [ofJson, if_pos h]
        cases h' : all[n.val.toNat]? <;> simp [h, h']
      · simp only [ofJson, if_neg h]
        simp only [not_and] at h
        simpa using fun nested nonneg => absurd nonneg (h nested)
    | double => simp [ofJson, Json.mistyped_ne_ok]
  | null | bool | array | object => simp [ofJson, Json.mistyped_ne_ok]

/-- Once the kind is known, members of other names do not change it. -/
theorem ofMembers_of_absent {place : NodePlace} {found : Option SchemaKind}
    {members : Members Json} (absent : "type" ∉ members.map Prod.fst) :
    ofMembers place found members = Json.require "type" found := by
  induction members with
  | nil => cases found <;> rfl
  | cons member rest ih =>
    obtain ⟨name, value⟩ := member
    rw [List.map_cons, List.mem_cons, not_or] at absent
    cases found with
    | none | some =>
      rw [ofMembers, if_neg (Ne.symm absent.1)]
      exact ih absent.2

theorem ofMembers_eq_ok_iff {place : NodePlace} {members : Members Json}
    (nodup : (members.map Prod.fst).Nodup) {kind : SchemaKind} :
    ofMembers place none members = .ok kind ↔
      ∃ document, members.get? "type" = some document ∧ ofJson place document = .ok kind := by
  induction members with
  | nil => simp [ofMembers]
  | cons member rest ih =>
    obtain ⟨name, value⟩ := member
    obtain ⟨fresh, nodupRest⟩ := List.nodup_cons.1 nodup
    rw [ofMembers, Members.get?_cons]
    by_cases isType : name = "type"
    · subst isType
      simp only [if_true, Option.some.injEq, exists_eq_left']
      cases ofJson place value with
      | error => simp
      | ok found =>
        simp only
        rw [ofMembers_of_absent fresh]
        rfl
    · simp only [if_neg isType, ih nodupRest]

end SchemaKind

/-! ## Properties -/

namespace SchemaNode

/-- The members give a property of its kind. -/
def Given (members : Members Json) : SchemaNode → Prop
  | .string node rules => node.Given Json.toText members ∧ rules.Given members
  | .number node rules => node.Given Json.toNumber members ∧ rules.Given members
  | .boolean node examples =>
    node.Given Json.toFlag members ∧
      members.readField "examples" (Json.toList Json.toFlag) [] = .ok examples
  | .enum node rules => node.Given Json.toText members ∧ rules.Given members
  | .object node properties =>
    node.Given Json.toMembers members ∧
      members.readField "properties" propertiesOf [] = .ok properties

/-- **What fields declare.** A property is read from fields exactly if they give it. -/
theorem ofFields_eq_ok_iff {members : Members Json} (nodup : (members.map Prod.fst).Nodup)
    {kind : SchemaKind} {node : SchemaNode} :
    ofFields (nodeFields members) kind = .ok node ↔ node.kind = kind ∧ node.Given members := by
  have nodup' : ((nodeFields members).map Prod.fst).Nodup := by rwa [names_nodeFields]
  cases kind with
  | string =>
    have parts := NodeDraft.exists_declaration_iff StringRules.field {} Json.toText
      (by simp [StringRules.field]) nodup fun declared rules => string declared rules = node
    simp only [ofFields, bind_eq_ok_iff, pure_eq_ok_iff, parts,
      StringRules.decode_eq_ok_iff nodup']
    cases node <;> simp [kind, Given]
  | number =>
    have parts := NodeDraft.exists_declaration_iff NumberRules.field {} Json.toNumber
      (by simp [NumberRules.field]) nodup fun declared rules => number declared rules = node
    simp only [ofFields, bind_eq_ok_iff, pure_eq_ok_iff, parts,
      NumberRules.decode_eq_ok_iff nodup']
    cases node <;> simp [kind, Given]
  | boolean =>
    have parts := NodeDraft.exists_declaration_iff booleanField [] Json.toFlag
      (by simp [booleanField]) nodup fun declared examples => boolean declared examples = node
    simp only [ofFields, bind_eq_ok_iff, pure_eq_ok_iff, parts,
      booleanField_decode_eq_ok_iff nodup']
    cases node <;> simp [kind, Given]
  | enum =>
    have parts := NodeDraft.exists_declaration_iff EnumDraft.field {} Json.toText
      (by simp [EnumDraft.field]) nodup
      fun declared draft => ∃ rules, Json.require "enum" draft.rules = .ok rules ∧
        enum declared { rules with examples := draft.examples } = node
    have rules_iff := fun declared : Declaration String =>
      EnumDraft.exists_rules_iff nodup' fun rules => enum declared rules = node
    simp only [rules_iff] at parts
    -- The literals are asked for before the presence, which makes no difference.
    have read_iff : ofFields (nodeFields members) .enum = .ok node ↔
        ∃ declared : Declaration String, declared.Given Json.toText members ∧
          ∃ rules : EnumRules, rules.Given members ∧ enum declared rules = node := by
      simp only [ofFields, bind_eq_ok_iff, pure_eq_ok_iff]
      refine Iff.trans ?_ parts
      refine exists_congr fun draft => and_congr_right fun _ => exists_congr fun name =>
        and_congr_right fun _ => ?_
      constructor
      · rintro ⟨rules, required, declared, declared_eq, same⟩
        exact ⟨declared, declared_eq, rules, required, same⟩
      · rintro ⟨declared, declared_eq, rules, required, same⟩
        exact ⟨rules, required, declared, declared_eq, same⟩
    rw [read_iff]
    cases node <;> simp [kind, Given]
  | object =>
    have parts := NodeDraft.exists_declaration_iff objectField [] Json.toMembers
      (by simp [objectField]) nodup fun declared properties => object declared properties = node
    simp only [ofFields, bind_eq_ok_iff, pure_eq_ok_iff, parts,
      objectField_decode_eq_ok_iff nodup']
    cases node <;> simp [kind, Given]

/-- An object is a property of the kind that it names, if its members give one. -/
theorem ofJson_object_eq_ok_iff {place : NodePlace} {members : Members Json}
    (nodup : (members.map Prod.fst).Nodup) {node : SchemaNode} :
    SchemaNode.ofJson place (.object members) = .ok node ↔
      (∃ document, members.get? "type" = some document ∧
        SchemaKind.ofJson place document = .ok node.kind) ∧ node.Given members := by
  simp only [SchemaNode.ofJson, bind_eq_ok_iff, SchemaKind.ofMembers_eq_ok_iff nodup,
    ofFields_eq_ok_iff nodup]
  constructor
  · rintro ⟨kind, type, rfl, given⟩
    exact ⟨type, given⟩
  · rintro ⟨type, given⟩
    exact ⟨node.kind, type, rfl, given⟩

/-- Only objects are properties. -/
theorem object_of_ofJson {place : NodePlace} {document : Json} {node : SchemaNode}
    (read : SchemaNode.ofJson place document = .ok node) :
    ∃ members : Members Json, document = .object members := by
  cases document with
  | object members => exact ⟨members, rfl⟩
  | null | bool | number | string => simp [SchemaNode.ofJson, Json.mistyped_ne_ok] at read
  | array items =>
    cases items with
    | nil => simp [SchemaNode.ofJson] at read
    | cons kind rest =>
      rw [SchemaNode.ofJson, bind_eq_ok_iff] at read
      obtain ⟨_, -, read⟩ := read
      cases read

theorem Given.name_eq {members : Members Json} {node : SchemaNode} (given : node.Given members) :
    members.get? "name" = some (.string node.name) := by
  cases node with
  | string | number | boolean | enum | object => exact given.1.name

end SchemaNode

theorem nestedNodes_eq_ok_iff {items : List Json} {nodes : List SchemaNode} :
    nestedNodes items = .ok nodes ↔
      List.Forall₂ (fun item node => SchemaNode.ofJson .nested item = .ok node) items nodes := by
  induction items generalizing nodes with
  | nil => simp [nestedNodes, eq_comm]
  | cons item rest ih =>
    simp only [nestedNodes, bind_eq_ok_iff, pure_eq_ok_iff, ih, List.forall₂_cons_left_iff]
    constructor
    · rintro ⟨node, own, nodes', later, rfl⟩
      exact ⟨node, nodes', own, later, rfl⟩
    · rintro ⟨node, nodes', own, later, rfl⟩
      exact ⟨node, own, nodes', later, rfl⟩

theorem propertiesOf_eq_ok_iff {document : Json} {properties : List SchemaNode} :
    propertiesOf document = .ok properties ↔
      ∃ items, document = .array items ∧
        List.Forall₂ (fun item node => SchemaNode.ofJson .nested item = .ok node) items
          properties := by
  cases document <;> simp [propertiesOf, Json.mistyped_ne_ok, nestedNodes_eq_ok_iff]

/-! ## Root schemas -/

namespace RootSchema

theorem slot_description : Slot field "description" Json.toText description :=
  .here (fun _ _ => rfl) <| .cons (fun _ _ => rfl) .nil

theorem slot_properties :
    Slot field "properties" (Json.toList (SchemaNode.ofJson .section)) properties :=
  .there (fun _ _ => rfl) (by decide) <| .here (fun _ _ => rfl) .nil

theorem decode_object_eq_ok_iff {members : Members Json} (nodup : (members.map Prod.fst).Nodup)
    {schema : RootSchema} :
    decode (.object members) = .ok schema ↔
      members.readField "description" Json.toText "" = .ok schema.description ∧
      members.readField "properties" (Json.toList (SchemaNode.ofJson .section)) [] =
        .ok schema.properties := by
  have slots : Slots field members {} _ _ := .cons slot_description <| .cons slot_properties .nil
  rw [decode, slots.decode_eq_ok_iff nodup (.cons <| .cons .nil)
    (by rintro ⟨_, _⟩ ⟨_, _⟩ ⟨_, _⟩ ⟨_, _⟩; simp_all), and_true]

/-- A document is a schema if it can be read as one and no siblings share a name. -/
theorem ofJson_eq_ok_iff {document : Json} {schema : RootSchema} :
    ofJson document = .ok schema ↔
      decode document = .ok schema ∧ schema.firstDuplicate = none := by
  simp only [ofJson, bind_eq_ok_iff, mapError_eq_ok_iff, pure_eq_ok_iff, checkNames]
  constructor
  · rintro ⟨schema', decoded, _, checked, rfl⟩
    refine ⟨decoded, ?_⟩
    cases h : schema'.firstDuplicate with
    | none => rfl
    | some => simp [h] at checked
  · rintro ⟨decoded, unique⟩
    exact ⟨schema, decoded, (), by rw [unique], rfl⟩

end RootSchema

end ConfigSchema
